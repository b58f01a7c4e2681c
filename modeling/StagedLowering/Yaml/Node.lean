import StagedLowering.Text.Utf8
import StagedLowering.Yaml.Scalar

/-! YAML documents as trees: as they are written, with anchors, aliases and short tags, and as values,
with these resolved. -/
namespace StagedLowering.Yaml

/-- A tag as written: a handle that stands for the start of the tag, and the rest of it. -/
structure Tag where
  handle : String
  suffix : String
  deriving DecidableEq, Repr

/-- What may stand in front of a node. -/
structure Props where
  anchor : Option String := none
  tag : Option Tag := none
  deriving DecidableEq, Repr

namespace Props

def isEmpty (p : Props) : Bool := p.anchor.isNone && p.tag.isNone

/-- Both together, unless they give the same twice. -/
def merge (p q : Props) : Option Props :=
  if (p.anchor.isSome && q.anchor.isSome) || (p.tag.isSome && q.tag.isSome) then none
  else some ⟨p.anchor <|> q.anchor, p.tag <|> q.tag⟩

end Props

inductive Node where
  | scalar (props : Props) (style : Style) (text : String)
  | seq (props : Props) (items : List Node)
  | map (props : Props) (pairs : List (Node × Node))
  | alias (name : String)
  deriving Inhabited

/-- A node of which only the properties are written. -/
def Node.empty (props : Props) : Node := .scalar props .plain ""

/-- A node with aliases replaced by what they stand for. An alias inside the node it stands for is
`cyclic`. -/
inductive Value where
  | scalar (tag : Option String) (style : Style) (text : String)
  | seq (items : List Value)
  | map (pairs : List (Value × Value))
  | cyclic
  deriving Inhabited

/-- Tag handles with what they stand for. -/
abbrev Handles := List (String × String)

def defaultHandles : Handles := [("!", "!"), ("!!", "tag:yaml.org,2002:")]

/-- The full tag. A mark alone says no more than no tag. -/
def Tag.resolve (handles : Handles) (t : Tag) : Option String :=
  if t.handle = "" then some t.suffix
  else (handles.lookup t.handle).map (· ++ t.suffix)

/-- The tag of a scalar, if it says anything. -/
def Props.scalarTag (handles : Handles) (p : Props) : Option (Option String) :=
  match p.tag with
  | none => some none
  | some t => (t.resolve handles).map fun tag => if tag = "!" then none else some tag

/-- Whether the handle of a tag is known. -/
def Props.known (handles : Handles) (p : Props) : Bool :=
  p.tag.all fun t => (t.resolve handles).isSome

/-- The anchors that were met, the last first, with their values; none while the value is still being
read. -/
abbrev Anchors := List (String × Option Value)

def Anchors.add (anchors : Anchors) (p : Props) (v : Option Value) : Anchors :=
  match p.anchor with
  | some name => (name, v) :: anchors
  | none => anchors

namespace Node

mutual
/-- Replaces aliases and short tags. Every alias must follow its anchor. -/
def resolve (handles : Handles) (anchors : Anchors) : Node → Option (Value × Anchors)
  | .scalar p style text => do
    let v := .scalar (← p.scalarTag handles) style text
    return (v, anchors.add p (some v))
  | .seq p items =>
    if p.known handles then do
      let (items, anchors) ← resolveItems handles (anchors.add p none) items
      let v := .seq items
      return (v, anchors.add p (some v))
    else none
  | .map p pairs =>
    if p.known handles then do
      let (pairs, anchors) ← resolvePairs handles (anchors.add p none) pairs
      let v := .map pairs
      return (v, anchors.add p (some v))
    else none
  | .alias name => do
    let v ← anchors.lookup name
    return (v.getD .cyclic, anchors)

def resolveItems (handles : Handles) (anchors : Anchors) :
    List Node → Option (List Value × Anchors)
  | [] => some ([], anchors)
  | n :: rest => do
    let (v, anchors) ← n.resolve handles anchors
    let (vs, anchors) ← resolveItems handles anchors rest
    return (v :: vs, anchors)

def resolvePairs (handles : Handles) (anchors : Anchors) :
    List (Node × Node) → Option (List (Value × Value) × Anchors)
  | [] => some ([], anchors)
  | (k, n) :: rest => do
    let (k, anchors) ← k.resolve handles anchors
    let (v, anchors) ← n.resolve handles anchors
    let (vs, anchors) ← resolvePairs handles anchors rest
    return ((k, v) :: vs, anchors)
end

end Node
end StagedLowering.Yaml
