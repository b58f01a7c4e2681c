import StagedLowering.Program.Attr
import StagedLowering.Program.Location

/-! Programs: trees of ops. An op owns regions, a region is a list of blocks, a block is a list of
ops. -/
namespace StagedLowering

/-- What an op says of itself, apart from the ops inside it. -/
structure OpHead where
  kind : String
  attrs : AttrMap := .empty
  location : Option Location := none

structure Op where
  head : OpHead
  regions : List (List (List Op))

abbrev Block := List Op

abbrev Region := List Block

structure Program where
  ops : List Op

instance : Inhabited OpHead := ⟨⟨"", .empty, none⟩⟩
instance : Inhabited Op := ⟨⟨default, []⟩⟩
instance : Inhabited Program := ⟨⟨[]⟩⟩

namespace OpHead

def hasAttr (h : OpHead) (key : String) : Bool := h.attrs.contains key

def setAttr (h : OpHead) (key : String) (v : Attr) : OpHead :=
  { h with attrs := h.attrs.insert key v }

def removeAttr (h : OpHead) (key : String) : OpHead := { h with attrs := h.attrs.erase key }

def beq (a b : OpHead) : Bool :=
  a.kind == b.kind && a.attrs.entries == b.attrs.entries && a.location == b.location

instance : BEq OpHead := ⟨beq⟩

end OpHead

namespace Op

/-- An op with nothing but a kind. -/
def ofKind (kind : String) : Op := ⟨{ kind }, []⟩

def kind (op : Op) : String := op.head.kind

def attrs (op : Op) : AttrMap := op.head.attrs

def location (op : Op) : Option Location := op.head.location

def hasAttr (op : Op) (key : String) : Bool := op.head.hasAttr key

mutual
/-- The number of ops in the subtree. -/
def count : Op → Nat
  | ⟨_, regions⟩ => 1 + countRegions regions

def countBlock : List Op → Nat
  | [] => 0
  | op :: rest => op.count + countBlock rest

def countRegion : List (List Op) → Nat
  | [] => 0
  | block :: rest => countBlock block + countRegion rest

def countRegions : List (List (List Op)) → Nat
  | [] => 0
  | region :: rest => countRegion region + countRegions rest
end

mutual
def beq : Op → Op → Bool
  | ⟨h, rs⟩, ⟨h', rs'⟩ => h == h' && beqRegions rs rs'

def beqBlock : List Op → List Op → Bool
  | [], [] => true
  | a :: as, b :: bs => beq a b && beqBlock as bs
  | _, _ => false

def beqRegion : List (List Op) → List (List Op) → Bool
  | [], [] => true
  | a :: as, b :: bs => beqBlock a b && beqRegion as bs
  | _, _ => false

def beqRegions : List (List (List Op)) → List (List (List Op)) → Bool
  | [], [] => true
  | a :: as, b :: bs => beqRegion a b && beqRegions as bs
  | _, _ => false
end

instance : BEq Op := ⟨beq⟩

mutual
/-- Applies `f` to every head of the subtree. -/
def mapHeads (f : OpHead → OpHead) : Op → Op
  | ⟨h, regions⟩ => ⟨f h, mapRegions f regions⟩

def mapBlock (f : OpHead → OpHead) : List Op → List Op
  | [] => []
  | op :: rest => op.mapHeads f :: mapBlock f rest

def mapRegion (f : OpHead → OpHead) : List (List Op) → List (List Op)
  | [] => []
  | block :: rest => mapBlock f block :: mapRegion f rest

def mapRegions (f : OpHead → OpHead) : List (List (List Op)) → List (List (List Op))
  | [] => []
  | region :: rest => mapRegion f region :: mapRegions f rest
end

mutual
/-- Removes below `op` every op that `keep` rejects, with all that is inside it, and counts the ops
rejected. -/
def retain (keep : Op → Bool) : Op → Op × Nat
  | ⟨h, regions⟩ => let (regions, n) := retainRegions keep regions; (⟨h, regions⟩, n)

def retainBlock (keep : Op → Bool) : List Op → List Op × Nat
  | [] => ([], 0)
  | op :: rest =>
    let (kept, n) := retainBlock keep rest
    if keep op then
      let (op, m) := op.retain keep
      (op :: kept, m + n)
    else (kept, n + 1)

def retainRegion (keep : Op → Bool) : List (List Op) → List (List Op) × Nat
  | [] => ([], 0)
  | block :: rest =>
    let (block, m) := retainBlock keep block
    let (kept, n) := retainRegion keep rest
    (block :: kept, m + n)

def retainRegions (keep : Op → Bool) : List (List (List Op)) → List (List (List Op)) × Nat
  | [] => ([], 0)
  | region :: rest =>
    let (region, m) := retainRegion keep region
    let (kept, n) := retainRegions keep rest
    (region :: kept, m + n)
end

end Op

namespace Program

def isEmpty (p : Program) : Bool := p.ops.isEmpty

def opCount (p : Program) : Nat := Op.countBlock p.ops

instance : BEq Program := ⟨fun a b => a.ops == b.ops⟩

def mapHeads (f : OpHead → OpHead) (p : Program) : Program := ⟨Op.mapBlock f p.ops⟩

/-- Removes every op that `keep` rejects, with all that is inside it; the number counts the rejected
ops whose ancestors were all kept. -/
def retain (keep : Op → Bool) (p : Program) : Program × Nat :=
  let (ops, n) := Op.retainBlock keep p.ops
  (⟨ops⟩, n)

def push (p : Program) (op : Op) : Program := ⟨p.ops ++ [op]⟩

/-- Adds `op` at the end of a block of a root op; `none` when there is no such block. The number is the
new length of the block. -/
def pushInBlock? (p : Program) (root region block : Nat) (op : Op) : Option (Program × Nat) := do
  let parent ← p.ops[root]?
  let r ← parent.regions[region]?
  let b ← r[block]?
  let b := b ++ [op]
  let parent := { parent with regions := parent.regions.set region (r.set block b) }
  return (⟨p.ops.set root parent⟩, b.length)

end Program
end StagedLowering
