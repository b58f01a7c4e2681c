import StagedLowering.Yaml.Node

/-! Reading YAML texts. Nodes outside brackets are told apart by their columns: `floor` is the least
column at which a node may stand, one more than the column of the collection around it. -/
namespace StagedLowering.Yaml

def isWordChar (c : Char) : Bool := c.isAlphanum || c = '_' || c = '-'

/-- Reads the name of an anchor or an alias. -/
def scanName (cs : List Char) : Option (String × List Char) :=
  let name := cs.takeWhile isWordChar
  let rest := cs.dropWhile isWordChar
  if name ≠ [] ∧ (isEdge rest ∨ rest.head?.any (· ∈ "?:,]\x7d%@`".toList)) then
    some (String.ofList name, rest)
  else none

/-- Characters of tags; some only between angle brackets or in directives. -/
def isTagChar (wide : Bool) (c : Char) : Bool :=
  isWordChar c || c ∈ ";/?:@&=+$.!~*'()".toList || (wide && (c = ',' || c = '[' || c = ']'))

/-- Bytes written as a percent sign and two digits. -/
def scanBytes : List Char → List UInt8 × List Char
  | '%' :: a :: b :: rest =>
    match hexDigit? a, hexDigit? b with
    | some m, some n =>
      let (bytes, rest) := scanBytes rest
      (UInt8.ofNat (16 * m + n) :: bytes, rest)
    | _, _ => ([], '%' :: a :: b :: rest)
  | cs => ([], cs)

/-- Reads characters of a tag; bytes among them must be UTF-8. -/
def scanTagText (wide : Bool) : Nat → List Char → Option (String × List Char)
  | 0, _ => none
  | _ + 1, [] => some ("", [])
  | fuel + 1, c :: rest =>
    if isTagChar wide c then do
      let (t, rest) ← scanTagText wide fuel rest
      return (String.ofList [c] ++ t, rest)
    else if c = '%' then do
      let (bytes, rest) := scanBytes (c :: rest)
      if bytes.isEmpty then none
      else
        let s ← Text.Utf8.decode? bytes
        let (t, rest) ← scanTagText wide fuel rest
        return (s ++ t, rest)
    else some ("", c :: rest)

/-- The handle at the start of a tag, without its first mark: a word and a mark. -/
def scanHandle (cs : List Char) : Option (String × List Char) :=
  let word := cs.takeWhile isWordChar
  match cs.dropWhile isWordChar with
  | '!' :: rest => some (String.ofList word, rest)
  | _ => none

/-- Reads a tag after its first mark. -/
def scanTag (flow : Bool) (cs : List Char) : Option (Tag × List Char) := do
  let (tag, rest) ← match cs with
    | '<' :: cs => do
      let (uri, rest) ← scanTagText true (cs.length + 1) cs
      match rest with
      | '>' :: rest => if uri = "" then none else some (Tag.mk "" uri, rest)
      | _ => none
    | cs =>
      match scanHandle cs with
      | some (word, cs) => do
        let (suffix, rest) ← scanTagText false (cs.length + 1) cs
        if suffix = "" then none else some (Tag.mk ("!" ++ word ++ "!") suffix, rest)
      | none => do
        let (suffix, rest) ← scanTagText false (cs.length + 1) cs
        some (if suffix = "" then Tag.mk "" "!" else Tag.mk "!" suffix, rest)
  if isEdge rest || (flow && rest.head? = some ',') then some (tag, rest) else none

/-- The place after `rest` was reached on the same line. -/
def Cursor.upTo (c : Cursor) (rest : List Char) : Cursor :=
  ⟨rest, c.line, c.column + (c.rest.length - rest.length), false⟩

/-- Reads an anchor or a tag, if one stands here. -/
def scanProp (flow : Bool) (c : Cursor) : Option (Option (Props × Cursor)) :=
  match c.rest with
  | '&' :: cs => do
    let (name, rest) ← scanName cs
    return some ({ anchor := some name }, c.upTo rest)
  | '!' :: cs => do
    let (tag, rest) ← scanTag flow cs
    return some ({ tag := some tag }, c.upTo rest)
  | _ => some none

/-- Passes blanks on one line. -/
def Cursor.skipBlanks (c : Cursor) : Cursor :=
  { c with
    rest := c.rest.dropWhile isBlank
    column := c.column + (c.rest.takeWhile isBlank).length }

/-- Reads the properties that stand on one line, at most an anchor and a tag. -/
def scanProps (flow : Bool) (c : Cursor) : Option (Props × Cursor) := do
  match ← scanProp flow c with
  | none => return ({}, c)
  | some (p, c') =>
    match ← scanProp flow c'.skipBlanks with
    | none => return (p, c')
    | some (q, c'') => return (← p.merge q, c'')

/-- Reads a scalar that stands on its own: plain or quoted. -/
def scanInline (flow : Bool) (floor : Nat) (props : Props) (c : Cursor) : Option (Node × Cursor) :=
  match c.rest with
  | '\'' :: cs => do
    let (t, c') ← scanSingle cs c.line (c.column + 1) .none []
    return (.scalar props .quoted (String.ofList t), c')
  | '"' :: cs => do
    let (t, c') ← scanDouble cs c.line (c.column + 1) .idle .none []
    return (.scalar props .quoted (String.ofList t), c')
  | a :: cs =>
    if startsPlain flow a cs then do
      let (t, c') ← scanPlain flow floor (a :: cs) c.line c.column .none []
      return (.scalar props .plain (String.ofList t), c')
    else none
  | [] => none

/-- Whether the key that starts at `start` may have its colon at `c`: on the same line and near. -/
def Cursor.nearTo (c start : Cursor) : Bool :=
  c.line = start.line && c.column ≤ start.column + 1024

mutual
/-- Reads a node inside brackets. -/
def flowNode (floor : Nat) : Nat → Cursor → Option (Node × Cursor)
  | 0, _ => none
  | fuel + 1, c =>
    if c.atStart || c.atStop then none
    else
      match c.rest with
      | '*' :: cs => do
        let (name, rest) ← scanName cs
        return (.alias name, c.upTo rest)
      | _ => do
        let (props, c') ← flowProps fuel {} c
        flowContent floor fuel props c'

/-- Reads properties, which may stand on several lines. -/
def flowProps : Nat → Props → Cursor → Option (Props × Cursor)
  | 0, _, _ => none
  | fuel + 1, props, c => do
    match ← scanProp true c with
    | none => return (props, c)
    | some (p, c') => flowProps fuel (← props.merge p) c'.skipFlow

/-- Reads what follows the properties of a node. -/
def flowContent (floor : Nat) : Nat → Props → Cursor → Option (Node × Cursor)
  | 0, _, _ => none
  | fuel + 1, props, c =>
    if c.atStart || c.atStop then none
    else
      match c.rest with
      | '[' :: _ => do
        let (items, c') ← flowItems floor fuel c.next
        return (.seq props items, c')
      | '{' :: _ => do
        let (pairs, c') ← flowPairs floor fuel c.next
        return (.map props pairs, c')
      | _ =>
        match scanInline true floor props c with
        | some r => some r
        | none =>
          if !props.isEmpty && (c.rest.head?.any (· ∈ ",:]\x7d".toList)) then
            some (.empty props, c)
          else none

/-- Reads a node inside brackets, or nothing before one of the marks that may follow it. -/
def flowOptional (floor : Nat) : Nat → Cursor → Option (Node × Cursor)
  | 0, _ => none
  | fuel + 1, c =>
    let c := c.skipFlow
    if c.rest.head?.any (· ∈ ",:]\x7d".toList) then some (.empty {}, c) else flowNode floor fuel c

/-- Reads the value of a pair, if there is a colon. -/
def flowValue (floor : Nat) : Nat → Cursor → Option (Node × Cursor)
  | 0, _ => none
  | fuel + 1, c =>
    match c.skipFlow.rest with
    | ':' :: _ =>
      let c := c.skipFlow.next.skipFlow
      if c.rest.head? = some ':' then none else flowOptional floor fuel c
    | _ => some (.empty {}, c.skipFlow)

/-- Reads an entry: a node, or a pair if a colon follows or a question mark stands in front. The flag
says whether it is a pair. -/
def flowEntry (floor : Nat) : Nat → Cursor → Option ((Node × Node × Bool) × Cursor)
  | 0, _ => none
  | fuel + 1, c =>
    match c.rest with
    | '?' :: _ => do
      let (k, c') ← flowOptional floor fuel c.next
      let (v, c') ← flowValue floor fuel c'
      return ((k, v, true), c')
    | _ => do
      let (k, c') ← flowNode floor fuel c
      let c' := c'.skipFlow
      if c'.rest.head? = some ':' then
        if c'.nearTo c then
          let (v, c') ← flowValue floor fuel c'
          return ((k, v, true), c')
        else none
      else return ((k, .empty {}, false), c')

/-- Reads the rest of a bracketed sequence. -/
def flowItems (floor : Nat) : Nat → Cursor → Option (List Node × Cursor)
  | 0, _ => none
  | fuel + 1, c =>
    let c := c.skipFlow
    match c.rest with
    | ']' :: _ => some ([], c.next.withFresh false)
    | _ => do
      let ((k, v, isPair), c') ← flowEntry floor fuel c
      let item := if isPair then .map {} [(k, v)] else k
      let c' := c'.skipFlow
      match c'.rest with
      | ',' :: _ => do
        let (items, c') ← flowItems floor fuel c'.next
        return (item :: items, c')
      | ']' :: _ => return ([item], c'.next.withFresh false)
      | _ => none

/-- Reads the rest of a bracketed mapping. -/
def flowPairs (floor : Nat) : Nat → Cursor → Option (List (Node × Node) × Cursor)
  | 0, _ => none
  | fuel + 1, c =>
    let c := c.skipFlow
    match c.rest with
    | '}' :: _ => some ([], c.next.withFresh false)
    | _ => do
      let ((k, v, _), c') ← flowEntry floor fuel c
      let c' := c'.skipFlow
      match c'.rest with
      | ',' :: _ => do
        let (pairs, c') ← flowPairs floor fuel c'.next
        return ((k, v) :: pairs, c')
      | '}' :: _ => return ([(k, v)], c'.next.withFresh false)
      | _ => none
end

/-- Reads a node that is no collection of lines: an alias, a scalar, or a collection in brackets. -/
def scanContent (floor fuel : Nat) (props : Props) (c : Cursor) : Option (Node × Cursor) :=
  match c.rest with
  | '*' :: cs =>
    if props.isEmpty then do
      let (name, rest) ← scanName cs
      return (.alias name, c.upTo rest)
    else none
  | '|' :: cs => do
    let (t, c') ← scanBlock false floor cs c.line
    return (.scalar props .literal (String.ofList t), c')
  | '>' :: cs => do
    let (t, c') ← scanBlock true floor cs c.line
    return (.scalar props .folded (String.ofList t), c')
  | '[' :: _ => flowContent floor fuel props c
  | '{' :: _ => flowContent floor fuel props c
  | _ => scanInline false floor props c

/-- Reads the key of a pair up to its colon, which stands on the line on which the key starts. -/
def scanKey (floor fuel : Nat) (c : Cursor) : Option (Node × Cursor) :=
  if c.fresh then do
    let (props, c₁) ← scanProps false c
    let c₂ := c₁.skip
    let (key, c₃) ←
      if !props.isEmpty && c₂.atIndicator ':' then some (.empty props, c₂)
      else scanContent floor fuel props c₂
    let c₄ := c₃.skip
    if c₄.atIndicator ':' && c₄.nearTo c then return (key, c₄.next.withFresh false) else none
  else none

mutual
/-- Reads the node at or after a place, or nothing when no node stands there. A scalar of whole lines
may start one column further left, and so may a sequence where `loose` is set. -/
def blockOptional (floor : Nat) (loose : Bool) (props : Props) : Nat → Cursor → Option (Node × Cursor)
  | 0, _ => none
  | fuel + 1, c =>
    let c := c.skip
    if loose && c.atIndicator '-' && c.column + 1 = floor then do
      let (items, c') ← blockItems c.column true fuel c
      return (.seq props items, c')
    else if c.column + 1 = floor && c.rest.head?.any (· ∈ ['|', '>']) then
      scanContent floor fuel props c
    else if c.ended floor then some (.empty props, c)
    else blockNode floor loose props fuel c
termination_by structural fuel => fuel

/-- Reads a node outside brackets. -/
def blockNode (floor : Nat) (loose : Bool) (props : Props) : Nat → Cursor → Option (Node × Cursor)
  | 0, _ => none
  | fuel + 1, c =>
    if c.atIndicator '-' then do
      let (items, c') ← blockItems c.column false fuel c
      return (.seq props items, c')
    else if c.atIndicator '?' || (scanKey floor fuel c).isSome then do
      let (pairs, c') ← blockPairs c.column fuel c
      return (.map props pairs, c')
    else do
      let (own, c₁) ← scanProps false c
      let props ← props.merge own
      let c₂ := c₁.skip
      if !own.isEmpty && (c₂.fresh || c₂.ended floor) then blockOptional floor loose props fuel c₂
      else scanContent floor fuel props c₂
termination_by structural fuel => fuel

/-- Reads the items of a sequence at a column. -/
def blockItems (column : Nat) (loose : Bool) : Nat → Cursor → Option (List Node × Cursor)
  | 0, _ => none
  | fuel + 1, c =>
    if c.fresh then do
      let (item, c₁) ← blockOptional (column + 1) false {} fuel (c.next.withFresh true)
      let c₂ := c₁.skip
      if c₂.ended column then return ([item], c₂)
      else if c₂.column = column then
        if c₂.atIndicator '-' then do
          let (items, c₃) ← blockItems column loose fuel c₂
          return (item :: items, c₃)
        else if loose then return ([item], c₂)
        else none
      else none
    else none
termination_by structural fuel => fuel

/-- Reads the pairs of a mapping at a column. -/
def blockPairs (column : Nat) : Nat → Cursor → Option (List (Node × Node) × Cursor)
  | 0, _ => none
  | fuel + 1, c => do
    let ((key, value), c₁) ←
      if c.atIndicator '?' then
        if c.fresh then do
          let (key, c₁) ← blockOptional (column + 1) true {} fuel (c.next.withFresh true)
          let c₂ := c₁.skip
          if c₂.atIndicator ':' && c₂.column = column then
            if c₂.fresh then do
              let (value, c₃) ← blockOptional (column + 1) true {} fuel (c₂.next.withFresh true)
              some ((key, value), c₃)
            else none
          else some ((key, Node.empty {}), c₂)
        else none
      else do
        let (key, c₁) ← scanKey (column + 1) fuel c
        let (value, c₂) ← blockOptional (column + 1) true {} fuel c₁
        some ((key, value), c₂)
    let c₂ := c₁.skip
    if c₂.ended column then return ([(key, value)], c₂)
    else if c₂.column = column then do
      let (pairs, c₃) ← blockPairs column fuel c₂
      return ((key, value) :: pairs, c₃)
    else none
termination_by structural fuel => fuel
end

/-- What the directives of a document say: whether its version is given, and its tag handles. -/
structure Directives where
  versioned : Bool := false
  handles : Handles := []

/-- Reads a number of at most nine digits. -/
def scanNumber (cs : List Char) : Option (Nat × List Char) :=
  let ds := cs.takeWhile Char.isDigit
  if ds ≠ [] ∧ ds.length ≤ 9 then some (Nat.ofDigitChars 10 ds 0, cs.dropWhile Char.isDigit)
  else none

/-- Reads the number of a version, of which 1.1 and 1.2 are known. -/
def scanVersion (cs : List Char) : Option (List Char) := do
  let (major, rest) ← scanNumber (cs.dropWhile isBlank)
  match rest with
  | '.' :: rest => do
    let (minor, rest) ← scanNumber rest
    if major = 1 ∧ (minor = 1 ∨ minor = 2) then some rest else none
  | _ => none

/-- Reads a handle and what it stands for. -/
def scanHandleLine (cs : List Char) : Option (String × String × List Char) := do
  let (handle, rest) ← match cs.dropWhile isBlank with
    | '!' :: cs =>
      match scanHandle cs with
      | some (word, rest) => some ("!" ++ word ++ "!", rest)
      | none => some ("!", cs)
    | _ => none
  if rest.head?.any isBlank then do
    let rest := rest.dropWhile isBlank
    let (text, rest) ← scanTagText true (rest.length + 1) rest
    if text ≠ "" ∧ isEdge rest then some (handle, text, rest) else none
  else none

/-- Reads a directive after its percent sign. -/
def scanDirective (d : Directives) (cs : List Char) : Option (Directives × List Char) := do
  let name := String.ofList (cs.takeWhile isWordChar)
  let rest := cs.dropWhile isWordChar
  if !isEdge rest then none
  else if name = "YAML" then
    if d.versioned then none
    else do return ({ d with versioned := true }, ← endOfHead (← scanVersion rest))
  else if name = "TAG" then do
    let (handle, text, rest) ← scanHandleLine rest
    if (d.handles.lookup handle).isSome then none
    else return ({ d with handles := (handle, text) :: d.handles }, ← endOfHead rest)
  else none

/-- Reads the directives in front of a document. The flag says whether there are any. -/
def scanDirectives : Nat → Directives → Cursor → Option (Directives × Bool × Cursor)
  | 0, _, _ => none
  | fuel + 1, d, c =>
    let c := c.skip
    match c.rest with
    | '%' :: cs =>
      if c.column = 0 then do
        let (d, rest) ← scanDirective d cs
        let (d, _, c) ← scanDirectives fuel d ⟨rest, c.line + 1, 0, true⟩
        return (d, true, c)
      else none
    | _ => some (d, false, c)

/-- Passes markers of a document's end; nothing else may follow. -/
def atEnd : Nat → Cursor → Bool
  | 0, _ => false
  | fuel + 1, c =>
    let c := c.skip
    if c.atStop then atEnd fuel (c.drop 3) else c.rest.isEmpty

/-- The first place of a text; a byte order mark takes a column. -/
def Cursor.first (cs : List Char) : Cursor :=
  match cs with
  | c :: rest => if c.toNat = 0xFEFF then ⟨rest, 0, 1, true⟩ else ⟨cs, 0, 0, true⟩
  | [] => ⟨[], 0, 0, true⟩

/-- Reads a text that holds one document. -/
def read (text : String) : Option Value :=
  let cs := unifyBreaks text.toList
  let fuel := 6 * cs.length + 12
  if cs.all isAllowed then do
    let (d, directed, c) ← scanDirectives fuel {} (.first cs)
    let (node, c) ←
      if c.atStart then blockOptional 0 false {} fuel ((c.drop 3).withFresh false)
      else if directed || c.ended 0 then none
      else blockNode 0 false {} fuel c
    if atEnd fuel c then do
      let (v, _) ← node.resolve (d.handles ++ defaultHandles) []
      return v
    else none
  else none

end StagedLowering.Yaml
