/-! Places in a YAML text. -/
namespace StagedLowering.Yaml

/-- Characters that a YAML text may hold. -/
def isAllowed (c : Char) : Bool :=
  let n := c.toNat
  n = 0x09 || n = 0x0A || n = 0x0D || (0x20 ≤ n && n ≤ 0x7E) || n = 0x85 ||
    (0xA0 ≤ n && n ≤ 0xD7FF) || (0xE000 ≤ n && n ≤ 0xFFFD) || 0x10000 ≤ n

def nextLine : Char := Char.ofNat 0x85

/-- Line ends in one form: a return, a next-line character and a return with a line feed all become a
line feed. -/
def unifyBreaks : List Char → List Char
  | [] => []
  | '\r' :: '\n' :: rest => '\n' :: unifyBreaks rest
  | c :: rest => (if c = '\r' ∨ c = nextLine then '\n' else c) :: unifyBreaks rest

def isBlank (c : Char) : Bool := c = ' ' || c = '\t'

/-- Line ends: line feeds, and the two separators, which are kept as they are when lines are joined. -/
def isBreak (c : Char) : Bool := c = '\n' || c.toNat = 0x2028 || c.toNat = 0x2029

/-- Whether nothing that belongs to a word follows. -/
def isEdge : List Char → Bool
  | [] => true
  | c :: _ => isBlank c || isBreak c

/-- A place: what follows it, its line and column, and whether a mapping or a sequence may start
there. -/
structure Cursor where
  rest : List Char
  line : Nat := 0
  column : Nat := 0
  fresh : Bool := true

/-- Three equal characters by themselves. -/
def isTriple (m : Char) : List Char → Bool
  | a :: b :: c :: rest => a = m && b = m && c = m && isEdge rest
  | _ => false

namespace Cursor

/-- One character on; not across a line end. -/
def next (c : Cursor) : Cursor := { c with rest := c.rest.tail, column := c.column + 1 }

/-- Some characters on. -/
def drop (c : Cursor) (n : Nat) : Cursor :=
  { c with rest := c.rest.drop n, column := c.column + n }

def withFresh (c : Cursor) (fresh : Bool) : Cursor := { c with fresh }

/-- At the marker of a document's start. -/
def atStart (c : Cursor) : Bool := c.column = 0 && isTriple '-' c.rest

/-- At the marker of a document's end. -/
def atStop (c : Cursor) : Bool := c.column = 0 && isTriple '.' c.rest

/-- Whether the nodes that stand at column `floor` or further right end here. -/
def ended (c : Cursor) (floor : Nat) : Bool :=
  c.rest.isEmpty || c.atStart || c.atStop || c.column < floor

/-- At an indicator that stands by itself. -/
def atIndicator (m : Char) (c : Cursor) : Bool :=
  match c.rest with
  | a :: rest => a = m && isEdge rest
  | [] => false

/-- Passes blanks, comments and line ends. Outside brackets a line end makes the place fresh, and there
a tab may not stand in front of a fresh place. -/
def skipFrom (flow : Bool) :
    List Char → (line column : Nat) → (fresh comment : Bool) → Cursor
  | [], line, column, fresh, _ => ⟨[], line, column, fresh⟩
  | c :: rest, line, column, fresh, comment =>
    if isBreak c then skipFrom flow rest (line + 1) 0 (fresh || !flow) false
    else if comment then skipFrom flow rest line (column + 1) fresh true
    else if c = ' ' || (c = '\t' && (flow || !fresh)) then
      skipFrom flow rest line (column + 1) fresh false
    else if c = '#' then skipFrom flow rest line (column + 1) fresh true
    else ⟨c :: rest, line, column, fresh⟩

def skip (c : Cursor) : Cursor := skipFrom false c.rest c.line c.column c.fresh false

def skipFlow (c : Cursor) : Cursor := skipFrom true c.rest c.line c.column c.fresh false

end Cursor
end StagedLowering.Yaml
