import StagedLowering.Yaml.Cursor

/-! Scalars of YAML texts: plain ones, quoted ones and blocks of lines. -/
namespace StagedLowering.Yaml

/-- How a scalar is written. -/
inductive Style where
  | plain
  | quoted
  | literal
  | folded
  deriving DecidableEq, Repr

/-- Blanks between two words of a scalar: none, blanks on one line, or line ends. The first line end
may be escaped away. -/
inductive Gap where
  | none
  | blanks (cs : List Char)
  | breaks (first : Option Char) (more : List Char)

namespace Gap

def addBlank (c : Char) : Gap → Gap
  | .none => .blanks [c]
  | .blanks cs => .blanks (cs ++ [c])
  | g => g

def addBreak (c : Char) : Gap → Gap
  | .breaks first more => .breaks first (more ++ [c])
  | _ => .breaks (some c) []

def hasBreak : Gap → Bool
  | .breaks _ _ => true
  | _ => false

/-- What a gap stands for: blanks are kept, a single line end is a space, and of several line ends the
first is dropped. -/
def text : Gap → List Char
  | .none => []
  | .blanks cs => cs
  | .breaks (some '\n') [] => [' ']
  | .breaks (some '\n') more => more
  | .breaks (some c) more => c :: more
  | .breaks Option.none more => more

end Gap

/-- Brackets and commas, which end plain scalars inside brackets. -/
def isFlowMark (c : Char) : Bool := c = ',' || c = '[' || c = ']' || c = '{' || c = '}'

/-- Whether a plain scalar can start with `c`. -/
def startsPlain (flow : Bool) (c : Char) (rest : List Char) : Bool :=
  if c = '-' then !isEdge rest
  else if c = '?' || c = ':' then !flow && !isEdge rest
  else !isBlank c && !isBreak c && !isFlowMark c && c ∉ "#&*!|>'\"%@`".toList

/-- Reads a plain scalar. Outside brackets its later lines stand at column `floor` or further right. -/
def scanPlain (flow : Bool) (floor : Nat) :
    List Char → (line column : Nat) → Gap → List Char → Option (List Char × Cursor)
  | [], line, column, gap, text => some (text, ⟨[], line, column, gap.hasBreak⟩)
  | c :: rest, line, column, gap, text =>
    let stop := some (text, ⟨c :: rest, line, column, gap.hasBreak⟩)
    if isBreak c then scanPlain flow floor rest (line + 1) 0 (gap.addBreak c) text
    else if isBlank c then
      if c = '\t' && gap.hasBreak && column < floor then none
      else scanPlain flow floor rest line (column + 1) (gap.addBlank c) text
    else
      let newWord := match gap with
        | .none => false
        | _ => true
      if newWord && ((!flow && column < floor) || c = '#') then stop
      else if column = 0 && (isTriple '-' (c :: rest) || isTriple '.' (c :: rest)) then stop
      else if c = ':' && flow && (rest.head?.any fun d => isFlowMark d || d = '?') then none
      else if c = ':' && isEdge rest then stop
      else if flow && isFlowMark c then stop
      else scanPlain flow floor rest line (column + 1) .none (text ++ gap.text ++ [c])

/-- Reads the inside of single quotes, where a quote is written twice, and the closing quote. -/
def scanSingle : List Char → (line column : Nat) → Gap → List Char → Option (List Char × Cursor)
  | [], _, _, _, _ => none
  | '\'' :: '\'' :: rest, line, column, gap, text =>
    scanSingle rest line (column + 2) .none (text ++ gap.text ++ ['\''])
  | c :: rest, line, column, gap, text =>
    if isBreak c then scanSingle rest (line + 1) 0 (gap.addBreak c) text
    else if isBlank c then scanSingle rest line (column + 1) (gap.addBlank c) text
    else if c = '\'' then some (text ++ gap.text, ⟨rest, line, column + 1, false⟩)
    else if column = 0 && (isTriple '-' (c :: rest) || isTriple '.' (c :: rest)) then none
    else scanSingle rest line (column + 1) .none (text ++ gap.text ++ [c])

/-- The character that a letter after a backslash stands for. -/
def escaped? : Char → Option Char
  | '0' => some (Char.ofNat 0)
  | 'a' => some (Char.ofNat 7)
  | 'b' => some (Char.ofNat 8)
  | 't' => some '\t'
  | '\t' => some '\t'
  | 'n' => some '\n'
  | 'v' => some (Char.ofNat 0x0B)
  | 'f' => some (Char.ofNat 0x0C)
  | 'r' => some '\r'
  | 'e' => some (Char.ofNat 0x1B)
  | ' ' => some ' '
  | '"' => some '"'
  | '/' => some '/'
  | '\\' => some '\\'
  | 'N' => some nextLine
  | '_' => some (Char.ofNat 0xA0)
  | 'L' => some (Char.ofNat 0x2028)
  | 'P' => some (Char.ofNat 0x2029)
  | _ => none

/-- The number of hexadecimal digits that follow a letter after a backslash. -/
def hexWidth? : Char → Option Nat
  | 'x' => some 2
  | 'u' => some 4
  | 'U' => some 8
  | _ => none

def hexDigit? (c : Char) : Option Nat :=
  if c.isDigit then some (c.toNat - '0'.toNat)
  else if 'a' ≤ c ∧ c ≤ 'f' then some (c.toNat - 'a'.toNat + 10)
  else if 'A' ≤ c ∧ c ≤ 'F' then some (c.toNat - 'A'.toNat + 10)
  else none

/-- Where the reader of double quotes is: among characters, after a backslash, or inside a number with
some digits left. -/
inductive EscapeState where
  | idle
  | opened
  | digits (left value : Nat)

/-- Reads the inside of double quotes and the closing quote. -/
def scanDouble : List Char → (line column : Nat) → EscapeState → Gap → List Char → Option (List Char × Cursor)
  | [], _, _, _, _, _ => none
  | c :: rest, line, column, .digits left value, gap, text => do
    let value := value * 16 + (← hexDigit? c)
    if left = 1 then
      if value.isValidChar then
        scanDouble rest line (column + 1) .idle gap (text ++ [Char.ofNat value])
      else none
    else scanDouble rest line (column + 1) (.digits (left - 1) value) gap text
  | c :: rest, line, column, .opened, gap, text =>
    if isBreak c then scanDouble rest (line + 1) 0 .idle (.breaks none []) text
    else
      match hexWidth? c with
      | some n => scanDouble rest line (column + 1) (.digits n 0) gap text
      | none => do
        let d ← escaped? c
        scanDouble rest line (column + 1) .idle gap (text ++ [d])
  | c :: rest, line, column, .idle, gap, text =>
    if isBreak c then scanDouble rest (line + 1) 0 .idle (gap.addBreak c) text
    else if isBlank c then scanDouble rest line (column + 1) .idle (gap.addBlank c) text
    else if c = '"' then some (text ++ gap.text, ⟨rest, line, column + 1, false⟩)
    else if c = '\\' then
      scanDouble rest line (column + 1) .opened .none (text ++ gap.text)
    else if column = 0 && (isTriple '-' (c :: rest) || isTriple '.' (c :: rest)) then none
    else scanDouble rest line (column + 1) .idle .none (text ++ gap.text ++ [c])

/-- What becomes of the line ends behind a block of lines. -/
inductive Chomping where
  | clip
  | strip
  | keep
  deriving DecidableEq, Repr

/-- The head of a block: what becomes of its last line ends, and how far it is indented, if that is
said. -/
structure BlockHead where
  chomping : Chomping := .clip
  indent : Option Nat := none

def chomping? : Char → Option Chomping
  | '+' => some .keep
  | '-' => some .strip
  | _ => none

/-- A digit that says how far a block is indented. -/
def indentDigit? (c : Char) : Option Nat :=
  if c.isDigit && c ≠ '0' then some (c.toNat - '0'.toNat) else none

/-- Reads the two marks of a head in either order. -/
def scanBlockHead (cs : List Char) : BlockHead × List Char :=
  match cs with
  | [] => ({}, [])
  | a :: rest =>
    match chomping? a, indentDigit? a with
    | some chomping, _ =>
      match rest with
      | b :: rest' =>
        match indentDigit? b with
        | some n => (⟨chomping, some n⟩, rest')
        | none => (⟨chomping, none⟩, rest)
      | [] => (⟨chomping, none⟩, [])
    | none, some n =>
      match rest with
      | b :: rest' =>
        match chomping? b with
        | some chomping => (⟨chomping, some n⟩, rest')
        | none => (⟨.clip, some n⟩, rest)
      | [] => (⟨.clip, some n⟩, [])
    | none, none => ({}, cs)

/-- The end of the line of a head: blanks and a comment only. The result is what follows the line. -/
def endOfHead (cs : List Char) : Option (List Char) :=
  let cs := cs.dropWhile isBlank
  let cs := if cs.head? = some '#' then cs.dropWhile (!isBreak ·) else cs
  match cs with
  | [] => some []
  | c :: rest => if isBreak c then some rest else none

/-- Passes empty lines and the indentation of the next line, which is at most `indent`; without a known
indentation it is all spaces. The result holds the line ends and the greatest indentation seen. -/
def scanEmptyLines (indent : Option Nat) :
    List Char → (line column deepest : Nat) → List Char → Option (List Char × Nat × Cursor)
  | [], line, column, deepest, breaks =>
    some (breaks, max deepest column, ⟨[], line, column, true⟩)
  | c :: rest, line, column, deepest, breaks =>
    let inside := indent.all (column < ·)
    if c = ' ' && inside then scanEmptyLines indent rest line (column + 1) deepest breaks
    else if c = '\t' && inside then none
    else if isBreak c then
      scanEmptyLines indent rest (line + 1) 0 (max deepest column) (breaks ++ [c])
    else some (breaks, max deepest column, ⟨c :: rest, line, column, true⟩)

/-- A block under construction: its text, the line end of its last line, the line ends of the empty
lines behind that, and whether the last line starts with a blank. -/
structure BlockDraft where
  text : List Char := []
  lead : List Char := []
  trail : List Char := []
  indented : Bool := false

/-- The text with what stands between two lines. In a folded block two lines that do not start with a
blank are joined by a space. -/
def BlockDraft.joined (d : BlockDraft) (folded blank : Bool) : List Char :=
  if folded && d.lead = ['\n'] && !d.indented && !blank then
    d.text ++ (if d.trail.isEmpty then [' '] else []) ++ d.trail
  else d.text ++ d.lead ++ d.trail

/-- Reads the lines of a block. -/
def scanLines (folded : Bool) (indent : Nat) :
    Nat → Cursor → BlockDraft → Option (BlockDraft × Cursor)
  | 0, _, _ => none
  | fuel + 1, c, d =>
    if c.column ≠ indent || c.rest.isEmpty then some (d, c)
    else do
      let blank := c.rest.head?.any isBlank
      let words := c.rest.takeWhile (!isBreak ·)
      let (lead, rest) := match c.rest.dropWhile (!isBreak ·) with
        | [] => ([], [])
        | b :: rest => ([b], rest)
      let column := if lead.isEmpty then c.column + words.length else 0
      let (trail, _, c') ← scanEmptyLines (some indent) rest (c.line + 1) column 0 []
      scanLines folded indent fuel c'
        { text := d.joined folded blank ++ words, lead, trail, indented := blank }

/-- Reads a block of lines after its `|` or `>`. Its lines stand at column `floor` or further right. -/
def scanBlock (folded : Bool) (floor : Nat) (rest : List Char) (line : Nat) : Option (List Char × Cursor) := do
  let (head, rest) := scanBlockHead rest
  let rest ← endOfHead rest
  let indent := head.indent.map (floor - 1 + ·)
  let (trail, deepest, c) ← scanEmptyLines indent rest (line + 1) 0 0 []
  let indent := indent.getD (max (max deepest floor) 1)
  let (d, c) ← scanLines folded indent (rest.length + 1) c { trail }
  let text := match head.chomping with
    | .strip => d.text
    | .clip => d.text ++ d.lead
    | .keep => d.text ++ d.lead ++ d.trail
  return (text, c)

end StagedLowering.Yaml
