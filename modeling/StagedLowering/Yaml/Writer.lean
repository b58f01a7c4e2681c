import StagedLowering.Yaml.Cursor
import StagedLowering.Yaml.Plain

/-! Writing YAML texts: collections in lines, scalars as plainly as they can be read back. -/
namespace StagedLowering.Yaml

/-- Characters that need no escape. -/
def isPrintable (c : Char) : Bool :=
  let n := c.toNat
  n = 0x0A || (0x20 ≤ n && n ≤ 0x7E) || (0xA0 ≤ n && n ≤ 0xD7FF) ||
    (0xE000 ≤ n && n ≤ 0xFFFD && n ≠ 0xFEFF)

/-- Characters with a meaning at the start of a scalar. -/
def isIndicator (c : Char) : Bool := c ∈ "#,[]\x7b\x7d&*!|>'\"%@`".toList

/-- Whether the first characters have a meaning. -/
def startsMarked : List Char → Bool
  | [] => false
  | c :: rest =>
    isIndicator c || ((c = '?' || c = ':' || c = '-') && isEdge rest) ||
      "---".toList.isPrefixOf (c :: rest) || "...".toList.isPrefixOf (c :: rest)

/-- Whether a colon at the end of a word or a number sign after a blank occurs. -/
def holdsMark : (afterBlank : Bool) → List Char → Bool
  | _, [] => false
  | afterBlank, c :: rest =>
    (c = ':' && isEdge rest) || (c = '#' && afterBlank) || holdsMark (isBlank c || isBreak c) rest

/-- Whether two neighbours satisfy `p` and `q`. -/
def holdsPair (p q : Char → Bool) : List Char → Bool
  | a :: b :: rest => (p a && q b) || holdsPair p q (b :: rest)
  | _ => false

def isSpace (c : Char) : Bool := c = ' '

/-- May stand without quotes. -/
def allowsPlain (cs : List Char) : Bool :=
  !startsMarked cs && !holdsMark false cs && cs.all (fun c => isPrintable c && !isBreak c) &&
    !(cs.head?.any isSpace) && !(cs.getLast?.any isSpace)

/-- May stand in single quotes. -/
def allowsSingle (cs : List Char) : Bool :=
  cs.all isPrintable && !holdsPair isBreak isSpace cs && !holdsPair isSpace isBreak cs

/-- May stand as a block of lines. -/
def allowsBlock (cs : List Char) : Bool :=
  cs.all isPrintable && !holdsPair isSpace isBreak cs && !(cs.getLast?.any isSpace)

def spaces (n : Nat) : List Char := List.replicate n ' '

/-- The inside of single quotes; after a line end the next line is indented. -/
def singleBody (indent : Nat) : (broke : Bool) → List Char → List Char
  | broke, [] => if broke then spaces indent else []
  | broke, c :: rest =>
    if isBreak c then c :: singleBody indent true rest
    else
      (if broke then spaces indent else []) ++ (if c = '\'' then ['\'', '\''] else [c]) ++
        singleBody indent false rest

/-- A number in hexadecimal with a fixed number of digits. -/
def hexText (width n : Nat) : List Char :=
  let ds := (Nat.toDigits 16 n).map Char.toUpper
  List.replicate (width - ds.length) '0' ++ ds

/-- A character that cannot stand as it is in double quotes. -/
def escapeText (c : Char) : List Char :=
  let n := c.toNat
  '\\' ::
    (if n = 0 then ['0']
    else if n = 7 then ['a']
    else if n = 8 then ['b']
    else if n = 9 then ['t']
    else if n = 0x0A then ['n']
    else if n = 0x0B then ['v']
    else if n = 0x0C then ['f']
    else if n = 0x0D then ['r']
    else if n = 0x1B then ['e']
    else if c = '"' ∨ c = '\\' then [c]
    else if n = 0x85 then ['N']
    else if n = 0x2028 then ['L']
    else if n = 0x2029 then ['P']
    else if n ≤ 0xFF then 'x' :: hexText 2 n
    else if n ≤ 0xFFFF then 'u' :: hexText 4 n
    else 'U' :: hexText 8 n)

def doubleChar (c : Char) : List Char :=
  if !isPrintable c || isBreak c || c = '"' || c = '\\' then escapeText c else [c]

/-- The marks of a block: how far it is indented, if its first line does not show it, and what becomes
of its last line ends. -/
def blockMarks (cs : List Char) : List Char :=
  (if cs.head?.any (fun c => isSpace c || isBreak c) then ['2'] else []) ++
    match cs.reverse with
    | [] => ['-']
    | [c] => if isBreak c then ['+'] else ['-']
    | c :: d :: _ => if isBreak c then (if isBreak d then ['+'] else []) else ['-']

/-- The lines of a block, each with its indentation, and a last line end. -/
def blockBody (indent : Nat) : (broke : Bool) → List Char → List Char
  | broke, [] => if broke then [] else ['\n']
  | broke, c :: rest =>
    if isBreak c then c :: blockBody indent true rest
    else (if broke then spaces indent else []) ++ c :: blockBody indent false rest

/-- A scalar with the end of its last line. `indent` is where its later lines stand. -/
def scalarText (indent : Nat) (s : String) : List Char :=
  let cs := s.toList
  let single := ['\''] ++ singleBody indent false cs ++ ['\'', '\n']
  let double := ['"'] ++ cs.flatMap doubleChar ++ ['"', '\n']
  if '\n' ∈ cs then
    if allowsBlock cs then ['|'] ++ blockMarks cs ++ ['\n'] ++ blockBody indent true cs
    else double
  else if allowsPlain cs && !isAmbiguous s then cs ++ ['\n']
  else if allowsSingle cs then single
  else double

/-- A document to write: words that need no quotes, texts, lists of texts, and mappings. -/
inductive Doc where
  | word (s : String)
  | text (s : String)
  | texts (items : List String)
  | map (fields : List (String × Doc))

namespace Doc

def itemText (indent : Nat) (s : String) : List Char :=
  spaces indent ++ ['-', ' '] ++ scalarText (indent + 2) s

mutual
/-- What follows the colon of a key that stands at `indent`. -/
def valueText (indent : Nat) : Doc → List Char
  | .word s => ' ' :: s.toList ++ ['\n']
  | .text s => ' ' :: scalarText (indent + 2) s
  | .texts [] => " []\n".toList
  | .texts (s :: items) => '\n' :: (s :: items).flatMap (itemText indent)
  | .map fields => '\n' :: fieldsText (indent + 2) fields

def fieldsText (indent : Nat) : List (String × Doc) → List Char
  | [] => []
  | (name, d) :: rest =>
    spaces indent ++ name.toList ++ [':'] ++ valueText indent d ++ fieldsText indent rest
end

end Doc

/-- The text of a document that is a mapping. -/
def write (fields : List (String × Doc)) : String := String.ofList (Doc.fieldsText 0 fields)

end StagedLowering.Yaml
