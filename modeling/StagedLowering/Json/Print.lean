import StagedLowering.Json.Basic
import StagedLowering.Decimal.Shortest

/-! JSON text of values: on one line, or indented by two spaces a level. -/
namespace StagedLowering.Json

def hexDigit (n : Nat) : Char := (Nat.toDigits 16 n).headD '0'

/-- One character of a JSON text. Quotes, backslashes and controls below the space are escaped. -/
def escapeChar (c : Char) : List Char :=
  if c = '"' then ['\\', '"']
  else if c = '\\' then ['\\', '\\']
  else if c.toNat ≥ 0x20 then [c]
  else if c.toNat = 0x08 then ['\\', 'b']
  else if c.toNat = 0x0C then ['\\', 'f']
  else if c = '\n' then ['\\', 'n']
  else if c = '\r' then ['\\', 'r']
  else if c = '\t' then ['\\', 't']
  else ['\\', 'u', '0', '0', hexDigit (c.toNat / 16), hexDigit (c.toNat % 16)]

def printStr (s : String) : List Char := '"' :: s.toList.flatMap escapeChar ++ ['"']

def printInt : Int → List Char
  | .ofNat n => Nat.toDigits 10 n
  | .negSucc n => '-' :: Nat.toDigits 10 (n + 1)

/-- Digits with the decimal point after the first `point` of them: positional between `1e-5` and
`1e16`, with a signed exponent elsewhere. -/
def placePoint (ds : List Char) (point : Int) : List Char :=
  let n : Int := ds.length
  if n ≤ point ∧ point ≤ 16 then
    ds ++ List.replicate (point - n).toNat '0' ++ ['.', '0']
  else if 0 < point ∧ point ≤ 16 then
    ds.take point.toNat ++ '.' :: ds.drop point.toNat
  else if -5 < point ∧ point ≤ 0 then
    ['0', '.'] ++ List.replicate (-point).toNat '0' ++ ds
  else
    let sign := if point - 1 < 0 then '-' else '+'
    let mantissa := match ds with
      | d :: [] => [d]
      | d :: rest => d :: '.' :: rest
      | [] => []
    mantissa ++ 'e' :: sign :: Nat.toDigits 10 (point - 1).natAbs

/-- The fewest digits that read back, always with a point or an exponent. -/
def printFloat (x : Float) : List Char :=
  let b := Decimal.Binary.ofFloat x
  let d := Decimal.shortest b
  let ds := Nat.toDigits 10 d.digits
  (if b.negative then ['-'] else []) ++ placePoint ds (ds.length + d.exponent)

def printScalar : Json → List Char
  | .null => "null".toList
  | .bool true => "true".toList
  | .bool false => "false".toList
  | .int n => printInt n
  | .float x => printFloat x
  | .str s => printStr s
  | .arr _ => []
  | .obj _ => []

/-- A line break and two spaces for each level. -/
def newline (level : Nat) : List Char := '\n' :: List.replicate (2 * level) ' '

mutual
/-- Indented text; `level` counts the arrays and objects around the value. -/
def prettyAt (level : Nat) : Json → List Char
  | .arr [] => ['[', ']']
  | .arr (v :: rest) =>
    '[' :: newline (level + 1) ++ prettyAt (level + 1) v ++ prettyItems level rest ++
      newline level ++ [']']
  | .obj [] => [Char.ofNat 0x7B, Char.ofNat 0x7D]
  | .obj ((k, v) :: rest) =>
    Char.ofNat 0x7B :: newline (level + 1) ++ printStr k ++ [':', ' '] ++ prettyAt (level + 1) v ++
      prettyFields level rest ++ newline level ++ [Char.ofNat 0x7D]
  | v => printScalar v

def prettyItems (level : Nat) : List Json → List Char
  | [] => []
  | v :: rest => ',' :: newline (level + 1) ++ prettyAt (level + 1) v ++ prettyItems level rest

def prettyFields (level : Nat) : List (String × Json) → List Char
  | [] => []
  | (k, v) :: rest =>
    ',' :: newline (level + 1) ++ printStr k ++ [':', ' '] ++ prettyAt (level + 1) v ++
      prettyFields level rest
end

def pretty (v : Json) : String := String.ofList (prettyAt 0 v)

mutual
def compactChars : Json → List Char
  | .arr [] => ['[', ']']
  | .arr (v :: rest) => '[' :: compactChars v ++ compactItems rest ++ [']']
  | .obj [] => [Char.ofNat 0x7B, Char.ofNat 0x7D]
  | .obj ((k, v) :: rest) =>
    Char.ofNat 0x7B :: printStr k ++ ':' :: compactChars v ++ compactFields rest ++ [Char.ofNat 0x7D]
  | v => printScalar v

def compactItems : List Json → List Char
  | [] => []
  | v :: rest => ',' :: compactChars v ++ compactItems rest

def compactFields : List (String × Json) → List Char
  | [] => []
  | (k, v) :: rest => ',' :: printStr k ++ ':' :: compactChars v ++ compactFields rest
end

/-- Text without blanks or line breaks. -/
def compact (v : Json) : String := String.ofList (compactChars v)

end StagedLowering.Json
