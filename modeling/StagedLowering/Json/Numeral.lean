import StagedLowering.Json.Fault

/-! Numerals of JSON text and the numbers they stand for. -/
namespace StagedLowering.Json

/-- A whole number of 64 bits, signed or not, or a double. -/
inductive Number where
  | int (n : Int)
  | float (x : Float)

/-- The parts of a numeral: its digits before and after the point, and the exponent's sign and digits. -/
structure Numeral where
  negative : Bool
  whole : List Char
  fraction : Option (List Char)
  exponent : Option (Bool × List Char)

def digitValue (c : Char) : Nat := c.toNat - '0'.toNat

/-- Does the number with one more digit still fit in 64 bits? -/
def fits (n : Nat) (c : Char) : Bool := n * 10 + digitValue c < UInt64.size

/-- Appends digits while the number fits in 64 bits; the count says how many did not. -/
def takeDigits (n : Nat) : List Char → Nat × Nat
  | [] => (n, 0)
  | c :: cs => if fits n c then takeDigits (n * 10 + digitValue c) cs else (n, cs.length + 1)

/-- The value of exponent digits; `none` above the largest signed 32-bit number. -/
def exponentValue? (n : Nat) : List Char → Option Nat
  | [] => some n
  | c :: cs =>
    let n' := n * 10 + digitValue c
    if n' < Nat.pow 2 31 then exponentValue? n' cs else none

def powerOfTen (n : Nat) : Float := Float.ofScientific 1 false n

/-- Divides by `10 ^ n`, in steps that a double can hold. -/
def divideByTens (x : Float) (n : Nat) : Float :=
  if n ≤ 308 then x / powerOfTen n
  else if x == 0.0 then x
  else divideByTens (x / powerOfTen 308) (n - 308)
termination_by n

/-- `significand * 10 ^ exponent`, computed with one rounding for each factor; `none` when it is no
finite double. -/
def scaleByTens (significand : Nat) (exponent : Int) : Option Float :=
  let x := significand.toUInt64.toFloat
  if exponent < 0 then some (divideByTens x exponent.natAbs)
  else if exponent ≤ 308 then
    let y := x * powerOfTen exponent.natAbs
    if y.isInf then none else some y
  else if significand = 0 then some x
  else none

/-- The number that a numeral stands for; `none` when it is too large for a double. A whole numeral
that fits in 64 bits is exact, and minus zero is a double. -/
def Numeral.value? (t : Numeral) : Option Number :=
  let (n, dropped) := takeDigits 0 t.whole
  let signed (x : Float) : Number := .float (if t.negative then -x else x)
  if dropped = 0 ∧ t.fraction = none ∧ t.exponent = none then
    if !t.negative then some (.int n)
    else if n = 0 ∨ n > Nat.pow 2 63 then some (signed n.toUInt64.toFloat)
    else some (.int (-n))
  else
    let digits := t.fraction.getD []
    let (m, unused) := takeDigits n digits
    let start : Int := (dropped : Int) - ((digits.length - unused : Nat) : Int)
    match t.exponent with
    | none => (scaleByTens m start).map signed
    | some (down, ds) =>
      match exponentValue? 0 ds with
      | some e => (scaleByTens m (if down then start - e else start + e)).map signed
      | none => if m = 0 ∨ down then some (signed 0.0) else none

/-- The digits in front of `s` and what follows them. -/
def spanDigits (s : List Char) : List Char × List Char := s.span Char.isDigit

/-- Digits that must be there. -/
def needDigits (s : List Char) : Except TokenFault (List Char × List Char) :=
  match spanDigits s with
  | ([], []) => .error ⟨.ended, some .malformed, .malformed⟩
  | ([], _) => .error (.all .malformed)
  | found => .ok found

/-- The digits before the point: none may follow a leading zero. -/
def wholePart (s : List Char) : Except TokenFault (List Char × List Char) :=
  match s with
  | '0' :: c :: rest =>
    if c.isDigit then .error (.all .malformed) else .ok (['0'], c :: rest)
  | _ => needDigits s

def fractionPart : List Char → Except TokenFault (Option (List Char) × List Char)
  | '.' :: rest => (needDigits rest).map fun (ds, rest) => (some ds, rest)
  | s => .ok (none, s)

def exponentPart (s : List Char) : Except TokenFault (Option (Bool × List Char) × List Char) :=
  match s with
  | c :: rest =>
    if c = 'e' ∨ c = 'E' then
      let (down, rest) := match rest with
        | '+' :: r => (false, r)
        | '-' :: r => (true, r)
        | r => (false, r)
      (needDigits rest).map fun (ds, rest) => (some (down, ds), rest)
    else .ok (none, s)
  | [] => .ok (none, s)

/-- The numeral after an optional minus sign, and what follows it. -/
def numeral (negative : Bool) (s : List Char) : Except TokenFault (Numeral × List Char) := do
  let (whole, s) ← wholePart s
  let (fraction, s) ← fractionPart s
  let (exponent, s) ← exponentPart s
  return (⟨negative, whole, fraction, exponent⟩, s)

end StagedLowering.Json
