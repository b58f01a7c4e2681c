import StagedLowering.Decimal.Binary

/-! The fewest decimal digits that read back as a given double. -/
namespace StagedLowering.Decimal

/-- The number `digits * 10 ^ exponent`. -/
structure Scaled where
  digits : Nat
  exponent : Int
  deriving DecidableEq, Repr

/-- The reals that round to a double, as numerators over one denominator. -/
structure RoundingInterval where
  low : Nat
  value : Nat
  high : Nat
  den : Nat
  closed : Bool

/-- The interval of `b`: half the spacing to each neighbour; the ends belong to it when the mantissa is
even, since ties go there. -/
def RoundingInterval.ofBinary (b : Binary) : RoundingInterval :=
  let below := if b.atSpacingStep then 1 else 2
  let e := b.exponent - 2
  let unit := if e ≥ 0 then Nat.pow 2 e.toNat else 1
  { low := (4 * b.mantissa - below) * unit
    value := 4 * b.mantissa * unit
    high := (4 * b.mantissa + 2) * unit
    den := if e ≥ 0 then 1 else Nat.pow 2 (-e).toNat
    closed := b.mantissa % 2 = 0 }

/-- The number `k` with `10 ^ (k - 1) ≤ num / den < 10 ^ k`, for positive `num` and `den`. -/
def magnitude (num den : Nat) : Int :=
  if num ≥ den then ((Nat.toDigits 10 (num / den)).length : Int)
  else
    let j := (Nat.toDigits 10 (den / num)).length - 1
    if num * Nat.pow 10 j ≥ den then 1 - (j : Int) else -(j : Int)

/-- Is `c * 10 ^ p` in the interval? -/
def RoundingInterval.holds (i : RoundingInterval) (c : Nat) (p : Int) : Bool :=
  let up := if p ≥ 0 then Nat.pow 10 p.toNat else 1
  let down := if p ≥ 0 then 1 else Nat.pow 10 (-p).toNat
  let x := c * up * i.den
  let low := i.low * down
  let high := i.high * down
  if i.closed then low ≤ x && x ≤ high else low < x && x < high

/-- The multiples of `10 ^ p` next to the value, when one of them is in the interval: the nearer one,
and of two equally near ones the even one. -/
def RoundingInterval.onGrid? (i : RoundingInterval) (p : Int) : Option Nat :=
  let up := if p ≥ 0 then Nat.pow 10 p.toNat else 1
  let down := if p ≥ 0 then 1 else Nat.pow 10 (-p).toNat
  let num := i.value * down
  let den := i.den * up
  let c := num / den
  let r := num % den
  match i.holds c p, i.holds (c + 1) p with
  | false, false => none
  | true, false => some c
  | false, true => some (c + 1)
  | true, true => if 2 * r < den || (2 * r = den && c % 2 = 0) then some c else some (c + 1)

/-- Tries grids of `n`, `n + 1`, … digits. -/
def RoundingInterval.search (i : RoundingInterval) (k : Int) : Nat → Nat → Scaled
  | 0, n => ⟨i.value / i.den, n⟩
  | fuel + 1, n =>
    match i.onGrid? (k - n) with
    | some c => ⟨c, k - n⟩
    | none => i.search k fuel (n + 1)

/-- Divides out factors of ten. -/
def Scaled.strip (d : Scaled) : Nat → Scaled
  | 0 => d
  | fuel + 1 =>
    if d.digits ≠ 0 ∧ d.digits % 10 = 0 then
      Scaled.strip ⟨d.digits / 10, d.exponent + 1⟩ fuel
    else d

/-- The shortest decimal of a finite double's magnitude; 17 digits always suffice. -/
def shortest (b : Binary) : Scaled :=
  if b.mantissa = 0 then ⟨0, 0⟩
  else
    let i := RoundingInterval.ofBinary b
    Scaled.strip (i.search (magnitude i.value i.den) 17 1) 17

end StagedLowering.Decimal
