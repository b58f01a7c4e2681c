/-! Finite doubles as exact binary fractions. -/
namespace StagedLowering.Decimal

/-- The number `mantissa * 2 ^ exponent`, negated when `negative`. -/
structure Binary where
  negative : Bool
  mantissa : Nat
  exponent : Int
  deriving DecidableEq, Repr

/-- The value of a finite double. -/
def Binary.ofFloat (x : Float) : Binary :=
  let bits := x.toBits.toNat
  let field : Nat := bits / Nat.pow 2 52 % Nat.pow 2 11
  let fraction : Nat := bits % Nat.pow 2 52
  if field = 0 then ⟨bits / Nat.pow 2 63 = 1, fraction, -1074⟩
  else ⟨bits / Nat.pow 2 63 = 1, fraction + Nat.pow 2 52, (field : Int) - 1075⟩

/-- Is the magnitude a power of two at which the spacing of doubles changes? -/
def Binary.atSpacingStep (b : Binary) : Bool := b.mantissa = Nat.pow 2 52 && b.exponent > -1074

/-- Numerator and denominator of `n * 2 ^ e`. -/
def scaled (n : Nat) (e : Int) : Nat × Nat :=
  if e ≥ 0 then (n * Nat.pow 2 e.toNat, 1) else (n, Nat.pow 2 (-e).toNat)

end StagedLowering.Decimal
