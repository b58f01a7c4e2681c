import StagedLowering.Decimal.Binary

/-! Doubles with a fixed number of decimal places. -/
namespace StagedLowering.Decimal

/-- `num / den` to the nearest whole number; of two nearest ones the even one. -/
def roundHalfEven (num den : Nat) : Nat :=
  let q := num / den
  let r := num % den
  if 2 * r < den then q
  else if 2 * r > den then q + 1
  else if q % 2 = 0 then q else q + 1

/-- Decimal digits of `n`, with zeros in front up to `width` of them. -/
def digitsPadded (width n : Nat) : List Char :=
  let ds := Nat.toDigits 10 n
  List.replicate (width - ds.length) '0' ++ ds

/-- A finite double with `places` decimals, rounded from its exact value, a half to the even
neighbour. -/
def fixed (places : Nat) (x : Float) : String :=
  let b := Binary.ofFloat x
  let (num, den) := scaled b.mantissa b.exponent
  let ds := digitsPadded (places + 1) (roundHalfEven (num * Nat.pow 10 places) den)
  let (whole, part) := ds.splitAt (ds.length - places)
  let sign := if b.negative then ['-'] else []
  String.ofList (sign ++ whole ++ (if places = 0 then [] else '.' :: part))

end StagedLowering.Decimal
