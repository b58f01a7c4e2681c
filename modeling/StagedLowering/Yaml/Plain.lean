/-! What plain scalars stand for: nothing, truth values, numbers. -/
namespace StagedLowering.Yaml

def isNull (s : String) : Bool := s ∈ ["~", "null", "Null", "NULL"]

def bool? (s : String) : Option Bool :=
  if s ∈ ["true", "True", "TRUE"] then some true
  else if s ∈ ["false", "False", "FALSE"] then some false
  else none

/-- The digit that a character is in a base up to sixteen. -/
def digit? (base : Nat) (c : Char) : Option Nat :=
  let n :=
    if c.isDigit then c.toNat - '0'.toNat
    else if 'a' ≤ c ∧ c ≤ 'f' then c.toNat - 'a'.toNat + 10
    else if 'A' ≤ c ∧ c ≤ 'F' then c.toNat - 'A'.toNat + 10
    else base
  if n < base then some n else none

/-- The number that a row of digits is; there is at least one digit. -/
def digits? (base : Nat) (cs : List Char) : Option Nat :=
  if cs.isEmpty then none
  else cs.foldlM (fun n c => (digit? base c).map (base * n + ·)) 0

def dropPlus : List Char → List Char
  | '+' :: cs => cs
  | cs => cs

def dropSign : List Char → List Char
  | '+' :: cs => cs
  | '-' :: cs => cs
  | cs => cs

/-- Digits with a zero in front, after a sign if there is one. They are no number. -/
def isPadded (cs : List Char) : Bool :=
  match dropSign cs with
  | '0' :: c :: rest => (c :: rest).all Char.isDigit
  | _ => false

/-- A row of digits after a mark for its base, or in base ten. -/
def marked? (cs : List Char) : Option Nat :=
  match cs with
  | '0' :: 'x' :: rest => digits? 16 rest
  | '0' :: 'o' :: rest => digits? 8 rest
  | '0' :: 'b' :: rest => digits? 2 rest
  | cs => digits? 10 cs

/-- A whole number without a minus sign. -/
def unsigned? (s : String) : Option Nat :=
  if isPadded s.toList then none else marked? (dropPlus s.toList)

/-- The size of a whole number with a minus sign. -/
def negative? (s : String) : Option Nat :=
  match s.toList with
  | '-' :: cs => if isPadded ('-' :: cs) then none else marked? cs
  | _ => none

/-- Splits digits off. -/
def spanDigits (cs : List Char) : List Char × List Char :=
  (cs.takeWhile Char.isDigit, cs.dropWhile Char.isDigit)

/-- The exponent of a decimal number, which may be missing. -/
def exponent? : List Char → Option Int
  | [] => some 0
  | e :: cs =>
    if e = 'e' ∨ e = 'E' then
      match cs with
      | '-' :: ds => (digits? 10 ds).map fun n => -(n : Int)
      | cs => (digits? 10 (dropPlus cs)).map fun n => (n : Int)
    else none

/-- Half a unit in the last place above the greatest double: from here on numbers have no double. -/
def doubleLimit : Nat := (Nat.pow 2 54 - 1) * Nat.pow 2 970

/-- Whether a double stands for `n * 10 ^ k`. The bounds keep the powers small. -/
def hasDouble (n : Nat) (k : Int) : Bool :=
  if n = 0 then true
  else
    match k with
    | .ofNat k => k ≤ 400 && n * Nat.pow 10 k < doubleLimit
    | .negSucc k => (Nat.toDigits 10 n).length ≤ k || n < doubleLimit * Nat.pow 10 (k + 1)

/-- Digits with a point, a sign or an exponent that stand for a double. -/
def isDecimal (cs : List Char) : Bool :=
  let (whole, rest) := spanDigits (dropSign cs)
  let (part, rest) := match rest with
    | '.' :: rest => spanDigits rest
    | rest => ([], rest)
  match digits? 10 (whole ++ part), exponent? rest with
  | some n, some e => hasDouble n (e - part.length)
  | _, _ => false

/-- The names of the numbers that have no digits. -/
def isNamedNumber (s : String) : Bool :=
  s ∈ [".inf", ".Inf", ".INF", "+.inf", "+.Inf", "+.INF", "-.inf", "-.Inf", "-.INF",
    ".nan", ".NaN", ".NAN"]

/-- Whether a plain scalar would be taken for a number. Whole numbers have at most 128 bits. -/
def isNumber (s : String) : Bool :=
  (unsigned? s).any (· < Nat.pow 2 128) || (negative? s).any (· ≤ Nat.pow 2 127) ||
    isNamedNumber s || isPadded s.toList || isDecimal s.toList

/-- Whether a plain scalar would be taken for something other than its text. -/
def isAmbiguous (s : String) : Bool := s = "" || isNull s || (bool? s).isSome || isNumber s

end StagedLowering.Yaml
