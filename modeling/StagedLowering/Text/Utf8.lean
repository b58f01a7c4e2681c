/-! Decoding of bytes as UTF-8. A byte string falls into units: characters, and longest parts that
begin a character and cannot be completed. -/
namespace StagedLowering.Text.Utf8

def isTail (b : UInt8) : Bool := 0x80 ≤ b && b ≤ 0xBF

/-- What a first byte asks for: the number of bytes that follow, and the range of the second one.
`none` when no character starts with it. -/
def lead (a : UInt8) : Option (Nat × UInt8 × UInt8) :=
  if a < 0x80 then some (0, 0x80, 0xBF)
  else if a < 0xC2 then none
  else if a < 0xE0 then some (1, 0x80, 0xBF)
  else if a = 0xE0 then some (2, 0xA0, 0xBF)
  else if a = 0xED then some (2, 0x80, 0x9F)
  else if a < 0xF0 then some (2, 0x80, 0xBF)
  else if a = 0xF0 then some (3, 0x90, 0xBF)
  else if a < 0xF4 then some (3, 0x80, 0xBF)
  else if a = 0xF4 then some (3, 0x80, 0x8F)
  else none

/-- The character that a first byte and its following bytes stand for. -/
def compose (a : UInt8) (tails : List UInt8) : Char :=
  let bits := match tails.length with
    | 0 => a.toNat
    | 1 => a.toNat % 0x20
    | 2 => a.toNat % 0x10
    | _ => a.toNat % 0x08
  Char.ofNat (tails.foldl (fun n b => n * 64 + b.toNat % 64) bits)

/-- The units of a byte string in order; `none` stands for a part that is no character. -/
def units : List UInt8 → List (Option Char)
  | [] => []
  | a :: s =>
    match lead a with
    | none => none :: units s
    | some (0, _, _) => some (compose a []) :: units s
    | some (n + 1, low, high) =>
      match s with
      | [] => [none]
      | b :: s₁ =>
        if low ≤ b && b ≤ high then
          match n with
          | 0 => some (compose a [b]) :: units s₁
          | n + 1 =>
            match s₁ with
            | [] => [none]
            | c :: s₂ =>
              if isTail c then
                match n with
                | 0 => some (compose a [b, c]) :: units s₂
                | _ + 1 =>
                  match s₂ with
                  | [] => [none]
                  | d :: s₃ =>
                    if isTail d then some (compose a [b, c, d]) :: units s₃
                    else none :: units (d :: s₃)
              else none :: units (c :: s₂)
        else none :: units (b :: s₁)

/-- The text of a byte string, when all of it is UTF-8. -/
def decode? (bytes : List UInt8) : Option String :=
  ((units bytes).mapM id).map String.ofList

/-- The text of a byte string, with a replacement character for each part that is no UTF-8. -/
def decodeLossy (bytes : List UInt8) : String :=
  String.ofList ((units bytes).map (·.getD (Char.ofNat 0xFFFD)))

end StagedLowering.Text.Utf8
