import StagedLowering.Options.Choice

/-! Fields of option groups: each has a name, a kind of value, and a place in its group. JSON, YAML and
environment variables are read and written kind by kind. -/
namespace StagedLowering

inductive FieldKind where
  | flag
  | word
  | text
  | optionalText
  | texts
  | dialect
  | model
  | format
  deriving DecidableEq, Repr

/-- The values of a kind. -/
@[reducible] def FieldKind.Value : FieldKind → Type
  | .flag => Bool
  | .word => UInt32
  | .text => String
  | .optionalText => Option String
  | .texts => List String
  | .dialect => InputDialect
  | .model => ExecutionModel
  | .format => StatisticsFormat

/-- A field of the group `γ`. -/
structure Field (γ : Type) where
  name : String
  kind : FieldKind
  get : γ → kind.Value
  set : γ → kind.Value → γ

/-- A flag given by hand. -/
def parseFlag (field s : String) : Checked Bool :=
  let t := Text.lower (Text.trim s)
  if t ∈ ["1", "true", "yes", "on"] then .ok true
  else if t ∈ ["0", "false", "no", "off"] then .ok false
  else .error (.invalidValue field s (.notAmong ["true", "false"]))

/-- Decimal digits, after a plus sign if there is one, below `2 ^ 32`. -/
def word? (cs : List Char) : Option UInt32 :=
  let ds := match cs with
    | '+' :: rest => rest
    | cs => cs
  if ds ≠ [] ∧ ds.all Char.isDigit ∧ Nat.ofDigitChars 10 ds 0 < UInt32.size then
    some (UInt32.ofNat (Nat.ofDigitChars 10 ds 0))
  else none

def parseWord (field s : String) : Checked UInt32 :=
  match word? (Text.trim s).toList with
  | some n => .ok n
  | none => .error (.invalidValue field s .notUnsigned)

/-- The parts between the characters that satisfy `p`. -/
def splitAtAll (p : Char → Bool) : List Char → List (List Char)
  | [] => [[]]
  | c :: cs =>
    match splitAtAll p cs with
    | [] => [[c]]
    | part :: parts => if p c then [] :: part :: parts else (c :: part) :: parts

/-- The items of a list with commas; blank items are left out. -/
def parseItems (s : String) : List String :=
  ((splitAtAll (· = ',') s.toList).map fun cs => Text.trim (String.ofList cs)).filter (· ≠ "")

namespace FieldKind

/-- A value given as a text; `field` names the field in errors. -/
def parse (field s : String) : (k : FieldKind) → Checked k.Value
  | .flag => parseFlag field s
  | .word => parseWord field s
  | .text => .ok (Text.trim s)
  | .optionalText => .ok (let t := Text.trim s; if t = "" then none else some t)
  | .texts => .ok (parseItems s)
  | .dialect => Choice.parse field s
  | .model => Choice.parse field s
  | .format => Choice.parse field s

/-- The JSON form; a missing optional text has none. -/
def toJson : (k : FieldKind) → k.Value → Option Json
  | .flag, b => some (.bool b)
  | .word, n => some (.nat n.toNat)
  | .text, s => some (.str s)
  | .optionalText, s => s.map .str
  | .texts, ss => some (.strs ss)
  | .dialect, d => some (.str (Choice.name d))
  | .model, m => some (.str (Choice.name m))
  | .format, f => some (.str (Choice.name f))

open Json in
def read (lax : Bool) (levels : Nat) : (k : FieldKind) → Reader k.Value
  | .flag => readBool
  | .word => readUInt32
  | .text => readString
  | .optionalText => readOption readString
  | .texts => readList (fun _ => readString) levels
  | .dialect => Choice.read lax
  | .model => Choice.read lax
  | .format => Choice.read lax

end FieldKind

end StagedLowering
