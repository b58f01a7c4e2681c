import StagedLowering.Dict
import StagedLowering.Json.Scan

/-! Typed reading of scanned JSON. A reader goes over the scan from left to right and stops at the first
problem. A container may be entered only while a level is left; values that are passed over are not
limited. -/
namespace StagedLowering.Json

/-- The number of arrays and objects that may enclose each other in a text. -/
def textLevels : Nat := 127

abbrev Result (α : Type) := Except ReadError α

abbrev Reader (α : Type) := Scan → Result α

def faulty {α : Type} (f : Fault) : Result α := .error (.text f)

/-- A name, or the fault in it. -/
def readName (name : Except Fault String) : Result String := name.mapError .text

mutual
/-- Passes over a value. -/
def Scan.pass : Scan → Result Unit
  | .bad ⟨_, some f, _⟩ => faulty f
  | .arr items => items.pass
  | .obj fields => fields.pass
  | _ => .ok ()

def Items.pass : Items → Result Unit
  | .done => .ok ()
  | .stop f => faulty f
  | .cons v rest => do v.pass; rest.pass

def Fields.pass : Fields → Result Unit
  | .done => .ok ()
  | .stop f => faulty f
  | .stray _ => faulty .malformed
  | .cons _ v rest => do v.pass; rest.pass
end

mutual
/-- Reads a value of any shape, with `levels` containers to spare. -/
def Scan.value (levels : Nat) : Scan → Result Json
  | .null => .ok .null
  | .bool b => .ok (.bool b)
  | .int n => .ok (.int n)
  | .float x => .ok (.float x)
  | .str s => .ok (.str s)
  | .bad f => faulty f.reading
  | .arr items => if levels = 0 then faulty .malformed else .arr <$> items.values (levels - 1)
  | .obj fields => if levels = 0 then faulty .malformed else .obj <$> fields.values (levels - 1)

def Items.values (levels : Nat) : Items → Result (List Json)
  | .done => .ok []
  | .stop f => faulty f
  | .cons v rest => do return (← v.value levels) :: (← rest.values levels)

def Fields.values (levels : Nat) : Fields → Result (List (String × Json))
  | .done => .ok []
  | .stop f => faulty f
  | .stray _ => faulty .malformed
  | .cons name v rest => do
    let name ← readName name
    let v ← v.value levels
    return (name, v) :: (← rest.values levels)
end

/-- The answer to a value of another shape: a fault in it comes first. -/
def Scan.refuse {α : Type} : Scan → Result α
  | .bad f => faulty f.reading
  | _ => .error .shape

/-- The answer to a container when no level is left. -/
def Scan.tooDeep {α : Type} : Scan → Result α
  | .arr _ => faulty .malformed
  | .obj _ => faulty .malformed
  | s => s.refuse

def readBool : Reader Bool
  | .bool b => .ok b
  | s => s.refuse

def readString : Reader String
  | .str t => .ok t
  | s => s.refuse

/-- A whole number from `low` to `high`. -/
def readInt (low high : Int) : Reader Int
  | .int n => if low ≤ n ∧ n ≤ high then .ok n else .error .shape
  | s => s.refuse

/-- A whole number below `bound`. -/
def readNat (bound : Nat) : Reader Nat
  | .int (.ofNat n) => if n < bound then .ok n else .error .shape
  | s => s.refuse

def readUInt32 : Reader UInt32 := fun s => (readNat UInt32.size s).map UInt32.ofNat

def readInt64 : Reader Int64 := fun s =>
  (readInt Int64.minValue.toInt Int64.maxValue.toInt s).map Int64.ofInt

/-- `null` is no value. -/
def readOption {α : Type} (read : Reader α) : Reader (Option α)
  | .null => .ok none
  | s => some <$> read s

def Items.read {α : Type} (read : Reader α) : Items → Result (List α)
  | .done => .ok []
  | .stop f => faulty f
  | .cons v rest => do return (← read v) :: (← rest.read read)

def readItems {α : Type} (read : Reader α) : Reader (List α)
  | .arr items => items.read read
  | .obj _ => .error .shape
  | s => s.refuse

/-- An array that takes one level; `read` is given the levels left for its elements. -/
def readList {α : Type} (read : Nat → Reader α) : Nat → Reader (List α)
  | 0, .obj _ => .error .shape
  | 0, s => s.tooDeep
  | levels + 1, s => readItems (read levels) s

def Fields.readDict {α : Type} (read : Reader α) (d : Dict α) : Fields → Result (Dict α)
  | .done => .ok d
  | .stop f => faulty f
  | .stray _ => faulty .malformed
  | .cons name v rest => do
    let name ← readName name
    let v ← read v
    rest.readDict read (d.insert name v)

/-- An object as a map; the last of several values for a name stays. -/
def readDict {α : Type} (read : Nat → Reader α) : Nat → Reader (Dict α)
  | levels + 1, .obj fields => fields.readDict (read levels) .empty
  | 0, .obj _ => faulty .malformed
  | _, .arr _ => .error .shape
  | _, s => s.refuse

/-- How the fields of a record are read into a value under construction. -/
abbrev FieldReader (ρ : Type) := String → Scan → ρ → Result ρ

def Fields.readRecord {ρ : Type} (names : List String) (set : FieldReader ρ) (seen : List String) :
    Fields → ρ → Result ρ
  | .done, r => .ok r
  | .stop f, _ => faulty f
  | .stray _, _ => faulty .malformed
  | .cons name v rest, r => do
    let name ← readName name
    if name ∈ names then
      if name ∈ seen then .error .shape
      else rest.readRecord names set (name :: seen) (← set name v r)
    else do
      v.pass
      rest.readRecord names set seen r

def Items.readRecord {ρ : Type} (set : FieldReader ρ) : List String → Items → ρ → Result ρ
  | _, .done, r => .ok r
  | _, .stop f, _ => faulty f
  | [], .cons _ _, _ => faulty .malformed
  | name :: names, .cons v rest, r => do rest.readRecord set names (← set name v r)

/-- A record: an object, whose unknown fields are passed over and whose known ones occur at most once,
or an array of the fields in order, from which fields at the end may be missing. -/
def readRecord {ρ : Type} (names : List String) (set : FieldReader ρ) (start : ρ) : Reader ρ
  | .obj fields => fields.readRecord names set [] start
  | .arr items => items.readRecord set names start
  | s => s.refuse

/-- A field without which there is no value. -/
def required {α : Type} : Option α → Result α
  | some a => .ok a
  | none => .error .shape

/-- The end of an object that may hold one field only. -/
def Fields.close : Fields → Result Unit
  | .done => .ok ()
  | .stop f => faulty f
  | _ => faulty .malformed

/-- Reads a whole text: the value, then nothing but blanks. -/
def readText {α : Type} (read : Nat → Reader α) (text : String) : Result α := do
  let d := scan text
  let a ← read textLevels d.root
  if d.trailing then faulty .malformed else return a

/-- Reads a value that is no text, so that only its shape can be wrong. -/
def readValue {α : Type} (read : Nat → Reader α) (v : Json) : Result α :=
  (read v.height v.toScan).mapError fun _ => .shape

end StagedLowering.Json
