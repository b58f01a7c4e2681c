import StagedLowering.Json.Read

/-! Attribute values of ops. -/
namespace StagedLowering

/-- A value of an attribute. In JSON the shape alone tells the cases apart. -/
inductive Attr where
  | unit
  | bool (b : Bool)
  | int (n : Int64)
  | float (x : Float)
  | str (s : String)
  | list (items : List Attr)
  deriving Inhabited

abbrev AttrMap := Dict Attr

namespace Attr

mutual
/-- Equality of values; doubles compare as numbers. -/
def beq : Attr → Attr → Bool
  | .unit, .unit => true
  | .bool a, .bool b => a == b
  | .int a, .int b => a == b
  | .float a, .float b => a == b
  | .str a, .str b => a == b
  | .list as, .list bs => beqList as bs
  | _, _ => false

def beqList : List Attr → List Attr → Bool
  | [], [] => true
  | a :: as, b :: bs => beq a b && beqList as bs
  | _, _ => false
end

instance : BEq Attr := ⟨beq⟩

mutual
def toJson : Attr → Json
  | .unit => .null
  | .bool b => .bool b
  | .int n => .int n.toInt
  | .float x => .float x
  | .str s => .str s
  | .list items => .arr (toJsonList items)

def toJsonList : List Attr → List Json
  | [] => []
  | a :: rest => a.toJson :: toJsonList rest
end

mutual
/-- The attribute value of a JSON value. A whole number that does not fit in 64 signed bits is a
double; an object is no attribute value. -/
def ofJson? : Json → Option Attr
  | .null => some .unit
  | .bool b => some (.bool b)
  | .int n =>
    if Int64.minValue.toInt ≤ n ∧ n ≤ Int64.maxValue.toInt then some (.int (Int64.ofInt n))
    else some (.float (Float.ofInt n))
  | .float x => some (.float x)
  | .str s => some (.str s)
  | .arr items => (ofJsonList? items).map .list
  | .obj _ => none

def ofJsonList? : List Json → Option (List Attr)
  | [] => some []
  | v :: rest => do return (← ofJson? v) :: (← ofJsonList? rest)
end

open Json in
/-- Reads a value of any shape first, then takes it as an attribute value. -/
def read (levels : Nat) : Reader Attr := fun s => do
  required (ofJson? (← s.value levels))

end Attr
end StagedLowering
