/-! JSON values. -/
namespace StagedLowering

/-- A JSON value. Whole numbers and doubles are kept apart; an object keeps its fields in the order
given, repeated names included. -/
inductive Json where
  | null
  | bool (b : Bool)
  | int (n : Int)
  | float (x : Float)
  | str (s : String)
  | arr (items : List Json)
  | obj (fields : List (String × Json))
  deriving Inhabited

namespace Json

/-- The value of the last field with this name. -/
def field? (name : String) : Json → Option Json
  | .obj fields => (fields.reverse.find? (·.1 = name)).map (·.2)
  | _ => none

def nat (n : Nat) : Json := .int n

/-- An array of texts. -/
def strs (ss : List String) : Json := .arr (ss.map .str)

/-- `null` for no value. -/
def ofOption {α : Type} (f : α → Json) : Option α → Json
  | none => .null
  | some a => f a

mutual
/-- The number of arrays and objects around the innermost value. -/
def height : Json → Nat
  | .arr items => 1 + heightItems items
  | .obj fields => 1 + heightFields fields
  | _ => 0

def heightItems : List Json → Nat
  | [] => 0
  | v :: rest => max v.height (heightItems rest)

def heightFields : List (String × Json) → Nat
  | [] => 0
  | (_, v) :: rest => max v.height (heightFields rest)
end

end Json
end StagedLowering
