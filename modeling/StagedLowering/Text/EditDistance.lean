/-! Edit distance between texts and the choice of the closest of several candidates. -/
namespace StagedLowering.Text

/-- A table of numbers, by row and column. -/
structure DistanceTable where
  rows : Array (Array Nat)

namespace DistanceTable

/-- The number at a place; `none` outside the table. -/
def get? (m : DistanceTable) (i j : Nat) : Option Nat := m.rows[i]?.bind (·[j]?)

/-- Puts a number at a place; `none` outside the table. -/
def set? (m : DistanceTable) (i j n : Nat) : Option DistanceTable :=
  if (m.get? i j).isSome then some ⟨m.rows.modify i (·.setIfInBounds j n)⟩ else none

def zeros (height width : Nat) : DistanceTable := ⟨.replicate height (.replicate width 0)⟩

/-- Counts up along the first column and along the first row: from the empty text it takes as many
insertions as there are characters. -/
def countBorders (m : DistanceTable) (height width : Nat) : Option DistanceTable := do
  let m ← (List.range height).foldlM (fun m i => m.set? i 0 i) m
  (List.range width).foldlM (fun m j => m.set? 0 j j) m

/-- The entry next to `(i, j)` on the diagonal, from the three around it: `a` is deleted, `b` is
inserted, or the two stand for each other. -/
def fillEntry (a b : Char) (i j : Nat) (m : DistanceTable) : Option DistanceTable := do
  let above ← m.get? i (j + 1)
  let left ← m.get? (i + 1) j
  let diagonal ← m.get? i j
  m.set? (i + 1) (j + 1) (min (min (above + 1) (left + 1)) (diagonal + if a = b then 0 else 1))

/-- The row below row `i`, from column `j` on. -/
def fillRow (a : Char) (i j : Nat) : List Char → DistanceTable → Option DistanceTable
  | [], m => some m
  | b :: rest, m => m.fillEntry a b i j >>= fillRow a i (j + 1) rest

/-- The rows below row `i`. -/
def fillRows (t : List Char) (i : Nat) : List Char → DistanceTable → Option DistanceTable
  | [], m => some m
  | a :: rest, m => m.fillRow a i 0 t >>= fillRows t (i + 1) rest

end DistanceTable

/-- The last entry of the table whose entry `(i, j)` is about the first `i` and the first `j` characters;
`none` if a step reaches outside the table. -/
def editDistance? (s t : List Char) : Option Nat := do
  let m := DistanceTable.zeros (s.length + 1) (t.length + 1)
  let m ← m.countBorders (s.length + 1) (t.length + 1)
  let m ← m.fillRows t 0 s
  m.get? s.length t.length

/-- The least number of insertions, deletions and substitutions of single characters that turn one
text into the other. -/
def editDistance (s t : String) : Nat := (editDistance? s.toList t.toList).getD 0

/-- The earliest candidate at least distance from `target`. -/
def closest? (target : String) : List String → Option String
  | [] => none
  | c :: cs =>
    match closest? target cs with
    | none => some c
    | some d => if editDistance target d < editDistance target c then some d else some c

end StagedLowering.Text
