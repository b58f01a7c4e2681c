import StagedLowering.Program.Basic

/-! Addresses of ops: the place of a root op, then for each step down the place of a region, of a
block in it and of an op in that. -/
namespace StagedLowering

structure OpPath where
  indices : List Nat
  deriving DecidableEq, Repr, Inhabited

namespace OpPath

/-- The number of ops from the root down to the addressed one. -/
def depth (p : OpPath) : Nat := (p.indices.length + 2) / 3

/-- The last index counted from `i` on; without indices, `i` alone. -/
def shiftLast (i : Nat) : List Nat → List Nat
  | [] => [i]
  | j :: [] => [j + i]
  | j :: rest => j :: shiftLast i rest

/-- A path that starts at the op at `anchor` and its later siblings, seen from the root. -/
def rebased (p anchor : OpPath) : OpPath :=
  match p.indices with
  | [] => anchor
  | i :: rest => ⟨shiftLast i anchor.indices ++ rest⟩

/-- One index with the label of its position. -/
def stepText (position n : Nat) : List Char :=
  let label := match position % 3 with
    | 0 => if position = 0 then "op#".toList else "/op#".toList
    | 1 => "/region#".toList
    | _ => "/block#".toList
  label ++ Nat.toDigits 10 n

def stepsText (position : Nat) : List Nat → List Char
  | [] => []
  | n :: rest => stepText position n ++ stepsText (position + 1) rest

/-- The path in words, such as `op#0/region#0/block#1/op#2`. -/
def text (p : OpPath) : String := String.ofList (stepsText 0 p.indices)

def toJson (p : OpPath) : Json := .arr (p.indices.map .nat)

open Json in
def read (levels : Nat) : Reader OpPath := fun s =>
  OpPath.mk <$> readList (fun _ => readNat UInt64.size) levels s

end OpPath

/-- The op at the given indices under a list of ops. -/
def Op.atIndices : List Op → List Nat → Option Op
  | ops, i :: [] => ops[i]?
  | ops, i :: r :: b :: rest => do
    let op ← ops[i]?
    let region ← op.regions[r]?
    let block ← region[b]?
    Op.atIndices block rest
  | _, _ => none

def Program.opAt (p : Program) (path : OpPath) : Option Op := Op.atIndices p.ops path.indices

end StagedLowering
