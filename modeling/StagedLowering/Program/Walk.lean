import StagedLowering.Program.Path

/-! Walks over all ops of a program in pre-order. -/
namespace StagedLowering

/-- A visitor with a state: it sees an op with its path and may stop the walk with a value. -/
abbrev Visitor (σ β : Type) := σ → OpPath → Op → σ × Option β

namespace Op

variable {σ β : Type}

mutual
/-- Visits an op, then the ops inside it, until the visitor stops. -/
def walk (visit : Visitor σ β) (path : List Nat) (s : σ) : Op → σ × Option β
  | ⟨h, regions⟩ =>
    match visit s ⟨path⟩ ⟨h, regions⟩ with
    | (s, some b) => (s, some b)
    | (s, none) => walkRegions visit path 0 s regions

def walkBlock (visit : Visitor σ β) (base : List Nat) (i : Nat) (s : σ) :
    List Op → σ × Option β
  | [] => (s, none)
  | op :: rest =>
    match op.walk visit (base ++ [i]) s with
    | (s, some b) => (s, some b)
    | (s, none) => walkBlock visit base (i + 1) s rest

def walkRegion (visit : Visitor σ β) (base : List Nat) (i : Nat) (s : σ) :
    List (List Op) → σ × Option β
  | [] => (s, none)
  | block :: rest =>
    match walkBlock visit (base ++ [i]) 0 s block with
    | (s, some b) => (s, some b)
    | (s, none) => walkRegion visit base (i + 1) s rest

def walkRegions (visit : Visitor σ β) (base : List Nat) (i : Nat) (s : σ) :
    List (List (List Op)) → σ × Option β
  | [] => (s, none)
  | region :: rest =>
    match walkRegion visit (base ++ [i]) 0 s region with
    | (s, some b) => (s, some b)
    | (s, none) => walkRegions visit base (i + 1) s rest
end

mutual
/-- The ops of a subtree with their paths, in pre-order. -/
def addressed (path : List Nat) : Op → List (OpPath × Op)
  | ⟨h, regions⟩ => (⟨path⟩, ⟨h, regions⟩) :: addressedRegions path 0 regions

def addressedBlock (base : List Nat) (i : Nat) : List Op → List (OpPath × Op)
  | [] => []
  | op :: rest => op.addressed (base ++ [i]) ++ addressedBlock base (i + 1) rest

def addressedRegion (base : List Nat) (i : Nat) : List (List Op) → List (OpPath × Op)
  | [] => []
  | block :: rest => addressedBlock (base ++ [i]) 0 block ++ addressedRegion base (i + 1) rest

def addressedRegions (base : List Nat) (i : Nat) : List (List (List Op)) → List (OpPath × Op)
  | [] => []
  | region :: rest => addressedRegion (base ++ [i]) 0 region ++ addressedRegions base (i + 1) rest
end

end Op

namespace Program

/-- Visits every op in pre-order until the visitor stops; the state is the one it left. -/
def walk {σ β : Type} (p : Program) (visit : Visitor σ β) (s : σ) : σ × Option β :=
  Op.walkBlock visit [] 0 s p.ops

/-- All ops with their paths, in pre-order. -/
def addressed (p : Program) : List (OpPath × Op) := Op.addressedBlock [] 0 p.ops

/-- The first answer in pre-order. -/
def findSome? {β : Type} (p : Program) (f : OpPath → Op → Option β) : Option β :=
  (p.walk (fun _ path op => ((), f path op)) ()).2

end Program
end StagedLowering
