import StagedLowering.Decimal.Fixed
import StagedLowering.Json.Print
import StagedLowering.Options.Choice
import StagedLowering.Program.Walk
import StagedLowering.Text.Column

/-! How many ops of each kind a program has. -/
namespace StagedLowering

/-- The kinds with their numbers, the most frequent first and equal numbers by kind; the number of all
ops; the greatest depth of an op. -/
structure Statistics where
  counts : List (String × Nat)
  total : Nat
  maxDepth : Nat
  deriving DecidableEq, Repr

namespace Statistics

/-- What has been counted on the way: the ops of each kind, all ops, and the greatest depth. -/
structure Tally where
  counts : Dict Nat := .empty
  total : Nat := 0
  maxDepth : Nat := 0

/-- Counts one more op. -/
def Tally.add (t : Tally) (path : OpPath) (op : Op) : Tally where
  counts := t.counts.insert op.kind ((t.counts.get? op.kind).getD 0 + 1)
  total := t.total + 1
  maxDepth := max t.maxDepth path.depth

/-- The counts after a walk over the whole program. -/
def tally (p : Program) : Tally :=
  (p.walk (fun t path op => (t.add path op, (none : Option Unit))) {}).1

/-- Whether an entry may stand before another. -/
def precedes (a b : String × Nat) : Bool := b.2 < a.2 || (a.2 = b.2 && a.1 ≤ b.1)

def collect (p : Program) : Statistics :=
  let t := tally p
  ⟨t.counts.entries.mergeSort precedes, t.total, t.maxDepth⟩

/-- The share of a kind in percent, with one place. -/
def share (s : Statistics) (n : Nat) : String :=
  Decimal.fixed 1 (if s.total = 0 then 0 else n.toFloat * 100.0 / s.total.toFloat)

/-- The width of the column of kinds, in bytes. -/
def width (s : Statistics) : Nat := (s.counts.map (·.1.utf8ByteSize)).foldl max 0

def prettyRow (s : Statistics) (e : String × Nat) : String :=
  "  " ++ Text.padRight s.width e.1 ++ "  " ++ e.2.repr ++ "\n"

def verboseRow (s : Statistics) (e : String × Nat) : String :=
  "  " ++ e.1 ++ ": " ++ e.2.repr ++ " (" ++ s.share e.2 ++ "%)\n"

def csvRow (e : String × Nat) : String := e.1 ++ "," ++ e.2.repr ++ "\n"

def toJson (s : Statistics) : Json :=
  .obj [("max_depth", .nat s.maxDepth),
    ("ops", .arr (s.counts.map fun e => .obj [("count", .nat e.2), ("kind", .str e.1)])),
    ("total", .nat s.total)]

def render (s : Statistics) : StatisticsFormat → String
  | .none => ""
  | .pretty =>
    "Op statistics (" ++ s.total.repr ++ " ops)\n" ++ String.join (s.counts.map s.prettyRow)
  | .verbose =>
    "Op statistics: " ++ s.total.repr ++ " ops, " ++ s.counts.length.repr ++
      " kinds, max nesting depth " ++ s.maxDepth.repr ++ "\n" ++
      String.join (s.counts.map s.verboseRow)
  | .csv => "kind,count\n" ++ String.join (s.counts.map csvRow)
  | .json => s.toJson.pretty

end Statistics
end StagedLowering
