import StagedLowering.Decimal.Fixed
import StagedLowering.Executor
import StagedLowering.Text.Column

/-! Reports of runs with the time that each stage took. -/
namespace StagedLowering

/-- A time span; fewer than 10^9 nanoseconds stand beside the seconds. -/
structure Duration where
  secs : Nat
  nanos : Nat
  deriving DecidableEq, Repr

namespace Duration

def nanosPerSecond : Nat := 1000000000

def zero : Duration := ⟨0, 0⟩

def ofNanos (n : Nat) : Duration := ⟨n / nanosPerSecond, n % nanosPerSecond⟩

/-- Milliseconds with three places. -/
def millis (d : Duration) : String :=
  let secs := d.secs.toUInt64.toFloat + d.nanos.toUInt64.toFloat / 1e9
  Decimal.fixed 3 (secs * 1000.0)

def toJson (d : Duration) : Json := .obj [("secs", .nat d.secs), ("nanos", .nat d.nanos)]

open Json

/-- An object with these fields only. -/
def onlyFields (names : List String) : Fields → Result Unit
  | .cons name _ rest => do
    let name ← readName name
    if name ∈ names then onlyFields names rest else .error .shape
  | _ => .ok ()

/-- Reads a span. Full seconds among the nanoseconds are carried over; the seconds must then fit in 64
bits. -/
def read : Nat → Reader Duration
  | 0, s => s.tooDeep
  | _ + 1, s => do
    if let .obj fields := s then onlyFields ["secs", "nanos"] fields
    let d ← readRecord ["secs", "nanos"]
      (fun name v d =>
        match name with
        | "secs" => do return (some (← readNat UInt64.size v), d.2)
        | _ => do return (d.1, some (← readNat UInt32.size v)))
      ((none, none) : Option Nat × Option Nat) s
    let nanos ← required d.2
    let secs := (← required d.1) + nanos / nanosPerSecond
    if secs < UInt64.size then return ⟨secs, nanos % nanosPerSecond⟩ else .error .shape

end Duration

/-- The entry of a stage with its time. -/
structure StageMetrics where
  entry : Executor.Entry
  duration : Duration
  deriving DecidableEq, Repr

structure Report where
  stages : List StageMetrics := []
  total : Duration := .zero
  deriving DecidableEq, Repr

namespace StageMetrics

def line (m : StageMetrics) : String :=
  "  " ++ Text.padRight 40 m.entry.label ++ " " ++ Text.padLeft 9 m.duration.millis ++ "ms  scopes=" ++
    m.entry.scopes.repr ++ " ops=" ++ m.entry.opsAfter.repr

def toJson (m : StageMetrics) : Json :=
  .obj [("stage", .str m.entry.label), ("duration", m.duration.toJson),
    ("scopes", .nat m.entry.scopes), ("ops_after", .nat m.entry.opsAfter)]

/-- An entry under construction. -/
structure Draft where
  label : Option String := none
  duration : Option Duration := none
  scopes : Option Nat := none
  opsAfter : Option Nat := none

open Json

def read : Nat → Reader StageMetrics
  | 0, s => s.tooDeep
  | n + 1, s => do
    let d ← readRecord ["stage", "duration", "scopes", "ops_after"]
      (fun name v d =>
        match name with
        | "stage" => do return { d with label := some (← readString v) }
        | "duration" => do return { d with duration := some (← Duration.read n v) }
        | "scopes" => do return { d with scopes := some (← readNat UInt64.size v) }
        | _ => do return { d with opsAfter := some (← readNat UInt64.size v) })
      ({} : Draft) s
    let entry := ⟨← required d.label, ← required d.scopes, ← required d.opsAfter⟩
    return ⟨entry, ← required d.duration⟩

end StageMetrics

namespace Report

def labels (r : Report) : List String := r.stages.map (·.entry.label)

/-- The times as a table. -/
def summary (r : Report) : String :=
  String.intercalate "\n"
    ((r.stages.length.repr ++ " stages in " ++ r.total.millis ++ "ms") :: r.stages.map (·.line))

def toJson (r : Report) : Json :=
  .obj [("stages", .arr (r.stages.map (·.toJson))), ("total_duration", r.total.toJson)]

open Json

def read : Nat → Reader Report
  | 0, s => s.tooDeep
  | n + 1, s => do
    let d ← readRecord ["stages", "total_duration"]
      (fun name v d =>
        match name with
        | "stages" => do return (some (← readList StageMetrics.read n v), d.2)
        | _ => do return (d.1, some (← Duration.read n v)))
      ((none, none) : Option (List StageMetrics) × Option Duration) s
    return ⟨← required d.1, ← required d.2⟩

end Report
end StagedLowering
