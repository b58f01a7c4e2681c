import StagedLowering.Options.Resolve
import StagedLowering.Pass.Basic
import StagedLowering.Pass.Folding
import StagedLowering.Statistics

/-! The passes that come with the library. All other stages leave programs as they are. -/
namespace StagedLowering

/-- Which files cannot be written, and why. -/
abbrev Refusal := String → Option String

namespace Pass

/-- The start of the keys of attributes that only the compiler reads. -/
def hintStart : String := "hint."

def isHint (key : String) : Bool := hintStart.toList.isPrefixOf key.toList

/-- The kinds of assertions. -/
def assertionKinds : List String := ["util.assert", "std.assert", "cf.assert"]

def foldConstants (h : Hooks) : Pass := fun p =>
  match h.constEval with
  | none => .ok p ()
  | some hook =>
    match Folding.fold hook p with
    | some (p, _) => .ok p ()
    | none => .fail p (.failure "high-level-optimization" "const-eval does not come to an end")

def stripAssertions : Pass := edit fun p => (p.retain fun op => !assertionKinds.contains op.kind).1

def dropHints : Pass :=
  edit (Program.mapHeads fun h => { h with attrs := h.attrs.filter fun key _ => !isHint key })

/-- The stage that dumps statistics. -/
def schedulingName : String := "scheduling-lowering"

/-- Dumps statistics into a file or into the log. -/
def dumpStatistics (refusal : Refusal) (format : StatisticsFormat) (file : Option String) : Pass :=
  fun p =>
    if format = .none then .ok p ()
    else
      let text := (Statistics.collect p).render format
      match file with
      | none => ⟨p, .ok (), [.logged ("\n" ++ text)]⟩
      | some path =>
        match refusal path with
        | none => ⟨p, .ok (), [.wrote path text]⟩
        | some cause =>
          .fail p (.failure schedulingName
            ("failed to write statistics to " ++ path ++ ": " ++ cause))

/-- The gate: it changes nothing and fails at the first violation. -/
def verify (stage : String) (rule : LegalityRule) : Pass := fun p =>
  match rule.violation? p with
  | none => .ok p ()
  | some d => .fail p (.legality stage d)

end Pass

def Provider.builtin (h : Hooks) (refusal : Refusal) : Provider
  | .highLevelOptimization true _ _ => Pass.foldConstants h
  | .stripAssertions => Pass.stripAssertions
  | .schedulingLowering format file => Pass.dumpStatistics refusal format file
  | .verifyLegality rule => Pass.verify "verify-transform-legality" rule
  | .dropCompilerHints => Pass.dropHints
  | _ => Pass.edit id

end StagedLowering
