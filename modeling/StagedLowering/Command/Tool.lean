import StagedLowering.Command.Arguments
import StagedLowering.Command.Session
import StagedLowering.Pass.Builtin
import StagedLowering.Program.Json
import StagedLowering.Report

/-! What the command does: it lowers a program through a pipeline. -/
namespace StagedLowering.Command

/-- Why the command fails: the compiler gives up, or a file cannot be used. -/
inductive Failure where
  | compiler (e : CompilerError)
  | context (what cause : String)

namespace Failure

/-- What is said about a failure. -/
def text : Failure → String
  | .compiler (.pipeline (.config e)) => "error: " ++ (PipelineError.config e).message ++ "\n"
  | .compiler (.pipeline e) =>
    String.join (e.diagnostics.map (·.text ++ "\n")) ++
      match e.stageName? with
      | some stage => "note: pipeline halted at stage '" ++ stage ++ "'\n"
      | none => ""
  | .compiler e => "error: " ++ e.message ++ "\n"
  | .context what cause => "error: " ++ what ++ ": " ++ cause ++ "\n"

def exitCode : Failure → Nat
  | .compiler e => e.exitCode
  | .context _ _ => 1

end Failure

def fail (f : Failure) : Session Nat := .complain f.text (.done f.exitCode)

/-- The exit status when what was asked for cannot be printed: that of a panic which unwinds. Where panics
abort, as in release builds, the process ends by a signal and has no exit status. -/
def unprintable : Nat := 101

/-- Prints and ends. -/
def printAndStop (text : String) : Session Nat :=
  .print text fun
    | none => .done 0
    | some cause => .complain ("failed printing to stdout: " ++ cause ++ "\n") (.done unprintable)

/-- A line for each pipeline. -/
def listing (r : Registry) : String :=
  String.join (r.values.map fun p => Text.padRight 40 p.name ++ " " ++ p.description ++ "\n")

/-- Options from the file given, else from the environment. -/
def loadOptions (a : Arguments) : Session (Checked Options) :=
  match a.config with
  | some path => .readFile path fun c => .done (Options.ofFile path c)
  | none => .environment fun vars => .done (Options.ofEnvironment vars)

/-- The pipeline and the options to build it with. -/
def prepare (a : Arguments) : Session (Checked (Registration × Resolved)) :=
  match Registry.builtin.find a.pipeline with
  | .error e => .done (.error e)
  | .ok r =>
    (loadOptions a).bind fun o => .done do
      let o ← o
      let o := if a.strict then o.withStrict true else o
      return (r, ← o.resolve {} .builtin)

/-- A program from the text of a file or of the input; `what` says what was read. -/
def programOf (what : String) (c : FileContent) : Except Failure Program :=
  match c.text with
  | .error cause => .error (.context ("failed to read " ++ what) cause)
  | .ok text =>
    match Program.ofText text with
    | .ok p => .ok p
    | .error e => .error (.compiler (.program e))

def readProgram (input : String) : Session (Except Failure Program) :=
  if input = "-" then .readInput fun c => .done (programOf "stdin" c)
  else .readFile input fun c => .done (programOf input c)

/-- Does what others can see of a run, up to the first file that cannot be written. -/
def replay : List Event → Session (Option (String × String))
  | [] => .done none
  | .entered stage _ :: rest => .enter stage (replay rest)
  | .logged _ :: rest => replay rest
  | .wrote path text :: rest =>
    .writeFile path text fun
      | none => replay rest
      | some cause => .done (some (path, cause))

/-- One file that cannot be written. -/
def refuseOne (path cause : String) : Refusal := fun p => if p = path then some cause else none

/-- Runs a stage and writes its files. When one cannot be written, the stage is run as it is with that
file refused. -/
def runStage (h : Hooks) (s : Stage) (p : Program) :
    Session (Outcome PipelineError Program Nat) :=
  let o := Executor.runStage (.builtin h fun _ => none) s p
  (replay o.events).bind fun
    | none => .done o
    | some (path, cause) => .done (Executor.runStage (.builtin h (refuseOne path cause)) s p)

/-- Runs stages and takes their times. -/
def runStages (h : Hooks) :
    List Stage → Program → Session (Program × Except PipelineError (List StageMetrics))
  | [], p => .done (p, .ok [])
  | s :: rest, p =>
    .clock fun start =>
      (runStage h s p).bind fun o =>
        match o.result with
        | .error e => .done (o.state, .error e)
        | .ok scopes =>
          .clock fun stop =>
            let entry := ⟨s.label, scopes, o.state.opCount⟩
            (runStages h rest o.state).bind fun (q, r) =>
              .done (q, r.map (⟨entry, .ofNanos (stop - start)⟩ :: ·))

/-- Writes the lowered program to the file given, else prints it. -/
def writeProgram (output : Option String) (p : Program) : Session Nat :=
  let text := p.pretty ++ "\n"
  match output with
  | some path =>
    .writeFile path text fun
      | none => .done 0
      | some cause => fail (.context ("failed to write " ++ path) cause)
  | none =>
    .print text fun
      | none => .done 0
      | some cause => fail (.context "failed to write stdout" cause)

/-- Runs the stages on the input and writes the result. -/
def lowerInput (a : Arguments) (stages : List Stage) : Session Nat :=
  (readProgram a.input).bind fun
    | .error f => fail f
    | .ok p =>
      .clock fun start =>
        (runStages {} stages p).bind fun
          | (_, .error e) => fail (.compiler (.pipeline e))
          | (p, .ok metrics) =>
            .clock fun stop =>
              let report : Report := ⟨metrics, .ofNanos (stop - start)⟩
              if a.timings then .complain (report.summary ++ "\n") (writeProgram a.output p)
              else writeProgram a.output p

/-- Shows the options or the pipeline when it is asked for, else lowers the input. -/
def carryOut (a : Arguments) (registration : Registration) (resolved : Resolved) : Session Nat :=
  let o := resolved.options
  let stages := registration.build resolved {}
  if a.printOptions then printAndStop (o.summary ++ "\n" ++ o.provenance.summary ++ "\n")
  else if a.printPipeline then printAndStop (Stage.pipelineText stages ++ "\n")
  else lowerInput a stages

/-- The whole command; the result is its exit status. -/
def tool (a : Arguments) : Session Nat :=
  if a.listPipelines then printAndStop (listing .builtin)
  else
    (prepare a).bind fun
      | .error e => fail (.compiler (.config e))
      | .ok (registration, resolved) => carryOut a registration resolved

end StagedLowering.Command
