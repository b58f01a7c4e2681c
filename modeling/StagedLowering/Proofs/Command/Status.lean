import StagedLowering.Proofs.Command.Session
import StagedLowering.Proofs.Diagnostics
import StagedLowering.Proofs.ProgramText
import StagedLowering.Proofs.Text.Utf8

/-! The exit status of the command. It tells apart a bad configuration, before anything was done, from
every later failure, and it is zero only after the output was written. -/
namespace StagedLowering

/-- The passes that come with the library never blame the configuration. -/
lemma Provider.builtin_error {h : Hooks} {refusal : Refusal} {kind : StageKind} {p : Program}
    {e : PipelineError} (he : (Provider.builtin h refusal kind p).result = .error e) :
    e.isConfig = false := by
  unfold Provider.builtin at he
  split at he
  · obtain ⟨stage, text, rfl⟩ := Pass.foldConstants_error he
    rfl
  · cases he
  · obtain ⟨stage, text, rfl⟩ := Pass.dumpStatistics_error he
    rfl
  · rw [Pass.verify] at he
    split at he
    · cases he
    · cases he
      rfl
  · cases he
  · cases he

lemma Executor.run_builtin_error {h : Hooks} {refusal : Refusal} {stages : List Stage} {p : Program}
    {e : PipelineError} (he : (run (.builtin h refusal) stages p).result = .error e) :
    e.isConfig = false := by
  obtain ⟨kind, q, e₀, a, ht⟩ := run_traces (.builtin h refusal) stages p e he
  rw [ht.error, PipelineError.isConfig_rebased]
  exact Provider.builtin_error ht.failed

namespace Command

variable {w : World}

/-- The options from the file given, else from the environment. -/
def loaded (a : Arguments) (w : World) : Checked Options :=
  match a.config with
  | some path => Options.ofFile path (w.files path)
  | none => Options.ofEnvironment w.environment

/-- The arguments may force strict mode. -/
def enforced (a : Arguments) (o : Options) : Options := if a.strict then o.withStrict true else o

/-- Reading the file with the options. -/
def configReads (a : Arguments) : List Effect := (a.config.map Effect.readFile).toList

/-- The pipeline is not registered, or the options do not load or do not resolve. -/
inductive Misconfigured (a : Arguments) (w : World) : Prop
  | unregistered (h : Registry.builtin.get? a.pipeline = none)
  | unloaded {e : ConfigError} (h : loaded a w = .error e)
  | unresolved {o : Options} {e : ConfigError} (hload : loaded a w = .ok o)
    (h : (enforced a o).resolve {} .builtin = .error e)

/-- The pipeline and the options to build it with. -/
structure Configured (a : Arguments) (w : World) (registration : Registration) (resolved : Resolved) :
    Prop where
  registered : Registry.builtin.get? a.pipeline = some registration
  options : ∃ o, loaded a w = .ok o ∧ (enforced a o).resolve {} .builtin = .ok resolved

lemma Configured.not_misconfigured {a : Arguments} {registration : Registration} {resolved : Resolved}
    (h : Configured a w registration resolved) : ¬ Misconfigured a w := by
  obtain ⟨hget, o, hload, hres⟩ := h
  intro hbad
  cases hbad with
  | unregistered hnone => cases hget.symm.trans hnone
  | unloaded herror => cases hload.symm.trans herror
  | unresolved hload' herror =>
    cases hload.symm.trans hload'
    cases hres.symm.trans herror

lemma Configured.unique {a : Arguments} {registration registration' : Registration}
    {resolved resolved' : Resolved} (h : Configured a w registration resolved)
    (h' : Configured a w registration' resolved') :
    registration = registration' ∧ resolved = resolved' := by
  obtain ⟨hget, o, hload, hres⟩ := h
  obtain ⟨hget', o', hload', hres'⟩ := h'
  cases hget.symm.trans hget'
  cases hload.symm.trans hload'
  cases hres.symm.trans hres'
  exact ⟨rfl, rfl⟩

lemma loadOptions_run (a : Arguments) (w : World) :
    (loadOptions a).run w = (loaded a w, configReads a) := by
  unfold loadOptions loaded configReads
  cases a.config <;> rfl

/-- Preparing reads at most the file with the options. -/
lemma prepare_run (a : Arguments) (w : World) :
    (Misconfigured a w ∧
      ∃ e reads, reads <+: configReads a ∧ (prepare a).run w = (.error e, reads)) ∨
    ∃ registration resolved, Configured a w registration resolved ∧
      (prepare a).run w = (.ok (registration, resolved), configReads a) := by
  unfold prepare Registry.find
  cases hget : Registry.builtin.get? a.pipeline with
  | none => exact .inl ⟨.unregistered hget, _, [], List.nil_prefix, rfl⟩
  | some registration =>
    have hrun := loadOptions_run a w
    cases hload : loaded a w with
    | error e =>
      rw [hload] at hrun
      exact .inl ⟨.unloaded hload, e, _, List.prefix_rfl, Session.run_bind_done hrun rfl⟩
    | ok o =>
      rw [hload] at hrun
      cases hres : (enforced a o).resolve {} .builtin with
      | error e =>
        refine .inl ⟨.unresolved hload hres, e, _, List.prefix_rfl, Session.run_bind_done hrun ?_⟩
        change Session.done ((enforced a o).resolve {} .builtin >>= _) = _
        rw [hres]
        rfl
      | ok resolved =>
        refine .inr ⟨registration, resolved, ⟨hget, o, hload, hres⟩, Session.run_bind_done hrun ?_⟩
        change Session.done ((enforced a o).resolve {} .builtin >>= _) = _
        rw [hres]
        rfl

def inputContent (a : Arguments) (w : World) : FileContent :=
  if a.input = "-" then w.input else w.files a.input

def inputRead (a : Arguments) : Effect := if a.input = "-" then .readInput else .readFile a.input

/-- The input can be read, and it is the text of the program. -/
def InputProgram (a : Arguments) (w : World) (p : Program) : Prop :=
  ∃ text, (inputContent a w).text = .ok text ∧ Program.ofText text = .ok p

lemma InputProgram.unique {a : Arguments} {p q : Program} (hp : InputProgram a w p)
    (hq : InputProgram a w q) : p = q := by
  obtain ⟨text, htext, hp⟩ := hp
  obtain ⟨text', htext', hq⟩ := hq
  cases htext.symm.trans htext'
  cases hp.symm.trans hq
  rfl

lemma programOf_cases (what : String) (c : FileContent) :
    (∃ p text, c.text = .ok text ∧ Program.ofText text = .ok p ∧ programOf what c = .ok p) ∨
    ((∀ p text, c.text = .ok text → Program.ofText text ≠ .ok p) ∧
      ∃ f, f.exitCode = 1 ∧ programOf what c = .error f) := by
  unfold programOf
  cases htext : c.text with
  | error cause => exact .inr ⟨(fun _ _ h => nomatch h), _, rfl, rfl⟩
  | ok text =>
    cases hparse : Program.ofText text with
    | error e =>
      refine .inr ⟨fun p text' heq hp => ?_, .compiler (.program e), rfl, by simp only [hparse]⟩
      cases heq
      cases hparse.symm.trans hp
    | ok p => exact .inl ⟨p, text, rfl, hparse, by simp only [hparse]⟩

lemma readProgram_run (a : Arguments) (w : World) :
    (∃ p, InputProgram a w p ∧ (readProgram a.input).run w = (.ok p, [inputRead a])) ∨
    ((∀ p, ¬ InputProgram a w p) ∧
      ∃ f, f.exitCode = 1 ∧ (readProgram a.input).run w = (.error f, [inputRead a])) := by
  have hrun : ∃ what, (readProgram a.input).run w =
      (programOf what (inputContent a w), [inputRead a]) := by
    unfold readProgram inputContent inputRead
    split
    · exact ⟨"stdin", rfl⟩
    · exact ⟨a.input, rfl⟩
  obtain ⟨what, hrun⟩ := hrun
  rcases programOf_cases what (inputContent a w) with
    ⟨p, text, htext, hp, hok⟩ | ⟨hnone, f, hcode, herror⟩
  · exact .inl ⟨p, ⟨text, htext, hp⟩, hok ▸ hrun⟩
  · exact .inr ⟨fun p ⟨text, htext, hp⟩ => hnone p text htext hp, f, hcode, herror ▸ hrun⟩

/-- Why the output cannot be written, if so. -/
def outputRefusal (a : Arguments) (w : World) : WriteAnswer :=
  match a.output with
  | some path => w.refusal path
  | none => w.printRefusal

def outputWritten (a : Arguments) (text : String) : Effect :=
  match a.output with
  | some path => .wrote path text
  | none => .printed text

/-- The trace of an output that could not be written. -/
def outputRefused (a : Arguments) : List Effect := (a.output.map Effect.refused).toList

lemma writeProgram_accepted {a : Arguments} (h : outputRefusal a w = none) (p : Program) :
    (writeProgram a.output p).run w = (0, [outputWritten a (p.pretty ++ "\n")]) := by
  unfold outputRefusal at h
  unfold writeProgram outputWritten
  cases hout : a.output with
  | none =>
    rw [hout] at h
    simp [Session.run, h]
  | some path =>
    rw [hout] at h
    simp [Session.run, h]

lemma writeProgram_refused {a : Arguments} {cause : String} (h : outputRefusal a w = some cause)
    (p : Program) : ∃ text,
    (writeProgram a.output p).run w = (1, outputRefused a ++ [.complained text]) := by
  unfold outputRefusal at h
  unfold writeProgram outputRefused
  cases hout : a.output with
  | none =>
    rw [hout] at h
    refine ⟨(Failure.context "failed to write stdout" cause).text, ?_⟩
    simp [Session.run, h, fail, Failure.exitCode]
  | some path =>
    rw [hout] at h
    refine ⟨(Failure.context ("failed to write " ++ path) cause).text, ?_⟩
    simp [Session.run, h, fail, Failure.exitCode]

/-- What becomes of a program under the stages, with the files that the world refuses. -/
def lowering (w : World) (stages : List Stage) (p : Program) :
    Outcome PipelineError Program (List Executor.Entry) :=
  Executor.run (.builtin {} w.refusal) stages p

/-- The times of the stages, if they are asked for. -/
def timed (a : Arguments) (times : String) : List Effect :=
  if a.timings then [.complained times] else []

/-- How lowering the input ends: the exit status and all that was done. -/
inductive Lowered (a : Arguments) (w : World) (stages : List Stage) : Nat → List Effect → Prop
  | unread {text : String} (h : ∀ p, ¬ InputProgram a w p) :
    Lowered a w stages 1 [inputRead a, .complained text]
  | halted {p : Program} {e : PipelineError} {shown : List Effect} {text : String}
    (hinput : InputProgram a w p) (hrun : (lowering w stages p).result = .error e)
    (hshown : Shows w (lowering w stages p) shown) :
    Lowered a w stages 1 (inputRead a :: (shown ++ [.complained text]))
  | unwritten {p : Program} {entries : List Executor.Entry} {cause times text : String}
    (hinput : InputProgram a w p) (hrun : (lowering w stages p).result = .ok entries)
    (houtput : outputRefusal a w = some cause) :
    Lowered a w stages 1 (inputRead a :: (effectsOf (lowering w stages p).events ++
      (timed a times ++ (outputRefused a ++ [.complained text]))))
  | written {p : Program} {entries : List Executor.Entry} {times : String}
    (hinput : InputProgram a w p) (hrun : (lowering w stages p).result = .ok entries)
    (houtput : outputRefusal a w = none) :
    Lowered a w stages 0 (inputRead a :: (effectsOf (lowering w stages p).events ++
      (timed a times ++ [outputWritten a ((lowering w stages p).state.pretty ++ "\n")])))

lemma Lowered.status {a : Arguments} {stages : List Stage} {status : Nat} {es : List Effect}
    (h : Lowered a w stages status es) : status = 0 ∨ status = 1 := by
  cases h with
  | unread => exact .inr rfl
  | halted => exact .inr rfl
  | unwritten => exact .inr rfl
  | written => exact .inl rfl

lemma Lowered.status_eq_zero {a : Arguments} {stages : List Stage} {status : Nat} {es : List Effect}
    (h : Lowered a w stages status es) :
    status = 0 ↔ ∃ p entries, InputProgram a w p ∧ (lowering w stages p).result = .ok entries ∧
      outputRefusal a w = none := by
  cases h with
  | unread hnone =>
    refine ⟨nofun, ?_⟩
    rintro ⟨p, _, hinput, _⟩
    exact absurd hinput (hnone p)
  | halted hinput hrun _ =>
    refine ⟨nofun, ?_⟩
    rintro ⟨q, _, hinput', hrun', _⟩
    cases hinput.unique hinput'
    cases hrun.symm.trans hrun'
  | unwritten _ _ houtput =>
    refine ⟨nofun, ?_⟩
    rintro ⟨_, _, _, _, houtput'⟩
    cases houtput.symm.trans houtput'
  | written hinput hrun houtput => exact ⟨fun _ => ⟨_, _, hinput, hrun, houtput⟩, fun _ => rfl⟩

/-- Times come in front of the output. -/
lemma timed_run (a : Arguments) (times : String) {s : Session Nat} {status : Nat} {es : List Effect}
    (h : s.run w = (status, es)) :
    (if a.timings then .complain times s else s).run w = (status, timed a times ++ es) := by
  unfold timed
  split
  · simp [Session.run, h]
  · simp [h]

lemma lowerInput_run (a : Arguments) (w : World) (stages : List Stage) : ∃ status es,
    (lowerInput a stages).run w = (status, es) ∧ Lowered a w stages status es := by
  rcases readProgram_run a w with ⟨p, hinput, hread⟩ | ⟨hnone, f, hcode, hread⟩
  · obtain ⟨r, shown, hstages, hreport, hshown⟩ := runStages_run w {} stages p
    cases r with
    | error e =>
      have hrun : (lowering w stages p).result = .error e := hreport.symm
      have hcode : (Failure.compiler (.pipeline e)).exitCode = 1 := by
        simp [Failure.exitCode, CompilerError.exitCode, CompilerError.isConfig,
          Executor.run_builtin_error hrun]
      exact ⟨1, _, Session.run_bind_of_eq hread (Session.run_bind_of_eq hstages (fail_run hcode)),
        .halted hinput hrun hshown⟩
    | ok metrics =>
      have hrun : (lowering w stages p).result = .ok (metrics.map StageMetrics.entry) :=
        hreport.symm
      rw [hshown.of_ok hrun] at hstages
      cases houtput : outputRefusal a w with
      | none =>
        exact ⟨0, _, Session.run_bind_of_eq hread (Session.run_bind_of_eq hstages
          (timed_run a _ (writeProgram_accepted houtput _))), .written hinput hrun houtput⟩
      | some cause =>
        obtain ⟨text, hwrite⟩ := writeProgram_refused houtput (lowering w stages p).state
        exact ⟨1, _, Session.run_bind_of_eq hread (Session.run_bind_of_eq hstages
          (timed_run a _ hwrite)), .unwritten hinput hrun houtput⟩
  · exact ⟨1, _, Session.run_bind_of_eq hread (fail_run hcode), .unread hnone⟩

/-- A text is shown, and nothing else is done. -/
inductive Printed (w : World) : Nat → List Effect → Prop
  | shown {text : String} (h : w.printRefusal = none) : Printed w 0 [.printed text]
  | unshown {cause text : String} (h : w.printRefusal = some cause) :
    Printed w unprintable [.complained text]

lemma printAndStop_run (w : World) (text : String) : ∃ status es,
    (printAndStop text).run w = (status, es) ∧ Printed w status es := by
  cases hprint : w.printRefusal with
  | none =>
    refine ⟨0, [.printed text], ?_, .shown hprint⟩
    simp [printAndStop, Session.run, hprint]
  | some cause =>
    refine ⟨unprintable, [.complained ("failed printing to stdout: " ++ cause ++ "\n")], ?_,
      .unshown hprint⟩
    simp [printAndStop, Session.run, hprint]

lemma Printed.status_eq_zero {status : Nat} {es : List Effect} (h : Printed w status es) :
    status = 0 ↔ w.printRefusal = none := by
  cases h with
  | shown hprint => exact ⟨fun _ => hprint, fun _ => rfl⟩
  | unshown hprint =>
    refine ⟨nofun, fun hnone => ?_⟩
    cases hprint.symm.trans hnone

lemma Printed.status_ne_two {status : Nat} {es : List Effect} (h : Printed w status es) :
    status ≠ 2 := by
  cases h with
  | shown => exact nofun
  | unshown => exact nofun

lemma carryOut_of_show {a : Arguments} (h : a.printOptions ∨ a.printPipeline)
    (registration : Registration) (resolved : Resolved) :
    ∃ text, carryOut a registration resolved = printAndStop text := by
  unfold carryOut
  by_cases hoptions : a.printOptions = true
  · exact ⟨_, if_pos hoptions⟩
  · exact ⟨_, (if_neg hoptions).trans (if_pos (h.resolve_left hoptions))⟩

lemma carryOut_of_not_show {a : Arguments} (h : ¬ (a.printOptions ∨ a.printPipeline))
    (registration : Registration) (resolved : Resolved) :
    carryOut a registration resolved = lowerInput a (registration.build resolved {}) := by
  rw [not_or] at h
  exact (if_neg h.1).trans (if_neg h.2)

/-- The exit status of the command agrees with what it did. It is 2 exactly when the configuration is
bad; then the command has read the file with the options at most. Otherwise it shows the options or the
pipeline when it is asked to, and does nothing else; then the status is 0 exactly when standard output takes
the text (see `unprintable` for the other case). Otherwise the status is 0 exactly when the input is a
program, the run succeeds and the output can be written, and then the last thing it does is to write
the program that the run leaves; in all other cases the status is 1, and the output is not written. -/
theorem tool_status_agrees (a : Arguments) (w : World) (hlist : a.listPipelines = false) :
    ∃ status effects, (tool a).run w = (status, effects) ∧
      (status = 2 ↔ Misconfigured a w) ∧
      (Misconfigured a w → ∃ reads text, reads <+: configReads a ∧
        effects = reads ++ [.complained text]) ∧
      (¬ Misconfigured a w → ∃ registration resolved es,
        Configured a w registration resolved ∧ effects = configReads a ++ es ∧
        (a.printOptions ∨ a.printPipeline →
          Printed w status es ∧ (status = 0 ↔ w.printRefusal = none)) ∧
        (¬ (a.printOptions ∨ a.printPipeline) →
          Lowered a w (registration.build resolved {}) status es ∧ (status = 0 ∨ status = 1) ∧
          (status = 0 ↔ ∃ p entries, InputProgram a w p ∧
            (lowering w (registration.build resolved {}) p).result = .ok entries ∧
            outputRefusal a w = none))) := by
  have htool : tool a = (prepare a).bind _ := if_neg (by simp [hlist])
  rw [htool]
  rcases prepare_run a w with
    ⟨hbad, e, reads, hreads, hprepare⟩ | ⟨registration, resolved, hgood, hprepare⟩
  · exact ⟨2, _, Session.run_bind_of_eq hprepare (fail_run rfl), iff_of_true rfl hbad,
      fun _ => ⟨reads, _, hreads, rfl⟩, fun h => absurd hbad h⟩
  · have hnot := hgood.not_misconfigured
    by_cases hshow : a.printOptions ∨ a.printPipeline
    · obtain ⟨text, htext⟩ := carryOut_of_show hshow registration resolved
      obtain ⟨status, es, hrun, hprinted⟩ := printAndStop_run w text
      rw [← htext] at hrun
      exact ⟨status, _, Session.run_bind_of_eq hprepare hrun,
        iff_of_false hprinted.status_ne_two hnot, fun h => absurd h hnot,
        fun _ => ⟨registration, resolved, es, hgood, rfl,
          fun _ => ⟨hprinted, hprinted.status_eq_zero⟩, fun h => absurd hshow h⟩⟩
    · obtain ⟨status, es, hrun, hlowered⟩ := lowerInput_run a w (registration.build resolved {})
      rw [← carryOut_of_not_show hshow] at hrun
      have hstatus := hlowered.status
      exact ⟨status, _, Session.run_bind_of_eq hprepare hrun,
        iff_of_false (by omega) hnot, fun h => absurd h hnot,
        fun _ => ⟨registration, resolved, es, hgood, rfl, fun h => absurd h hshow,
          fun _ => ⟨hlowered, hstatus, hlowered.status_eq_zero⟩⟩⟩

/-- An assertion in front of a call. -/
def asserting : Program := ⟨[Op.ofKind "cf.assert", Op.ofKind "util.call"]⟩

/-- The environment asks for assertions to be stripped, and there are two files to read. -/
def twoPrograms : World where
  environment := [(Text.Utf8.encode "TENSORVM__HIGH_LEVEL_OPTIMIZATION__STRIP_ASSERTIONS",
    Text.Utf8.encode "on")]
  files path :=
    if path = "asserting.json" then .ok (Text.Utf8.encode asserting.pretty)
    else if path = "refused.json" then .ok (Text.Utf8.encode (Program.mk [refusedOp]).pretty)
    else .error "missing"

/-- The options that come from this environment. -/
def stripping : Options :=
  Options.track { groups.optimization.stripAssertions := true }
    "high_level_optimization.strip_assertions"
    (.env "TENSORVM__HIGH_LEVEL_OPTIMIZATION__STRIP_ASSERTIONS")

/-- Takes a file through a pipeline into another file. -/
def lowerFile (input : String) (pipeline : String := Registration.transformation.name) : Arguments :=
  { input, output := some "out.json", pipeline }

lemma lowerFile_configured (input : String) :
    Configured (lowerFile input) twoPrograms .transformation ⟨stripping⟩ := by
  refine ⟨rfl, stripping, rfl, ?_⟩
  change stripping.resolve {} .builtin = _
  rfl

/-- A file that holds the text of a program is read as that program. -/
lemma inputProgram_of_pretty {a : Arguments} {p : Program} (hfloat : p.FloatFree)
    (hdeep : p.toJson.height ≤ 127) (h : inputContent a w = .ok (Text.Utf8.encode p.pretty)) :
    InputProgram a w p := by
  have hbind (bytes : List UInt8) (f : List UInt8 → Except String String) :
      (Except.ok bytes >>= f) = f bytes := rfl
  refine ⟨p.pretty, ?_, Program.ofText_of_exact (Program.exact_toJson hfloat) hdeep⟩
  rw [h, FileContent.text, hbind, Text.Utf8.decode?_eq_some.2 rfl]

/-- Three runs of the command. The assertion is stripped, the call is written, and the command ends with 0;
the gate refuses the other program, nothing is written, and it ends with 1; and without a pipeline of the
name it ends with 2 before it reads the input. -/
theorem tool_status_agrees_twoPrograms :
    (∃ kinds : List StageKind, .stripAssertions ∈ kinds ∧
      (tool (lowerFile "asserting.json")).run twoPrograms =
        (0, .readFile "asserting.json" :: (kinds.map .entered ++
          [.wrote "out.json" ((⟨[Op.ofKind "util.call"]⟩ : Program).pretty ++ "\n")]))) ∧
    (∃ (kinds : List StageKind) (text : String),
      kinds.getLast? = some (.verifyLegality .initial) ∧
      (tool (lowerFile "refused.json")).run twoPrograms =
        (1, .readFile "refused.json" :: (kinds.map .entered ++ [.complained text]))) ∧
    ∃ text, (tool (lowerFile "asserting.json" "missing")).run twoPrograms =
      (2, [.complained text]) := by
  -- With these options every file is lowered, and how that ends is read off its program.
  have hends (input : String) : ∃ status effects,
      (tool (lowerFile input)).run twoPrograms = (status, effects) ∧
      Lowered (lowerFile input) twoPrograms (Resolved.plan ⟨stripping⟩ {}) status effects := by
    obtain ⟨status, effects, hrun, -, -, hgood⟩ :=
      tool_status_agrees (lowerFile input) twoPrograms rfl
    have hconfigured := lowerFile_configured input
    obtain ⟨_, _, _, hother, rfl, -, hlower⟩ := hgood hconfigured.not_misconfigured
    obtain ⟨rfl, rfl⟩ := hconfigured.unique hother
    exact ⟨status, _, hrun, (hlower (by simp [lowerFile])).1⟩
  refine ⟨?_, ?_, ?_⟩
  · obtain ⟨status, effects, hrun, hlowered⟩ := hends "asserting.json"
    have hinput : InputProgram (lowerFile "asserting.json") twoPrograms asserting :=
      inputProgram_of_pretty (by decide) (by decide) rfl
    cases hlowered with
    | unread hnone => exact absurd hinput (hnone _)
    | halted hinput' herror _ =>
      cases hinput.unique hinput'
      cases herror
    | unwritten _ _ hrefused => cases hrefused
    | written hinput' _ _ =>
      cases hinput.unique hinput'
      exact ⟨Stage.allPasses (Resolved.plan ⟨stripping⟩ {}), by decide, hrun⟩
  · obtain ⟨status, effects, hrun, hlowered⟩ := hends "refused.json"
    have hinput : InputProgram (lowerFile "refused.json") twoPrograms ⟨[refusedOp]⟩ :=
      inputProgram_of_pretty (by decide) (by decide) rfl
    cases hlowered with
    | unread hnone => exact absurd hinput (hnone _)
    | halted hinput' _ hshown =>
      cases hinput.unique hinput'
      cases hshown with
      | events => exact ⟨(Stage.allPasses (Resolved.plan ⟨stripping⟩ {})).take 7, _, by decide, hrun⟩
      | refused hpath _ => cases hpath
    | unwritten _ _ hrefused => cases hrefused
    | written hinput' hok _ =>
      cases hinput.unique hinput'
      cases hok
  · obtain ⟨status, effects, hrun, htwo, hbad, -⟩ :=
      tool_status_agrees (lowerFile "asserting.json" "missing") twoPrograms rfl
    have hmissing : Misconfigured (lowerFile "asserting.json" "missing") twoPrograms :=
      .unregistered rfl
    obtain rfl : status = 2 := htwo.2 hmissing
    obtain ⟨reads, text, hreads, rfl⟩ := hbad hmissing
    cases List.prefix_nil.1 hreads
    exact ⟨text, hrun⟩

end Command
end StagedLowering
