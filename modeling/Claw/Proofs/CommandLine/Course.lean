import Claw.CommandLine.Run
import Claw.Files.Tree
import Claw.Proofs.Memory
import Claw.Proofs.Yaml.Room

/-!
# The course of a run

A run passes several points at which it can end: it looks for its input, it reads its configuration,
it has its input assembled, and it shows what came of that.  `Course` has a constructor for each of
the ends, which says everything that is known there.  `course` says that every run comes to one of
them, and `Course.assemble_eq` that it comes to no other.  Nothing else about runs opens the
definition of `assemble`.

* `Files.Has`, `Files.Refuses`: what the look-up of a path comes to;
* `Settings.loaded`, `Settings.applied`: the configuration that a run asks for, and the one that it
  uses, with the switches of the command line turned on;
* `Settings.progress`: the reports that are shown on the way;
* `Completes`: assembly comes to a result, which `assemble_of_completes` has printed;
* `run_of_le`: what the room for loading a configuration has to do with it.

Consumed by `Claw/Proofs/CommandLine/Status.lean` and `Claw/Proofs/CommandLine/Switches.lean`, and
by `Claw/Proofs/Unreported.lean` for the failures.
-/

namespace Claw

/-! ## Looking up a path -/

namespace Files

variable {files : Files} {path : String}

/-- Whether there is anything under a path.  There is nothing under a path with a null character. -/
def Has (files : Files) (path : String) : Prop :=
  hasNull path = false ∧ ∃ entry, files.find path = .ok entry

/-- Whether a path is too long to be looked up, as it stands or in one of its names. -/
def Refuses (files : Files) (path : String) : Prop :=
  hasNull path = false ∧ files.find path = .error .nameTooLong

lemma exists?_eq_ok_true_iff : files.exists? path = .ok true ↔ files.Has path := by
  rw [exists?, Has]
  by_cases hnull : hasNull path = true
  · simp [hnull]
  · rw [if_neg hnull, Bool.eq_false_iff]
    cases hfind : files.find path with
    | ok entry => simp [hnull]
    | error fault => cases fault <;> simp

lemma exists?_eq_error_iff {fault : AccessFault} :
    files.exists? path = .error fault ↔ files.Refuses path ∧ fault = .nameTooLong := by
  rw [exists?, Refuses]
  by_cases hnull : hasNull path = true
  · simp [hnull]
  · rw [if_neg hnull, Bool.eq_false_iff]
    cases hfind : files.find path with
    | ok entry => simp
    | error found => cases found <;> simp [hnull, eq_comm]

lemma exists?_eq_ok_false (hrefuses : ¬files.Refuses path) (hhas : ¬files.Has path) :
    files.exists? path = .ok false := by
  cases hexists : files.exists? path with
  | error fault => exact absurd (exists?_eq_error_iff.mp hexists).1 hrefuses
  | ok found =>
    cases found with
    | false => rfl
    | true => exact absurd (exists?_eq_ok_true_iff.mp hexists) hhas

lemma not_has_of_refuses (h : files.Refuses path) : ¬files.Has path := by
  rintro ⟨-, entry, hfind⟩
  rw [h.2] at hfind
  cases hfind

lemma has_congr {files' : Files} (h : files.find path = files'.find path) :
    files.Has path ↔ files'.Has path := by
  rw [Has, Has, h]

lemma refuses_congr {files' : Files} (h : files.find path = files'.find path) :
    files.Refuses path ↔ files'.Refuses path := by
  rw [Refuses, Refuses, h]

lemma text_congr {files' : Files} (h : files.find path = files'.find path) :
    files.text path = files'.text path := by
  rw [text, text, bytes, bytes, h]

lemma has_of_text {text : String} (h : files.text path = .ok text) : files.Has path := by
  rw [Files.text] at h
  by_cases hnull : hasNull path = true
  · simp [hnull] at h
  · rw [if_neg hnull, bytes] at h
    cases hfind : files.find path with
    | error fault => simp [hfind] at h
    | ok entry => exact ⟨Bool.eq_false_iff.mpr hnull, entry, hfind⟩

end Files

/-- The working directory with the given texts under the given paths. -/
def textFiles (texts : List (String × String)) : Files :=
  .ofEntries (texts.map fun (path, text) => (path, .file (Text.encodeUtf8 text.toList)))

/-- A result as a listing. -/
def Tokenization.listing (result : Tokenization) : String :=
  Text.joinLines (Assembler.listingHead ++ result.tokens.map Assembler.listingRow)

lemma Assembler.listing_of_result {assembler : Assembler} {result : Tokenization}
    (h : assembler.result = some result) : assembler.listing = result.listing := by
  simp only [listing, h, Tokenization.listing]

namespace CommandLine

/-! ## What a run uses -/

namespace Settings

variable (settings : Settings) (room : Yaml.Room) (files : Files)

/-- The path under which a run looks for its input. -/
def path : String :=
  tidyPath settings.input

/-- The configuration that a run asks for. -/
def loaded : Except Failure Config :=
  if settings.config = "" then .ok {} else Config.ofFile room files settings.config

/-- A configuration with the switches of the command line turned on. -/
def applied (config : Config) : Config :=
  { config with
    reportUnknown := config.reportUnknown || settings.strict
    emitLabels := config.emitLabels || settings.emitLabels }

/-- The assembler of a run that loaded the given configuration. -/
def assembler (config : Config) : Assembler :=
  .new (settings.applied config) settings.verbose

/-- What assembling the input comes to under the given configuration. -/
def trace (config : Config) : Traced Failure Tokenization :=
  ((settings.assembler config).assembleFrom files settings.path).2

/-- What is shown on the way to a result or a failure of assembling the input. -/
def progress (config : Config) : List String :=
  (settings.assembler config).shown (settings.trace files config)

end Settings

variable {room : Yaml.Room} {settings : Settings} {files : Files}

lemma configOf_eq (room : Yaml.Room) (settings : Settings) (files : Files) :
    configOf room settings files = (settings.loaded room files).map settings.applied := by
  rw [configOf, Settings.loaded]
  split
  · rfl
  · cases Config.ofFile room files settings.config <;> rfl

/-- Assembling the input comes to what reading the lines of its text comes to. -/
lemma outcome_trace (settings : Settings) (files : Files) (config : Config) :
    (settings.trace files config).outcome =
      match files.text settings.path with
      | .error fault => .error (Assembler.sourceFailure settings.path fault)
      | .ok text => (Tokenization.ofLines (settings.applied config).toOptions
          (Source.read text settings.path)).outcome.mapError Failure.tooManyDigits := by
  have hoptions : (settings.assembler config).config = settings.applied config := rfl
  cases htext : files.text settings.path <;>
    simp only [Settings.trace, Assembler.outcome_assembleFrom, hoptions, htext]

/-- Of a run, its input and the options for reading lines reach what assembling the input comes
to. -/
lemma Settings.trace_congr {settings' : Settings} {files' : Files} {config config' : Config}
    (hinput : settings.input = settings'.input)
    (hfind : files.find settings.path = files'.find settings.path)
    (hoptions : (settings.applied config).toOptions = (settings'.applied config').toOptions) :
    settings.trace files config = settings'.trace files' config' := by
  have hpath : settings'.path = settings.path := by
    rw [Settings.path, Settings.path, hinput]
  have hcall : ∀ call, ((settings.assembler config).call call).2 =
      ((settings'.assembler config').call call).2 := Assembler.trace_call_congr hoptions
  have hfile := hcall (.file files settings.path)
  rw [Assembler.call_file, Assembler.call_file] at hfile
  rw [Settings.trace, Settings.trace, hpath, hfile,
    Assembler.assembleFrom_congr _ (Files.text_congr hfind)]

/-- A run with its input assembled: the input is there, the configuration loads, the input can be
read, and its lines come to a result. -/
structure Completes (room : Yaml.Room) (settings : Settings) (files : Files) (config : Config)
    (result : Tokenization) : Prop where
  found : files.Has settings.path
  loaded : settings.loaded room files = .ok config
  assembled : ∃ text, files.text settings.path = .ok text ∧
    (Tokenization.ofLines (settings.applied config).toOptions
      (Source.read text settings.path)).outcome = .ok result

/-- A configuration and a result are all that there is to the completion of a run. -/
lemma Completes.unique {config config' : Config} {result result' : Tokenization}
    (h : Completes room settings files config result)
    (h' : Completes room settings files config' result') :
    config = config' ∧ result = result' := by
  obtain rfl : config = config' := Except.ok.inj (h.loaded.symm.trans h'.loaded)
  obtain ⟨text, htext, hresult⟩ := h.assembled
  obtain ⟨text', htext', hresult'⟩ := h'.assembled
  obtain rfl : text = text' := Except.ok.inj (htext.symm.trans htext')
  exact ⟨rfl, Except.ok.inj (hresult.symm.trans hresult')⟩

lemma outcome_trace_eq_ok_iff {config : Config} {result : Tokenization} :
    (settings.trace files config).outcome = .ok result ↔
      ∃ text, files.text settings.path = .ok text ∧
        (Tokenization.ofLines (settings.applied config).toOptions
          (Source.read text settings.path)).outcome = .ok result := by
  rw [outcome_trace]
  cases files.text settings.path with
  | error fault => simp
  | ok text =>
    generalize hread : (Tokenization.ofLines (settings.applied config).toOptions
      (Source.read text settings.path)).outcome = outcome
    simp only [Except.ok.injEq, exists_eq_left', hread]
    cases outcome <;> simp [Except.mapError]

/-! ## The ends of a run -/

/-- What a run prints that loaded the given configuration and came to the given result. -/
def Settings.output (settings : Settings) (files : Files) (config : Config)
    (result : Tokenization) : Output where
  status := if result.hasDiagnostics then 1 else 0
  standard := printed (settings.progress files config ++
    (if settings.listing then [result.listing] else []) ++ closingRows settings result)
  error := printed (errorRows settings.input result.diagnostics)

/-- **The ends of a run**, each with what the run comes to there. -/
inductive Course (room : Yaml.Room) (settings : Settings) (files : Files) :
    Except Failure Output → Prop
  /-- The path of the input cannot be looked up. -/
  | refused (h : files.Refuses settings.path) :
    Course room settings files (.error (.notLookedUp settings.path .nameTooLong))
  /-- There is no input. -/
  | missing (refuses : ¬files.Refuses settings.path) (h : ¬files.Has settings.path) :
    Course room settings files
      (.ok ⟨1, "", printed ["Error: Input file not found: " ++ settings.input]⟩)
  /-- The configuration does not load. -/
  | unconfigured {failure : Failure} (found : files.Has settings.path)
    (h : settings.loaded room files = .error failure) :
    Course room settings files (failed [] failure)
  /-- The input cannot be assembled. -/
  | unassembled {config : Config} {failure : Failure} (found : files.Has settings.path)
    (loaded : settings.loaded room files = .ok config)
    (h : (settings.trace files config).outcome = .error failure) :
    Course room settings files (failed (settings.progress files config) failure)
  /-- The input is assembled. -/
  | completed {config : Config} {result : Tokenization}
    (h : Completes room settings files config result) :
    Course room settings files (.ok (settings.output files config result))

/-- A run that has found its input reads its configuration first. -/
lemma assembleInput_of_not_loaded {failure : Failure}
    (h : settings.loaded room files = .error failure) :
    assembleInput room settings files settings.path = failed [] failure := by
  simp only [assembleInput, configOf_eq, h, Except.map]

/-- Then the input is assembled, which may fail. -/
lemma assembleInput_of_failure {config : Config} {failure : Failure}
    (hloaded : settings.loaded room files = .ok config)
    (houtcome : (settings.trace files config).outcome = .error failure) :
    assembleInput room settings files settings.path =
      failed (settings.progress files config) failure := by
  have hassembler : Assembler.new (settings.applied config) settings.verbose =
      settings.assembler config := rfl
  -- the assembler afterwards and the trace are one pair, which must not be opened by evaluation
  cases hassembled : (settings.assembler config).assembleFrom files settings.path with
  | mk after trace =>
    simp only [Settings.trace, hassembled] at houtcome
    simp only [assembleInput, configOf_eq, hloaded, Except.map, hassembler, hassembled, houtcome,
      Settings.progress, Settings.trace]

lemma result_assembleFrom {config : Config} {result : Tokenization}
    (h : (settings.trace files config).outcome = .ok result) :
    ((settings.assembler config).assembleFrom files settings.path).1.result = some result := by
  have hafter := (settings.assembler config).result_call (.file files settings.path)
  rw [Settings.trace] at h
  rw [Assembler.call_file, h] at hafter
  exact hafter

/-- A result is printed. -/
lemma assembleInput_of_result {config : Config} {result : Tokenization}
    (hloaded : settings.loaded room files = .ok config)
    (houtcome : (settings.trace files config).outcome = .ok result) :
    assembleInput room settings files settings.path =
      .ok (settings.output files config result) := by
  have hassembler : Assembler.new (settings.applied config) settings.verbose =
      settings.assembler config := rfl
  have hlisting := Assembler.listing_of_result (result_assembleFrom houtcome)
  cases hassembled : (settings.assembler config).assembleFrom files settings.path with
  | mk after trace =>
    rw [hassembled] at hlisting
    simp only [Settings.trace, hassembled] at houtcome
    simp only [assembleInput, configOf_eq, hloaded, Except.map, hassembler, hassembled, houtcome,
      finished, hlisting, Settings.output, Settings.progress, Settings.trace]

lemma Course.assemble_eq {outcome : Except Failure Output}
    (h : Course room settings files outcome) :
    assemble room settings files = outcome := by
  have hfound : files.Has settings.path → files.exists? settings.path = .ok true :=
    Files.exists?_eq_ok_true_iff.mpr
  rw [assemble, ← Settings.path]
  cases h with
  | refused hrefuses => simp only [Files.exists?_eq_error_iff.mpr ⟨hrefuses, rfl⟩]
  | missing hrefuses hmissing => simp only [Files.exists?_eq_ok_false hrefuses hmissing]
  | unconfigured found hloaded =>
    simp only [hfound found, assembleInput_of_not_loaded hloaded]
  | unassembled found hloaded houtcome =>
    simp only [hfound found, assembleInput_of_failure hloaded houtcome]
  | completed hcompletes =>
    simp only [hfound hcompletes.found, assembleInput_of_result hcompletes.loaded
      (outcome_trace_eq_ok_iff.mpr hcompletes.assembled)]

lemma course (room : Yaml.Room) (settings : Settings) (files : Files) :
    Course room settings files (assemble room settings files) := by
  suffices h : ∃ outcome, Course room settings files outcome by
    obtain ⟨outcome, houtcome⟩ := h
    rwa [houtcome.assemble_eq]
  by_cases hrefuses : files.Refuses settings.path
  · exact ⟨_, .refused hrefuses⟩
  by_cases hhas : files.Has settings.path
  · cases hloaded : settings.loaded room files with
    | error failure => exact ⟨_, .unconfigured hhas hloaded⟩
    | ok config =>
      cases houtcome : (settings.trace files config).outcome with
      | error failure => exact ⟨_, .unassembled hhas hloaded houtcome⟩
      | ok result => exact ⟨_, .completed ⟨hhas, hloaded, outcome_trace_eq_ok_iff.mp houtcome⟩⟩
  · exact ⟨_, .missing hrefuses hhas⟩

lemma assemble_of_completes {config : Config} {result : Tokenization}
    (h : Completes room settings files config result) :
    assemble room settings files = .ok (settings.output files config result) :=
  (Course.completed h).assemble_eq

lemma Settings.loaded_of_le {more : Yaml.Room} (h : room ≤ more) (settings : Settings)
    (files : Files) : settings.loaded room files = .error .tooDeep ∨
      settings.loaded more files = settings.loaded room files := by
  rw [loaded, loaded]
  split
  · exact .inr rfl
  · unfold Config.ofFile
    split
    · next text _ =>
      unfold Config.ofText
      rcases Yaml.load_of_le h text with hdeep | hsame
      · exact .inl (by rw [hdeep]; rfl)
      · exact .inr (by rw [hsame])
    all_goals exact .inr rfl

/-- Of the room of a run nothing matters but the configuration that is loaded. -/
lemma Course.of_loaded_eq {more : Yaml.Room} {outcome : Except Failure Output}
    (hsame : settings.loaded more files = settings.loaded room files)
    (h : Course room settings files outcome) : Course more settings files outcome := by
  cases h with
  | refused hrefuses => exact .refused hrefuses
  | missing hrefuses hmissing => exact .missing hrefuses hmissing
  | unconfigured found hloaded => exact .unconfigured found (hsame.trans hloaded)
  | unassembled found hloaded hfails => exact .unassembled found (hsame.trans hloaded) hfails
  | completed h => exact .completed ⟨h.found, hsame.trans h.loaded, h.assembled⟩

/-- **Room.** A run comes to the same with more room, unless its configuration was too deep. -/
theorem run_of_le {more : Yaml.Room} (h : room ≤ more) (arguments : List String) (files : Files) :
    run room arguments files = .error .tooDeep ∨
      run more arguments files = run room arguments files := by
  unfold run
  cases request arguments with
  | run settings =>
    have hcourse := course room settings files
    dsimp only
    generalize assemble room settings files = outcome at hcourse ⊢
    rcases settings.loaded_of_le h files with hdeep | hsame
    · cases hcourse with
      | refused hrefuses => exact .inr (Course.refused hrefuses).assemble_eq
      | missing hrefuses hmissing => exact .inr (Course.missing hrefuses hmissing).assemble_eq
      | unconfigured found hloaded =>
        cases hdeep.symm.trans hloaded
        exact .inl rfl
      | unassembled found hloaded => cases hdeep.symm.trans hloaded
      | completed hcompletes => cases hdeep.symm.trans hcompletes.loaded
    · exact .inr (hcourse.of_loaded_eq hsame).assemble_eq
  | _ => exact .inr rfl

/-! ## Objections -/

/-- What a run says of an input or a configuration that it cannot read. -/
inductive Objects (room : Yaml.Room) (settings : Settings) (files : Files) : String → Prop
  /-- There is no input. -/
  | missing (h : ¬files.Has settings.path) :
    Objects room settings files ("Input file not found: " ++ settings.input)
  /-- The configuration does not load. -/
  | unconfigured {failure : Failure} {fault : Fault} (found : files.Has settings.path)
    (loaded : settings.loaded room files = .error failure) (h : failure.fault? = some fault) :
    Objects room settings files fault.text
  /-- The input cannot be assembled. -/
  | unassembled {config : Config} {failure : Failure} {fault : Fault}
    (found : files.Has settings.path) (loaded : settings.loaded room files = .ok config)
    (assembled : (settings.trace files config).outcome = .error failure)
    (h : failure.fault? = some fault) : Objects room settings files fault.text

lemma failed_eq_ok_iff {shown : List String} {failure : Failure} {output : Output} :
    failed shown failure = .ok output ↔ ∃ fault, failure.fault? = some fault ∧
      output = ⟨1, printed shown, printed ["Error: " ++ fault.text]⟩ := by
  rw [failed]
  cases failure.fault? <;> simp [eq_comm]

/-- A run that ends without a result objects to its input or its configuration. -/
lemma exists_objects {output : Output} (h : assemble room settings files = .ok output)
    (hincomplete : ∀ config result, ¬Completes room settings files config result) :
    output.status = 1 ∧
      ∃ message, Objects room settings files message ∧
        output.error = printed ["Error: " ++ message] := by
  have hcourse := course room settings files
  rw [h] at hcourse
  generalize houtcome : (Except.ok output : Except Failure Output) = outcome at hcourse
  cases hcourse with
  | refused => cases houtcome
  | missing _ hmissing =>
    cases houtcome
    exact ⟨rfl, _, .missing hmissing, rfl⟩
  | unconfigured found loaded =>
    obtain ⟨fault, hfault, rfl⟩ := failed_eq_ok_iff.mp houtcome.symm
    exact ⟨rfl, _, .unconfigured found loaded hfault, rfl⟩
  | unassembled found loaded assembled =>
    obtain ⟨fault, hfault, rfl⟩ := failed_eq_ok_iff.mp houtcome.symm
    exact ⟨rfl, _, .unassembled found loaded assembled hfault, rfl⟩
  | completed hcompletes => exact absurd hcompletes (hincomplete _ _)

/-- A run that ends comes to a result or objects. -/
lemma status_of_assemble {output : Output} (h : assemble room settings files = .ok output) :
    output.status ≤ 1 := by
  by_cases hcompletes : ∃ config result, Completes room settings files config result
  · obtain ⟨config, result, hcompletes⟩ := hcompletes
    rw [assemble_of_completes hcompletes] at h
    cases h
    show (if result.hasDiagnostics then 1 else 0) ≤ 1
    split <;> decide
  · exact (exists_objects h fun config result hresult => hcompletes ⟨_, _, hresult⟩).1.le

end CommandLine

end Claw
