import Claw.Assembler
import Claw.Proofs.Recording
import Claw.Proofs.Session

/-!
# What an assembler remembers

Three things outlast a call of an assembler: the definitions, the result and the place of the
tokenizer.  A call can fail where its file is read and where its lines are tokenized, and by then
some of the three have changed and others have not.  This file says which.

* `assemble_eq_recorder`, `assembleFrom_of_text`, `assembleFrom_of_fault` and `trace_feed` say what
  each kind of call comes to;
* `call_cases` puts them together: a call does not get as far as a source text, or reads one, or is
  given lines.  `result_call` and `definitions_call` are what it leaves, and `trace_call_congr` says
  that nothing remembered reaches what it gives;
* `field_session` carries a law about one call to a session: what a session leaves of anything
  remembered is the last that was new about it.

`session_remembers` is about any session of a new assembler, and about whatever call comes next.
-/

namespace Claw

open Numeral (TooManyDigits)
open Source (Line)

namespace Assembler

/-- The source text that a call reads, and its name; lines are no text, and a file that cannot be
read has none. -/
def Call.source? : Call → Option (String × String)
  | .text source name => some (source, name)
  | .file files path => (files.text path).toOption.map fun source => (source, path)
  | .lines _ => none

/-- The definitions that a source text puts on record. -/
def definitionsOf (source : String × String) : Source.Definitions :=
  Source.definitions (Source.read source.1 source.2)

/-! ## One call -/

/-- A file is a source text under the name of its path. -/
lemma assembleFrom_of_text {files : Files} {path text : String} (assembler : Assembler)
    (h : files.text path = .ok text) :
    assembler.assembleFrom files path =
      ((assembler.assemble text path).1,
        ⟨("Assembling: " ++ path) :: (assembler.assemble text path).2.reported,
          (assembler.assemble text path).2.outcome⟩) := by
  simp only [assembleFrom, h]

/-- A file that cannot be read leaves everything as it is. -/
lemma assembleFrom_of_fault {files : Files} {path : String} {fault : ReadFault}
    (assembler : Assembler) (h : files.text path = .error fault) :
    assembler.assembleFrom files path =
      (assembler, ⟨["Assembling: " ++ path], .error (sourceFailure path fault)⟩) := by
  simp only [assembleFrom, h]

lemma trace_feed (assembler : Assembler) (lines : List Line) :
    (assembler.feed lines).2 =
      ((Tokenizer.new assembler.config.toOptions).tokenize lines).2.mapError
        Failure.tooManyDigits := by
  have hfresh : assembler.tokenizer.tokenize lines =
      (Tokenizer.new assembler.config.toOptions).tokenize lines :=
    Tokenizer.tokenize_eq_new assembler.tokenizer lines
  simp only [feed, hfresh]
  split <;> rfl

/-- What lines give is what the reader of lines gives for them. -/
lemma outcome_feed (assembler : Assembler) (lines : List Line) :
    (assembler.feed lines).2.outcome =
      (Tokenization.ofLines assembler.config.toOptions lines).outcome.mapError
        Failure.tooManyDigits := by
  have houtcome := Tokenizer.outcome_tokenize (Tokenizer.new assembler.config.toOptions) lines
  rw [trace_feed, Traced.outcome_mapError, houtcome]
  rfl

/-- Lines leave their result, if they have one. -/
lemma result_feed (assembler : Assembler) (lines : List Line) :
    (assembler.feed lines).1.result =
      (assembler.feed lines).2.outcome.toOption.or assembler.result := by
  unfold feed
  dsimp only
  split
  · next result hresult =>
    rw [hresult]
    rfl
  · next failure hfailure =>
    rw [hfailure]
    rfl

lemma definitions_feed (assembler : Assembler) (lines : List Line) :
    (assembler.feed lines).1.definitions = assembler.definitions := by
  unfold feed
  dsimp only
  split <;> rfl

lemma config_feed (assembler : Assembler) (lines : List Line) :
    (assembler.feed lines).1.config = assembler.config := by
  unfold feed
  dsimp only
  split <;> rfl

/-- A source text puts its definitions on record, and then gives and leaves what its lines do. -/
lemma assemble_eq (assembler : Assembler) (text file : String) :
    let lines := Source.read text file
    let fed := { assembler with definitions := Source.definitions lines }.feed lines
    assembler.assemble text file =
      (fed.1, ⟨Source.log file lines ++ fed.2.reported, fed.2.outcome⟩) := rfl

/-- **The recorder of an assembler.** A source text is read by a recorder that was left with the
definitions of the assembler.  The recorder refuses no line; its lines are tokenized, its definitions
are kept, and its reports come first. -/
lemma assemble_eq_recorder (assembler : Assembler) (text file : String) :
    let read := (Source.Recorder.mk assembler.definitions).read text file
    ∃ lines, read.2.outcome = .ok lines ∧
      let fed := { assembler with definitions := read.1.definitions }.feed lines
      assembler.assemble text file =
        (fed.1, ⟨read.2.reported ++ fed.2.reported, fed.2.outcome⟩) := by
  simp only [Source.Recorder.read_eq, assemble_eq]
  exact ⟨_, rfl, rfl⟩

/-- What assembling a text gives is what tokenizing its lines gives. -/
lemma outcome_assemble (assembler : Assembler) (text file : String) :
    (assembler.assemble text file).2.outcome =
      (Tokenization.ofLines assembler.config.toOptions (Source.read text file)).outcome.mapError
        Failure.tooManyDigits := by
  simp only [assemble_eq, outcome_feed]

lemma outcome_assembleFrom (assembler : Assembler) (files : Files) (path : String) :
    (assembler.assembleFrom files path).2.outcome =
      match files.text path with
      | .error fault => .error (sourceFailure path fault)
      | .ok text => (Tokenization.ofLines assembler.config.toOptions
          (Source.read text path)).outcome.mapError Failure.tooManyDigits := by
  cases htext : files.text path with
  | error fault => rw [assembleFrom_of_fault assembler htext]
  | ok text =>
    rw [assembleFrom_of_text assembler htext]
    exact outcome_assemble assembler text path

lemma outcome_text_of_error {text file : String} {failure : TooManyDigits} (assembler : Assembler)
    (h : (Tokenization.ofLines assembler.config.toOptions (Source.read text file)).outcome =
      .error failure) :
    (assembler.call (.text text file)).2.outcome = .error (.tooManyDigits failure) := by
  have hcall : assembler.call (.text text file) = assembler.assemble text file := rfl
  rw [hcall, outcome_assemble, h]
  rfl

lemma definitions_assemble (assembler : Assembler) (text file : String) :
    (assembler.assemble text file).1.definitions =
      Source.definitions (Source.read text file) := by
  simp only [assemble_eq, definitions_feed]

lemma call_file (assembler : Assembler) (files : Files) (path : String) :
    assembler.call (.file files path) = assembler.assembleFrom files path := rfl

/-- **What a call does.** It fails before it has a source text and leaves everything as it is, or it
reads a source text, or it is given lines. -/
lemma call_cases (assembler : Assembler) (call : Call) :
    (∃ failure, call.source? = none ∧ (assembler.call call).1 = assembler ∧
      (assembler.call call).2.outcome = .error failure) ∨
    (∃ text file, call.source? = some (text, file) ∧
      (assembler.call call).1 = (assembler.assemble text file).1 ∧
      (assembler.call call).2.outcome = (assembler.assemble text file).2.outcome) ∨
    ∃ lines, call.source? = none ∧ assembler.call call = assembler.feed lines := by
  cases call with
  | text text file => exact .inr (.inl ⟨text, file, rfl, rfl, rfl⟩)
  | lines lines => exact .inr (.inr ⟨lines, rfl, rfl⟩)
  | file files path =>
    cases htext : files.text path with
    | error fault =>
      refine .inl ⟨sourceFailure path fault, ?_, ?_, ?_⟩
      · simp [Call.source?, htext, Except.toOption]
      · rw [call_file, assembleFrom_of_fault assembler htext]
      · rw [call_file, assembleFrom_of_fault assembler htext]
    | ok text =>
      refine .inr (.inl ⟨text, path, ?_, ?_, ?_⟩)
      · simp [Call.source?, htext, Except.toOption]
      · rw [call_file, assembleFrom_of_text assembler htext]
      · rw [call_file, assembleFrom_of_text assembler htext]

/-- A call leaves its result, if it has one, and otherwise the result that there was. -/
lemma result_call (assembler : Assembler) (call : Call) :
    (assembler.call call).1.result =
      (assembler.call call).2.outcome.toOption.or assembler.result := by
  rcases assembler.call_cases call with ⟨failure, -, hafter, houtcome⟩ |
    ⟨text, file, -, hafter, houtcome⟩ | ⟨lines, -, hcall⟩
  · rw [hafter, houtcome]
    rfl
  · rw [hafter, houtcome]
    simp only [assemble_eq, result_feed]
  · rw [hcall, result_feed]

/-- A call leaves the definitions of its source text, if it gets as far as having one, and otherwise
those that there were. -/
lemma definitions_call (assembler : Assembler) (call : Call) :
    (assembler.call call).1.definitions =
      (call.source?.map definitionsOf).getD assembler.definitions := by
  rcases assembler.call_cases call with ⟨failure, hsource, hafter, -⟩ |
    ⟨text, file, hsource, hafter, -⟩ | ⟨lines, hsource, hcall⟩
  · rw [hafter, hsource]
    rfl
  · rw [hafter, hsource, definitions_assemble]
    rfl
  · rw [hcall, hsource, definitions_feed]
    rfl

lemma config_call (assembler : Assembler) (call : Call) :
    (assembler.call call).1.config = assembler.config := by
  rcases assembler.call_cases call with ⟨failure, -, hafter, -⟩ |
    ⟨text, file, -, hafter, -⟩ | ⟨lines, -, hcall⟩
  · rw [hafter]
  · simp only [hafter, assemble_eq, config_feed]
  · rw [hcall, config_feed]

/-- **What a call gives.** Of all that an assembler is, only the options for reading lines reach what
it gives. -/
lemma trace_call_congr {assembler other : Assembler}
    (h : assembler.config.toOptions = other.config.toOptions) (call : Call) :
    (assembler.call call).2 = (other.call call).2 := by
  have hassemble : ∀ text file,
      (assembler.assemble text file).2 = (other.assemble text file).2 := by
    intro text file
    simp only [assemble_eq, trace_feed, h]
  cases call with
  | text text file => exact hassemble text file
  | lines lines =>
    show (assembler.feed lines).2 = (other.feed lines).2
    rw [trace_feed, trace_feed, h]
  | file files path =>
    rw [call_file, call_file]
    cases htext : files.text path with
    | error fault =>
      rw [assembleFrom_of_fault assembler htext, assembleFrom_of_fault other htext]
    | ok text =>
      rw [assembleFrom_of_text assembler htext, assembleFrom_of_text other htext, hassemble]

/-- Of all files, only the text under the path reaches what assembling gives and leaves. -/
lemma assembleFrom_congr (assembler : Assembler) {files files' : Files} {path : String}
    (h : files.text path = files'.text path) :
    assembler.assembleFrom files path = assembler.assembleFrom files' path := by
  cases htext : files.text path with
  | error fault =>
    rw [assembleFrom_of_fault assembler htext, assembleFrom_of_fault assembler (h ▸ htext)]
  | ok text => rw [assembleFrom_of_text assembler htext, assembleFrom_of_text assembler (h ▸ htext)]

lemma trace_call {assembler other : Assembler} (h : assembler.config = other.config)
    (call : Call) : (assembler.call call).2 = (other.call call).2 :=
  trace_call_congr (by rw [h]) call

/-! ## Sessions -/

lemma traces_session {assembler other : Assembler} (h : assembler.config = other.config)
    (calls : List Call) :
    (assembler.session calls).2 = calls.map fun call => (other.call call).2 := by
  induction calls generalizing assembler with
  | nil => rfl
  | cons call rest ih =>
    have hcons : (assembler.session (call :: rest)).2 =
        (assembler.call call).2 :: ((assembler.call call).1.session rest).2 := rfl
    rw [hcons, trace_call h, ih ((assembler.config_call call).trans h)]
    rfl

lemma config_session (assembler : Assembler) (calls : List Call) :
    (assembler.session calls).1.config = assembler.config := by
  induction calls generalizing assembler with
  | nil => rfl
  | cons call rest ih => exact (ih (assembler.call call).1).trans (assembler.config_call call)

/-- **What a session leaves.** Where every call leaves something new in a part of the assembler, or
nothing, a session leaves the last of it, and what there was if nothing was new. -/
lemma field_session {α : Type} {config : Config} (field : Assembler → α) (news : Call → Option α)
    (hcall : ∀ assembler : Assembler, assembler.config = config → ∀ call,
      field (assembler.call call).1 = (news call).getD (field assembler))
    {assembler : Assembler} (hconfig : assembler.config = config) (calls : List Call) :
    field (assembler.session calls).1 =
      (calls.filterMap news).getLast?.getD (field assembler) := by
  induction calls generalizing assembler with
  | nil => rfl
  | cons call rest ih =>
    have hcons : (assembler.session (call :: rest)).1 =
        ((assembler.call call).1.session rest).1 := rfl
    rw [hcons, ih ((assembler.config_call call).trans hconfig), hcall assembler hconfig,
      List.filterMap_cons]
    cases news call with
    | none => rfl
    | some value =>
      rw [List.getLast?_cons]
      rfl

lemma result_session {assembler other : Assembler} (h : assembler.config = other.config)
    (calls : List Call) :
    (assembler.session calls).1.result =
      (((assembler.session calls).2.filterMap fun trace => trace.outcome.toOption).getLast?).or
        assembler.result := by
  have hor : ∀ given before : Option Tokenization,
      (given.map some).getD before = given.or before := by
    intro given before
    cases given <;> rfl
  have hcall : ∀ assembler : Assembler, assembler.config = other.config → ∀ call,
      (assembler.call call).1.result =
        ((other.call call).2.outcome.toOption.map some).getD assembler.result := by
    intro assembler hconfig call
    rw [result_call, trace_call hconfig, hor]
  rw [field_session Assembler.result _ hcall h, traces_session h, List.filterMap_map,
    ← List.map_filterMap, List.getLast?_map]
  exact hor _ _

lemma definitions_session (assembler : Assembler) (calls : List Call) :
    (assembler.session calls).1.definitions =
      ((calls.filterMap Call.source?).getLast?.map definitionsOf).getD assembler.definitions := by
  rw [field_session Assembler.definitions _ (fun assembler _ call => definitions_call assembler call)
    rfl, ← List.map_filterMap, List.getLast?_map]

/-- **An assembler over a session.** Every call gives what a new assembler of the same configuration
gives for it.  Afterwards the result is that of the last call that gave one, and the definitions are
those of the last source text that a call got as far as reading, whether or not it gave a result.
So a file that cannot be read changes nothing, and a call that fails leaves the listing and the
report of the result before. -/
theorem session_remembers (config : Config) (verbose : Bool) (calls : List Call) :
    let fresh := new config verbose
    let after := (fresh.session calls).1
    let traces := (fresh.session calls).2
    traces = calls.map (fun call => (fresh.call call).2) ∧
    after.result = (traces.filterMap fun trace => trace.outcome.toOption).getLast? ∧
    after.definitions =
      ((calls.filterMap Call.source?).getLast?.map definitionsOf).getD .empty ∧
    (∀ files path fault, files.text path = .error fault →
      (after.assembleFrom files path).1 = after) ∧
    ∀ call failure, (after.call call).2.outcome = .error failure →
      (after.call call).1.result = after.result ∧
      (after.call call).1.listing = after.listing ∧
      (after.call call).1.errorReport = after.errorReport := by
  intro fresh after traces
  refine ⟨traces_session rfl calls, ?_, definitions_session fresh calls, ?_, ?_⟩
  · exact (result_session rfl calls).trans Option.or_none
  · intro files path fault hfault
    rw [assembleFrom_of_fault after hfault]
  · intro call failure hfailure
    have hresult : (after.call call).1.result = after.result := by
      rw [result_call, hfailure]
      rfl
    refine ⟨hresult, ?_, ?_⟩
    · simp only [listing, hresult]
    · simp only [errorReport, hresult]

lemma exists_outcome_ofLines_eq_error : ∃ text failure,
    (Tokenization.ofLines {} (Source.read text "b")).outcome = .error failure :=
  ⟨Program.listDirective (.integer ⟨true, .byte⟩) overlongNumeral,
    Tokenization.exists_outcome_read_eq_error_iff.mpr (exists_mem_read_overlong _ "b")⟩

/-- No files at all. -/
def noFiles : Files :=
  ⟨fun _ => .error .missing⟩

/-- Three calls: a source text with a definition, another source text, and a file where there is
none. -/
def interruptedCalls (text : String) : List Call :=
  [.text "#define N 1\nADD" "a", .text text "b", .file noFiles "c"]

/-- A session in which the first call gives a result, the second fails when its lines are tokenized,
and the third when its file is read: the result is still that of the first, and the definitions are
those of the second.  Neither failure changes anything when it comes once more. -/
theorem session_remembers_interrupted : ∃ text,
    let after := ((new {} false).session (interruptedCalls text)).1
    (∃ failure, ((new {} false).call (.text text "b")).2.outcome = .error failure) ∧
    (∃ result, ((new {} false).call (.text "#define N 1\nADD" "a")).2.outcome = .ok result ∧
      after.result = some result) ∧
    after.definitions = definitionsOf (text, "b") ∧
    (after.assembleFrom noFiles "c").1 = after ∧
    (after.call (.text text "b")).1.listing = after.listing := by
  obtain ⟨text, failure, hfailure⟩ := exists_outcome_ofLines_eq_error
  obtain ⟨htraces, hresult, hdefinitions, hunread, hunchanged⟩ :=
    session_remembers {} false (interruptedCalls text)
  have hoverlong : ((new {} false).call (.text text "b")).2.outcome =
      .error (.tooManyDigits failure) :=
    outcome_text_of_error (new {} false) hfailure
  have hmissing : ((new {} false).call (.file noFiles "c")).2.outcome =
      .error (.unreadable "c" .missing) := rfl
  obtain ⟨result, hread⟩ : ∃ result,
      ((new {} false).call (.text "#define N 1\nADD" "a")).2.outcome = .ok result := ⟨_, rfl⟩
  refine ⟨text, ⟨_, hoverlong⟩, ⟨result, hread, ?_⟩, ?_, hunread noFiles "c" _ rfl, ?_⟩
  · rw [hresult, htraces, interruptedCalls]
    simp only [List.map_cons, List.map_nil, List.filterMap_cons, List.filterMap_nil, hread,
      hoverlong, hmissing, Except.toOption]
    rfl
  · rw [hdefinitions, interruptedCalls]
    rfl
  · refine (hunchanged (.text text "b") (.tooManyDigits failure) ?_).2.1
    rw [trace_call (config_session (new {} false) (interruptedCalls text))]
    exact hoverlong

end Assembler

end Claw
