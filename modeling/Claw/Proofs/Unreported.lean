import Claw.Proofs.CommandLine.Course
import Claw.Proofs.LineBreaks
import Claw.Proofs.Overlong
import Claw.Proofs.Yaml.Nesting

/-!
# Failures that go unreported

A failure that is a fault is reported: to a caller as such, and on the command line in one row and
by the exit status.  Reading a source or a configuration is meant to fail in no other way.  It does:
a file may hold bytes that are no text, a path may hold a null character, a scalar may have no
value, a configuration may be nested too deep, and a number may have too many digits to be quoted.
This file says exactly when.

* `Reports`: an outcome is a value or a fault of a given family;
* `Assembler.Escapes`, `Config.Escapes`, `CommandLine.Escapes`: the ways in which a source, a
  configuration and a run fail without a fault, with a constructor for each cause;
* `Objects`: what a run says of an input or a configuration that it cannot read.

`Assembler.reports_iff`, `Config.reports_iff` and `CommandLine.exists_run_eq_ok_iff` say that these
are all the ways.  `reported_unless_escapes` puts them together, and `garbled_file_escapes` is one
byte that is enough for all three.  How deep is too deep depends on the room there is for loading,
but with whatever room some configuration goes unreported (`Config.not_reports_of_opened`).
-/

namespace Claw

open Numeral (digitLimit)
open Text (encodeUtf8)

/-- Whether an outcome is a value, or a failure that is a fault of the family. -/
def Reports {α : Type} (family : FaultFamily) : Except Failure α → Prop
  | .ok _ => True
  | .error failure => ∃ fault, failure.fault? = some fault ∧ fault.family.isWithin family = true

section Reports

variable {α β : Type} {family : FaultFamily}

@[simp] lemma reports_ok (value : α) : Reports family (.ok value) := trivial

lemma reports_configuration (hfamily : FaultFamily.configuration.isWithin family = true)
    {fault : ConfigFault} : Reports family (.error (.configuration fault) : Except Failure α) :=
  ⟨_, rfl, hfamily⟩

lemma Reports.bind {outcome : Except Failure α} {next : α → Except Failure β}
    (h : Reports family outcome) (hnext : ∀ value, Reports family (next value)) :
    Reports family (outcome >>= next) := by
  cases outcome with
  | ok value => exact hnext value
  | error failure => exact h

lemma not_reports_of_fault? {failure : Failure} (h : failure.fault? = none) :
    ¬Reports family (.error failure : Except Failure α) := by
  rintro ⟨fault, hfault, -⟩
  rw [h] at hfault
  cases hfault

end Reports

/-! ## Files -/

namespace Files

variable {files : Files} {path : String}

/-- Whether the file under a path holds bytes that encode no text. -/
def IsGarbled (files : Files) (path : String) : Prop :=
  ∃ bytes, files.Holds path bytes ∧ ∀ cs, bytes ≠ encodeUtf8 cs

/-- How the reading of a file fails without a fault. -/
inductive Escapes (files : Files) (path : String) : Prop
  /-- The path holds a null character. -/
  | nullInPath (h : hasNull path = true)
  /-- The bytes of the file are no text. -/
  | garbled (h : files.IsGarbled path)

lemma text_eq_nullInPath_iff : files.text path = .error .nullInPath ↔ hasNull path = true := by
  rw [text]
  by_cases hnull : hasNull path = true
  · simp [hnull]
  · rw [if_neg hnull]
    refine iff_of_false ?_ hnull
    cases files.bytes path with
    | error fault => simp
    | ok bytes => cases hdecode : Text.decodeUtf8 bytes <;> simp [hdecode]

/-- There are bytes to be refused only in a file. -/
lemma exists_holds_of_text {fault : Text.DecodeFault}
    (h : files.text path = .error (.decode fault)) : ∃ bytes, files.Holds path bytes := by
  rw [text] at h
  by_cases hnull : hasNull path = true
  · simp [hnull] at h
  · rw [if_neg hnull, bytes] at h
    cases hfind : files.find path with
    | error found => simp [hfind] at h
    | ok entry =>
      cases entry with
      | directory => simp [hfind] at h
      | file bytes => exact ⟨bytes, Bool.eq_false_iff.mpr hnull, hfind⟩

lemma exists_text_eq_decode_iff :
    (∃ fault, files.text path = .error (.decode fault)) ↔ files.IsGarbled path := by
  constructor
  · rintro ⟨fault, htext⟩
    obtain ⟨bytes, hholds⟩ := exists_holds_of_text htext
    refine ⟨bytes, hholds, fun cs hcs => ?_⟩
    rw [text_of_holds_bytes hholds, Text.decodeUtf8_eq_ok_iff.mpr hcs] at htext
    cases htext
  · rintro ⟨bytes, hholds, hgarbled⟩
    rw [text_of_holds_bytes hholds]
    cases hdecode : Text.decodeUtf8 bytes with
    | error fault => exact ⟨fault, rfl⟩
    | ok cs => exact absurd (Text.decodeUtf8_eq_ok_iff.mp hdecode) (hgarbled cs)

/-- Reading a file fails without a fault just where neither a text nor an obstacle is found. -/
lemma escapes_iff :
    files.Escapes path ↔
      files.text path = .error .nullInPath ∨ ∃ fault, files.text path = .error (.decode fault) := by
  rw [text_eq_nullInPath_iff, exists_text_eq_decode_iff]
  constructor
  · rintro (h | h)
    · exact .inl h
    · exact .inr h
  · rintro (h | h)
    · exact .nullInPath h
    · exact .garbled h

end Files

/-! ## Sources -/

namespace Assembler

/-- How the assembling of a file fails without a fault. -/
inductive Escapes (files : Files) (path : String) : Prop
  /-- The file cannot be read, for a reason that goes unreported. -/
  | reading (h : files.Escapes path)
  /-- A line of the text holds a literal that is out of range and cannot be quoted. -/
  | overlong {text : String} {line : Source.Line} (read : files.text path = .ok text)
    (mem : line ∈ Source.read text path) (category : line.category = .data)
    (h : HasOverlong line.content)

/-- A file is assembled, or not, with a report, unless its failure escapes. -/
lemma reports_iff (assembler : Assembler) {files : Files} {path : String} :
    Reports .general (assembler.assembleFrom files path).2.outcome ↔ ¬Escapes files path := by
  rw [outcome_assembleFrom]
  cases htext : files.text path with
  | ok text =>
    have hescapes : Escapes files path ↔
        ∃ line ∈ Source.read text path, line.category = .data ∧ HasOverlong line.content := by
      constructor
      · rintro (h | ⟨hread, hmem, hcategory, h⟩)
        · simp [Files.escapes_iff, htext] at h
        · rw [htext] at hread
          cases hread
          exact ⟨_, hmem, hcategory, h⟩
      · rintro ⟨line, hmem, hcategory, h⟩
        exact .overlong htext hmem hcategory h
    have hfails : (∃ failure, (Tokenization.ofLines assembler.config.toOptions
          (Source.read text path)).outcome = .error failure) ↔ Escapes files path :=
      Tokenization.exists_outcome_read_eq_error_iff.trans hescapes.symm
    rw [← hfails]
    dsimp only
    generalize (Tokenization.ofLines assembler.config.toOptions
      (Source.read text path)).outcome = outcome
    cases outcome with
    | ok result => exact iff_of_true trivial (by simp)
    | error failure =>
      have hescaped : (Failure.tooManyDigits failure).fault? = none := rfl
      exact iff_of_false (not_reports_of_fault? hescaped) (not_not_intro ⟨failure, rfl⟩)
  | error fault =>
    have hescapes : Escapes files path ↔ files.Escapes path := by
      refine ⟨?_, .reading⟩
      rintro (h | ⟨hread, -, -, -⟩)
      · exact h
      · rw [htext] at hread
        cases hread
    rw [hescapes, Files.escapes_iff, htext]
    cases fault with
    | access fault => exact iff_of_true ⟨_, rfl, rfl⟩ (by simp)
    | _ => exact iff_of_false (not_reports_of_fault? rfl) (by simp)

end Assembler

/-! ## Configurations -/

namespace Config

open Yaml (Scalar Value)

/-- Whether the first key of a mapping that is no field is an integer of too many digits. -/
def FirstUnknownIsOverlong (entries : List (Scalar × Value)) : Prop :=
  ∃ n value, entries.find? (!isField ·.1) = some (.integer n, value) ∧
    10 ^ digitLimit ≤ n.natAbs

/-- Whether the configuration under a path is a mapping with such a key. -/
def HasOverlongKey (room : Yaml.Room) (files : Files) (path : String) : Prop :=
  ∃ text data entries, files.text path = .ok text ∧ Yaml.load room text = .ok data ∧
    data.collection? data.root = some (.mapping entries) ∧ FirstUnknownIsOverlong entries

/-- How the reading of a configuration fails without a fault. -/
inductive Escapes (room : Yaml.Room) (files : Files) (path : String) : Prop
  /-- The file cannot be read, for a reason that goes unreported. -/
  | reading (h : files.Escapes path)
  /-- A scalar has no value. -/
  | scalar {text : String} {fault : Yaml.ScalarFault} (read : files.text path = .ok text)
    (h : Yaml.load room text = .error (.scalar fault))
  /-- The text is nested deeper than there is room for. -/
  | tooDeep {text : String} (read : files.text path = .ok text)
    (h : Yaml.load room text = .error .tooDeep)
  /-- A key that is no field cannot be quoted. -/
  | key (h : HasOverlongKey room files path)

variable {family : FaultFamily} (hfamily : FaultFamily.configuration.isWithin family = true)
include hfamily

lemma reports_unknownField_iff {α : Type} {key : Scalar} :
    Reports family (.error (unknownField key) : Except Failure α) ↔
      ¬∃ n, key = .integer n ∧ 10 ^ digitLimit ≤ n.natAbs := by
  cases key with
  | integer n =>
    simp only [unknownField, Scalar.shown, Numeral.boundedText_eq, Scalar.integer.injEq,
      exists_eq_left', not_le]
    by_cases hshort : n.natAbs < 10 ^ digitLimit
    · rw [if_pos hshort]
      exact iff_of_true (reports_configuration hfamily) hshort
    · rw [if_neg hshort]
      exact iff_of_false (not_reports_of_fault? rfl) hshort
  | _ => exact iff_of_true (reports_configuration hfamily) (by rintro ⟨n, h, -⟩; cases h)

lemma reports_fieldOf {σ : Type} (read : Value → Option σ) (default : σ) (fault : ConfigFault)
    (entries : List (Scalar × Value)) (name : String) :
    Reports family (fieldOf read default fault entries name) := by
  unfold fieldOf
  split
  · trivial
  · split
    · trivial
    · exact reports_configuration hfamily

/-- Of a mapping only the keys can escape, because everything else that is out of order about it is
named by its field. -/
lemma reports_ofEntries_iff {entries : List (Scalar × Value)} :
    Reports family (ofEntries entries) ↔ ¬FirstUnknownIsOverlong entries := by
  rw [ofEntries, checkKeys, FirstUnknownIsOverlong]
  cases hfind : entries.find? (!isField ·.1) with
  | some entry =>
    obtain ⟨key, value⟩ := entry
    have hkey : (∃ n found, some (key, value) = some (Scalar.integer n, found) ∧
        10 ^ digitLimit ≤ n.natAbs) ↔ ∃ n, key = .integer n ∧ 10 ^ digitLimit ≤ n.natAbs := by
      simp
    rw [hkey]
    exact reports_unknownField_iff hfamily
  | none =>
    refine iff_of_true ?_ (by simp)
    refine Reports.bind (reports_ok ()) fun _ => ?_
    refine Reports.bind (reports_fieldOf hfamily ..) fun _ => ?_
    refine Reports.bind (reports_fieldOf hfamily ..) fun _ => ?_
    refine Reports.bind (reports_fieldOf hfamily ..) fun _ => ?_
    exact Reports.bind (reports_fieldOf hfamily ..) fun _ => trivial

lemma reports_ofData_iff {data : Yaml.Data} :
    Reports family (ofData data) ↔
      ¬∃ entries, data.collection? data.root = some (.mapping entries) ∧
        FirstUnknownIsOverlong entries := by
  rw [ofData]
  by_cases hnull : data.root = .scalar .null
  · rw [if_pos hnull, hnull]
    exact iff_of_true trivial (by rintro ⟨entries, h, -⟩; cases h)
  · rw [if_neg hnull]
    cases hroot : data.collection? data.root with
    | none => exact iff_of_true (reports_configuration hfamily) (by simp)
    | some collection =>
      cases collection with
      | mapping entries => simpa using reports_ofEntries_iff hfamily
      | _ => exact iff_of_true (reports_configuration hfamily) (by simp)

/-- A configuration loads, or not, with a report, unless its failure escapes. -/
lemma reports_iff {room : Yaml.Room} {files : Files} {path : String} :
    Reports family (ofFile room files path) ↔ ¬Escapes room files path := by
  rw [ofFile]
  cases htext : files.text path with
  | ok text =>
    have hescapes : Escapes room files path ↔
        (∃ fault, Yaml.load room text = .error (.scalar fault)) ∨
        Yaml.load room text = .error .tooDeep ∨
        ∃ data, Yaml.load room text = .ok data ∧ ∃ entries,
          data.collection? data.root = some (.mapping entries) ∧
            FirstUnknownIsOverlong entries := by
      constructor
      · rintro (h | ⟨hread, h⟩ | ⟨hread, h⟩ | ⟨text', data, entries, hread, h⟩)
        · simp [Files.escapes_iff, htext] at h
        · cases htext.symm.trans hread
          exact .inl ⟨_, h⟩
        · cases htext.symm.trans hread
          exact .inr (.inl h)
        · cases htext.symm.trans hread
          exact .inr (.inr ⟨data, h.1, entries, h.2⟩)
      · rintro (⟨fault, h⟩ | h | ⟨data, hload, entries, h⟩)
        · exact .scalar htext h
        · exact .tooDeep htext h
        · exact .key ⟨text, data, entries, htext, hload, h⟩
    rw [hescapes]
    dsimp only [ofText]
    cases hload : Yaml.load room text with
    | ok data =>
      simp only [reduceCtorEq, exists_false, false_or, Except.ok.injEq, exists_eq_left']
      exact reports_ofData_iff hfamily
    | error failure =>
      cases failure with
      | malformed => exact iff_of_true (reports_configuration hfamily) (by simp)
      | scalar fault => exact iff_of_false (not_reports_of_fault? rfl) (by simp)
      | tooDeep => exact iff_of_false (not_reports_of_fault? rfl) (by simp)
  | error fault =>
    have hescapes : Escapes room files path ↔ files.Escapes path := by
      refine ⟨?_, .reading⟩
      rintro (h | ⟨hread, -⟩ | ⟨hread, -⟩ | ⟨text, data, entries, hread, -⟩)
      · exact h
      all_goals cases htext.symm.trans hread
    rw [hescapes, Files.escapes_iff, htext]
    cases fault with
    | access fault => exact iff_of_true (reports_configuration hfamily) (by simp)
    | _ => exact iff_of_false (not_reports_of_fault? rfl) (by simp)

/-- **No room is enough to report on every configuration.** -/
theorem not_reports_of_opened {room : Yaml.Room} {files : Files} {path : String} {count : Nat}
    (htext : files.text path = .ok (Yaml.opened count)) (hcount : room.nodes < count) :
    ¬Reports family (ofFile room files path) := by
  rw [reports_iff hfamily, not_not]
  exact .tooDeep htext (Yaml.load_opened hcount)

end Config

/-! ## Runs -/

namespace CommandLine

variable {room : Yaml.Room} {settings : Settings} {files : Files}

/-- How a run fails without a fault, and so without an exit status. -/
inductive Escapes (room : Yaml.Room) (settings : Settings) (files : Files) : Prop
  /-- The path of the input is too long to be looked up. -/
  | refused (h : files.Refuses settings.path)
  /-- The failure to read the configuration escapes. -/
  | configuration (found : files.Has settings.path) (named : settings.config ≠ "")
    (h : Config.Escapes room files settings.config)
  /-- The failure to assemble the input escapes. -/
  | source {config : Config} (found : files.Has settings.path)
    (loaded : settings.loaded room files = .ok config) (h : Assembler.Escapes files settings.path)

/-- The configuration that a run asks for is reported on, unless it is named and escapes. -/
lemma reports_loaded_iff {family : FaultFamily}
    (hfamily : FaultFamily.configuration.isWithin family = true) :
    Reports family (settings.loaded room files) ↔
      ¬(settings.config ≠ "" ∧ Config.Escapes room files settings.config) := by
  rw [Settings.loaded]
  by_cases hnone : settings.config = ""
  · rw [if_pos hnone]
    exact iff_of_true trivial fun h => h.1 hnone
  · rw [if_neg hnone, Config.reports_iff hfamily]
    simp [hnone]

lemma exists_failed_eq_ok_iff {α : Type} {shown : List String} {failure : Failure} :
    (∃ output, failed shown failure = .ok output) ↔
      Reports .general (.error failure : Except Failure α) := by
  simp only [failed_eq_ok_iff]
  constructor
  · rintro ⟨output, fault, hfault, -⟩
    exact ⟨fault, hfault, by simp [FaultFamily.isWithin]⟩
  · rintro ⟨fault, hfault, -⟩
    exact ⟨_, fault, hfault, rfl⟩

lemma reports_trace_iff {config : Config} :
    Reports .general (settings.trace files config).outcome ↔
      ¬Assembler.Escapes files settings.path := by
  rw [Settings.trace]
  exact (settings.assembler config).reports_iff

/-- Behind a configuration that loads only the input is left to fail. -/
lemma escapes_iff_of_loaded {config : Config} (found : files.Has settings.path)
    (loaded : settings.loaded room files = .ok config) :
    Escapes room settings files ↔ Assembler.Escapes files settings.path := by
  constructor
  · rintro (h | ⟨-, named, h⟩ | ⟨-, -, h⟩)
    · exact absurd found (Files.not_has_of_refuses h)
    · have hreports : Reports .configuration (settings.loaded room files) := by
        rw [loaded]
        trivial
      exact absurd ⟨named, h⟩ ((reports_loaded_iff rfl).mp hreports)
    · exact h
  · exact .source found loaded

/-- Where the configuration does not load, nothing else is looked at. -/
lemma escapes_iff_of_not_loaded {failure : Failure} (found : files.Has settings.path)
    (loaded : settings.loaded room files = .error failure) :
    Escapes room settings files ↔
      settings.config ≠ "" ∧ Config.Escapes room files settings.config := by
  constructor
  · rintro (h | ⟨-, named, h⟩ | ⟨-, hloaded, -⟩)
    · exact absurd found (Files.not_has_of_refuses h)
    · exact ⟨named, h⟩
    · rw [loaded] at hloaded
      cases hloaded
  · exact fun h => .configuration found h.1 h.2

lemma exists_assemble_eq_ok_iff (room : Yaml.Room) (settings : Settings) (files : Files) :
    (∃ output, assemble room settings files = .ok output) ↔ ¬Escapes room settings files := by
  have hcourse := course room settings files
  generalize assemble room settings files = outcome at hcourse
  cases hcourse with
  | refused h => exact iff_of_false (by simp) (not_not_intro (.refused h))
  | missing hrefuses hmissing =>
    refine iff_of_true ⟨_, rfl⟩ ?_
    rintro (h | ⟨found, -, -⟩ | ⟨found, -, -⟩)
    · exact hrefuses h
    · exact hmissing found
    · exact hmissing found
  | @unconfigured failure found loaded =>
    rw [exists_failed_eq_ok_iff, escapes_iff_of_not_loaded found loaded, ← loaded]
    exact reports_loaded_iff rfl
  | @unassembled config failure found loaded h =>
    rw [exists_failed_eq_ok_iff, escapes_iff_of_loaded found loaded, ← h]
    exact reports_trace_iff
  | completed h =>
    refine iff_of_true ⟨_, rfl⟩ ?_
    rw [escapes_iff_of_loaded h.found h.loaded, ← reports_trace_iff,
      outcome_trace_eq_ok_iff.mpr h.assembled]
    trivial

/-- A command line that asks for no run is answered in any case. -/
lemma exists_run_eq_ok_iff (room : Yaml.Room) (arguments : List String) (files : Files) :
    (∃ output, run room arguments files = .ok output) ↔
      ∀ settings, request arguments = .run settings → ¬Escapes room settings files := by
  rw [run]
  cases request arguments with
  | run settings =>
    rw [exists_assemble_eq_ok_iff]
    exact ⟨fun h settings' heq => by cases heq; exact h, fun h => h settings rfl⟩
  | _ => exact iff_of_true ⟨_, rfl⟩ (by simp)

lemma status_of_run {arguments : List String} {output : Output}
    (h : run room arguments files = .ok output) : output.status ≤ 2 := by
  rw [run] at h
  cases hrequest : request arguments with
  | run settings =>
    rw [hrequest] at h
    exact (status_of_assemble h).trans (by decide)
  | help | version =>
    rw [hrequest] at h
    cases h
    exact Nat.zero_le 2
  | refused complaint =>
    rw [hrequest] at h
    cases h
    exact Nat.le_refl 2

end CommandLine

open CommandLine (Completes Objects request run)

/-- **What goes unreported.** A file is assembled or refused with a fault, a configuration is loaded
or refused with a fault of its family, and the program ends with an exit status, unless the failure
escapes in one of the ways listed above.  When the program ends its status is at most 2, and if an
input or a configuration kept it from a result, the status is 1 and one row says so. -/
theorem reported_unless_escapes (assembler : Assembler) (room : Yaml.Room)
    (arguments : List String) (files : Files) (path : String) :
    (Reports .general (assembler.assembleFrom files path).2.outcome ↔
      ¬Assembler.Escapes files path) ∧
    (Reports .configuration (Config.ofFile room files path) ↔ ¬Config.Escapes room files path) ∧
    ((∃ output, run room arguments files = .ok output) ↔
      ∀ settings, request arguments = .run settings → ¬CommandLine.Escapes room settings files) ∧
    ∀ output, run room arguments files = .ok output → output.status ≤ 2 ∧
      ∀ settings, request arguments = .run settings →
        (∀ config result, ¬Completes room settings files config result) →
          output.status = 1 ∧ ∃ message, Objects room settings files message ∧
            output.error = CommandLine.printed ["Error: " ++ message] := by
  refine ⟨assembler.reports_iff, Config.reports_iff rfl,
    CommandLine.exists_run_eq_ok_iff room arguments files, fun output houtput => ?_⟩
  refine ⟨CommandLine.status_of_run houtput, fun settings hrequest hincomplete => ?_⟩
  rw [run, hrequest] at houtput
  exact CommandLine.exists_objects houtput hincomplete

/-- A run whose configuration is missing ends with the status 1 and says so. -/
theorem reported_unless_escapes_unconfigured :
    ∃ output, run .standard ["a", "-c", "d"] (textFiles [("a", "ADD")]) = .ok output ∧
      output.status = 1 ∧
      ∃ message,
        Objects .standard { input := "a", config := "d" } (textFiles [("a", "ADD")]) message ∧
        output.error = CommandLine.printed ["Error: " ++ message] := by
  have hrequest : request ["a", "-c", "d"] = .run { input := "a", config := "d" } := rfl
  have hloaded : CommandLine.Settings.loaded { input := "a", config := "d" } .standard
      (textFiles [("a", "ADD")]) = .error (.configuration (.unreadable "d" .missing)) := rfl
  obtain ⟨output, houtput⟩ :
      ∃ output, run .standard ["a", "-c", "d"] (textFiles [("a", "ADD")]) = .ok output := ⟨_, rfl⟩
  refine ⟨output, houtput, ?_⟩
  refine ((reported_unless_escapes (.new {} false) .standard ["a", "-c", "d"]
    (textFiles [("a", "ADD")]) "a").2.2.2 output houtput).2 _ hrequest ?_
  intro config result hcompletes
  cases hloaded.symm.trans hcompletes.loaded

/-- A working directory with one file, which holds a single byte, with which no text begins. -/
def garbledFiles : Files :=
  .ofEntries [("a", .file [0xFF])]

/-- One byte makes the assembling of a file, the reading of a configuration and the program fail
without a report. -/
theorem garbled_file_escapes :
    ¬Reports .general ((Assembler.new {} false).assembleFrom garbledFiles "a").2.outcome ∧
    ¬Reports .configuration (Config.ofFile .standard garbledFiles "a") ∧
    ∀ output, run .standard ["a"] garbledFiles ≠ .ok output := by
  have hrun : run .standard ["a"] garbledFiles =
      .error (.undecodable ⟨0, 0xFF, 1, .startByte⟩) := rfl
  refine ⟨not_reports_of_fault? rfl, not_reports_of_fault? rfl, fun output houtput => ?_⟩
  rw [hrun] at houtput
  cases houtput

end Claw
