import Claw.Proofs.Source.Seam
import Claw.Proofs.Unreported

/-!
# Exit status and streams

A run ends with the status 0 if its input is assembled without diagnostics, and with the status 1
otherwise.  Whoever starts the program learns from the status whether there is anything to look for
in the two streams, and from the streams what.

* `InOrder`: what a run reads is in order as far as it can be told before the run: files are UTF-8,
  a configuration is loaded as YAML or refused as such, and no line of the input stops the reading;
* `escapes_iff_of_inOrder`: what can still keep such a run from ending with a status;
* `Completes` (of `Claw/Proofs/CommandLine/Course.lean`): the input is there, the configuration
  loads, the input is read, and its lines come to a result.

`status_and_streams` is about every run that is in order.  `long_name_has_no_status` is one that
does not end with a status, although nothing but its input is missing.
-/

namespace Claw.CommandLine

open Text (encodeUtf8)

variable {room : Yaml.Room} {settings : Settings} {files : Files}

/-- Whether what a run reads is in order. -/
structure InOrder (room : Yaml.Room) (settings : Settings) (files : Files) : Prop where
  /-- The input is UTF-8. -/
  input : ∀ bytes, files.Holds settings.path bytes → ∃ cs, bytes = encodeUtf8 cs
  /-- The configuration is UTF-8, if one is named. -/
  configuration : settings.config ≠ "" → ∀ bytes, files.Holds settings.config bytes →
    ∃ cs, bytes = encodeUtf8 cs
  /-- The configuration loads as YAML or is refused as such, if one is named. -/
  loads : settings.config ≠ "" → ∀ text failure, files.text settings.config = .ok text →
    Yaml.load room text = .error failure → failure = .malformed
  /-- The lines of the input can be read. -/
  lines : ∀ config text, settings.loaded room files = .ok config →
    files.text settings.path = .ok text →
    ∃ result, (Tokenization.ofLines (settings.applied config).toOptions
      (Source.read text settings.path)).outcome = .ok result

/-- **What keeps a run that is in order from ending with a status.** The path of its input is too
long to be looked up, or its configuration is named by a path with a null character, or has an
overlong key. -/
lemma escapes_iff_of_inOrder (h : InOrder room settings files) :
    Escapes room settings files ↔ files.Refuses settings.path ∨
      files.Has settings.path ∧ settings.config ≠ "" ∧
        (Files.hasNull settings.config = true ∨
          Config.HasOverlongKey room files settings.config) := by
  constructor
  · rintro (hrefuses | ⟨found, named, hescapes⟩ | ⟨found, loaded, hescapes⟩)
    · exact .inl hrefuses
    · refine .inr ⟨found, named, ?_⟩
      rcases hescapes with (hnull | ⟨bytes, hholds, hgarbled⟩) | ⟨hread, hload⟩ | ⟨hread, hload⟩ |
        hkey
      · exact .inl hnull
      · obtain ⟨cs, hcs⟩ := h.configuration named bytes hholds
        exact absurd hcs (hgarbled cs)
      · cases h.loads named _ _ hread hload
      · cases h.loads named _ _ hread hload
      · exact .inr hkey
    · rcases hescapes with (hnull | ⟨bytes, hholds, hgarbled⟩) | ⟨hread, hmem, hcategory, hover⟩
      · rw [found.1] at hnull
        cases hnull
      · obtain ⟨cs, hcs⟩ := h.input bytes hholds
        exact absurd hcs (hgarbled cs)
      · obtain ⟨result, hresult⟩ := h.lines _ _ loaded hread
        obtain ⟨failure, hfailure⟩ :=
          Tokenization.exists_outcome_read_eq_error_iff.mpr ⟨_, hmem, hcategory, hover⟩
        cases hresult.symm.trans hfailure
  · rintro (hrefuses | ⟨found, named, hnull | hkey⟩)
    · exact .refused hrefuses
    · exact .configuration found named (.reading (.nullInPath hnull))
    · exact .configuration found named (.key hkey)

/-- A run whose input cannot be read shows on the way that it was about to be assembled, if
anything. -/
lemma progress_of_fault {config : Config} {fault : ReadFault}
    (h : files.text settings.path = .error fault) :
    settings.progress files config =
      if settings.verbose || config.verbose then ["Assembling: " ++ settings.path] else [] := by
  rw [Settings.progress, Settings.trace, Assembler.assembleFrom_of_fault _ h]
  rfl

/-- **Standard output without a result.** A run in order that comes to no result shows at most that
its input was about to be assembled, and no listing. -/
lemma standard_of_incomplete (h : InOrder room settings files) {output : Output}
    (houtput : assemble room settings files = .ok output)
    (hincomplete : ∀ config result, ¬Completes room settings files config result) :
    output.standard = "" ∨ output.standard = printed ["Assembling: " ++ settings.path] := by
  have hcourse := course room settings files
  rw [houtput] at hcourse
  generalize houtcome : (Except.ok output : Except Failure Output) = outcome at hcourse
  cases hcourse with
  | refused => cases houtcome
  | missing => cases houtcome; exact .inl rfl
  | unconfigured =>
    obtain ⟨fault, -, rfl⟩ := failed_eq_ok_iff.mp houtcome.symm
    exact .inl rfl
  | @unassembled config _ found loaded assembled =>
    obtain ⟨fault, -, rfl⟩ := failed_eq_ok_iff.mp houtcome.symm
    cases htext : files.text settings.path with
    | ok text =>
      obtain ⟨result, hresult⟩ := h.lines config text loaded htext
      exact absurd ⟨found, loaded, text, htext, hresult⟩ (hincomplete config result)
    | error fault =>
      show printed (settings.progress files config) = "" ∨
        printed (settings.progress files config) = printed ["Assembling: " ++ settings.path]
      rw [progress_of_fault htext]
      split
      · exact .inr rfl
      · exact .inl rfl
  | completed hcompletes => exact absurd hcompletes (hincomplete _ _)

lemma status_output_iff {config : Config} {result : Tokenization} :
    (settings.output files config result).status = 0 ↔ result.diagnostics = [] := by
  rw [Settings.output, Tokenization.hasDiagnostics]
  cases result.diagnostics <;> simp

/-- Diagnostics have a row each, and are counted behind an empty row. -/
lemma errorRows_of_ne_nil {input : String} {diagnostics : List Diagnostic} (h : diagnostics ≠ []) :
    errorRows input diagnostics =
      diagnostics.map (fun diagnostic => "Error: " ++ diagnostic.text) ++
        ["", Numeral.naturalText diagnostics.length ++ " error(s) in " ++ input] := by
  rw [errorRows, if_neg (by simpa using h)]

section Outputs

variable {output : Output} (houtput : assemble room settings files = .ok output)
include houtput

lemma eq_output_of_completes {config : Config} {result : Tokenization}
    (hcompletes : Completes room settings files config result) :
    output = settings.output files config result :=
  Except.ok.inj (houtput.symm.trans (assemble_of_completes hcompletes))

/-- **The status.** A run has the status 0 just if it comes to a result without diagnostics. -/
lemma status_eq_zero_iff : output.status = 0 ↔
    ∃ config result, Completes room settings files config result ∧ result.diagnostics = [] := by
  by_cases hcompletes : ∃ config result, Completes room settings files config result
  · obtain ⟨config, result, hcompletes⟩ := hcompletes
    rw [eq_output_of_completes houtput hcompletes, status_output_iff]
    constructor
    · intro hnone
      exact ⟨config, result, hcompletes, hnone⟩
    · rintro ⟨config', result', hcompletes', hnone⟩
      rwa [(hcompletes.unique hcompletes').2]
  · have hstatus : output.status = 1 :=
      (exists_objects houtput fun config result h => hcompletes ⟨config, result, h⟩).1
    rw [hstatus]
    refine iff_of_false (by decide) ?_
    rintro ⟨config, result, h, -⟩
    exact hcompletes ⟨config, result, h⟩

lemma error_of_status_zero (hzero : output.status = 0) : output.error = "" := by
  obtain ⟨config, result, hcompletes, hnone⟩ := (status_eq_zero_iff houtput).mp hzero
  rw [eq_output_of_completes houtput hcompletes]
  show printed (errorRows settings.input result.diagnostics) = ""
  rw [hnone]
  rfl

end Outputs

/-- **Exit status and streams.** A run in order ends with a status unless the path of its input is
too long to be looked up, or its configuration is named by a path with a null character or has an
overlong key.  The status is 0 just if the run comes to a result without diagnostics, and 1
otherwise; with the status 0 the error stream stays empty, and diagnostics are printed there row by
row and then counted.  The listing is printed behind the reports, just if it was asked for and there
is a result, with or without diagnostics. -/
theorem status_and_streams {arguments : List String} (hrequest : request arguments = .run settings)
    (h : InOrder room settings files) :
    ((∃ output, run room arguments files = .ok output) ↔
      ¬files.Refuses settings.path ∧
      (files.Has settings.path → settings.config ≠ "" →
        Files.hasNull settings.config = false ∧
          ¬Config.HasOverlongKey room files settings.config)) ∧
    ∀ output, run room arguments files = .ok output →
      (output.status = 0 ↔ ∃ config result, Completes room settings files config result ∧
        result.diagnostics = []) ∧
      (output.status ≠ 0 → output.status = 1) ∧
      (output.status = 0 → output.error = "") ∧
      (∀ config result, Completes room settings files config result → result.diagnostics ≠ [] →
        output.error = printed (result.diagnostics.map (fun diagnostic =>
            "Error: " ++ diagnostic.text) ++
          ["", Numeral.naturalText result.diagnostics.length ++ " error(s) in " ++
            settings.input])) ∧
      (∀ config result, Completes room settings files config result →
        output.standard = printed (settings.progress files config ++
          (if settings.listing then [result.listing] else []) ++ closingRows settings result)) ∧
      ((∀ config result, ¬Completes room settings files config result) →
        output.standard = "" ∨ output.standard = printed ["Assembling: " ++ settings.path]) := by
  have hrun : run room arguments files = assemble room settings files := by
    rw [run, hrequest]
  rw [hrun, exists_assemble_eq_ok_iff, escapes_iff_of_inOrder h]
  refine ⟨?_, fun output houtput => ⟨status_eq_zero_iff houtput, ?_,
    error_of_status_zero houtput, ?_, ?_, standard_of_incomplete h houtput⟩⟩
  · rw [not_or]
    refine and_congr_right fun _ => ?_
    simp only [not_and, not_or, Bool.not_eq_true]
  · intro hsome
    have hbound := status_of_assemble houtput
    omega
  · intro config result hcompletes hsome
    rw [eq_output_of_completes houtput hcompletes, ← errorRows_of_ne_nil hsome]
    rfl
  · intro config result hcompletes
    rw [eq_output_of_completes houtput hcompletes]
    rfl

/-- A run without a configuration is in order, and comes to a result, if its input is UTF-8 and the
lines of it come to one. -/
lemma inOrder_of_encoded {cs : List Char} {result : Tokenization} (hnone : settings.config = "")
    (hfile : files.Holds settings.path (encodeUtf8 cs))
    (hlines : (Tokenization.ofLines (settings.applied {}).toOptions (Source.read
      (String.ofList (Text.unifyBreaks cs)) settings.path)).outcome = .ok result) :
    InOrder room settings files ∧ Completes room settings files {} result := by
  have hloaded : settings.loaded room files = .ok {} := if_pos hnone
  have htext := Files.text_of_holds hfile
  refine ⟨⟨?_, absurd hnone, absurd hnone, ?_⟩, ⟨hfile.1, _, hfile.2⟩, hloaded, _, htext, hlines⟩
  · intro bytes hholds
    cases hfile.2.symm.trans hholds.2
    exact ⟨cs, rfl⟩
  · intro config text hloaded' htext'
    cases hloaded.symm.trans hloaded'
    cases htext.symm.trans htext'
    exact ⟨result, hlines⟩

/-- The settings of a run on the input `a` that asks for the listing. -/
def listed : Settings := { input := "a", listing := true }

/-- A run with the listing asked for, on an instruction and a line with an unknown one. -/
theorem status_and_streams_unknown :
    request ["-l", "a"] = .run listed ∧ InOrder .standard listed (textFiles [("a", "ADD\nFOO")]) ∧
    ∃ output, run .standard ["-l", "a"] (textFiles [("a", "ADD\nFOO")]) = .ok output ∧
      output.status = 1 ∧
      output.error = "Error: Line 2 in a: Unknown instruction: FOO\n\n1 error(s) in a\n" := by
  have hrequest : request ["-l", "a"] = .run listed := by rfl
  have hfile : (textFiles [("a", "ADD\nFOO")]).Holds listed.path (encodeUtf8 "ADD\nFOO".toList) :=
    ⟨by rfl, by rfl⟩
  have hdiagnostics : (Tokenization.ofLines (listed.applied {}).toOptions (Source.read
      (String.ofList (Text.unifyBreaks "ADD\nFOO".toList)) listed.path)).outcome.map
        Tokenization.diagnostics =
          .ok [⟨.unknownMnemonic, "Unknown instruction: FOO", 2, "a"⟩] := by rfl
  cases hlines : (Tokenization.ofLines (listed.applied {}).toOptions (Source.read
      (String.ofList (Text.unifyBreaks "ADD\nFOO".toList)) listed.path)).outcome with
  | error failure =>
    rw [hlines] at hdiagnostics
    cases hdiagnostics
  | ok result =>
    rw [hlines] at hdiagnostics
    have hsome : result.diagnostics = [⟨.unknownMnemonic, "Unknown instruction: FOO", 2, "a"⟩] :=
      Except.ok.inj hdiagnostics
    obtain ⟨horder, hcompletes⟩ := inOrder_of_encoded rfl hfile hlines
    obtain ⟨hends, hstreams⟩ := status_and_streams hrequest horder
    obtain ⟨output, houtput⟩ := hends.mpr
      ⟨fun hrefuses => Files.not_has_of_refuses hrefuses hcompletes.found,
        fun _ hnamed => absurd rfl hnamed⟩
    obtain ⟨hzero, hone, -, herror, -, -⟩ := hstreams output houtput
    refine ⟨hrequest, horder, output, houtput, hone fun hstatus => ?_, ?_⟩
    · obtain ⟨config', result', hcompletes', hnone⟩ := hzero.mp hstatus
      rw [← (hcompletes.unique hcompletes').2, hsome] at hnone
      cases hnone
    · rw [herror {} result hcompletes (by simp [hsome]), hsome]
      rfl

/-! ## A name that is too long -/

lemma classify_of_head {text : String} (h : text.toList.head? ≠ some '-') :
    classify text = .ok (.word text) := by
  simp [classify, h]

lemma request_singleton {text : String} (h : text.toList.head? ≠ some '-') :
    request [text] = .run { input := text } := by
  have hdashes : (text != "--") = true := by
    rw [bne_iff_ne]
    rintro rfl
    exact h rfl
  have hword : decideArgument text = .ok (.word text) := by
    rw [decideArgument, classify_of_head h]
    rfl
  have hread : read [text] = .ok { input := some text, endsInInput := true } := by
    simp only [read, List.takeWhile_cons, hdashes, List.dropWhile_cons, List.takeWhile_nil,
      List.dropWhile_nil, if_true, List.mapM_cons, hword]
    rfl
  rw [request, hread]
  rfl

lemma components_of_name {name : String} (h : '/' ∉ name.toList) : components name = [name] := by
  rw [components, Text.pieces_eq_singleton h, List.map_singleton, String.ofList_toList]

lemma tidyPath_of_name {name : String} (hslash : '/' ∉ name.toList) (hempty : name ≠ "")
    (hdot : name ≠ ".") : tidyPath name = name := by
  have hslashes : leadingSlashes name = "" := by
    rw [leadingSlashes]
    cases hcs : name.toList with
    | nil => rfl
    | cons c cs =>
      have hc : c ≠ '/' := by
        rintro rfl
        exact hslash (by simp [hcs])
      simp [hc]
  simp [tidyPath, components_of_name hslash, hslashes, hempty, hdot]

lemma ne_of_hasLongName {name short : String} (hlong : hasLongName name = true)
    (hshort : hasLongName short = false) : name ≠ short := by
  rintro rfl
  exact absurd hlong (by simp [hshort])

/-- A name that is too long is not looked up, in whatever directory. -/
lemma refuses_of_hasLongName {entries : List (String × Entry)} {name : String}
    (hslash : '/' ∉ name.toList) (hnull : Files.hasNull name = false)
    (hlong : hasLongName name = true) : (Files.ofEntries entries).Refuses name := by
  have hempty : name ≠ "" := ne_of_hasLongName hlong rfl
  have hdot : name ≠ "." := ne_of_hasLongName hlong rfl
  have hdots : name ≠ ".." := ne_of_hasLongName hlong rfl
  have habsolute : name.toList.head? ≠ some '/' := fun h => hslash (List.mem_of_head? h)
  refine ⟨hnull, ?_⟩
  simp [Files.ofEntries, components_of_name hslash, hempty, habsolute, follow, entryAt, hdot, hdots,
    hlong]

/-- The name that consists of the given number of letters. -/
def nameOfLength (length : Nat) : String :=
  String.ofList (List.replicate length 'a')

lemma toList_nameOfLength (length : Nat) :
    (nameOfLength length).toList = List.replicate length 'a' :=
  String.toList_ofList

lemma utf8ByteSize_nameOfLength (length : Nat) : (nameOfLength length).utf8ByteSize = length := by
  induction length with
  | zero => rfl
  | succ length ih =>
    have hsplit : nameOfLength (length + 1) = nameOfLength length ++ String.singleton 'a' := by
      rw [nameOfLength, List.replicate_succ', String.ofList_append, ← String.singleton_eq_ofList,
        ← nameOfLength]
    rw [hsplit, String.utf8ByteSize_append, ih, String.utf8ByteSize_singleton]
    rfl

/-- A run on a name that is too long is in order, whatever the directory, since there is nothing to
be read.  It does not end with a status. -/
lemma no_status_of_hasLongName {entries : List (String × Entry)} {name : String}
    (hslash : '/' ∉ name.toList) (hdash : name.toList.head? ≠ some '-')
    (hnull : Files.hasNull name = false) (hlong : hasLongName name = true) :
    InOrder room { input := name } (Files.ofEntries entries) ∧ ¬(Files.ofEntries entries).Has name ∧
    ∀ output, run room [name] (Files.ofEntries entries) ≠ .ok output := by
  have hpath : Settings.path { input := name } = name :=
    tidyPath_of_name hslash (ne_of_hasLongName hlong rfl) (ne_of_hasLongName hlong rfl)
  have hrefuses : (Files.ofEntries entries).Refuses name :=
    refuses_of_hasLongName hslash hnull hlong
  have hmissing : ¬(Files.ofEntries entries).Has name := Files.not_has_of_refuses hrefuses
  refine ⟨⟨?_, absurd rfl, absurd rfl, ?_⟩, hmissing, ?_⟩
  · intro bytes hholds
    rw [hpath] at hholds
    exact absurd ⟨hholds.1, _, hholds.2⟩ hmissing
  · intro config text _ htext
    rw [hpath] at htext
    exact absurd (Files.has_of_text htext) hmissing
  · intro output houtput
    refine (exists_run_eq_ok_iff _ _ _).mp ⟨output, houtput⟩ _ (request_singleton hdash)
      (.refused ?_)
    rwa [hpath]

/-- A run in order, in an empty directory and without a configuration, that does not end with a
status: its input is missing, but under a name that is not looked up. -/
theorem long_name_has_no_status :
    request [nameOfLength 256] = .run { input := nameOfLength 256 } ∧
    InOrder .standard { input := nameOfLength 256 } (Files.ofEntries []) ∧
    ¬(Files.ofEntries []).Has (nameOfLength 256) ∧
    ∀ output, run .standard [nameOfLength 256] (Files.ofEntries []) ≠ .ok output := by
  have hslash : '/' ∉ (nameOfLength 256).toList := by
    rw [toList_nameOfLength, List.mem_replicate]
    exact fun h => absurd h.2 (by decide)
  have hdash : (nameOfLength 256).toList.head? ≠ some '-' := by
    rw [toList_nameOfLength, List.replicate_succ, List.head?_cons]
    decide
  have hnull : Files.hasNull (nameOfLength 256) = false := by
    rw [Files.hasNull, toList_nameOfLength, List.contains_eq_mem, decide_eq_false_iff_not,
      List.mem_replicate]
    exact fun h => absurd h.2 (by decide)
  have hlong : hasLongName (nameOfLength 256) = true := by
    rw [hasLongName, utf8ByteSize_nameOfLength]
    rfl
  exact ⟨request_singleton hdash, no_status_of_hasLongName hslash hdash hnull hlong⟩

end Claw.CommandLine
