import Claw.Proofs.CommandLine.Course

/-!
# Switches and fields

Three settings can be made in two places: by a switch of the command line, or by a field of the
configuration.  The command line is read into settings first, the configuration is loaded under
them, and what either of them asks for is turned on.

* `Switches`: a choice of the three, with the words for them on a command line and with the settings
  and the configuration in which they are on;
* `Switches.request_words_append`: words in front of a command line turn switches on and do nothing
  else;
* `Switches.Exchange`: two runs on the same input, one with switches, the other on a configuration
  in which the fields are set;
* `Switches.addedRows`: what the run with switches prints at its end, and the other does not.

`switches_and_fields` compares the runs.  They are the same, unless the reports are what is turned
on: the rows at the end of a run are printed for the switch, and not for the field.
`verbose_field_prints_less` is a run where this can be seen.
-/

namespace Claw.CommandLine

/-- A choice of the switches that a configuration has a field for. -/
structure Switches where
  strict : Bool := false
  emitLabels : Bool := false
  verbose : Bool := false

namespace Switches

variable (switches : Switches)

/-- The words that turn switches on. -/
def words : List String :=
  (if switches.strict then ["--strict"] else []) ++
    ((if switches.emitLabels then ["--emit-labels"] else []) ++
      if switches.verbose then ["--verbose"] else [])

/-- What the words are as arguments. -/
def occurrences : List Argument :=
  (if switches.strict then [.option ⟨.strict, "--strict", none⟩] else []) ++
    ((if switches.emitLabels then [.option ⟨.emitLabels, "--emit-labels", none⟩] else []) ++
      if switches.verbose then [.option ⟨.verbose, "--verbose", none⟩] else [])

/-- Settings with switches turned on. -/
def onSettings (settings : Settings) : Settings :=
  { settings with
    strict := settings.strict || switches.strict
    emitLabels := settings.emitLabels || switches.emitLabels
    verbose := settings.verbose || switches.verbose }

/-- A configuration with the fields set that belong to switches. -/
def onConfig (config : Config) : Config :=
  { config with
    reportUnknown := config.reportUnknown || switches.strict
    emitLabels := config.emitLabels || switches.emitLabels
    verbose := config.verbose || switches.verbose }

/-! ## Reading a command line -/

/-- What was read of a command line, with switches turned on. -/
def onReading (reading : Reading) : Reading :=
  { reading with settings := switches.onSettings reading.settings }

/-- What a command line asks for, with switches turned on. -/
def onRequest : Request → Request
  | .run settings => .run (switches.onSettings settings)
  | request => request

/-- What the reading of a command line comes to, with switches turned on. -/
def onOutcome : Except Request Reading → Except Request Reading
  | .ok reading => .ok (switches.onReading reading)
  | .error request => .error (switches.onRequest request)

variable {switches}

@[simp] lemma input_onReading (reading : Reading) :
    (switches.onReading reading).input = reading.input := rfl

@[simp] lemma extras_onReading (reading : Reading) :
    (switches.onReading reading).extras = reading.extras := rfl

@[simp] lemma endsInInput_onReading (reading : Reading) :
    (switches.onReading reading).endsInInput = reading.endsInInput := rfl

/-- A step that carries switches along carries them through what the steps before it come to. -/
lemma onOutcome_bind {next : Reading → Except Request Reading}
    (h : ∀ reading, next (switches.onReading reading) = switches.onOutcome (next reading))
    (outcome : Except Request Reading) :
    switches.onOutcome outcome >>= next = switches.onOutcome (outcome >>= next) := by
  cases outcome with
  | ok reading => exact h reading
  | error request => rfl

/-- An option never turns a switch off. -/
lemma apply_onReading (reading : Reading) (option : Switch) (value : String) :
    (switches.onReading reading).apply option value =
      switches.onOutcome (reading.apply option value) := by
  cases option <;> rfl

lemma applyAll_onReading (reading : Reading) (options : List (Switch × String)) :
    (switches.onReading reading).applyAll options =
      switches.onOutcome (reading.applyAll options) := by
  induction options generalizing reading with
  | nil => rfl
  | cons option options ih =>
    simp only [Reading.applyAll, List.foldlM_cons, apply_onReading]
    exact onOutcome_bind ih _

lemma word_onReading (reading : Reading) (text : String) :
    (switches.onReading reading).word text = switches.onReading (reading.word text) := by
  unfold Reading.word
  rw [input_onReading]
  cases reading.input <;> rfl

lemma foldl_extra_onReading (reading : Reading) (texts : List String) :
    texts.foldl Reading.extra (switches.onReading reading) =
      switches.onReading (texts.foldl Reading.extra reading) := by
  induction texts generalizing reading with
  | nil => rfl
  | cons text texts ih => exact ih (reading.extra text)

lemma words_onReading (reading : Reading) (texts : List String) :
    (switches.onReading reading).words texts = switches.onReading (reading.words texts) := by
  have hextra : (if reading.endsInInput then switches.onReading reading
      else (switches.onReading reading).extra "--") =
        switches.onReading (if reading.endsInInput then reading else reading.extra "--") := by
    split <;> rfl
  unfold Reading.words
  rw [input_onReading, endsInInput_onReading, hextra]
  cases reading.input with
  | some input => exact foldl_extra_onReading _ texts
  | none =>
    cases texts with
    | nil => exact foldl_extra_onReading _ []
    | cons first rest =>
      dsimp only
      rw [word_onReading]
      exact foldl_extra_onReading _ rest

/-- **The reading of arguments carries switches along.** -/
lemma readArguments_onReading (reading : Reading) (arguments : List Argument) :
    readArguments (switches.onReading reading) arguments =
      switches.onOutcome (readArguments reading arguments) := by
  induction reading, arguments using readArguments.induct with
  | case1 reading => rfl
  | case2 reading text rest ih =>
    rw [readArguments, readArguments, word_onReading, ih]
  | case3 reading text rest ih =>
    rw [readArguments, readArguments]
    exact ih
  | case4 reading occurrence rest complaint hoptions =>
    unfold readArguments
    simp only [hoptions]
    rfl
  | case5 reading occurrence options rest hoptions ih =>
    unfold readArguments
    simp only [hoptions, applyAll_onReading]
    exact onOutcome_bind ih _
  | case6 reading occurrence options value rest hoptions ih =>
    unfold readArguments
    simp only [hoptions, applyAll_onReading]
    exact onOutcome_bind ih _
  | case7 reading occurrence rest options hoptions hvalue =>
    unfold readArguments
    simp only [hoptions]
    rfl

/-- An argument is refused without regard to settings. -/
lemma onRequest_of_mapM_decideArgument {texts : List String} {request : Request}
    (h : texts.mapM decideArgument = .error request) : switches.onRequest request = request := by
  induction texts with
  | nil => cases h
  | cons text texts ih =>
    rw [List.mapM_cons] at h
    cases htext : decideArgument text with
    | ok argument =>
      cases htexts : texts.mapM decideArgument with
      | ok arguments => simp [htext, htexts, bind, Except.bind, pure, Except.pure] at h
      | error refusal =>
        have hrequest : refusal = request := by
          simpa [htext, htexts, bind, Except.bind] using h
        exact ih (by rw [htexts, hrequest])
    | error refusal =>
      have hrequest : refusal = request := by
        simpa [htext, bind, Except.bind] using h
      subst hrequest
      rw [decideArgument] at htext
      cases hclassify : classify text <;> rw [hclassify] at htext <;> cases htext
      rfl

lemma eq_of_mem_ite {on : Bool} {word text : String} (h : word ∈ if on then [text] else []) :
    word = text := by
  cases on with
  | true => exact List.mem_singleton.mp h
  | false => cases h

lemma mem_words {word : String} (h : word ∈ switches.words) :
    word = "--strict" ∨ word = "--emit-labels" ∨ word = "--verbose" := by
  rw [words, List.mem_append, List.mem_append] at h
  exact h.imp eq_of_mem_ite (Or.imp eq_of_mem_ite eq_of_mem_ite)

lemma bne_dashes_of_mem_words {word : String} (h : word ∈ switches.words) :
    (word != "--") = true := by
  rcases mem_words h with rfl | rfl | rfl <;> rfl

lemma mapM_decideArgument_words :
    switches.words.mapM decideArgument = .ok switches.occurrences := by
  cases switches with
  | mk strict emitLabels verbose =>
    cases strict <;> cases emitLabels <;> cases verbose <;> rfl

lemma readArguments_occurrences (arguments : List Argument) :
    readArguments {} (switches.occurrences ++ arguments) =
      readArguments (switches.onReading {}) arguments := by
  cases switches with
  | mk strict emitLabels verbose =>
    cases strict <;> cases emitLabels <;> cases verbose <;> rfl

/-- Words in front of a command line turn switches on from the start. -/
lemma read_words_append (arguments : List String) :
    read (switches.words ++ arguments) = switches.onOutcome (read arguments) := by
  have htake : (switches.words ++ arguments).takeWhile (· != "--") =
      switches.words ++ arguments.takeWhile (· != "--") :=
    List.takeWhile_append_of_pos fun _ h => bne_dashes_of_mem_words h
  have hdrop : (switches.words ++ arguments).dropWhile (· != "--") =
      arguments.dropWhile (· != "--") :=
    List.dropWhile_append_of_pos fun _ h => bne_dashes_of_mem_words h
  have hwords : ∀ before : List String, (switches.words ++ before).mapM decideArgument =
      (before.mapM decideArgument).map (switches.occurrences ++ ·) := by
    intro before
    rw [List.mapM_append, mapM_decideArgument_words]
    rfl
  rw [read, read, htake, hdrop, hwords]
  cases hbefore : (arguments.takeWhile (· != "--")).mapM decideArgument with
  | error request =>
    show Except.error request = Except.error (switches.onRequest request)
    rw [onRequest_of_mapM_decideArgument hbefore]
  | ok before =>
    simp only [Except.map, bind, Except.bind, readArguments_occurrences, readArguments_onReading]
    cases readArguments {} before with
    | error request => rfl
    | ok reading =>
      simp only [onOutcome]
      split
      · rfl
      · simp only [words_onReading]
        rfl

lemma request_onReading (reading : Reading) :
    (switches.onReading reading).request = switches.onRequest reading.request := by
  unfold Reading.request
  rw [input_onReading, extras_onReading]
  cases reading.input with
  | none => rfl
  | some input => cases reading.extras <;> rfl

/-- **Words in front of a command line** turn switches on and do nothing else. -/
lemma request_words_append (arguments : List String) :
    request (switches.words ++ arguments) = switches.onRequest (request arguments) := by
  rw [request, request, read_words_append]
  cases read arguments with
  | ok reading => exact request_onReading reading
  | error request => rfl

/-! ## What is added at the end -/

variable (switches)

/-- The rows that end a run with switches and not the run on the fields: those for which the reports
were turned on. -/
def addedRows (settings : Settings) (result : Tokenization) : List String :=
  if switches.verbose && !settings.verbose && !result.hasDiagnostics then
    ["", "Tokenized " ++ Numeral.naturalText result.tokens.length ++ " tokens"]
  else []

lemma closingRows_onSettings (settings : Settings) (result : Tokenization) :
    closingRows (switches.onSettings settings) result =
      closingRows settings result ++ switches.addedRows settings result := by
  rw [closingRows, closingRows, addedRows]
  show (if (settings.verbose || switches.verbose) && !result.hasDiagnostics then _ else _) = _
  cases hverbose : settings.verbose <;> simp

lemma addedRows_eq_nil {settings : Settings}
    (h : switches.verbose = false ∨ settings.verbose = true) (result : Tokenization) :
    switches.addedRows settings result = [] := by
  rw [addedRows]
  rcases h with h | h <;> simp [h]

/-- The options for reading lines are the same by either way. -/
lemma toOptions_onSettings (settings : Settings) (config : Config) (path : String) :
    ((switches.onSettings settings).applied config).toOptions =
      (({ settings with config := path } : Settings).applied
        (switches.onConfig config)).toOptions := by
  simp only [Settings.applied, onSettings, onConfig, Bool.or_assoc, Bool.or_comm switches.strict,
    Bool.or_comm switches.emitLabels]

/-! ## Two runs on the same input -/

/-- Settings that can be used with switches, or without them and on another configuration: the input
is the same, and the other configuration has the fields set. -/
structure Exchange (room : Yaml.Room) (settings settings' : Settings) (files files' : Files)
    (config : Config) : Prop where
  settings_eq : settings' = { settings with config := settings'.config }
  loaded : settings.loaded room files = .ok config
  loaded' : settings'.loaded room files' = .ok (switches.onConfig config)
  find_eq : files.find settings.path = files'.find settings.path

end Switches

lemma printed_append (rows others : List String) :
    printed (rows ++ others) = printed rows ++ printed others := by
  simp [printed, String.join_append]

variable {room : Yaml.Room} {settings settings' : Settings} {files files' : Files} {config : Config}

namespace Switches.Exchange

variable {switches : Switches}
  (h : switches.Exchange room settings settings' files files' config)
include h

lemma input_eq : settings'.input = settings.input := by
  rw [h.settings_eq]

lemma path_eq : settings'.path = settings.path := by
  rw [Settings.path, Settings.path, h.input_eq]

lemma trace_eq : (switches.onSettings settings).trace files config =
    settings'.trace files' (switches.onConfig config) := by
  rw [h.settings_eq]
  exact Settings.trace_congr rfl h.find_eq (switches.toOptions_onSettings settings config _)

lemma progress_eq : (switches.onSettings settings).progress files config =
    settings'.progress files' (switches.onConfig config) := by
  have hverbose : ((switches.onSettings settings).assembler config).verbose =
      (settings'.assembler (switches.onConfig config)).verbose := by
    rw [h.settings_eq]
    show ((settings.verbose || switches.verbose) || config.verbose) =
      (settings.verbose || (config.verbose || switches.verbose))
    rw [Bool.or_assoc, Bool.or_comm switches.verbose]
  rw [Settings.progress, Settings.progress, Assembler.shown, Assembler.shown, hverbose, h.trace_eq]

/-- The same is printed for a result, except at the end. -/
lemma output_eq (result : Tokenization) :
    (switches.onSettings settings).output files config result =
      { settings'.output files' (switches.onConfig config) result with
        standard := (settings'.output files' (switches.onConfig config) result).standard ++
          printed (switches.addedRows settings result) } := by
  have hstandard : ((switches.onSettings settings).output files config result).standard =
      (settings'.output files' (switches.onConfig config) result).standard ++
        printed (switches.addedRows settings result) := by
    have hrows : closingRows settings' result = closingRows settings result := by
      rw [h.settings_eq]
      rfl
    have hlisting : settings'.listing = settings.listing := by
      rw [h.settings_eq]
    rw [Settings.output, Settings.output, h.progress_eq, closingRows_onSettings, hrows, hlisting,
      ← printed_append, List.append_assoc, List.append_assoc, List.append_assoc]
    rfl
  rw [← hstandard, Settings.output, Settings.output, h.input_eq]
  rfl

lemma completes {result : Tokenization}
    (hcompletes : Completes room (switches.onSettings settings) files config result) :
    Completes room settings' files' (switches.onConfig config) result := by
  refine ⟨?_, h.loaded', outcome_trace_eq_ok_iff.mp ?_⟩
  · rw [h.path_eq, ← Files.has_congr h.find_eq]
    exact hcompletes.found
  · rw [← h.trace_eq]
    exact outcome_trace_eq_ok_iff.mpr hcompletes.assembled

/-- Without a result both runs come to the same end. -/
lemma course
    (hincomplete : ∀ result, ¬Completes room (switches.onSettings settings) files config result)
    {outcome : Except Failure Output}
    (hcourse : Course room (switches.onSettings settings) files outcome) :
    Course room settings' files' outcome := by
  have hhas : files.Has settings.path ↔ files'.Has settings'.path := by
    rw [h.path_eq, Files.has_congr h.find_eq]
  have hrefuses : files.Refuses settings.path ↔ files'.Refuses settings'.path := by
    rw [h.path_eq, Files.refuses_congr h.find_eq]
  have hloaded : (switches.onSettings settings).loaded room files = .ok config := h.loaded
  cases hcourse with
  | refused hrefused =>
    show Course room settings' files' (.error (.notLookedUp settings.path .nameTooLong))
    rw [← h.path_eq]
    exact .refused (hrefuses.mp hrefused)
  | missing hlooked hmissing =>
    show Course room settings' files'
      (.ok ⟨1, "", printed ["Error: Input file not found: " ++ settings.input]⟩)
    rw [← h.input_eq]
    exact .missing (mt hrefuses.mpr hlooked) (mt hhas.mpr hmissing)
  | unconfigured _ hfails => cases hfails.symm.trans hloaded
  | unassembled found hconfig hfails =>
    cases hconfig.symm.trans hloaded
    rw [h.trace_eq] at hfails
    rw [h.progress_eq]
    exact .unassembled (hhas.mp found) h.loaded' hfails
  | completed hcompletes =>
    cases hcompletes.loaded.symm.trans hloaded
    exact absurd hcompletes (hincomplete _)

variable {switched plain : List String}
  (hswitched : request switched = .run (switches.onSettings settings))
  (hplain : request plain = .run settings')
include hswitched hplain

/-- With a result the run with switches prints what the other does, and the rows that are added. -/
lemma run_of_completes {result : Tokenization}
    (hcompletes : Completes room (switches.onSettings settings) files config result) :
    ∃ output, run room plain files' = .ok output ∧
      run room switched files = .ok { output with
        standard := output.standard ++ printed (switches.addedRows settings result) } := by
  rw [run, run, hplain, hswitched]
  refine ⟨_, assemble_of_completes (h.completes hcompletes), ?_⟩
  rw [← h.output_eq]
  exact assemble_of_completes hcompletes

lemma run_of_incomplete
    (hincomplete : ∀ result, ¬Completes room (switches.onSettings settings) files config result) :
    run room switched files = run room plain files' := by
  rw [run, run, hplain, hswitched]
  exact (h.course hincomplete (CommandLine.course _ _ _)).assemble_eq.symm

end Switches.Exchange

/-- **Switches and fields.** Words in front of a command line turn switches on and do nothing else.
A run with switches, and the run without them on a configuration with the fields set, are the same
unless reports are turned on.  They are the same then, too, if they come to no result.  If they do,
the run with switches prints the rows that are added at its end, and there is no other difference:
not in the status, nor in the error stream. -/
theorem switches_and_fields (switches : Switches) {switched plain : List String}
    (hswitched : request switched = .run (switches.onSettings settings))
    (hplain : request plain = .run settings')
    (h : switches.Exchange room settings settings' files files' config) :
    (∀ arguments, request (switches.words ++ arguments) =
      switches.onRequest (request arguments)) ∧
    (switches.verbose = false ∨ settings.verbose = true →
      run room switched files = run room plain files') ∧
    ((∀ result, ¬Completes room (switches.onSettings settings) files config result) →
      run room switched files = run room plain files') ∧
    ∀ result, Completes room (switches.onSettings settings) files config result →
      ∃ output, run room plain files' = .ok output ∧
        run room switched files = .ok { output with
          standard := output.standard ++ printed (switches.addedRows settings result) } := by
  refine ⟨switches.request_words_append, fun hverbose => ?_, h.run_of_incomplete hswitched hplain,
    fun result => h.run_of_completes hswitched hplain⟩
  by_cases hcompletes : ∃ result, Completes room (switches.onSettings settings) files config result
  · obtain ⟨result, hcompletes⟩ := hcompletes
    obtain ⟨output, houtput, hadded⟩ := h.run_of_completes hswitched hplain hcompletes
    rw [hadded, houtput, switches.addedRows_eq_nil hverbose]
    simp [printed]
  · exact h.run_of_incomplete hswitched hplain fun result hresult => hcompletes ⟨result, hresult⟩

/-- The settings of a run on the input `a` and a configuration. -/
def configured (path : String) : Settings := { input := "a", config := path }

/-- A working directory with an instruction, an empty configuration `c` and another one, `d`. -/
def twoConfigurations (fields : String) : Files :=
  textFiles [("a", "ADD"), ("c", ""), ("d", fields)]

lemma exchange_twoConfigurations {switches : Switches} {fields : String}
    (h : (Config.ofFile .standard (twoConfigurations fields) "d").toOption =
      some (switches.onConfig {})) :
    switches.Exchange .standard (configured "c") (configured "d") (twoConfigurations fields)
      (twoConfigurations fields) {} where
  settings_eq := rfl
  loaded := rfl
  loaded' := by
    have hloaded : (configured "d").loaded .standard (twoConfigurations fields) =
        Config.ofFile .standard (twoConfigurations fields) "d" := rfl
    rw [hloaded]
    cases hconfig : Config.ofFile .standard (twoConfigurations fields) "d" with
    | error failure =>
      rw [hconfig] at h
      cases h
    | ok config =>
      rw [hconfig] at h
      exact congrArg Except.ok (Option.some.inj h)
  find_eq := rfl

/-- A run with two switches is the run on a configuration with two fields. -/
theorem switches_and_fields_strict :
    request ["--strict", "--emit-labels", "a", "-c", "c"] =
      .run (({ strict := true, emitLabels := true } : Switches).onSettings (configured "c")) ∧
    request ["a", "-c", "d"] = .run (configured "d") ∧
    ({ strict := true, emitLabels := true } : Switches).Exchange .standard (configured "c")
      (configured "d") (twoConfigurations "emit_labels: true\nreport_unknown_lines: true")
      (twoConfigurations "emit_labels: true\nreport_unknown_lines: true") {} ∧
    run .standard ["--strict", "--emit-labels", "a", "-c", "c"]
        (twoConfigurations "emit_labels: true\nreport_unknown_lines: true") =
      run .standard ["a", "-c", "d"]
        (twoConfigurations "emit_labels: true\nreport_unknown_lines: true") := by
  have hswitched : request ["--strict", "--emit-labels", "a", "-c", "c"] =
      .run (({ strict := true, emitLabels := true } : Switches).onSettings (configured "c")) := by
    rfl
  have hplain : request ["a", "-c", "d"] = .run (configured "d") := by rfl
  have hexchange : ({ strict := true, emitLabels := true } : Switches).Exchange .standard
      (configured "c") (configured "d")
      (twoConfigurations "emit_labels: true\nreport_unknown_lines: true")
      (twoConfigurations "emit_labels: true\nreport_unknown_lines: true") {} :=
    exchange_twoConfigurations (by decide +kernel)
  exact ⟨hswitched, hplain, hexchange,
    (switches_and_fields _ hswitched hplain hexchange).2.1 (.inl rfl)⟩

/-- **What the field does not do.** With reports turned on by the field a run prints two rows less
than with reports turned on by the switch. -/
theorem verbose_field_prints_less :
    ({ verbose := true } : Switches).Exchange .standard (configured "c") (configured "d")
      (twoConfigurations "verbose: true") (twoConfigurations "verbose: true") {} ∧
    (∃ output, run .standard ["a", "-c", "d"] (twoConfigurations "verbose: true") = .ok output ∧
      run .standard ["--verbose", "a", "-c", "c"] (twoConfigurations "verbose: true") =
        .ok { output with standard := output.standard ++ "\nTokenized 1 tokens\n" }) ∧
    run .standard ["--verbose", "a", "-c", "c"] (twoConfigurations "verbose: true") ≠
      run .standard ["a", "-c", "d"] (twoConfigurations "verbose: true") := by
  have hswitched : request ["--verbose", "a", "-c", "c"] =
      .run (({ verbose := true } : Switches).onSettings (configured "c")) := by rfl
  have hplain : request ["a", "-c", "d"] = .run (configured "d") := by rfl
  have hexchange : ({ verbose := true } : Switches).Exchange .standard (configured "c")
      (configured "d") (twoConfigurations "verbose: true") (twoConfigurations "verbose: true") {} :=
    exchange_twoConfigurations (by decide +kernel)
  have hread : (Tokenization.ofLines {} (Source.read "ADD" "a")).outcome.map
      (fun result => (result.diagnostics, result.tokens.length)) = .ok ([], 1) := by rfl
  cases hlines : (Tokenization.ofLines {} (Source.read "ADD" "a")).outcome with
  | error failure =>
    rw [hlines] at hread
    cases hread
  | ok result =>
    rw [hlines] at hread
    obtain ⟨hnone, hone⟩ := Prod.mk.inj (Except.ok.inj hread)
    have hcompletes : Completes .standard
        (({ verbose := true } : Switches).onSettings (configured "c"))
        (twoConfigurations "verbose: true") {} result :=
      ⟨⟨by rfl, _, by rfl⟩, hexchange.loaded, "ADD", by rfl, hlines⟩
    have hrows : printed (({ verbose := true } : Switches).addedRows (configured "c") result) =
        "\nTokenized 1 tokens\n" := by
      simp only [Switches.addedRows, Tokenization.hasDiagnostics, hnone, hone]
      rfl
    obtain ⟨output, houtput, hadded⟩ := hexchange.run_of_completes hswitched hplain hcompletes
    rw [hrows] at hadded
    refine ⟨hexchange, ⟨output, houtput, hadded⟩, fun hsame => ?_⟩
    have hstandard : output.standard ++ "\nTokenized 1 tokens\n" = output.standard :=
      congrArg Output.standard (Except.ok.inj (hadded.symm.trans (hsame.trans houtput)))
    have hlength := congrArg String.length hstandard
    rw [String.length_append] at hlength
    have hrowsLength : "\nTokenized 1 tokens\n".length = 20 := by rfl
    omega

end Claw.CommandLine
