import Claw.Config
import Claw.Proofs.Text.Uppercase
import Claw.Proofs.Yaml.Keys

/-!
# What a configuration means

Which mappings are configurations, what each of them sets, and what is said of the others.

* `HasFields`: the data are a mapping with these fields, whose values are left open;
* `Acceptable`, `Gives`, `FirstFault`: a mapping that is a configuration, the settings that it
  gives, and what is reported of one that is none.

None of them follows the way in which a mapping is read.  A field is read alike whatever
it sets (`fieldOf`), so that one lemma says when it is accepted and one when it is not; the order of
the faults is that of the first pass, and the two passes agree on every mapping
(`map_draft_check`).

Keys of a mapping that was loaded are distinct, which is what makes the order of the fields
irrelevant.
-/

namespace Claw.Config

open Yaml (Collection Data Scalar Value)

/-! ## Fields -/

/-- The names of all fields. -/
def fieldNames : List String :=
  stackField :: switches

/-- The entries of a mapping whose keys are texts. -/
def entriesOf (fields : List (String × Value)) : List (Scalar × Value) :=
  fields.map fun field => (.text field.1, field.2)

/-- The data are a mapping with the given fields, each of which has a name of its own. -/
structure HasFields (data : Data) (fields : List (String × Value)) : Prop where
  collection : data.collection? data.root = some (.mapping (entriesOf fields))
  distinct : (fields.map Prod.fst).Nodup

/-- The value is the name of a stack, in either case and with blank margins. -/
def IsStackName (value : Value) (stack : Stack) : Prop :=
  ∃ text, value = .scalar (.text text) ∧ Text.uppercase (Text.trimmed text) = stack.name

/-- The value is a truth value. -/
def IsTruth (value : Value) (on : Bool) : Prop :=
  value = .scalar (.boolean on)

section

variable {σ : Type}

/-- The field is set as its value says, or has its default where it is absent. -/
def Sets (fields : List (String × Value)) (name : String) (Means : Value → σ → Prop)
    (default setting : σ) : Prop :=
  (∃ value, (name, value) ∈ fields ∧ Means value setting) ∨
    name ∉ fields.map Prod.fst ∧ setting = default

/-- The field has a meaning if it is present. -/
def IsFine (fields : List (String × Value)) (name : String) (Means : Value → σ → Prop) : Prop :=
  ∀ value, (name, value) ∈ fields → ∃ setting, Means value setting

/-- The field is present and has no meaning. -/
def IsBad (fields : List (String × Value)) (name : String) (Means : Value → σ → Prop) : Prop :=
  ∃ value, (name, value) ∈ fields ∧ ∀ setting, ¬Means value setting

end

/-- Every field is known. -/
def AreKnown (fields : List (String × Value)) : Prop :=
  ∀ field ∈ fields, field.1 ∈ fieldNames

/-- The fields are those of a configuration. -/
structure Acceptable (fields : List (String × Value)) : Prop where
  known : AreKnown fields
  stack : IsFine fields stackField IsStackName
  switch : ∀ name ∈ switches, IsFine fields name IsTruth

/-- The settings that the fields of a configuration give. -/
structure Gives (fields : List (String × Value)) (config : Config) : Prop where
  known : AreKnown fields
  defaultStack : Sets fields "default_stack" IsStackName .a config.defaultStack
  emitLabels : Sets fields "emit_labels" IsTruth false config.emitLabels
  reportUnknown : Sets fields "report_unknown_lines" IsTruth false config.reportUnknown
  verbose : Sets fields "verbose" IsTruth false config.verbose

/-- What is reported of fields that are not those of a configuration, and its wording: the first
unknown name, or else the default stack, or else the first bad switch. -/
inductive FirstFault (fields : List (String × Value)) : ConfigFault → String → Prop
  | unknownField {front behind name value} (split : fields = front ++ (name, value) :: behind)
      (known : AreKnown front) (unknown : name ∉ fieldNames) :
      FirstFault fields (.unknownField name) ("Unknown configuration field '" ++ name ++ "'")
  | badStack (known : AreKnown fields) (bad : IsBad fields stackField IsStackName) :
      FirstFault fields .badStack "'default_stack' must be one of A, B, C, D"
  | notBoolean {front behind name} (known : AreKnown fields)
      (stack : IsFine fields stackField IsStackName)
      (split : ["emit_labels", "report_unknown_lines", "verbose"] = front ++ name :: behind)
      (fine : ∀ earlier ∈ front, IsFine fields earlier IsTruth) (bad : IsBad fields name IsTruth) :
      FirstFault fields (.notBoolean name) ("'" ++ name ++ "' must be true or false")

lemma message_of_firstFault {fields : List (String × Value)} {fault : ConfigFault}
    {wording : String} (h : FirstFault fields fault wording) : fault.message = wording := by
  cases h with
  | unknownField => rfl
  | badStack => decide
  | notBoolean => rfl

/-! ## Looking up a field -/

section

variable {fields : List (String × Value)} {name : String}

lemma lookup_entriesOf (fields : List (String × Value)) (name : String) :
    (entriesOf fields).lookup (.text name) = fields.lookup name := by
  induction fields with
  | nil => rfl
  | cons field rest ih =>
    rw [entriesOf, List.map_cons, List.lookup_cons, ← entriesOf, ih, List.lookup_cons]
    congr 1
    simp

lemma lookup_eq_none_iff : fields.lookup name = none ↔ name ∉ fields.map Prod.fst := by
  rw [List.lookup_eq_none_iff, List.mem_map, not_exists]
  refine forall_congr' fun field => ?_
  rw [not_and, bne_iff_ne, ne_comm]

/-- Where no name comes up twice, a field is found just if it is there. -/
lemma lookup_eq_some_iff (hdistinct : (fields.map Prod.fst).Nodup) {value : Value} :
    fields.lookup name = some value ↔ (name, value) ∈ fields := by
  rw [List.lookup_eq_some_iff]
  constructor
  · rintro ⟨front, behind, rfl, -⟩
    simp
  · intro hmem
    obtain ⟨front, behind, rfl⟩ := List.append_of_mem hmem
    refine ⟨front, behind, rfl, fun field hfield => ?_⟩
    rw [List.map_append, List.nodup_append] at hdistinct
    have := hdistinct.2.2 field.1 (List.mem_map_of_mem hfield) name (by simp)
    exact bne_iff_ne.mpr this.symm

end

/-! ## Reading one field -/

lemma ofName?_eq_some_iff {text : String} {stack : Stack} :
    Stack.ofName? text = some stack ↔ Text.uppercase (Text.trimmed text) = stack.name := by
  rw [Stack.ofName?, Text.trimmed_uppercase]
  generalize Text.uppercase (Text.trimmed text) = name
  constructor
  · intro h
    have := List.find?_some h
    exact (beq_iff_eq.mp this).symm
  · rintro rfl
    cases stack <;> rfl

lemma stackIn?_eq_some_iff (value : Value) (stack : Stack) :
    stackIn? value = some stack ↔ IsStackName value stack := by
  unfold stackIn? IsStackName
  split
  · next text => simp [ofName?_eq_some_iff]
  · next hother => simpa using fun text h => absurd h (hother text)

lemma switchIn?_eq_some_iff (value : Value) (on : Bool) :
    switchIn? value = some on ↔ IsTruth value on := by
  unfold switchIn? IsTruth
  split
  · simp
  · next hother => simpa using hother on

section

variable {σ : Type} {read : Value → Option σ} {Means : Value → σ → Prop} {default : σ}
  {fault : ConfigFault} {fields : List (String × Value)} {name : String}

lemma fieldOf_eq_ok_iff (hread : ∀ value setting, read value = some setting ↔ Means value setting)
    (hdistinct : (fields.map Prod.fst).Nodup) {setting : σ} :
    fieldOf read default fault (entriesOf fields) name = .ok setting ↔
      Sets fields name Means default setting := by
  simp only [fieldOf, lookup_entriesOf, Sets, ← lookup_eq_some_iff hdistinct, ← lookup_eq_none_iff,
    ← hread]
  cases fields.lookup name with
  | none => simp [eq_comm]
  | some value => cases hvalue : read value <;> simp [hvalue]

end

/-! ## Keys -/

section

variable {fields : List (String × Value)}

lemma isField_text (name : String) : isField (.text name) = decide (name ∈ fieldNames) := by
  rw [isField, fieldNames, List.contains_eq_mem, Bool.beq_eq_decide_eq, ← Bool.decide_or]
  simp only [List.mem_cons]

lemma find?_entriesOf (fields : List (String × Value)) :
    (entriesOf fields).find? (!isField ·.1) =
      (fields.find? fun field => field.1 ∉ fieldNames).map fun field => (.text field.1, field.2) := by
  rw [entriesOf, List.find?_map]
  congr 2
  funext field
  simp [isField_text]

lemma checkKeys_eq_ok_iff : checkKeys (entriesOf fields) = .ok () ↔ AreKnown fields := by
  rw [checkKeys, find?_entriesOf, AreKnown]
  cases hfind : fields.find? fun field => field.1 ∉ fieldNames with
  | none => simpa using hfind
  | some field =>
    have hmem := List.mem_of_find?_eq_some hfind
    have hunknown := List.find?_some hfind
    simp only [Option.map_some, reduceCtorEq, false_iff, not_forall]
    exact ⟨field, hmem, of_decide_eq_true hunknown⟩

/-- The first unknown name is reported, behind known ones. -/
lemma checkKeys_eq_error_iff {failure : Failure} :
    checkKeys (entriesOf fields) = .error failure ↔ ∃ front name value behind,
      fields = front ++ (name, value) :: behind ∧ AreKnown front ∧ name ∉ fieldNames ∧
        failure = .configuration (.unknownField name) := by
  rw [checkKeys, find?_entriesOf]
  constructor
  · intro h
    cases hfind : fields.find? fun field => field.1 ∉ fieldNames with
    | none =>
      rw [hfind] at h
      cases h
    | some field =>
      rw [hfind] at h
      obtain ⟨hunknown, front, behind, hsplit, hfront⟩ := List.find?_eq_some_iff_append.mp hfind
      refine ⟨front, field.1, field.2, behind, hsplit, fun earlier hmem => ?_,
        of_decide_eq_true hunknown, (Except.error.inj h).symm⟩
      simpa using hfront earlier hmem
  · rintro ⟨front, name, value, behind, hsplit, hknown, hunknown, rfl⟩
    have hfind : fields.find? (fun field => field.1 ∉ fieldNames) = some (name, value) :=
      List.find?_eq_some_iff_append.mpr ⟨decide_eq_true hunknown, front, behind, hsplit,
        fun earlier hmem => by simpa using hknown earlier hmem⟩
    rw [hfind]
    rfl

end

/-! ## Two passes -/

lemma checkField_eq_map {σ : Type} (read : Value → Option σ) (default : σ) (fault : ConfigFault)
    (entries : List (Scalar × Value)) (name : String) :
    checkField read fault entries name =
      (fieldOf read default fault entries name).map fun _ => () := by
  unfold checkField fieldOf
  cases entries.lookup (.text name) with
  | none => rfl
  | some value =>
    dsimp only
    cases read value <;> rfl

/-- The first pass refuses just what is not read, and reports the same. -/
lemma check_eq_map (entries : List (Scalar × Value)) :
    check entries = (ofEntries entries).map fun _ => () := by
  have hstack : checkField stackIn? .badStack entries stackField =
      (stackOf entries).map fun _ => () :=
    checkField_eq_map ..
  have hswitch : ∀ name, checkField switchIn? (.notBoolean name) entries name =
      (switchOf entries name).map fun _ => () := fun name =>
    checkField_eq_map ..
  simp only [check, ofEntries, switches, checkSwitches, hstack, hswitch]
  cases checkKeys entries with
  | error failure => rfl
  | ok _ =>
  cases stackOf entries with
  | error failure => rfl
  | ok stack =>
  cases switchOf entries "emit_labels" with
  | error failure => rfl
  | ok emitLabels =>
  cases switchOf entries "report_unknown_lines" with
  | error failure => rfl
  | ok reportUnknown => cases switchOf entries "verbose" <;> rfl

/-- What a field sets is what its value is read as, or the value that stands for the default. -/
lemma read_getD_of_fieldOf {σ : Type} {read : Value → Option σ} {default setting : σ}
    {fault : ConfigFault} {entries : List (Scalar × Value)} {name : String} {absent : Value}
    (habsent : read absent = some default)
    (h : fieldOf read default fault entries name = .ok setting) :
    read ((entries.lookup (.text name)).getD absent) = some setting := by
  rw [fieldOf] at h
  cases hlookup : entries.lookup (.text name) with
  | none =>
    rw [hlookup] at h
    rw [Option.getD_none, habsent, Except.ok.inj h]
  | some value =>
    rw [hlookup] at h
    dsimp only at h
    split at h
    · next hread => rw [Option.getD_some, hread, Except.ok.inj h]
    · cases h

lemma defaultStack_draft {entries : List (Scalar × Value)} {stack : Stack}
    (h : stackOf entries = .ok stack) : (draft entries).defaultStack = some stack :=
  read_getD_of_fieldOf ((stackIn?_eq_some_iff _ _).mpr ⟨_, rfl, by decide⟩) h

lemma draftSwitch_of_switchOf {entries : List (Scalar × Value)} {name : String} {on : Bool}
    (h : switchOf entries name = .ok on) : draftSwitch entries name = .scalar (.boolean on) :=
  (switchIn?_eq_some_iff _ _).mp (read_getD_of_fieldOf rfl h)

lemma ofEntries_eq_ok_iff {entries : List (Scalar × Value)} {config : Config} :
    ofEntries entries = .ok config ↔
      checkKeys entries = .ok () ∧ stackOf entries = .ok config.defaultStack ∧
        switchOf entries "emit_labels" = .ok config.emitLabels ∧
        switchOf entries "report_unknown_lines" = .ok config.reportUnknown ∧
        switchOf entries "verbose" = .ok config.verbose := by
  rw [ofEntries]
  cases checkKeys entries with
  | error failure => simp [bind, Except.bind]
  | ok _ =>
  cases stackOf entries with
  | error failure => simp [bind, Except.bind]
  | ok stack =>
  cases switchOf entries "emit_labels" with
  | error failure => simp [bind, Except.bind]
  | ok emitLabels =>
  cases switchOf entries "report_unknown_lines" with
  | error failure => simp [bind, Except.bind]
  | ok reportUnknown =>
  cases switchOf entries "verbose" with
  | error failure => simp [bind, Except.bind]
  | ok verbose =>
    obtain ⟨⟨_, _, _⟩, _⟩ := config
    simp [bind, Except.bind, pure, Except.pure, and_assoc]

lemma draft_of_ofEntries {entries : List (Scalar × Value)} {config : Config}
    (h : ofEntries entries = .ok config) : draft entries = toDraft config := by
  obtain ⟨-, hstack, hemit, hreport, hverbose⟩ := ofEntries_eq_ok_iff.mp h
  rw [toDraft, ← defaultStack_draft hstack, ← draftSwitch_of_switchOf hemit,
    ← draftSwitch_of_switchOf hreport, ← draftSwitch_of_switchOf hverbose]
  rfl

/-- **Both passes agree**: what the first one lets through, the second one completes, and what is put
together lacks nothing. -/
lemma map_draft_check (entries : List (Scalar × Value)) :
    (check entries).map (fun () => draft entries) = (ofEntries entries).map toDraft := by
  rw [check_eq_map]
  cases h : ofEntries entries with
  | error failure => rfl
  | ok config => exact congrArg Except.ok (draft_of_ofEntries h)

/-! ## Fields of a configuration -/

section

variable {σ : Type} {read : Value → Option σ} {Means : Value → σ → Prop} {fault : ConfigFault}
  {fields : List (String × Value)} {name : String}

lemma checkField_eq_ok_iff
    (hread : ∀ value setting, read value = some setting ↔ Means value setting)
    (hdistinct : (fields.map Prod.fst).Nodup) :
    checkField read fault (entriesOf fields) name = .ok () ↔ IsFine fields name Means := by
  simp only [checkField, lookup_entriesOf, IsFine, ← lookup_eq_some_iff hdistinct, ← hread]
  cases fields.lookup name with
  | none => simp
  | some value => cases hvalue : read value <;> simp [hvalue]

lemma checkField_eq_error_iff
    (hread : ∀ value setting, read value = some setting ↔ Means value setting)
    (hdistinct : (fields.map Prod.fst).Nodup) {failure : Failure} :
    checkField read fault (entriesOf fields) name = .error failure ↔
      IsBad fields name Means ∧ failure = .configuration fault := by
  simp only [checkField, lookup_entriesOf, IsBad, ← lookup_eq_some_iff hdistinct, ← hread]
  cases fields.lookup name with
  | none => simp
  | some value => cases hvalue : read value <;> simp [hvalue, eq_comm]

end

section

variable {fields : List (String × Value)} (hdistinct : (fields.map Prod.fst).Nodup)
  {failure : Failure}

/-- One check behind another fails where the first of them fails, or the second behind a first one
that does not. -/
lemma seq_eq_error_iff {first next : Except Failure Unit} :
    (do first; next) = .error failure ↔
      first = .error failure ∨ first = .ok () ∧ next = .error failure := by
  cases first <;> simp [bind, Except.bind]

lemma seq_eq_ok_iff {first next : Except Failure Unit} :
    (do first; next) = .ok () ↔ first = .ok () ∧ next = .ok () := by
  cases first <;> simp [bind, Except.bind]

include hdistinct

lemma checkSwitches_eq_ok_iff {names : List String} :
    checkSwitches (entriesOf fields) names = .ok () ↔ ∀ name ∈ names, IsFine fields name IsTruth := by
  induction names with
  | nil => simp [checkSwitches]
  | cons name rest ih =>
    rw [checkSwitches, seq_eq_ok_iff, checkField_eq_ok_iff switchIn?_eq_some_iff hdistinct, ih,
      List.forall_mem_cons]

/-- The first bad switch is reported, behind good ones. -/
lemma checkSwitches_eq_error_iff {names : List String} :
    checkSwitches (entriesOf fields) names = .error failure ↔ ∃ front name behind,
      names = front ++ name :: behind ∧ (∀ earlier ∈ front, IsFine fields earlier IsTruth) ∧
        IsBad fields name IsTruth ∧ failure = .configuration (.notBoolean name) := by
  induction names with
  | nil => simp [checkSwitches]
  | cons name rest ih =>
    rw [checkSwitches, seq_eq_error_iff, checkField_eq_ok_iff switchIn?_eq_some_iff hdistinct,
      checkField_eq_error_iff switchIn?_eq_some_iff hdistinct, ih]
    constructor
    · rintro (⟨hbad, rfl⟩ | ⟨hfine, front, later, behind, rfl, hfront, hbad, rfl⟩)
      · exact ⟨[], name, rest, rfl, by simp, hbad, rfl⟩
      · exact ⟨name :: front, later, behind, rfl, List.forall_mem_cons.mpr ⟨hfine, hfront⟩, hbad, rfl⟩
    · rintro ⟨front, later, behind, hsplit, hfront, hbad, rfl⟩
      cases front with
      | nil =>
        obtain ⟨rfl, -⟩ := List.cons.inj hsplit
        exact .inl ⟨hbad, rfl⟩
      | cons first front =>
        obtain ⟨rfl, rfl⟩ := List.cons.inj hsplit
        obtain ⟨hfine, hfront⟩ := List.forall_mem_cons.mp hfront
        exact .inr ⟨hfine, front, later, behind, rfl, hfront, hbad, rfl⟩

lemma check_eq_ok_iff : check (entriesOf fields) = .ok () ↔ Acceptable fields := by
  rw [check, seq_eq_ok_iff, seq_eq_ok_iff, checkKeys_eq_ok_iff,
    checkField_eq_ok_iff stackIn?_eq_some_iff hdistinct, checkSwitches_eq_ok_iff hdistinct]
  exact ⟨fun ⟨known, stack, switch⟩ => ⟨known, stack, switch⟩,
    fun h => ⟨h.known, h.stack, h.switch⟩⟩

lemma check_eq_error_iff :
    check (entriesOf fields) = .error failure ↔
      ∃ fault wording, failure = .configuration fault ∧ FirstFault fields fault wording := by
  rw [check, seq_eq_error_iff, seq_eq_error_iff, checkKeys_eq_ok_iff, checkKeys_eq_error_iff,
    checkField_eq_ok_iff stackIn?_eq_some_iff hdistinct,
    checkField_eq_error_iff stackIn?_eq_some_iff hdistinct, checkSwitches_eq_error_iff hdistinct]
  constructor
  · rintro (⟨front, name, value, behind, hsplit, hknown, hunknown, rfl⟩ | ⟨hknown, ⟨hbad, rfl⟩ |
      ⟨hstack, front, name, behind, hsplit, hfine, hbad, rfl⟩⟩)
    · exact ⟨_, _, rfl, .unknownField hsplit hknown hunknown⟩
    · exact ⟨_, _, rfl, .badStack hknown hbad⟩
    · exact ⟨_, _, rfl, .notBoolean hknown hstack hsplit hfine hbad⟩
  · rintro ⟨fault, wording, rfl, hfault⟩
    cases hfault with
    | unknownField hsplit hknown hunknown =>
      exact .inl ⟨_, _, _, _, hsplit, hknown, hunknown, rfl⟩
    | badStack hknown hbad => exact .inr ⟨hknown, .inl ⟨hbad, rfl⟩⟩
    | notBoolean hknown hstack hsplit hfine hbad =>
      exact .inr ⟨hknown, .inr ⟨hstack, _, _, _, hsplit, hfine, hbad, rfl⟩⟩

lemma ofEntries_eq_ok_iff_gives {config : Config} :
    ofEntries (entriesOf fields) = .ok config ↔ Gives fields config := by
  rw [ofEntries_eq_ok_iff, checkKeys_eq_ok_iff, stackOf, switchOf, switchOf, switchOf,
    fieldOf_eq_ok_iff stackIn?_eq_some_iff hdistinct,
    fieldOf_eq_ok_iff switchIn?_eq_some_iff hdistinct,
    fieldOf_eq_ok_iff switchIn?_eq_some_iff hdistinct,
    fieldOf_eq_ok_iff switchIn?_eq_some_iff hdistinct]
  exact ⟨fun ⟨known, stack, emitLabels, reportUnknown, verbose⟩ =>
      ⟨known, stack, emitLabels, reportUnknown, verbose⟩,
    fun h => ⟨h.known, h.defaultStack, h.emitLabels, h.reportUnknown, h.verbose⟩⟩

end

/-! ## The order of the fields -/

section

variable {fields permuted : List (String × Value)} (hperm : permuted.Perm fields)

include hperm

lemma sets_of_perm {σ : Type} {name : String} {Means : Value → σ → Prop} {default setting : σ}
    (h : Sets fields name Means default setting) : Sets permuted name Means default setting := by
  simpa only [Sets, hperm.mem_iff, (hperm.map Prod.fst).mem_iff] using h

lemma gives_of_perm {config : Config} (h : Gives fields config) : Gives permuted config where
  known field hfield := h.known field (hperm.mem_iff.mp hfield)
  defaultStack := sets_of_perm hperm h.defaultStack
  emitLabels := sets_of_perm hperm h.emitLabels
  reportUnknown := sets_of_perm hperm h.reportUnknown
  verbose := sets_of_perm hperm h.verbose

end

/-! ## Data and texts -/

lemma root_ne_null {data : Data} {collection : Collection}
    (h : data.collection? data.root = some collection) : data.root ≠ .scalar .null := by
  intro hnull
  rw [hnull] at h
  cases h

lemma ofData_of_mapping {data : Data} {entries : List (Scalar × Value)}
    (h : data.collection? data.root = some (.mapping entries)) :
    ofData data = ofEntries entries := by
  rw [ofData, if_neg (root_ne_null h), h]

lemma hasFields_of_load {room : Yaml.Room} {text : String} {data : Data}
    (h : Yaml.load room text = .ok data) {fields : List (String × Value)}
    (hroot : data.collection? data.root = some (.mapping (entriesOf fields))) :
    HasFields data fields := by
  refine ⟨hroot, ?_⟩
  have hkeys : ((entriesOf fields).map Prod.fst).Nodup := Yaml.hasDistinctKeys_of_load h hroot
  rw [entriesOf, List.map_map] at hkeys
  exact List.Nodup.of_map Scalar.text (by rwa [List.map_map])

section

variable {data : Data} {fields : List (String × Value)} (hfields : HasFields data fields)

include hfields

lemma exists_ofData_iff : (∃ config, ofData data = .ok config) ↔ Acceptable fields := by
  rw [ofData_of_mapping hfields.collection, ← check_eq_ok_iff hfields.distinct, check_eq_map]
  cases ofEntries (entriesOf fields) <;> simp [Except.map]

lemma ofData_eq_ok_iff {config : Config} : ofData data = .ok config ↔ Gives fields config := by
  rw [ofData_of_mapping hfields.collection, ofEntries_eq_ok_iff_gives hfields.distinct]

lemma ofData_eq_error_iff {failure : Failure} :
    ofData data = .error failure ↔ ∃ fault wording, failure = .configuration fault ∧
      FirstFault fields fault wording ∧ fault.message = wording := by
  have hcheck : ofEntries (entriesOf fields) = .error failure ↔
      check (entriesOf fields) = .error failure := by
    rw [check_eq_map]
    cases ofEntries (entriesOf fields) <;> simp [Except.map]
  rw [ofData_of_mapping hfields.collection, hcheck, check_eq_error_iff hfields.distinct]
  constructor
  · rintro ⟨fault, wording, rfl, hfault⟩
    exact ⟨fault, wording, rfl, hfault, message_of_firstFault hfault⟩
  · rintro ⟨fault, wording, rfl, hfault, -⟩
    exact ⟨fault, wording, rfl, hfault⟩

lemma ofData_of_perm {other : Data} {permuted : List (String × Value)} {config : Config}
    (hother : HasFields other permuted) (hperm : permuted.Perm fields)
    (h : ofData data = .ok config) : ofData other = .ok config :=
  (ofData_eq_ok_iff hother).mpr (gives_of_perm hperm ((ofData_eq_ok_iff hfields).mp h))

end

lemma ofData_of_not_mapping {data : Data} (hnull : data.root ≠ .scalar .null)
    (hmapping : ∀ entries, data.collection? data.root ≠ some (.mapping entries)) :
    ofData data = .error (.configuration .notMapping) := by
  rw [ofData, if_neg hnull]
  split
  · next entries h => exact absurd h (hmapping entries)
  · rfl

/-- **Which data are a configuration, and what it sets.**  No data but null and mappings are one.
A mapping is one just if its fields are acceptable; it then gives the settings of its fields in
whatever order they are, and otherwise what is first at fault is reported.  The two passes over a
mapping have the same outcome, with a default stack in it.  All of this holds of what a text denotes,
where no two fields have the same name. -/
theorem settings_of_data (data : Data) :
    (data.root = .scalar .null →
      ofData data = .ok
        { defaultStack := .a, emitLabels := false, reportUnknown := false, verbose := false }) ∧
    (data.root ≠ .scalar .null →
      (∀ entries, data.collection? data.root ≠ some (.mapping entries)) →
        ofData data = .error (.configuration .notMapping)) ∧
    (∀ fields, HasFields data fields →
      ((∃ config, ofData data = .ok config) ↔ Acceptable fields) ∧
      (∀ config, ofData data = .ok config ↔ Gives fields config) ∧
      (∀ failure, ofData data = .error failure ↔ ∃ fault wording,
        failure = .configuration fault ∧ FirstFault fields fault wording ∧
          fault.message = wording) ∧
      ∀ other permuted config, HasFields other permuted → permuted.Perm fields →
        ofData data = .ok config → ofData other = .ok config) ∧
    (∀ entries, data.collection? data.root = some (.mapping entries) →
      (check entries).map (fun () => draft entries) = (ofData data).map toDraft) ∧
    ∀ room text, Yaml.load room text = .ok data →
      ofText room text = ofData data ∧
        ∀ fields, data.collection? data.root = some (.mapping (entriesOf fields)) →
          HasFields data fields := by
  refine ⟨fun hnull => if_pos hnull, ofData_of_not_mapping, fun fields hfields => ?_,
    fun entries hentries => ?_, fun room text hload => ⟨?_, fun fields => hasFields_of_load hload⟩⟩
  · exact ⟨exists_ofData_iff hfields, fun config => ofData_eq_ok_iff hfields,
      fun failure => ofData_eq_error_iff hfields,
      fun other permuted config => ofData_of_perm hfields⟩
  · rw [ofData_of_mapping hentries, map_draft_check]
  · rw [ofText, hload]
    rfl

/-- Null, a text alone, and a mapping that a text denotes, in either order of its fields. -/
theorem settings_of_data_of_load :
    ofData (.ofScalar .null) = .ok {} ∧
    ofData (.ofScalar (.text "A")) = .error (.configuration .notMapping) ∧
    Yaml.load .standard "verbose: yes\ndefault_stack: ' b '\n" = .ok ⟨.collection 0, [(0, .mapping
      [(.text "verbose", .scalar (.boolean true)),
        (.text "default_stack", .scalar (.text " b "))])]⟩ ∧
    ofText .standard "verbose: yes\ndefault_stack: ' b '\n" =
      .ok { defaultStack := .b, verbose := true } ∧
    ofData ⟨.collection 0, [(0, .mapping [(.text "default_stack", .scalar (.text " b ")),
      (.text "verbose", .scalar (.boolean true))])]⟩ =
        .ok { defaultStack := .b, verbose := true } := by
  have hload : Yaml.load .standard "verbose: yes\ndefault_stack: ' b '\n" = .ok ⟨.collection 0,
    [(0, .mapping
      [(.text "verbose", .scalar (.boolean true)),
        (.text "default_stack", .scalar (.text " b "))])]⟩ := by
    decide +kernel
  obtain ⟨-, -, hmapping, -, htext⟩ := settings_of_data ⟨.collection 0, [(0, .mapping
    [(.text "verbose", .scalar (.boolean true)), (.text "default_stack", .scalar (.text " b "))])]⟩
  obtain ⟨hof, hfields⟩ := htext _ _ hload
  obtain ⟨-, hgives, -, horder⟩ := hmapping _ (hfields
    [("verbose", .scalar (.boolean true)), ("default_stack", .scalar (.text " b "))] rfl)
  have hconfig := (hgives { defaultStack := .b, verbose := true }).mpr
    { known := by simp [AreKnown, fieldNames, switches, stackField]
      defaultStack := .inl ⟨_, by simp, " b ", rfl, by decide⟩
      emitLabels := .inr (by simp)
      reportUnknown := .inr (by simp)
      verbose := .inl ⟨_, by simp, rfl⟩ }
  refine ⟨(settings_of_data _).1 rfl, (settings_of_data _).2.1 (by decide) nofun, hload,
    hof.trans hconfig, ?_⟩
  exact horder _ [("default_stack", .scalar (.text " b ")), ("verbose", .scalar (.boolean true))] _
    ⟨rfl, by decide⟩ (List.Perm.swap ..) hconfig

end Claw.Config
