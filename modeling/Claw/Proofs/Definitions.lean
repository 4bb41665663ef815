import Claw.Proofs.Pattern.Overlap
import Claw.Proofs.Recording
import Claw.Proofs.Session

/-!
# What directives do, and that they do nothing else

A `#define` or `#undef` line goes on record and has no other effect.

* `IsWritten`: how directives are written.  It is said in terms of the parts of a line, and
  `directive?_eq_some_iff` shows that the directive of a line is the one that is written there;
* `DefinesLast`: a name has a value if the last line that is about the name defines it so.  The
  record is kept from the front, so `value?_definitions_iff` goes by induction from the other end:
  `value?_apply` says what one more directive changes, `definesLast_concat` what one more line does;
* `Line.withoutDirective`: the line, or an empty line instead of a directive.  Whatever the options,
  the one yields what the other yields, because no option makes a tokenizer stop at a directive
  (`ofLine_of_isDirective`).

The results are put together in `definitions_last_wins`.
-/

namespace Claw

open Source (Line)

namespace Source

open Text (isGap)

/-! ## Directives as they are written -/

/-- The value that a name is given by the text behind it. -/
def valueBehind (rest : List Char) : List Char :=
  if rest.head?.any isGap then Text.trim rest else []

/-- The text is the directive, written as a keyword in any case, a gap and a whole name; what is
behind the name is the value of a definition if another gap sets it off. -/
inductive IsWritten : List Char → Directive → Prop
  | define {keyword gap name rest : List Char}
      (hkeyword : keyword.map Char.toLower = "#define".toList) (hgap : IsGapText gap)
      (hname : IsWholeWord name rest) :
      IsWritten (keyword ++ (gap ++ (name ++ rest)))
        (.define (String.ofList name) (String.ofList (valueBehind rest)))
  | undefine {keyword gap name rest : List Char}
      (hkeyword : keyword.map Char.toLower = "#undef".toList ∨
        keyword.map Char.toLower = "#undefine".toList)
      (hgap : IsGapText gap) (hname : IsWholeWord name rest) :
      IsWritten (keyword ++ (gap ++ (name ++ rest))) (.undefine (String.ofList name))

lemma definedValue_eq {rest : List Char} (h : '\n' ∉ rest) :
    definedValue rest = valueBehind rest := by
  cases rest with
  | nil => rfl
  | cons c cs =>
    have hline : cs.takeWhile (· != '\n') = cs := by
      rw [List.takeWhile_eq_self_iff]
      intro d hd
      simpa using ne_of_mem_of_not_mem (List.mem_cons_of_mem c hd) h
    rw [definedValue, valueBehind, hline, List.head?_cons, Option.any_some]
    by_cases hgap : isGap c = true
    · have hblank : Text.isBlank c = true := by
        rcases (Bool.or_eq_true _ _).mp hgap with hc | hc <;> obtain rfl := beq_iff_eq.mp hc <;> rfl
      rw [if_pos hgap, if_pos hgap, Text.trim_cons hblank]
    · rw [if_neg hgap, if_neg hgap]

/-- **The directive of a line** is the one that is written there. -/
lemma directive?_eq_some_iff {cs : List Char} (h : '\n' ∉ cs) {directive : Directive} :
    directive? cs = some directive ↔ IsWritten cs directive := by
  constructor
  · intro hdirective
    rw [directive?, Option.orElse_eq_some] at hdirective
    rcases hdirective with hdefine | ⟨-, hundefine⟩
    · obtain ⟨keyword, behind, name, rest, hkeyword, rfl, hword, rfl⟩ :=
        defineDirective?_eq_some_iff.mp hdefine
      obtain ⟨hname, gap, hgap, rfl⟩ := gapWord?_eq_some_iff.mp hword
      rw [definedValue_eq fun hmem => h (by simp [hmem])]
      exact .define hkeyword hgap hname
    · obtain ⟨keyword, ending, behind, name, rest, hkeyword, hending, rfl, hword, rfl⟩ :=
        undefineDirective?_eq_some_iff.mp hundefine
      obtain ⟨hname, gap, hgap, rfl⟩ := gapWord?_eq_some_iff.mp hword
      rw [← List.append_assoc]
      refine .undefine ?_ hgap hname
      rcases hending with rfl | hending
      · exact .inl (by rw [List.append_nil, hkeyword])
      · exact .inr (by rw [List.map_append, hkeyword, hending]; rfl)
  · rintro (@⟨keyword, gap, name, rest, hkeyword, hgap, hname⟩ |
      @⟨keyword, gap, name, rest, hkeyword, hgap, hname⟩)
    · have hword := gapWord?_eq_some_iff.mpr ⟨hname, gap, hgap, rfl⟩
      have hdefine := defineDirective?_eq_some_iff.mpr
        ⟨keyword, _, name, rest, hkeyword, rfl, hword, rfl⟩
      rw [directive?, hdefine, definedValue_eq fun hmem => h (by simp [hmem])]
      rfl
    · have hword := gapWord?_eq_some_iff.mpr ⟨hname, gap, hgap, rfl⟩
      have hundefine : undefineDirective? (keyword ++ (gap ++ (name ++ rest))) =
          some (.undefine (String.ofList name)) := by
        rw [undefineDirective?_eq_some_iff]
        rcases hkeyword with hkeyword | hkeyword
        · exact ⟨keyword, [], _, name, rest, hkeyword, .inl rfl, rfl, hword, rfl⟩
        · have hparts : keyword.map Char.toLower = "#undef".toList ++ "ine".toList := hkeyword
          obtain ⟨front, ending, rfl, hfront, hending⟩ := List.map_eq_append_iff.mp hparts
          exact ⟨front, ending, _, name, rest, hfront, .inr hending, List.append_assoc _ _ _,
            hword, rfl⟩
      have hdefine : defineDirective? (keyword ++ (gap ++ (name ++ rest))) = none := by
        rw [← Option.not_isSome_iff_eq_none]
        intro hdefine
        have hnone := undefineDirective?_of_define hdefine
        rw [hundefine] at hnone
        cases hnone
      rw [directive?, hdefine, hundefine]
      rfl

/-! ## The record -/

namespace Directive

/-- The name that the directive is about. -/
def name : Directive → String
  | .define name _ => name
  | .undefine name => name

/-- The value that the directive leaves its name with. -/
def value? : Directive → Option String
  | .define _ value => some value
  | .undefine _ => none

lemma eq_define_iff {directive : Directive} {name value : String} :
    directive = .define name value ↔ name = directive.name ∧ directive.value? = some value := by
  cases directive with
  | define name' value' => simp [Directive.name, value?, eq_comm]
  | undefine name' => simp [value?]

end Directive

namespace Definitions

lemma lookup_cons_eq_ite (key kept other : String) (entries : List (String × String)) :
    ((key, kept) :: entries).lookup other =
      if other = key then some kept else entries.lookup other := by
  rw [List.lookup_cons]
  by_cases h : other = key
  · simp [h]
  · simp [h, beq_eq_false_iff_ne.mpr h]

lemma lookup_insertEntry (name value other : String) (entries : List (String × String)) :
    (insertEntry name value entries).lookup other =
      if other = name then some value else entries.lookup other := by
  induction entries with
  | nil => exact lookup_cons_eq_ite name value other []
  | cons entry rest ih =>
    obtain ⟨key, kept⟩ := entry
    rw [insertEntry]
    split
    · next hsame =>
      obtain rfl : name = key := hsame
      rw [lookup_cons_eq_ite, lookup_cons_eq_ite]
      split
      · rfl
      · rfl
    · next hdifferent =>
      split
      · rw [lookup_cons_eq_ite]
      · rw [lookup_cons_eq_ite, ih, lookup_cons_eq_ite]
        by_cases hother : other = key
        · subst hother
          rw [if_pos rfl, if_pos rfl, if_neg (Ne.symm hdifferent)]
        · rw [if_neg hother, if_neg hother]

lemma lookup_filter_ne (name other : String) (entries : List (String × String)) :
    (entries.filter (·.1 != name)).lookup other =
      if other = name then none else entries.lookup other := by
  induction entries with
  | nil => simp
  | cons entry rest ih =>
    obtain ⟨key, kept⟩ := entry
    by_cases hkey : key = name
    · subst hkey
      rw [List.filter_cons_of_neg (by simp), ih, lookup_cons_eq_ite]
      split
      · rfl
      · rfl
    · rw [List.filter_cons_of_pos (by simpa using hkey), lookup_cons_eq_ite, ih,
        lookup_cons_eq_ite]
      by_cases hother : other = key
      · subst hother
        rw [if_pos rfl, if_pos rfl, if_neg hkey]
      · rw [if_neg hother, if_neg hother]

/-- **One directive** decides about its own name and leaves the other ones alone. -/
lemma value?_apply (record : Definitions) (directive : Directive) (name : String) :
    (record.apply directive).value? name =
      if name = directive.name then directive.value? else record.value? name := by
  cases directive with
  | define about value => exact lookup_insertEntry about value name record.entries
  | undefine about => exact lookup_filter_ne about name record.entries

end Definitions

/-- The last of the lines that is about the name defines it with the value. -/
def DefinesLast (lines : List Line) (name value : String) : Prop :=
  ∃ front line behind, lines = front ++ line :: behind ∧
    IsWritten line.content.toList (.define name value) ∧
    ∀ other ∈ behind, ∀ directive, IsWritten other.content.toList directive →
      directive.name ≠ name

lemma definesLast_concat {lines : List Line} {last : Line} {name value : String} :
    DefinesLast (lines ++ [last]) name value ↔
      IsWritten last.content.toList (.define name value) ∨
        (∀ directive, IsWritten last.content.toList directive → directive.name ≠ name) ∧
          DefinesLast lines name value := by
  constructor
  · rintro ⟨front, line, behind, hlines, hline, hbehind⟩
    rcases List.eq_nil_or_concat behind with rfl | ⟨before, other, rfl⟩
    · obtain ⟨-, rfl⟩ := List.append_singleton_inj.mp hlines
      exact .inl hline
    · rw [List.concat_eq_append] at hlines hbehind
      rw [← List.cons_append, ← List.append_assoc] at hlines
      obtain ⟨rfl, rfl⟩ := List.append_singleton_inj.mp hlines
      obtain ⟨hbefore, hother⟩ := List.forall_mem_append.mp hbehind
      exact .inr ⟨hother last List.mem_cons_self, front, line, before, rfl, hline, hbefore⟩
  · rintro (hlast | ⟨hlast, front, line, behind, rfl, hline, hbehind⟩)
    · exact ⟨lines, last, [], rfl, hlast, by simp⟩
    · refine ⟨front, line, behind ++ [last], by simp, hline, ?_⟩
      exact List.forall_mem_append.mpr ⟨hbehind, by simpa using hlast⟩

lemma definitions_concat (lines : List Line) (last : Line) :
    definitions (lines ++ [last]) =
      match directive? last.content.toList with
      | some directive => (definitions lines).apply directive
      | none => definitions lines := by
  rw [definitions, directives, List.filterMap_append, List.foldl_append]
  cases hdirective : directive? last.content.toList with
  | none => simp [hdirective, definitions, directives]
  | some directive => simp [hdirective, definitions, directives]

/-- **The last line about a name** says whether it has a value and which. -/
lemma value?_definitions_iff {lines : List Line} (h : ∀ line ∈ lines, '\n' ∉ line.content.toList)
    (name value : String) :
    (definitions lines).value? name = some value ↔ DefinesLast lines name value := by
  -- the last line is the one that decides, so it comes off first
  induction lines using List.reverseRecOn with
  | nil => simp [definitions, directives, Definitions.empty, Definitions.value?, DefinesLast]
  | append_singleton lines last ih =>
    obtain ⟨hlines, hlast⟩ := List.forall_mem_append.mp h
    have hwritten := @directive?_eq_some_iff _ (hlast last List.mem_cons_self)
    rw [definitions_concat, definesLast_concat, ← ih hlines]
    simp only [← hwritten]
    cases directive? last.content.toList with
    | none => simp
    | some directive =>
      simp only [Definitions.value?_apply, Option.some.injEq, Directive.eq_define_iff,
        forall_eq']
      by_cases hname : name = directive.name
      · simp [hname]
      · simp [hname, Ne.symm hname]

/-! ## Lines without directives -/

namespace Line

/-- An empty line in the place of the line. -/
def emptied (line : Line) : Line :=
  .ofContent line.file line.number ""

lemma emptied_eq_empty (line : Line) :
    line.emptied.category = .empty ∧ line.emptied.processed = true :=
  ⟨rfl, rfl⟩

/-- The line, or an empty one if it is a directive. -/
def withoutDirective (line : Line) : Line :=
  if isDirective line.content then line.emptied else line

end Line

end Source

namespace Tokenization

/-- What lines yield, apart from the lines that are passed on. -/
def yielded (result : Tokenization) : List Token × List Diagnostic × List LineYield :=
  (result.tokens, result.diagnostics, result.yields)

/-- Nothing comes of a directive, not even where lines of unknown category are reported. -/
lemma ofLine_of_isDirective {line : Line} (hdirective : Source.isDirective line.content = true)
    (hcategory : line.category = .unknown) (options : Options) (index position : Nat) :
    ofLine options index position line = .ok (empty.skip line) := by
  have hreported : isReported options line = false := by simp [isReported, hdirective]
  rw [ofLine, if_pos hcategory, hreported]
  simp

lemma ofLine_emptied (line : Line) (options : Options) (index position : Nat) :
    ofLine options index position line.emptied = .ok (empty.skip line.emptied) :=
  if_pos line.emptied_eq_empty.2

/-- What comes behind is all that counts, when equal amounts are put in front. -/
lemma map_yielded_append {ε : Type} {first first' : Tokenization} {x y : Except ε Tokenization}
    (hfirst : first.yielded = first'.yielded) (h : x.map yielded = y.map yielded) :
    (x.map (first ++ ·)).map yielded = (y.map (first' ++ ·)).map yielded := by
  cases x <;> cases y <;> simp_all [Except.map, yielded]

/-- **Directives are inert.** Empty lines in their place yield the same, whatever the options. -/
lemma outcome_ofLinesFrom_withoutDirective {lines : List Line}
    (h : ∀ line ∈ lines, Source.isDirective line.content = true → line.category = .unknown)
    (options : Options) (index position : Nat) :
    (ofLinesFrom options index position (lines.map Line.withoutDirective)).outcome.map yielded =
      (ofLinesFrom options index position lines).outcome.map yielded := by
  induction lines generalizing index position with
  | nil => rfl
  | cons line rest ih =>
    obtain ⟨hline, hrest⟩ := List.forall_mem_cons.mp h
    rw [List.map_cons, outcome_ofLinesFrom_cons, outcome_ofLinesFrom_cons, Line.withoutDirective]
    by_cases hdirective : Source.isDirective line.content = true
    · rw [if_pos hdirective, ofLine_emptied, ofLine_of_isDirective hdirective (hline hdirective)]
      exact map_yielded_append rfl (ih hrest _ _)
    · rw [if_neg hdirective]
      cases ofLine options index position line with
      | error fault => rfl
      | ok first => exact map_yielded_append rfl (ih hrest _ _)

end Tokenization

namespace Source

/-- **Directives.** Whatever a recorder has read before, behind a text it has a value for a name just
if the last line of the text that is about the name defines it, and then this one.  All directives
are of unknown category; with empty lines in their place, every tokenizer gives the same tokens, the
same diagnostics and the same yields, or fails in the same way. -/
theorem definitions_last_wins (recorder : Recorder) (text file : String) :
    ∃ lines, (recorder.read text file).2.outcome = .ok lines ∧
      (∀ line ∈ lines, isDirective line.content = true ↔
        ∃ directive, IsWritten line.content.toList directive) ∧
      (∀ name value, (recorder.read text file).1.definitions.value? name = some value ↔
        DefinesLast lines name value) ∧
      (∀ line ∈ lines, isDirective line.content = true → line.category = .unknown) ∧
      ∀ tokenizer : Tokenizer,
        (tokenizer.tokenize (lines.map Line.withoutDirective)).2.outcome.map Tokenization.yielded =
          (tokenizer.tokenize lines).2.outcome.map Tokenization.yielded := by
  have hbreak : ∀ line ∈ read text file, '\n' ∉ line.content.toList := by
    intro line hline
    obtain ⟨place, hplace⟩ := List.mem_iff_getElem?.mp hline
    exact (isRead_of_getElem? hplace).isClean.no_break
  have hunknown : ∀ line ∈ read text file, isDirective line.content = true →
      line.category = .unknown := by
    intro line hline hdirective
    obtain ⟨number, content, rfl⟩ := exists_eq_ofContent_of_mem hline
    exact categoryOf_of_isDirective hdirective
  refine ⟨read text file, by rw [recorder.read_eq], fun line hline => ?_, fun name value => ?_,
    hunknown, fun tokenizer => ?_⟩
  · rw [isDirective, Option.isSome_iff_exists]
    exact exists_congr fun directive => directive?_eq_some_iff (hbreak line hline)
  · rw [recorder.read_eq]
    exact value?_definitions_iff hbreak name value
  · rw [Tokenizer.outcome_tokenize, Tokenizer.outcome_tokenize, Tokenization.outcome_ofLines,
      Tokenization.outcome_ofLines]
    exact Tokenization.outcome_ofLinesFrom_withoutDirective hunknown _ _ _

/-- A definition that replaces another one, with a data directive as its value. -/
theorem definitions_last_wins_data :
    ∃ lines,
      (Recorder.new.read "#define A 1\n#undefine b ; b\n#DEFINE A\t.DB8(1)" "main.claw").2.outcome =
        .ok lines ∧
      DefinesLast lines "A" ".DB8(1)" ∧ ∃ line ∈ lines, line.category = .unknown := by
  obtain ⟨lines, hread, hwritten, hvalue, hunknown, -⟩ :=
    definitions_last_wins Recorder.new "#define A 1\n#undefine b ; b\n#DEFINE A\t.DB8(1)" "main.claw"
  have hlast : DefinesLast lines "A" ".DB8(1)" := by
    rw [← hvalue]
    decide +kernel
  obtain ⟨front, line, behind, hlines, hline, -⟩ := id hlast
  have hmem : line ∈ lines := by simp [hlines]
  exact ⟨lines, hread, hlast, line, hmem, hunknown line hmem ((hwritten line hmem).mpr ⟨_, hline⟩)⟩

end Source

end Claw
