import Claw.Proofs.Token.Line
import Claw.Proofs.Token.Place

/-!
# A result corresponds to its lines

What is proved here holds of any list of lines, whether they were read from a text or put together
by hand: in any categories, borne out by the content or not, and done with or not.

* `IsRecorded` says for which lines a result has a yield, and `yields_of_ofLine` that a step leaves
  one yield for such a line and none for any other.
* `pairwise_index` and `mem_map_index_iff`: the yields of a run stand in the order of their lines,
  one for each line that is recorded.
* `IsPlaced` and `isPlaced_of_mem_yields`: what a line yields carries the place of the line.
* `yieldAt?_eq_some_iff`: looking a yield up by its index finds it; for a line that was handled this
  is what the line yielded (`exists_yieldAt?`).

`result_corresponds` is all of this about whole results, together with what the four parts of a
result have to do with each other.  The files under `Claw/Proofs/Grammar/` consume `exists_yieldAt?`.
-/

namespace Claw

open Source (Line)

/-- Whether a result has a yield for the line: nothing was done about the line before, and it is of a
known category or, on demand, reported for being of none without being a directive. -/
def IsRecorded (options : Options) (line : Line) : Prop :=
  line.processed = false ∧
    (line.category ≠ .unknown ∨
      options.reportUnknown = true ∧ Source.isDirective line.content = false)

/-- Whether all that is in a yield carries the number and the file of the line. -/
def IsPlaced (line : Line) (yield : LineYield) : Prop :=
  (∀ token ∈ yield.tokens, token.line = line.number ∧ token.file = line.file) ∧
    ∀ diagnostic ∈ yield.diagnostics,
      diagnostic.line = line.number ∧ diagnostic.file = line.file

lemma isReported_iff {options : Options} {line : Line} :
    isReported options line = true ↔
      options.reportUnknown = true ∧ Source.isDirective line.content = false := by
  simp [isReported]

namespace Tokenization

variable {options : Options} {index position : Nat} {lines : List Line} {result : Tokenization}

/-! ## One step -/

/-- A step leaves one yield for a line that is recorded, and none for any other. -/
lemma yields_of_ofLine {line : Line} (h : ofLine options index position line = .ok result) :
    (IsRecorded options line ∧
        ∃ tokens diagnostics, result.yields = [⟨index, tokens, diagnostics⟩]) ∨
      ¬IsRecorded options line ∧ result.yields = [] := by
  rcases ofLine_cases h with ⟨rfl, hskip⟩ | ⟨rfl, hprocessed, -, hreported⟩ |
    ⟨tokens, diagnostics, rfl, hprocessed, hcategory, -⟩
  · refine .inr ⟨?_, rfl⟩
    rintro ⟨hprocessed, hknown⟩
    rcases hskip with hdone | ⟨hcategory, hreported⟩
    · cases hprocessed.symm.trans hdone
    · rcases hknown with hknown | hknown
      · exact hknown hcategory
      · cases hreported.symm.trans (isReported_iff.mpr hknown)
  · exact .inl ⟨⟨hprocessed, .inr (isReported_iff.mp hreported)⟩, _, _, rfl⟩
  · exact .inl ⟨⟨hprocessed, .inl hcategory⟩, tokens, diagnostics, rfl⟩

lemma isPlaced_of_ofLine {line : Line} {yield : LineYield}
    (h : ofLine options index position line = .ok result) (hyield : yield ∈ result.yields) :
    IsPlaced line yield := by
  rcases ofLine_cases h with ⟨rfl, -⟩ | ⟨rfl, -⟩ | ⟨tokens, diagnostics, rfl, -, -, hread⟩
  · simp [skip, empty] at hyield
  · obtain rfl := List.mem_singleton.mp hyield
    exact ⟨by simp, List.forall_mem_singleton.mpr ⟨rfl, rfl⟩⟩
  · obtain rfl := List.mem_singleton.mp hyield
    obtain ⟨htokens, hdiagnostics⟩ := mem_readLine hread
    constructor
    · intro token hmem
      obtain ⟨item, rfl⟩ := htokens token hmem
      exact ⟨rfl, rfl⟩
    · intro diagnostic hmem
      obtain ⟨kind, message, rfl, -⟩ := hdiagnostics diagnostic hmem
      exact ⟨rfl, rfl⟩

/-! ## A run -/

/-- **The order of the yields.** The indices of the yields of a run are strictly increasing. -/
lemma pairwise_index (h : (ofLinesFrom options index position lines).outcome = .ok result) :
    (result.yields.map LineYield.index).Pairwise (· < ·) := by
  induction lines generalizing index position result with
  | nil =>
    obtain rfl := Except.ok.inj h
    exact List.Pairwise.nil
  | cons line rest ih =>
    obtain ⟨first, second, hfirst, hsecond, rfl⟩ := outcome_ofLinesFrom_cons_eq_ok h
    rw [yields_append, List.map_append, List.pairwise_append]
    refine ⟨?_, ih hsecond, ?_⟩
    · rcases yields_of_ofLine hfirst with ⟨-, tokens, diagnostics, hyields⟩ | ⟨-, hyields⟩
      · rw [hyields]
        exact List.pairwise_singleton _ _
      · rw [hyields]
        exact List.Pairwise.nil
    · -- the step yields for the line, and the run behind it for later lines
      intro i hi j hj
      obtain ⟨yield, hyield, rfl⟩ := List.mem_map.mp hi
      obtain ⟨yield', hyield', rfl⟩ := List.mem_map.mp hj
      have hhere := index_of_mem_yields hfirst hyield
      have hbehind := index_mem_of_ofLinesFrom hsecond hyield'
      omega

/-- **The lines with a yield.** A run has a yield for every line that is recorded, and for no
other. -/
lemma mem_map_index_iff (h : (ofLinesFrom options 0 position lines).outcome = .ok result)
    (i : Nat) :
    i ∈ result.yields.map LineYield.index ↔
      ∃ line, lines[i]? = some line ∧ IsRecorded options line := by
  constructor
  · intro hi
    obtain ⟨yield, hyield, rfl⟩ := List.mem_map.mp hi
    obtain ⟨i, line, position', step, hindex, hline, hstep, hmem⟩ :=
      exists_step_of_mem_yields h hyield
    rw [Nat.zero_add] at hindex
    rcases yields_of_ofLine hstep with ⟨hrecorded, -⟩ | ⟨-, hnone⟩
    · exact ⟨line, hindex ▸ hline, hrecorded⟩
    · simp [hnone] at hmem
  · rintro ⟨line, hline, hrecorded⟩
    obtain ⟨position', step, hstep, hfilter⟩ := yields_filter_index h hline
    rw [Nat.zero_add] at hstep hfilter
    rcases yields_of_ofLine hstep with ⟨-, tokens, diagnostics, hyields⟩ | ⟨hnot, -⟩
    · have hmem : ⟨i, tokens, diagnostics⟩ ∈ result.yields.filter fun yield => yield.index = i := by
        rw [hfilter, hyields]
        exact List.mem_singleton_self _
      exact List.mem_map.mpr ⟨_, (List.mem_filter.mp hmem).1, rfl⟩
    · exact absurd hrecorded hnot

/-- A yield of a run carries the place of the line with its index. -/
lemma isPlaced_of_mem_yields {yield : LineYield}
    (h : (ofLinesFrom options 0 position lines).outcome = .ok result)
    (hyield : yield ∈ result.yields) :
    ∃ line, lines[yield.index]? = some line ∧ IsPlaced line yield := by
  obtain ⟨i, line, position', step, hindex, hline, hstep, hmem⟩ :=
    exists_step_of_mem_yields h hyield
  rw [Nat.zero_add] at hindex
  exact ⟨line, hindex ▸ hline, isPlaced_of_ofLine hstep hmem⟩

/-! ## Looking a yield up -/

/-- Where no two yields have the same index, a yield is found by its index, and nothing is found by
any other number. -/
lemma yieldAt?_eq_some_iff (h : (result.yields.map LineYield.index).Pairwise (· < ·)) (i : Int)
    (yield : LineYield) :
    result.yieldAt? i = some yield ↔ yield ∈ result.yields ∧ (yield.index : Int) = i := by
  constructor
  · intro hfound
    exact ⟨List.mem_of_find?_eq_some hfound, by simpa using List.find?_some hfound⟩
  · rintro ⟨hmem, rfl⟩
    unfold yieldAt?
    generalize result.yields = yields at h hmem
    induction yields with
    | nil => cases hmem
    | cons first rest ih =>
      rw [List.map_cons, List.pairwise_cons] at h
      rcases List.mem_cons.mp hmem with rfl | hrest
      · simp
      · have hlt : first.index < yield.index := h.1 _ (List.mem_map_of_mem hrest)
        have hne : ((first.index : Int) == yield.index) = false := by
          rw [beq_eq_false_iff_ne]
          omega
        rw [List.find?_cons_of_neg (by simp [hne])]
        exact ih h.2 hrest

/-- **What a line left.** At the index of a line that was handled is what the line yielded. -/
lemma exists_yieldAt? {i : Nat} {line : Line}
    (h : (ofLinesFrom options 0 position lines).outcome = .ok result)
    (hline : lines[i]? = some line) (hprocessed : line.processed = false)
    (hknown : line.category ≠ .unknown) :
    ∃ position' tokens diagnostics, readLine options position' line = .ok (tokens, diagnostics) ∧
      result.yieldAt? i = some ⟨i, tokens, diagnostics⟩ := by
  obtain ⟨position', step, hstep, hfilter⟩ := yields_filter_index h hline
  rw [Nat.zero_add] at hstep hfilter
  rcases ofLine_cases hstep with ⟨-, hpassed | ⟨hunknown, -⟩⟩ | ⟨-, -, hunknown, -⟩ |
    ⟨tokens, diagnostics, rfl, -, -, hread⟩
  · cases hprocessed.symm.trans hpassed
  · exact absurd hunknown hknown
  · exact absurd hunknown hknown
  · have hmem : ⟨i, tokens, diagnostics⟩ ∈ result.yields.filter fun yield => yield.index = i := by
      rw [hfilter]
      exact List.mem_singleton_self _
    refine ⟨position', tokens, diagnostics, hread, ?_⟩
    rw [yieldAt?_eq_some_iff (pairwise_index h)]
    exact ⟨(List.mem_filter.mp hmem).1, rfl⟩

/-! ## Whole results -/

/-- **A result corresponds to its lines.** Its tokens and diagnostics are those of its yields in
order; there is one yield for each line that is recorded, in the order of the lines and for no other
line; the lines come back as they are, but done with unless they are of unknown category; what is in
a yield carries the place of its line; and a yield is found by its index, and by it alone. -/
theorem result_corresponds (options : Options) (lines : List Line) (result : Tokenization)
    (h : (ofLines options lines).outcome = .ok result) :
    (result.tokens = result.yields.flatMap LineYield.tokens ∧
      result.diagnostics = result.yields.flatMap LineYield.diagnostics) ∧
    ((result.yields.map LineYield.index).Pairwise (· < ·) ∧
      ∀ i, i ∈ result.yields.map LineYield.index ↔
        ∃ line, lines[i]? = some line ∧ IsRecorded options line) ∧
    result.lines = lines.map Line.afterRun ∧
    (∀ yield ∈ result.yields, ∃ line, lines[yield.index]? = some line ∧ IsPlaced line yield) ∧
    ∀ (i : Int) (yield : LineYield),
      result.yieldAt? i = some yield ↔ yield ∈ result.yields ∧ (yield.index : Int) = i := by
  rw [outcome_ofLines] at h
  have hordered := pairwise_index h
  exact ⟨tokens_of_ofLinesFrom h, ⟨hordered, mem_map_index_iff h⟩, lines_of_ofLinesFrom h,
    fun yield hyield => isPlaced_of_mem_yields h hyield, yieldAt?_eq_some_iff hordered⟩

/-- Lines of every kind that only a hand puts together: data that is done with, an empty line that
is not, a directive, a line of unknown category, and a label and data whose contents are neither. -/
def mixedLines : List Line :=
  [⟨".DB8(1)", 7, "a", .data, true, by decide⟩,
   ⟨"", 7, "a", .empty, false, by decide⟩,
   ⟨"#define X", -1, "b", .unknown, false, by decide⟩,
   ⟨"???", 0, "b", .unknown, false, by decide⟩,
   ⟨"???", 0, "c", .label, false, by decide⟩,
   ⟨".DB8(1, -)", 4, "c", .data, false, by decide⟩]

/-- The correspondence at lines of every kind. -/
theorem result_corresponds_mixedLines :
    ∃ result, (ofLines { reportUnknown := true } mixedLines).outcome = .ok result ∧
      result.yields.map LineYield.index = [1, 3, 4, 5] ∧
      (result.yields.map LineYield.index).Pairwise (· < ·) ∧
      result.lines = mixedLines.map Line.afterRun :=
  have hcorresponds := result_corresponds { reportUnknown := true } mixedLines _ rfl
  ⟨_, rfl, rfl, hcorresponds.2.1.1, hcorresponds.2.2.1⟩

end Tokenization

end Claw
