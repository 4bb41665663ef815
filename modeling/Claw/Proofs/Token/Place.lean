import Claw.Proofs.Token.Sequence

/-!
# A line within a run

What a line yields in a run is what its own step yields, at the place that the line has in the run.
`exists_step_of_getElem?` cuts a successful run into the run before the line, the step at the line
and the run behind it.  Every yield knows the index of its line, and the indices of the three parts
do not overlap (`index_mem_of_ofLinesFrom`), so the yields with the index of the line are those of
its step: `yields_filter_index`.  Conversely every yield has its step: `exists_step_of_mem_yields`.

Nothing is in a result that is not in one of its yields: `tokens_of_ofLinesFrom`.
-/

namespace Claw.Tokenization

open Source (Line)

lemma index_of_mem_yields {options : Options} {index position : Nat} {line : Line}
    {result : Tokenization} {yield : LineYield}
    (h : ofLine options index position line = .ok result) (hyield : yield ∈ result.yields) :
    yield.index = index := by
  rcases ofLine_cases h with ⟨rfl, -⟩ | ⟨rfl, -⟩ | ⟨tokens, diagnostics, rfl, -⟩
  · simp [skip, empty] at hyield
  · rw [List.mem_singleton.mp hyield]
  · rw [List.mem_singleton.mp hyield]

lemma index_mem_of_ofLinesFrom {options : Options} {index position : Nat} {lines : List Line}
    {result : Tokenization} {yield : LineYield}
    (h : (ofLinesFrom options index position lines).outcome = .ok result)
    (hyield : yield ∈ result.yields) :
    index ≤ yield.index ∧ yield.index < index + lines.length := by
  induction lines generalizing index position result with
  | nil =>
    obtain rfl := Except.ok.inj h
    simp [empty] at hyield
  | cons line rest ih =>
    obtain ⟨first, second, hfirst, hsecond, rfl⟩ := outcome_ofLinesFrom_cons_eq_ok h
    rw [yields_append, List.mem_append] at hyield
    rw [List.length_cons]
    rcases hyield with hyield | hyield
    · have := index_of_mem_yields hfirst hyield
      omega
    · have := ih hsecond hyield
      omega

/-- **A line in a run.** A successful run is the run over the lines before a line, the step at the
line, and the run over the lines behind it. -/
lemma exists_step_of_getElem? {options : Options} {index position i : Nat} {lines : List Line}
    {line : Line} {result : Tokenization}
    (h : (ofLinesFrom options index position lines).outcome = .ok result)
    (hline : lines[i]? = some line) :
    ∃ front step behind,
      (ofLinesFrom options index position (lines.take i)).outcome = .ok front ∧
      ofLine options (index + i) (position + codeCount front.tokens) line = .ok step ∧
      (ofLinesFrom options (index + i + 1)
        (position + codeCount front.tokens + codeCount step.tokens)
        (lines.drop (i + 1))).outcome = .ok behind ∧
      result = front ++ (step ++ behind) := by
  obtain ⟨hi, hget⟩ := List.getElem?_eq_some_iff.mp hline
  have hcut : lines.take i ++ line :: lines.drop (i + 1) = lines := by
    rw [← hget, List.getElem_cons_drop, List.take_append_drop]
  have htake : (lines.take i).length = i := List.length_take_of_le hi.le
  rw [← hcut] at h
  obtain ⟨front, others, hfront, hothers, rfl⟩ := outcome_ofLinesFrom_append_eq_ok h
  rw [htake] at hothers
  obtain ⟨step, behind, hstep, hbehind, rfl⟩ := outcome_ofLinesFrom_cons_eq_ok hothers
  exact ⟨front, step, behind, hfront, hstep, hbehind, rfl⟩

lemma yields_filter_index {options : Options} {index position i : Nat} {lines : List Line}
    {line : Line} {result : Tokenization}
    (h : (ofLinesFrom options index position lines).outcome = .ok result)
    (hline : lines[i]? = some line) :
    ∃ position' step, ofLine options (index + i) position' line = .ok step ∧
      (result.yields.filter fun yield => yield.index = index + i) = step.yields := by
  obtain ⟨front, step, behind, hfront, hstep, hbehind, rfl⟩ := exists_step_of_getElem? h hline
  refine ⟨_, step, hstep, ?_⟩
  have hnone : front.yields.filter (fun yield => yield.index = index + i) = [] := by
    rw [List.filter_eq_nil_iff]
    intro yield hyield
    have hbounds := index_mem_of_ofLinesFrom hfront hyield
    have htake := List.length_take_le i lines
    simp only [decide_eq_true_eq]
    omega
  have hall : step.yields.filter (fun yield => yield.index = index + i) = step.yields := by
    rw [List.filter_eq_self]
    intro yield hyield
    simpa using index_of_mem_yields hstep hyield
  have hnone' : behind.yields.filter (fun yield => yield.index = index + i) = [] := by
    rw [List.filter_eq_nil_iff]
    intro yield hyield
    have hbounds := index_mem_of_ofLinesFrom hbehind hyield
    simp only [decide_eq_true_eq]
    omega
  rw [yields_append, yields_append, List.filter_append, List.filter_append, hnone, hall, hnone',
    List.nil_append, List.append_nil]

/-- **Every yield has its step.** A yield of a run is that of the step at the line with its index. -/
lemma exists_step_of_mem_yields {options : Options} {index position : Nat} {lines : List Line}
    {result : Tokenization} {yield : LineYield}
    (h : (ofLinesFrom options index position lines).outcome = .ok result)
    (hyield : yield ∈ result.yields) :
    ∃ i line position' step, yield.index = index + i ∧ lines[i]? = some line ∧
      ofLine options yield.index position' line = .ok step ∧ yield ∈ step.yields := by
  obtain ⟨hfrom, hto⟩ := index_mem_of_ofLinesFrom h hyield
  obtain ⟨i, hi⟩ := Nat.exists_eq_add_of_le hfrom
  have hline : lines[i]? = some lines[i] := List.getElem?_eq_getElem (by omega)
  obtain ⟨position', step, hstep, hfilter⟩ := yields_filter_index h hline
  rw [← hi] at hstep hfilter
  refine ⟨i, lines[i], position', step, hi, hline, hstep, ?_⟩
  rw [← hfilter, List.mem_filter]
  exact ⟨hyield, by simp⟩

/-! ## What the yields hold -/

lemma tokens_of_ofLine {options : Options} {index position : Nat} {line : Line}
    {result : Tokenization} (h : ofLine options index position line = .ok result) :
    result.tokens = result.yields.flatMap LineYield.tokens ∧
      result.diagnostics = result.yields.flatMap LineYield.diagnostics := by
  rcases ofLine_cases h with ⟨rfl, -⟩ | ⟨rfl, -⟩ | ⟨tokens, diagnostics, rfl, -⟩
  · exact ⟨rfl, rfl⟩
  · exact ⟨rfl, rfl⟩
  · exact ⟨rfl, rfl⟩

/-- The tokens and diagnostics of a result are those of its yields. -/
lemma tokens_of_ofLinesFrom {options : Options} {index position : Nat} {lines : List Line}
    {result : Tokenization}
    (h : (ofLinesFrom options index position lines).outcome = .ok result) :
    result.tokens = result.yields.flatMap LineYield.tokens ∧
      result.diagnostics = result.yields.flatMap LineYield.diagnostics := by
  induction lines generalizing index position result with
  | nil =>
    obtain rfl := Except.ok.inj h
    exact ⟨rfl, rfl⟩
  | cons line rest ih =>
    obtain ⟨first, second, hfirst, hsecond, rfl⟩ := outcome_ofLinesFrom_cons_eq_ok h
    obtain ⟨htokens, hdiagnostics⟩ := tokens_of_ofLine hfirst
    obtain ⟨htokens', hdiagnostics'⟩ := ih hsecond
    rw [tokens_append, diagnostics_append, yields_append, List.flatMap_append,
      List.flatMap_append, htokens, hdiagnostics, htokens', hdiagnostics']
    exact ⟨rfl, rfl⟩

end Claw.Tokenization
