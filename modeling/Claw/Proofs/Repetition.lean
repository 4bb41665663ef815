import Claw.Proofs.Correspondence
import Claw.Proofs.Session

/-!
# Tokenizing again

A result holds its lines marked with what was done about them, so that they can be tokenized again.
What comes of that is the `remainder` of the result: a line that was handled is done with, even if
all that it gave was diagnostics, and gives nothing any more; a line of unknown category is not done
with, and is reported again if such lines are reported.

* `ofLine_afterRun` is the step law: the step at a line as a run leaves it gives the remainder of the
  step at the line.
* `outcome_ofLinesFrom_afterRun` is the run law.  Another pass comes to a line behind fewer values
  and instructions, but this is of no account for lines as a run leaves them.
* `retokenize_of_outcome`: the lines of the remainder are those of the result, so that all further
  passes go over the same lines.

`tokenize_again` puts this together for any number of passes of a tokenizer.
-/

namespace Claw

open Numeral (TooManyDigits)
open Source (Line)

/-- Whether the diagnostic is about a line of unknown category. -/
def Diagnostic.isAboutUnknown (diagnostic : Diagnostic) : Bool :=
  diagnostic.kind == .unclassifiedLine

/-- Whether a diagnostic of the yield is about a line of unknown category. -/
def LineYield.isAboutUnknown (yield : LineYield) : Bool :=
  yield.diagnostics.any Diagnostic.isAboutUnknown

namespace Tokenization

/-- What is left of a result when its lines are tokenized again: no tokens, the same lines, and the
diagnostics about lines of unknown category with the yields that hold them. -/
def remainder (result : Tokenization) : Tokenization where
  tokens := []
  lines := result.lines
  diagnostics := result.diagnostics.filter Diagnostic.isAboutUnknown
  yields := result.yields.filter LineYield.isAboutUnknown

lemma remainder_append (front behind : Tokenization) :
    (front ++ behind).remainder = front.remainder ++ behind.remainder := by
  show remainder (append front behind) = append _ _
  simp only [remainder, append, List.filter_append, List.append_nil]

/-! ## Lines as a run leaves them -/

variable {options : Options} {index position : Nat}

lemma remainder_handle {line : Line} {tokens : List Token} {diagnostics : List Diagnostic}
    (h : readLine options position line = .ok (tokens, diagnostics)) :
    (empty.handle index line tokens diagnostics).remainder = empty.skip line.done := by
  have hknown : ∀ diagnostic ∈ diagnostics, diagnostic.isAboutUnknown = false := by
    intro diagnostic hmem
    obtain ⟨kind, message, rfl, hkind⟩ := (mem_readLine h).2 diagnostic hmem
    simpa [Diagnostic.isAboutUnknown, diagnosticAt] using hkind
  have hdiagnostics : diagnostics.filter Diagnostic.isAboutUnknown = [] := by
    rw [List.filter_eq_nil_iff]
    intro diagnostic hmem
    simp [hknown diagnostic hmem]
  have hyield : LineYield.isAboutUnknown ⟨index, tokens, diagnostics⟩ = false := by
    rw [LineYield.isAboutUnknown, List.any_eq_false]
    intro diagnostic hmem
    simp [hknown diagnostic hmem]
  simp only [remainder, handle, skip, empty, List.append_nil, hdiagnostics,
    List.filter_cons_of_neg (ne_true_of_eq_false hyield), List.filter_nil]

/-- **The step law.** The step at a line as a run leaves it gives what is left of the step at the
line, whatever comes before it this time. -/
lemma ofLine_afterRun {line : Line} {step : Tokenization}
    (h : ofLine options index position line = .ok step) (position' : Nat) :
    ofLine options index position' line.afterRun = .ok step.remainder := by
  rcases ofLine_cases h with ⟨rfl, hskip⟩ | ⟨rfl, hprocessed, hunknown, hreported⟩ |
    ⟨tokens, diagnostics, rfl, hprocessed, hknown, hread⟩
  · rw [Line.afterRun_eq_self (hskip.imp_right And.left)]
    have hremainder : (empty.skip line).remainder = empty.skip line := rfl
    rcases hskip with hdone | ⟨hunknown, hreported⟩
    · rw [ofLine, if_pos hdone, hremainder]
    · rw [ofLine, hremainder, hreported]
      simp [hunknown]
  · rw [Line.afterRun_eq_self (.inr hunknown), ofLine, if_neg (by simp [hprocessed]),
      if_pos hunknown, if_pos hreported]
    rfl
  · have hdone : line.done.processed = true := rfl
    rw [remainder_handle hread, Line.afterRun_eq_done hknown, ofLine, if_pos hdone]

/-- **The run law.** A run over the lines that another run has left gives what is left of the result
of that run. -/
lemma outcome_ofLinesFrom_afterRun {lines : List Line} {result : Tokenization}
    (h : (ofLinesFrom options index position lines).outcome = .ok result) (position' : Nat) :
    (ofLinesFrom options index position' (lines.map Line.afterRun)).outcome =
      .ok result.remainder := by
  induction lines generalizing index position position' result with
  | nil =>
    obtain rfl := Except.ok.inj h
    rfl
  | cons line rest ih =>
    obtain ⟨first, second, hfirst, hsecond, rfl⟩ := outcome_ofLinesFrom_cons_eq_ok h
    rw [List.map_cons, outcome_ofLinesFrom_cons, ofLine_afterRun hfirst, remainder_append]
    simp only [Except.bind, ih hsecond, Except.map]

lemma remainder_of_not_reported {lines : List Line} {result : Tokenization}
    (h : (ofLinesFrom options index position lines).outcome = .ok result)
    (hsilent : options.reportUnknown = false) :
    result.remainder.diagnostics = [] ∧ result.remainder.yields = [] := by
  induction lines generalizing index position result with
  | nil =>
    obtain rfl := Except.ok.inj h
    exact ⟨rfl, rfl⟩
  | cons line rest ih =>
    obtain ⟨first, second, hfirst, hsecond, rfl⟩ := outcome_ofLinesFrom_cons_eq_ok h
    obtain ⟨hdiagnostics, hyields⟩ := ih hsecond
    have hstep : first.remainder.diagnostics = [] ∧ first.remainder.yields = [] := by
      rcases ofLine_cases hfirst with ⟨rfl, -⟩ | ⟨-, -, -, hreported⟩ |
        ⟨tokens, diagnostics, rfl, -, -, hread⟩
      · exact ⟨rfl, rfl⟩
      · simp [isReported, hsilent] at hreported
      · rw [remainder_handle hread]
        exact ⟨rfl, rfl⟩
    rw [remainder_append, diagnostics_append, yields_append, hstep.1, hstep.2, hdiagnostics,
      hyields]
    exact ⟨rfl, rfl⟩

end Tokenization

/-! ## Passes -/

namespace Tokenizer

/-- What a tokenizer gives in the end when it tokenizes the lines of a result, then the lines of what
it gave for them, and so on. -/
def retokenize (tokenizer : Tokenizer) : Nat → Tokenization → Except TooManyDigits Tokenization
  | 0, result => .ok result
  | passes + 1, result =>
    let (after, trace) := tokenizer.tokenize result.lines
    trace.outcome.bind (after.retokenize passes)

/-- A result that another pass gives back is what any number of passes gives. -/
lemma retokenize_of_outcome {tokenizer : Tokenizer} {result : Tokenization}
    (h : (Tokenization.ofLines tokenizer.options result.lines).outcome = .ok result)
    (passes : Nat) : tokenizer.retokenize passes result = .ok result := by
  induction passes generalizing tokenizer with
  | zero => rfl
  | succ passes ih =>
    have houtcome := (tokenizer.outcome_tokenize result.lines).trans h
    simp only [retokenize, houtcome, Except.bind]
    exact ih (by rwa [options_tokenize])

/-- **Tokenizing again adds nothing.** After a result, any tokenizer with the same options gives what
is left of the result for its lines, and goes on giving it, however often it goes over what it has
given: the same lines, no tokens, and the diagnostics about lines of unknown category with their
yields.  Where such lines are not reported, no diagnostic and no yield is left. -/
theorem tokenize_again (tokenizer : Tokenizer) (lines : List Line) (result : Tokenization)
    (h : (tokenizer.tokenize lines).2.outcome = .ok result) :
    (∀ again : Tokenizer, again.options = tokenizer.options →
      ∀ passes, again.retokenize (passes + 1) result = .ok result.remainder) ∧
    (tokenizer.options.reportUnknown = false →
      result.remainder.diagnostics = [] ∧ result.remainder.yields = []) := by
  rw [outcome_tokenize, Tokenization.outcome_ofLines] at h
  have hlines : result.lines = lines.map Line.afterRun := Tokenization.lines_of_ofLinesFrom h
  refine ⟨fun again hoptions passes => ?_, Tokenization.remainder_of_not_reported h⟩
  have hagain : (Tokenization.ofLines again.options result.lines).outcome =
      .ok result.remainder := by
    rw [Tokenization.outcome_ofLines, hoptions, hlines]
    exact Tokenization.outcome_ofLinesFrom_afterRun h 0
  have hrepeated : (again.tokenize result.lines).1.retokenize passes result.remainder =
      .ok result.remainder := by
    refine retokenize_of_outcome ?_ passes
    rw [options_tokenize]
    exact hagain
  simp only [retokenize, outcome_tokenize, hagain, Except.bind, hrepeated]

/-- Three passes over lines of every kind that a hand put together, of which one is of unknown
category and no directive. -/
theorem tokenize_again_mixedLines :
    ∃ result, ((new { reportUnknown := true }).tokenize Tokenization.mixedLines).2.outcome =
        .ok result ∧
      result.tokens.length = 1 ∧ result.diagnostics.length = 2 ∧
      (new { reportUnknown := true }).retokenize 3 result = .ok result.remainder ∧
      result.remainder.yields.map LineYield.index = [3] :=
  ⟨_, rfl, rfl, rfl,
    (tokenize_again (new { reportUnknown := true }) Tokenization.mixedLines _ rfl).1 _ rfl 2, rfl⟩

end Tokenizer

end Claw
