import Claw.Proofs.Overlong
import Claw.Proofs.Token.Line
import Claw.Proofs.Token.Sequence
import Claw.Token.Tokenizer

/-!
# Lists of lines one after another

A tokenizer keeps its position from line to line and, when a list ends or cannot be read to its end,
into the next list.  This file shows that the position never reaches a result it does not belong to.

* `LabelsPlaced`: every label says how many values and instructions come before it.
* `Pass.Counted`: the position of a pass is the number of values and instructions so far, and the
  labels so far are placed.  A step keeps this (`counted_of_step`), and so does a run
  (`counted_of_run`).
* `step_cases` and `outcome_run`: a pass adds to its result what `Tokenization.ofLine` and
  `Tokenization.ofLinesFrom` give, so a tokenizer gives what the reader of lines gives.

`Tokenizer.session_eq_fresh` is about any tokenizer, with any past, and any lists of lines, some of
which may fail.
-/

namespace Claw

open Numeral (TooManyDigits)
open Source (Line)

/-! ## The positions of labels -/

/-- Whether every label among the tokens says how many values and instructions come before it, so
many of them before the first token. -/
def LabelsPlaced (before : Nat) (tokens : List Token) : Prop :=
  ∀ k token name position, tokens[k]? = some token → token.item = .label name position →
    position = before + codeCount (tokens.take k)

namespace LabelsPlaced

variable {before : Nat} {tokens front behind : List Token}

lemma of_no_label (h : ∀ token ∈ tokens, token.item.isLabel = false) :
    LabelsPlaced before tokens := by
  intro k token name position htoken hitem
  have hlabel := h token (List.mem_of_getElem? htoken)
  rw [hitem] at hlabel
  cases hlabel

lemma singleton (line : Line) (name : Char) :
    LabelsPlaced before [tokenAt line (.label name before)] := by
  intro k token name' position htoken hitem
  cases k with
  | zero =>
    obtain rfl := Option.some.inj htoken
    cases hitem
    rfl
  | succ k => simp at htoken

lemma append (hfront : LabelsPlaced before front)
    (hbehind : LabelsPlaced (before + codeCount front) behind) :
    LabelsPlaced before (front ++ behind) := by
  intro k token name position htoken hitem
  by_cases hk : k < front.length
  · rw [List.getElem?_append_left hk] at htoken
    rw [List.take_append_of_le_length hk.le]
    exact hfront k token name position htoken hitem
  · obtain ⟨j, rfl⟩ := Nat.exists_eq_add_of_le (Nat.le_of_not_lt hk)
    rw [List.getElem?_append_right (Nat.le_add_right _ _), Nat.add_sub_cancel_left] at htoken
    rw [List.take_length_add_append, codeCount_append, ← Nat.add_assoc]
    exact hbehind j token name position htoken hitem

end LabelsPlaced

/-- A line puts its label behind the values and instructions that come before the line. -/
lemma labelsPlaced_of_readLine {options : Options} {position : Nat} {line : Line}
    {tokens : List Token} {diagnostics : List Diagnostic}
    (h : readLine options position line = .ok (tokens, diagnostics)) :
    LabelsPlaced position tokens := by
  rw [readLine] at h
  split at h
  · refine .of_no_label fun token hmem => ?_
    obtain ⟨datum, rfl⟩ := (mem_dataLine h).1 token hmem
    rfl
  · have hinstructions := (mem_instructionLine options line).1
    rw [Except.ok.inj h] at hinstructions
    refine .of_no_label fun token hmem => ?_
    obtain ⟨operation, input, output, rfl⟩ := hinstructions token hmem
    rfl
  · obtain ⟨rfl, rfl⟩ := Prod.mk.inj (Except.ok.inj h)
    rcases labelLine_cases options position line with hnone | ⟨name, hlabel⟩
    · rw [hnone]
      exact .of_no_label (by simp)
    · rw [hlabel]
      exact .singleton line name
  · obtain ⟨rfl, rfl⟩ := Prod.mk.inj (Except.ok.inj h)
    exact .of_no_label (by simp)
  · obtain ⟨rfl, rfl⟩ := Prod.mk.inj (Except.ok.inj h)
    exact .of_no_label (by simp)

lemma labelsPlaced_of_ofLine {options : Options} {index position : Nat} {line : Line}
    {first : Tokenization} (h : Tokenization.ofLine options index position line = .ok first) :
    LabelsPlaced position first.tokens := by
  rcases Tokenization.ofLine_cases h with ⟨rfl, -⟩ | ⟨rfl, -⟩ |
    ⟨tokens, diagnostics, rfl, -, -, hread⟩
  · exact .of_no_label (by simp [Tokenization.skip, Tokenization.empty])
  · exact .of_no_label (by simp [Tokenization.reject, Tokenization.empty])
  · have htokens : (Tokenization.empty.handle index line tokens diagnostics).tokens = tokens :=
      List.append_nil tokens
    rw [htokens]
    exact labelsPlaced_of_readLine hread

namespace Pass

/-! ## One step of a pass -/

lemma result_skip (pass : Pass) (line : Line) :
    (pass.skip line).result = pass.result ++ Tokenization.empty.skip line := by
  show _ = Tokenization.append _ _
  simp only [skip, Tokenization.append, Tokenization.skip, Tokenization.empty, List.append_nil]

lemma result_reject (pass : Pass) (line : Line) (diagnostic : Diagnostic) :
    (pass.reject line diagnostic).result =
      pass.result ++ Tokenization.empty.reject pass.index line diagnostic := by
  show _ = Tokenization.append _ _
  simp only [reject, Tokenization.append, Tokenization.reject, Tokenization.empty,
    List.append_nil]

lemma result_handle (pass : Pass) (line : Line) (tokens : List Token)
    (diagnostics : List Diagnostic) :
    (pass.handle line tokens diagnostics).result =
      pass.result ++ Tokenization.empty.handle pass.index line tokens diagnostics := by
  show _ = Tokenization.append _ _
  simp only [handle, Tokenization.append, Tokenization.handle, Tokenization.empty,
    List.append_nil]

/-- **What a step of a pass does.** It fails where the reading of the line fails, and otherwise puts
what the line gives at its place behind what there is, and moves the place on. -/
lemma step_cases (pass : Pass) (line : Line) :
    (∃ failure, pass.step line = .error failure ∧
      Tokenization.ofLine pass.tokenizer.options pass.index pass.tokenizer.position line =
        .error failure) ∨
    ∃ next first, pass.step line = .ok next ∧
      Tokenization.ofLine pass.tokenizer.options pass.index pass.tokenizer.position line =
        .ok first ∧
      next.tokenizer.options = pass.tokenizer.options ∧
      next.tokenizer.position = pass.tokenizer.position + codeCount first.tokens ∧
      next.index = pass.index + 1 ∧ next.result = pass.result ++ first := by
  unfold step Tokenization.ofLine
  split
  · exact .inr ⟨_, _, rfl, rfl, rfl, rfl, rfl, pass.result_skip line⟩
  · split
    · split
      · exact .inr ⟨_, _, rfl, rfl, rfl, rfl, rfl, pass.result_reject line _⟩
      · exact .inr ⟨_, _, rfl, rfl, rfl, rfl, rfl, pass.result_skip line⟩
    · cases readLine pass.tokenizer.options pass.tokenizer.position line with
      | error failure => exact .inl ⟨failure, rfl, rfl⟩
      | ok yielded =>
        obtain ⟨tokens, diagnostics⟩ := yielded
        refine .inr ⟨_, _, rfl, rfl, rfl, ?_, rfl, pass.result_handle line tokens diagnostics⟩
        have htokens : (Tokenization.empty.handle pass.index line tokens diagnostics).tokens =
            tokens := List.append_nil tokens
        rw [htokens]
        rfl

/-- The position of a pass counts the values and instructions so far, and the labels so far say how
many of them come before. -/
structure Counted (pass : Pass) : Prop where
  position_eq : pass.tokenizer.position = codeCount pass.result.tokens
  placed : LabelsPlaced 0 pass.result.tokens

lemma counted_start (tokenizer : Tokenizer) : (start tokenizer).Counted where
  position_eq := rfl
  placed := .of_no_label (by simp [start, Tokenization.empty])

lemma counted_of_step {pass next : Pass} {line : Line} (hcounted : pass.Counted)
    (h : pass.step line = .ok next) : next.Counted := by
  rcases pass.step_cases line with ⟨failure, hstep, -⟩ |
    ⟨next', first, hstep, hfirst, -, hposition, -, hresult⟩
  · cases hstep.symm.trans h
  · obtain rfl := Except.ok.inj (hstep.symm.trans h)
    have hplaced := labelsPlaced_of_ofLine hfirst
    rw [hcounted.position_eq] at hposition hplaced
    constructor
    · rw [hresult, Tokenization.tokens_append, codeCount_append, hposition]
    · rw [hresult, Tokenization.tokens_append]
      refine hcounted.placed.append ?_
      rwa [Nat.zero_add]

/-! ## Runs of a pass -/

/-- A run keeps count, also up to a line that fails. -/
lemma counted_of_run {pass : Pass} (hcounted : pass.Counted) (lines : List Line) :
    (pass.run lines).1.Counted := by
  induction lines generalizing pass with
  | nil => exact hcounted
  | cons line rest ih =>
    rw [run]
    split
    · next next hstep => exact ih (counted_of_step hcounted hstep)
    · exact hcounted

lemma options_run (pass : Pass) (lines : List Line) :
    (pass.run lines).1.tokenizer.options = pass.tokenizer.options := by
  induction lines generalizing pass with
  | nil => rfl
  | cons line rest ih =>
    rcases pass.step_cases line with ⟨failure, hstep, -⟩ |
      ⟨next, first, hstep, -, hoptions, -⟩
    · simp only [run, hstep]
    · simp only [run, hstep, ih, hoptions]

/-- **What a run adds.** A run puts behind the result of a pass what the lines give at its place, and
fails where they cannot be read. -/
lemma outcome_run (pass : Pass) (lines : List Line) :
    (pass.run lines).2.map (fun _ => (pass.run lines).1.result) =
      (Tokenization.ofLinesFrom pass.tokenizer.options pass.index pass.tokenizer.position
        lines).outcome.map (pass.result ++ ·) := by
  induction lines generalizing pass with
  | nil => exact congrArg Except.ok (Tokenization.append_empty pass.result).symm
  | cons line rest ih =>
    rw [Tokenization.outcome_ofLinesFrom_cons]
    rcases pass.step_cases line with ⟨failure, hstep, hfirst⟩ |
      ⟨next, first, hstep, hfirst, hoptions, hposition, hindex, hresult⟩
    · simp only [run, hstep, hfirst]
      rfl
    · simp only [run, hstep, hfirst, ih, hoptions, hposition, hindex, hresult, Except.bind]
      cases (Tokenization.ofLinesFrom pass.tokenizer.options (pass.index + 1)
        (pass.tokenizer.position + codeCount first.tokens) rest).outcome with
      | error failure => rfl
      | ok second =>
        exact congrArg Except.ok (Tokenization.append_assoc pass.result first second)

end Pass

namespace Tokenizer

/-! ## Whole lists -/

/-- A list of lines is tokenized by the options alone, from wherever the tokenizer stands. -/
lemma tokenize_eq_new (tokenizer : Tokenizer) (lines : List Line) :
    tokenizer.tokenize lines = (new tokenizer.options).tokenize lines := rfl

lemma options_tokenize (tokenizer : Tokenizer) (lines : List Line) :
    (tokenizer.tokenize lines).1.options = tokenizer.options := by
  have hoptions := (Pass.start tokenizer).options_run lines
  unfold tokenize
  dsimp only
  split <;> exact hoptions

/-- A result of a tokenizer is that of a run from the start. -/
lemma result_run_of_tokenize {tokenizer : Tokenizer} {lines : List Line} {result : Tokenization}
    (h : (tokenizer.tokenize lines).2.outcome = .ok result) :
    ((Pass.start tokenizer).run lines).1.result = result := by
  unfold tokenize at h
  dsimp only at h
  split at h
  · exact Except.ok.inj h
  · cases h

/-- **A tokenizer gives what the reader of lines gives.** -/
lemma outcome_tokenize (tokenizer : Tokenizer) (lines : List Line) :
    (tokenizer.tokenize lines).2.outcome =
      (Tokenization.ofLines tokenizer.options lines).outcome := by
  have hrun := (Pass.start tokenizer).outcome_run lines
  have hempty : ∀ outcome : Except TooManyDigits Tokenization,
      outcome.map ((Pass.start tokenizer).result ++ ·) = outcome := by
    intro outcome
    cases outcome <;> rfl
  rw [hempty] at hrun
  rw [Tokenization.outcome_ofLines]
  refine Eq.trans ?_ hrun
  unfold tokenize
  dsimp only
  split
  · next hending =>
    rw [hending]
    rfl
  · next failure hending =>
    rw [hending]
    rfl

lemma labelsPlaced_of_tokenize {tokenizer : Tokenizer} {lines : List Line}
    {result : Tokenization} (h : (tokenizer.tokenize lines).2.outcome = .ok result) :
    LabelsPlaced 0 result.tokens := by
  have hcounted := Pass.counted_of_run (Pass.counted_start tokenizer) lines
  rw [← result_run_of_tokenize h]
  exact hcounted.placed

/-! ## Sessions -/

lemma session_eq_map (tokenizer : Tokenizer) (batches : List (List Line)) :
    tokenizer.session batches =
      batches.map fun lines => ((new tokenizer.options).tokenize lines).2 := by
  induction batches generalizing tokenizer with
  | nil => rfl
  | cons lines rest ih =>
    have hcons : tokenizer.session (lines :: rest) =
        (tokenizer.tokenize lines).2 :: (tokenizer.tokenize lines).1.session rest := rfl
    rw [hcons, ih, options_tokenize, tokenize_eq_new]
    rfl

/-- **Every list of lines stands for itself.** Whatever a tokenizer has met before, and whether or
not it could read it, for each list of lines it gives what a new tokenizer with the same options
gives for that list, which is what the reader of lines gives; and in every result each label says how
many values and instructions come before it. -/
theorem session_eq_fresh (tokenizer : Tokenizer) (batches : List (List Line)) :
    tokenizer.session batches =
        batches.map (fun lines => ((new tokenizer.options).tokenize lines).2) ∧
      (∀ lines, ((new tokenizer.options).tokenize lines).2.outcome =
        (Tokenization.ofLines tokenizer.options lines).outcome) ∧
      ∀ trace ∈ tokenizer.session batches, ∀ result, trace.outcome = .ok result →
        ∀ k token name position, result.tokens[k]? = some token →
          token.item = .label name position → position = codeCount (result.tokens.take k) := by
  have hsession := tokenizer.session_eq_map batches
  refine ⟨hsession, outcome_tokenize (new tokenizer.options), ?_⟩
  intro trace htrace result hresult k token name position htoken hitem
  rw [hsession, List.mem_map] at htrace
  obtain ⟨lines, -, rfl⟩ := htrace
  have hplaced := labelsPlaced_of_tokenize hresult k token name position htoken hitem
  rwa [Nat.zero_add] at hplaced

/-- A list of lines that cannot be read. -/
def overlongBatch : List Line :=
  Source.read (Program.listDirective (.integer ⟨true, .byte⟩) overlongNumeral) ""

/-- A list of lines that cannot be read, between others; the label in the last of them counts the
instruction of its own list only. -/
theorem session_eq_fresh_interrupted :
    (∃ failure, ((new { emitLabels := true }).tokenize overlongBatch).2.outcome =
      .error failure) ∧
    ∃ trace ∈ (new { emitLabels := true }).session
        [Source.read ".DB8(1, 2)" "", overlongBatch, Source.read "ADD\nX:" ""],
      ∃ result, trace.outcome = .ok result ∧
        result.tokens[1]? = some ⟨.label 'X' 1, 2, ""⟩ ∧
        1 = codeCount (result.tokens.take 1) := by
  constructor
  · rw [outcome_tokenize]
    exact Tokenization.exists_outcome_read_eq_error_iff.mpr (exists_mem_read_overlong _ _)
  · obtain ⟨hsession, -, hplaced⟩ := session_eq_fresh (new { emitLabels := true })
      [Source.read ".DB8(1, 2)" "", overlongBatch, Source.read "ADD\nX:" ""]
    have hlast : ((new { emitLabels := true }).tokenize (Source.read "ADD\nX:" "")).2 ∈
        (new { emitLabels := true }).session
          [Source.read ".DB8(1, 2)" "", overlongBatch, Source.read "ADD\nX:" ""] := by
      rw [hsession]
      exact List.mem_map_of_mem (by simp)
    exact ⟨_, hlast, _, rfl, rfl, hplaced _ hlast _ rfl 1 _ 'X' 1 rfl rfl⟩

end Tokenizer

end Claw
