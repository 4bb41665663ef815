import Claw.Proofs.Source.Seam
import Claw.Token.Reader

/-!
# Tokenizations put together

`Tokenization.ofLinesFrom` hands two numbers from line to line, the index of the next line and how
many values and instructions come before it.  This file turns it into a sequence of independent
steps.

* `Tokenization.ofLine` is the step: what one line yields at a place.  `ofLine_cases` says all that
  a step can do.  A run over lines is its steps put together with `++` (`outcome_ofLinesFrom_cons`),
  and a run over two lists is two runs put together (`outcome_ofLinesFrom_append`).
* `Tokenization.shift` moves a result to a later place.  The place where the reading starts enters
  the result in no other way (`outcome_ofLinesFrom_shift`), because a line is read by its content
  and category alone (`readLine_shift`).

Everything that is proved about whole sources goes through these laws and does not unfold
`ofLinesFrom`.
-/

namespace Claw

open Numeral (TooManyDigits)
open Source (Line)

@[simp] lemma codeCount_append (front behind : List Token) :
    codeCount (front ++ behind) = codeCount front + codeCount behind :=
  List.countP_append

namespace Tokenization

/-! ## Appending -/

/-- Two results as one, the second behind the first. -/
def append (front behind : Tokenization) : Tokenization where
  tokens := front.tokens ++ behind.tokens
  lines := front.lines ++ behind.lines
  diagnostics := front.diagnostics ++ behind.diagnostics
  yields := front.yields ++ behind.yields

instance : Append Tokenization := ⟨append⟩

@[simp] lemma tokens_append (front behind : Tokenization) :
    (front ++ behind).tokens = front.tokens ++ behind.tokens := rfl

@[simp] lemma lines_append (front behind : Tokenization) :
    (front ++ behind).lines = front.lines ++ behind.lines := rfl

@[simp] lemma diagnostics_append (front behind : Tokenization) :
    (front ++ behind).diagnostics = front.diagnostics ++ behind.diagnostics := rfl

@[simp] lemma yields_append (front behind : Tokenization) :
    (front ++ behind).yields = front.yields ++ behind.yields := rfl

lemma append_assoc (front middle behind : Tokenization) :
    front ++ middle ++ behind = front ++ (middle ++ behind) := by
  show append (append front middle) behind = append front (append middle behind)
  simp only [append, List.append_assoc]

lemma append_empty (front : Tokenization) : front ++ empty = front := by
  show append front empty = front
  simp only [append, empty, List.append_nil]

@[simp] lemma handle_append (index : Nat) (line : Line) (tokens : List Token)
    (diagnostics : List Diagnostic) (behind : Tokenization) :
    empty.handle index line tokens diagnostics ++ behind =
      behind.handle index line tokens diagnostics := by
  show append _ _ = _
  simp only [handle, append, empty, List.append_nil, List.singleton_append]

/-! ## One step -/

/-- What one line yields, at an index and behind so many values and instructions. -/
def ofLine (options : Options) (index position : Nat) (line : Line) :
    Except TooManyDigits Tokenization :=
  if line.processed then .ok (empty.skip line)
  else if line.category = .unknown then
    .ok (if isReported options line then empty.reject index line (unclassified line)
      else empty.skip line)
  else (readLine options position line).map fun (tokens, diagnostics) =>
    empty.handle index line tokens diagnostics

/-- **What a step can do.** It passes a line on, rejects it, or handles it with what it yields. -/
lemma ofLine_cases {options : Options} {index position : Nat} {line : Line}
    {result : Tokenization} (h : ofLine options index position line = .ok result) :
    (result = empty.skip line ∧
      (line.processed = true ∨ line.category = .unknown ∧ isReported options line = false)) ∨
    (result = empty.reject index line (unclassified line) ∧
      line.processed = false ∧ line.category = .unknown ∧ isReported options line = true) ∨
    ∃ tokens diagnostics, result = empty.handle index line tokens diagnostics ∧
      line.processed = false ∧ line.category ≠ .unknown ∧
      readLine options position line = .ok (tokens, diagnostics) := by
  unfold ofLine at h
  split at h
  · next hprocessed =>
    exact .inl ⟨(Except.ok.inj h).symm, .inl hprocessed⟩
  · next hprocessed =>
    have hunprocessed : line.processed = false := eq_false_of_ne_true hprocessed
    split at h
    · next hcategory =>
      have hresult := Except.ok.inj h
      by_cases hreported : isReported options line = true
      · rw [if_pos hreported] at hresult
        exact .inr (.inl ⟨hresult.symm, hunprocessed, hcategory, hreported⟩)
      · rw [if_neg hreported] at hresult
        exact .inl ⟨hresult.symm, .inr ⟨hcategory, eq_false_of_ne_true hreported⟩⟩
    · next hcategory =>
      cases hread : readLine options position line with
      | error fault => simp [hread, Except.map] at h
      | ok yielded =>
        simp only [hread, Except.map, Except.ok.injEq] at h
        exact .inr (.inr ⟨yielded.1, yielded.2, h.symm, hunprocessed, hcategory, rfl⟩)

/-- **The step law.** A run over lines is the step at the first line, and the run over the others
at the next place. -/
lemma outcome_ofLinesFrom_cons (options : Options) (index position : Nat) (line : Line)
    (rest : List Line) :
    (ofLinesFrom options index position (line :: rest)).outcome =
      (ofLine options index position line).bind fun first =>
        (ofLinesFrom options (index + 1) (position + codeCount first.tokens) rest).outcome.map
          (first ++ ·) := by
  have hmap : ∀ (outcome : Except TooManyDigits Tokenization) (f : Tokenization → Tokenization),
      (outcome.bind fun behind => .ok (f behind)) = outcome.map f := by
    intro outcome f
    cases outcome <;> rfl
  rw [ofLinesFrom, ofLine]
  split
  · -- a line that is done with
    simp only [Traced.outcome_bind, Traced.outcome_pure, hmap]
    rfl
  · split
    · -- a line of unknown category
      by_cases hreported : isReported options line = true
      · simp only [Traced.outcome_bind, hreported, if_true, Traced.outcome_pure, hmap]
        rfl
      · simp only [Traced.outcome_bind, hreported, if_false, Traced.outcome_pure, hmap,
          Bool.false_eq_true]
        rfl
    · -- a line that is read
      simp only [Traced.outcome_bind, Traced.outcome_ofExcept, Traced.outcome_report,
        Traced.outcome_pure]
      cases readLine options position line with
      | error fault => rfl
      | ok yielded =>
        obtain ⟨tokens, diagnostics⟩ := yielded
        have htokens : (empty.handle index line tokens diagnostics).tokens = tokens :=
          List.append_nil tokens
        simp only [Except.bind, Except.map, htokens, handle_append]

/-! ## Runs put together -/

@[simp] lemma outcome_ofLinesFrom_nil (options : Options) (index position : Nat) :
    (ofLinesFrom options index position []).outcome = .ok empty := rfl

/-- **The run law.** A run over two lists is the run over the first, and the run over the second at
the place where the first ends. -/
lemma outcome_ofLinesFrom_append (options : Options) (index position : Nat)
    (front behind : List Line) :
    (ofLinesFrom options index position (front ++ behind)).outcome =
      (ofLinesFrom options index position front).outcome.bind fun first =>
        (ofLinesFrom options (index + front.length) (position + codeCount first.tokens)
          behind).outcome.map (first ++ ·) := by
  induction front generalizing index position with
  | nil =>
    have hcount : codeCount empty.tokens = 0 := rfl
    simp only [List.nil_append, outcome_ofLinesFrom_nil, Except.bind, List.length_nil, hcount,
      Nat.add_zero]
    cases (ofLinesFrom options index position behind).outcome <;> rfl
  | cons line rest ih =>
    rw [List.cons_append, outcome_ofLinesFrom_cons, outcome_ofLinesFrom_cons]
    cases ofLine options index position line with
    | error fault => rfl
    | ok first =>
      simp only [Except.bind, ih]
      cases (ofLinesFrom options (index + 1) (position + codeCount first.tokens) rest).outcome with
      | error fault => rfl
      | ok second =>
        have hindex : index + 1 + rest.length = index + (line :: rest).length := by
          simp only [List.length_cons]
          omega
        have hposition : position + codeCount first.tokens + codeCount second.tokens =
            position + codeCount (first ++ second).tokens := by
          rw [tokens_append, codeCount_append, Nat.add_assoc]
        simp only [Except.map, hindex, hposition]
        cases (ofLinesFrom options (index + (line :: rest).length)
          (position + codeCount (first ++ second).tokens) behind).outcome with
        | error fault => rfl
        | ok third => exact congrArg Except.ok (append_assoc first second third).symm

lemma outcome_ofLinesFrom_cons_eq_ok {options : Options} {index position : Nat} {line : Line}
    {rest : List Line} {result : Tokenization}
    (h : (ofLinesFrom options index position (line :: rest)).outcome = .ok result) :
    ∃ first second, ofLine options index position line = .ok first ∧
      (ofLinesFrom options (index + 1) (position + codeCount first.tokens) rest).outcome =
        .ok second ∧ result = first ++ second := by
  rw [outcome_ofLinesFrom_cons] at h
  cases hfirst : ofLine options index position line with
  | error fault => simp [hfirst, Except.bind] at h
  | ok first =>
    simp only [hfirst, Except.bind] at h
    cases hsecond : (ofLinesFrom options (index + 1) (position + codeCount first.tokens)
        rest).outcome with
    | error fault => simp [hsecond, Except.map] at h
    | ok second =>
      simp only [hsecond, Except.map, Except.ok.injEq] at h
      exact ⟨first, second, rfl, hsecond, h.symm⟩

lemma outcome_ofLinesFrom_append_eq_ok {options : Options} {index position : Nat}
    {front behind : List Line} {result : Tokenization}
    (h : (ofLinesFrom options index position (front ++ behind)).outcome = .ok result) :
    ∃ first second, (ofLinesFrom options index position front).outcome = .ok first ∧
      (ofLinesFrom options (index + front.length) (position + codeCount first.tokens)
        behind).outcome = .ok second ∧ result = first ++ second := by
  induction front generalizing index position result with
  | nil => exact ⟨empty, result, rfl, h, rfl⟩
  | cons line rest ih =>
    obtain ⟨first, others, hfirst, hothers, rfl⟩ := outcome_ofLinesFrom_cons_eq_ok h
    obtain ⟨second, third, hsecond, hthird, rfl⟩ := ih hothers
    refine ⟨first ++ second, third, ?_, ?_, (append_assoc first second third).symm⟩
    · rw [outcome_ofLinesFrom_cons, hfirst]
      simp only [Except.bind, hsecond, Except.map]
    · have hindex : index + (line :: rest).length = index + 1 + rest.length := by
        simp only [List.length_cons]
        omega
      rw [hindex, tokens_append, codeCount_append, ← Nat.add_assoc]
      exact hthird

@[simp] lemma outcome_ofLines (options : Options) (lines : List Line) :
    (ofLines options lines).outcome = (ofLinesFrom options 0 0 lines).outcome := by
  simp only [ofLines, Traced.outcome_bind, Traced.outcome_report, Traced.outcome_pure]
  cases (ofLinesFrom options 0 0 lines).outcome <;> rfl

lemma outcome_ofLines_singleton {options : Options} {line : Line} {tokens : List Token}
    {diagnostics : List Diagnostic} (hprocessed : line.processed = false)
    (hcategory : line.category ≠ .unknown)
    (hread : readLine options 0 line = .ok (tokens, diagnostics)) :
    (ofLines options [line]).outcome = .ok (empty.handle 0 line tokens diagnostics) := by
  rw [outcome_ofLines, outcome_ofLinesFrom_cons, ofLine, if_neg (by simp [hprocessed]),
    if_neg hcategory, hread]
  exact congrArg Except.ok (append_empty _)

end Tokenization

/-! ## The lines of a result -/

/-- The line as a run leaves it: done with unless it is of unknown category. -/
def Source.Line.afterRun (line : Line) : Line :=
  { line with processed := line.processed || line.category != .unknown }

lemma Source.Line.afterRun_eq_self {line : Line}
    (h : line.processed = true ∨ line.category = .unknown) : line.afterRun = line := by
  have hflag : (line.processed || line.category != .unknown) = line.processed := by
    rcases h with h | h <;> simp [h]
  rw [afterRun, hflag]

lemma Source.Line.afterRun_eq_done {line : Line} (h : line.category ≠ .unknown) :
    line.afterRun = line.done := by
  have hflag : (line.processed || line.category != .unknown) = true := by simp [h]
  rw [afterRun, hflag, done]

namespace Tokenization

lemma lines_of_ofLine {options : Options} {index position : Nat} {line : Line}
    {result : Tokenization} (h : ofLine options index position line = .ok result) :
    result.lines = [line.afterRun] := by
  rcases ofLine_cases h with ⟨rfl, hskip⟩ | ⟨rfl, -, hcategory, -⟩ | ⟨_, _, rfl, -, hcategory, -⟩
  · rw [Line.afterRun_eq_self (hskip.imp_right And.left)]
    rfl
  · rw [Line.afterRun_eq_self (.inr hcategory)]
    rfl
  · rw [Line.afterRun_eq_done hcategory]
    rfl

/-- **The lines of a result** are those of the run, done with as far as they were read. -/
lemma lines_of_ofLinesFrom {options : Options} {index position : Nat} {lines : List Line}
    {result : Tokenization}
    (h : (ofLinesFrom options index position lines).outcome = .ok result) :
    result.lines = lines.map Line.afterRun := by
  induction lines generalizing index position result with
  | nil =>
    obtain rfl := Except.ok.inj h
    rfl
  | cons line rest ih =>
    obtain ⟨first, second, hfirst, hsecond, rfl⟩ := outcome_ofLinesFrom_cons_eq_ok h
    rw [lines_append, lines_of_ofLine hfirst, ih hsecond]
    rfl

end Tokenization

/-! ## Moving a result to a later place -/

/-- The item behind so many more values and instructions. -/
def Item.shift (codes : Nat) : Item → Item
  | .label name position => .label name (position + codes)
  | item => item

/-- The token behind so many more lines, and values and instructions. -/
def Token.shift (lines codes : Nat) (token : Token) : Token where
  item := token.item.shift codes
  line := token.line + lines
  file := token.file

/-- The diagnostic behind so many more lines. -/
def Diagnostic.shift (lines : Nat) (diagnostic : Diagnostic) : Diagnostic :=
  { diagnostic with line := diagnostic.line + lines }

/-- The yield behind so many more lines, and values and instructions. -/
def LineYield.shift (lines codes : Nat) (yield : LineYield) : LineYield where
  index := yield.index + lines
  tokens := yield.tokens.map (Token.shift lines codes)
  diagnostics := yield.diagnostics.map (Diagnostic.shift lines)

/-- The result behind so many more lines, and values and instructions. -/
def Tokenization.shift (lines codes : Nat) (result : Tokenization) : Tokenization where
  tokens := result.tokens.map (Token.shift lines codes)
  lines := result.lines.map (Line.shift lines)
  diagnostics := result.diagnostics.map (Diagnostic.shift lines)
  yields := result.yields.map (LineYield.shift lines codes)

@[simp] lemma Item.isLabel_shift (codes : Nat) (item : Item) :
    (item.shift codes).isLabel = item.isLabel := by
  cases item <;> rfl

@[simp] lemma codeCount_shift (lines codes : Nat) (tokens : List Token) :
    codeCount (tokens.map (Token.shift lines codes)) = codeCount tokens := by
  rw [codeCount, List.countP_map]
  exact List.countP_congr fun token _ => by simp [Token.shift]

/-- The tokens and diagnostics of a line behind so many more lines, and values and instructions. -/
def shiftYielded (lines codes : Nat) (yielded : List Token × List Diagnostic) :
    List Token × List Diagnostic :=
  (yielded.1.map (Token.shift lines codes), yielded.2.map (Diagnostic.shift lines))

lemma valueTokens_shift (lines codes : Nat) (line : Line) (type : DataType)
    (fields : List String) :
    valueTokens (line.shift lines) type fields =
      (valueTokens line type fields).map (shiftYielded lines codes) := by
  induction fields with
  | nil => rfl
  | cons field rest ih =>
    simp only [valueTokens, ih]
    cases literal type field with
    | ok datum => cases valueTokens line type rest <;> rfl
    | error fault =>
      dsimp only
      cases fault.message <;> cases valueTokens line type rest <;> rfl

lemma dataLine_shift (lines codes : Nat) (line : Line) :
    dataLine (line.shift lines) = (dataLine line).map (shiftYielded lines codes) := by
  simp only [dataLine, Line.shift_content]
  cases Source.dataStatement? line.content.toList with
  | none => rfl
  | some statement =>
    dsimp only
    cases DataType.ofSuffix? statement.suffix with
    | none => rfl
    | some type =>
      cases statement.operand with
      | quoted text => cases type <;> rfl
      | values raw =>
        cases type with
        | string => rfl
        | integer type => exact valueTokens_shift lines codes line _ _
        | single => exact valueTokens_shift lines codes line _ _

lemma instructionLine_shift (options : Options) (lines codes : Nat) (line : Line) :
    instructionLine options (line.shift lines) =
      shiftYielded lines codes (instructionLine options line) := by
  simp only [instructionLine, Line.shift_content]
  cases Source.instructionStatement? line.content.toList with
  | none => rfl
  | some statement =>
    dsimp only
    split
    · rfl
    · simp only [shiftYielded, List.map_nil, List.map_append]
      split <;> split <;> split <;> rfl

lemma labelLine_shift (options : Options) (lines codes position : Nat) (line : Line) :
    labelLine options (position + codes) (line.shift lines) =
      (labelLine options position line).map (Token.shift lines codes) := by
  simp only [labelLine, Line.shift_content]
  cases Source.labelStatement? line.content.toList with
  | none => rfl
  | some name =>
    dsimp only
    split <;> rfl

/-- A line is read by its content and category, so its place shows in what it yields and nowhere
else. -/
lemma readLine_shift (options : Options) (lines codes position : Nat) (line : Line) :
    readLine options (position + codes) (line.shift lines) =
      (readLine options position line).map (shiftYielded lines codes) := by
  simp only [readLine, Line.shift_category]
  cases line.category with
  | data => exact dataLine_shift lines codes line
  | instruction => exact congrArg Except.ok (instructionLine_shift options lines codes line)
  | label =>
    refine congrArg Except.ok (Prod.ext ?_ rfl)
    exact labelLine_shift options lines codes position line
  | unknown => rfl
  | empty => rfl

namespace Tokenization

lemma shift_append (lines codes : Nat) (front behind : Tokenization) :
    (front ++ behind).shift lines codes = front.shift lines codes ++ behind.shift lines codes := by
  show shift lines codes (append front behind) = append _ _
  simp only [shift, append, List.map_append]

lemma ofLine_shift (options : Options) (lines codes index position : Nat) (line : Line) :
    ofLine options (index + lines) (position + codes) (line.shift lines) =
      (ofLine options index position line).map (shift lines codes) := by
  simp only [ofLine, Line.shift_processed, Line.shift_category, readLine_shift]
  split
  · rfl
  · split
    · have hreported : isReported options (line.shift lines) = isReported options line := rfl
      rw [hreported]
      split <;> rfl
    · cases readLine options position line with
      | error fault => rfl
      | ok yielded =>
        obtain ⟨tokens, diagnostics⟩ := yielded
        refine congrArg Except.ok ?_
        simp only [handle, empty, shift, shiftYielded, List.append_nil, List.map_cons, List.map_nil]
        rfl

/-- **The law of places.** A run that starts at a later place, over lines that are numbered on,
gives the same result moved to that place. -/
lemma outcome_ofLinesFrom_shift (options : Options) (count codes index position : Nat)
    (lines : List Line) :
    (ofLinesFrom options (index + count) (position + codes)
        (lines.map (Line.shift count))).outcome =
      (ofLinesFrom options index position lines).outcome.map (shift count codes) := by
  induction lines generalizing index position with
  | nil => rfl
  | cons line rest ih =>
    rw [List.map_cons, outcome_ofLinesFrom_cons, outcome_ofLinesFrom_cons, ofLine_shift]
    cases ofLine options index position line with
    | error fault => rfl
    | ok first =>
      have hindex : index + count + 1 = index + 1 + count := by omega
      have hposition : position + codes + codeCount (first.shift count codes).tokens =
          position + codeCount first.tokens + codes := by
        rw [shift, codeCount_shift]
        omega
      simp only [Except.map, Except.bind, hindex, hposition, ih]
      cases (ofLinesFrom options (index + 1) (position + codeCount first.tokens) rest).outcome with
      | error fault => rfl
      | ok second => exact congrArg Except.ok (shift_append count codes first second).symm

end Tokenization

end Claw
