import Claw.Proofs.Token.Line
import Claw.Proofs.Token.Place

/-!
# Options act apart

Three options bear on what lines yield, and each has an effect of its own and no other.  The result
under any options is therefore the result under `Options.complete`, where nothing is left out, seen
through the options:

* the default stack goes into the instructions on lines that name no stack, and into no others
  (`Source.Line.namesStack`);
* labels that are not emitted are missing from the tokens, and nothing else changes, the positions of
  the values and instructions behind them included (`codeCount_under`);
* diagnostics about lines of unknown category are missing with the yields that hold them, and no
  other diagnostic is of their kind.

`Tokenization.under` is this view of a result.  The step law is `ofLine_under`, the run law
`outcome_ofLinesFrom_under`, and `outcome_ofLines_under` the law for whole lists of lines, which
also says that whether the lines can be read does not depend on the options.
-/

namespace Claw

open Numeral (TooManyDigits)
open Source (Line)

/-! ## Results seen through options -/

/-- The options under which nothing is left out. -/
def Options.complete : Options where
  defaultStack := .a
  emitLabels := true
  reportUnknown := true

/-- Whether the instruction that a line consists of names a stack. -/
def Source.Line.namesStack (line : Line) : Bool :=
  match Source.instructionStatement? line.content.toList with
  | some statement => statement.input.isSome || statement.output != ""
  | none => false

/-- Whether the line at a place names a stack. -/
def namesStackAt (lines : List Line) (i : Nat) : Bool :=
  lines[i]?.any Line.namesStack

/-- A token seen through options, if they let it through.  The line of the token names a stack or
not. -/
def Token.under (options : Options) (namesStack : Bool) (token : Token) : Option Token :=
  match token.item with
  | .data _ => some token
  | .instruction operation _ _ =>
    if namesStack then some token
    else some { token with
      item := .instruction operation options.defaultStack options.defaultStack }
  | .label .. => if options.emitLabels then some token else none

/-- Whether options let a diagnostic through. -/
def Diagnostic.passes (options : Options) (diagnostic : Diagnostic) : Bool :=
  options.reportUnknown || diagnostic.kind != .unclassifiedLine

/-- Whether options let all diagnostics of a yield through. -/
def LineYield.passes (options : Options) (yield : LineYield) : Bool :=
  yield.diagnostics.all (Diagnostic.passes options)

/-- A yield seen through options. -/
def LineYield.under (options : Options) (namesStack : Nat → Bool) (yield : LineYield) :
    LineYield :=
  { yield with tokens := yield.tokens.filterMap (Token.under options (namesStack yield.index)) }

/-- A result seen through options: the tokens of every yield as the options let them through, the
diagnostics that they let through, and the yields without those that hold another diagnostic. -/
def Tokenization.under (options : Options) (namesStack : Nat → Bool) (result : Tokenization) :
    Tokenization where
  tokens := result.yields.flatMap fun yield => (yield.under options namesStack).tokens
  lines := result.lines
  diagnostics := result.diagnostics.filter (Diagnostic.passes options)
  yields := (result.yields.filter (LineYield.passes options)).map
    (LineYield.under options namesStack)

/-! ## One line -/

section Lines

variable (options : Options) (position : Nat) (line : Line)

/-- What a line yields, seen through options. -/
def yieldedUnder (namesStack : Bool) (yielded : List Token × List Diagnostic) :
    List Token × List Diagnostic :=
  (yielded.1.filterMap (Token.under options namesStack), yielded.2)

/-- Values look the same through all options. -/
lemma filterMap_under_of_data (namesStack : Bool) {tokens : List Token}
    (h : ∀ token ∈ tokens, ∃ datum, token = tokenAt line (.data datum)) :
    tokens.filterMap (Token.under options namesStack) = tokens := by
  have hsome : ∀ token ∈ tokens, Token.under options namesStack token = some token := by
    intro token hmem
    obtain ⟨datum, rfl⟩ := h token hmem
    rfl
  rw [List.filterMap_congr hsome, List.filterMap_some]

/-- The default stack goes into the instructions on lines that name no stack. -/
lemma instructionLine_under :
    instructionLine options line =
      yieldedUnder options line.namesStack (instructionLine .complete line) := by
  cases hstatement : Source.instructionStatement? line.content.toList with
  | none => simp [instructionLine, hstatement, yieldedUnder]
  | some statement =>
    rcases input_cases hstatement with ⟨hwritten, stack, hinput⟩ | ⟨hnone, hempty, hinput⟩
    · -- the input is written down, so it is the same under all options
      have hnames : line.namesStack = true := by
        simp [Line.namesStack, hstatement, hwritten]
      rw [instructionLine_eq hstatement (hinput _), instructionLine_eq hstatement (hinput _),
        hnames]
      split <;> rfl
    · -- no stack is written down, so both are the default stack
      have hnames : line.namesStack = false := by
        simp [Line.namesStack, hstatement, hnone, hempty]
      have houtput : ∀ standIn, selectStack (Text.uppercase statement.output) standIn = standIn := by
        intro standIn
        rw [hempty]
        rfl
      rw [instructionLine_eq hstatement (hinput _), instructionLine_eq hstatement (hinput _),
        hnames, houtput, houtput]
      cases Instruction.ofName? (Text.uppercase statement.mnemonic) <;> rfl

/-- Labels are left out where they are not emitted. -/
lemma labelLine_under (namesStack : Bool) :
    labelLine options position line =
      (labelLine .complete position line).filterMap (Token.under options namesStack) := by
  unfold labelLine
  cases Source.labelStatement? line.content.toList with
  | none => rfl
  | some name =>
    cases hemit : options.emitLabels <;>
      simp [Options.complete, Token.under, tokenAt, hemit]

/-- What a line yields under any options is what it yields under all, seen through the options. -/
lemma readLine_under :
    readLine options position line =
      (readLine .complete position line).map (yieldedUnder options line.namesStack) := by
  simp only [readLine]
  cases line.category with
  | data =>
    cases hdata : dataLine line with
    | error failure => rfl
    | ok yielded =>
      have hvalues := filterMap_under_of_data options line line.namesStack (mem_dataLine hdata).1
      simp [Except.map, yieldedUnder, hvalues]
  | instruction => exact congrArg Except.ok (instructionLine_under options line)
  | label =>
    exact congrArg Except.ok (Prod.ext (labelLine_under options position line _) rfl)
  | unknown => rfl
  | empty => rfl

/-- Labels do not count, so there are as many values and instructions under all options. -/
lemma codeCount_filterMap_under (namesStack : Bool) (tokens : List Token) :
    codeCount (tokens.filterMap (Token.under options namesStack)) = codeCount tokens := by
  rw [codeCount, codeCount, List.countP_filterMap]
  refine List.countP_congr fun token _ => ?_
  obtain ⟨item, number, file⟩ := token
  cases item with
  | data datum => simp [Token.under, Item.isLabel]
  | instruction operation input output => cases namesStack <;> simp [Token.under, Item.isLabel]
  | label name place => cases hemit : options.emitLabels <;> simp [Token.under, Item.isLabel, hemit]

end Lines

namespace Tokenization

variable {options : Options} {namesStack : Nat → Bool}

/-! ## Runs -/

lemma under_append (front behind : Tokenization) :
    (front ++ behind).under options namesStack =
      front.under options namesStack ++ behind.under options namesStack := by
  show under options namesStack (append front behind) = append _ _
  simp only [under, append, List.flatMap_append, List.filter_append, List.map_append]

lemma codeCount_under {result : Tokenization}
    (h : result.tokens = result.yields.flatMap LineYield.tokens) :
    codeCount (result.under options namesStack).tokens = codeCount result.tokens := by
  rw [h, under]
  generalize result.yields = yields
  induction yields with
  | nil => rfl
  | cons yield rest ih =>
    rw [List.flatMap_cons, List.flatMap_cons, codeCount_append, codeCount_append, ih,
      LineYield.under, codeCount_filterMap_under]

/-- **The step law.** A step under any options is the step under all, seen through the options. -/
lemma ofLine_under {index position : Nat} {line : Line}
    (h : namesStack index = line.namesStack) :
    ofLine options index position line =
      (ofLine .complete index position line).map (under options namesStack) := by
  unfold ofLine
  split
  · rfl
  · split
    · -- a line of unknown category, which is rejected if the options ask for it
      cases hreport : options.reportUnknown <;>
        cases hdirective : Source.isDirective line.content <;>
        simp [isReported, hreport, hdirective, Options.complete, Except.map, under, reject, skip,
          empty, LineYield.passes, LineYield.under, Diagnostic.passes, unclassified, diagnosticAt]
    · rw [readLine_under]
      cases hread : readLine .complete position line with
      | error failure => rfl
      | ok yielded =>
        obtain ⟨tokens, diagnostics⟩ := yielded
        -- none of the diagnostics of a line that is read can be left out
        have hpasses : ∀ diagnostic ∈ diagnostics, diagnostic.passes options = true := by
          intro diagnostic hmem
          obtain ⟨kind, message, rfl, hkind⟩ := (mem_readLine hread).2 diagnostic hmem
          simp [Diagnostic.passes, diagnosticAt, hkind]
        have hfilter : diagnostics.filter (Diagnostic.passes options) = diagnostics :=
          List.filter_eq_self.mpr hpasses
        have hall : LineYield.passes options ⟨index, tokens, diagnostics⟩ = true :=
          List.all_eq_true.mpr hpasses
        simp [Except.map, under, handle, empty, yieldedUnder, LineYield.under, h, hfilter, hall]

/-- **The run law.** A run under any options is the run under all, seen through the options. -/
lemma outcome_ofLinesFrom_under {index position : Nat} {lines : List Line}
    (h : ∀ i line, lines[i]? = some line → namesStack (index + i) = line.namesStack) :
    (ofLinesFrom options index position lines).outcome =
      (ofLinesFrom .complete index position lines).outcome.map (under options namesStack) := by
  induction lines generalizing index position with
  | nil => rfl
  | cons line rest ih =>
    have hline : namesStack index = line.namesStack := h 0 line rfl
    have hrest : ∀ i line', rest[i]? = some line' →
        namesStack (index + 1 + i) = line'.namesStack := by
      intro i line' hget
      have hplace : index + 1 + i = index + (i + 1) := by omega
      rw [hplace]
      exact h (i + 1) line' hget
    rw [outcome_ofLinesFrom_cons, outcome_ofLinesFrom_cons, ofLine_under hline]
    cases hfirst : ofLine .complete index position line with
    | error failure => rfl
    | ok first =>
      -- the place of the lines behind does not depend on the options
      have hcount : codeCount (first.under options namesStack).tokens = codeCount first.tokens :=
        codeCount_under (tokens_of_ofLine hfirst).1
      simp only [Except.map, Except.bind, hcount, ih hrest]
      cases (ofLinesFrom .complete (index + 1) (position + codeCount first.tokens)
        rest).outcome with
      | error failure => rfl
      | ok second => exact congrArg Except.ok (under_append first second).symm

/-- **Options act apart.** Under any options lines give the result that they give under the options
that leave nothing out, seen through the options given, or fail alike; so the lines of the result are
the same under all options. -/
theorem outcome_ofLines_under (options other : Options) (lines : List Line) :
    (ofLines options lines).outcome =
        (ofLines .complete lines).outcome.map (under options (namesStackAt lines)) ∧
      (ofLines options lines).outcome.map Tokenization.lines =
        (ofLines other lines).outcome.map Tokenization.lines := by
  have hnames : ∀ i line, lines[i]? = some line →
      namesStackAt lines (0 + i) = line.namesStack := by
    intro i line hget
    rw [Nat.zero_add, namesStackAt, hget, Option.any_some]
  have hunder : ∀ options, (ofLines options lines).outcome =
      (ofLines .complete lines).outcome.map (under options (namesStackAt lines)) := by
    intro options
    simpa only [outcome_ofLines] using outcome_ofLinesFrom_under hnames
  refine ⟨hunder options, ?_⟩
  rw [hunder options, hunder other]
  cases (ofLines .complete lines).outcome <;> rfl

end Tokenization

end Claw
