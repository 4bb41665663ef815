import Claw.Proofs.Program.Recognition
import Claw.Proofs.Token.Line
import Claw.Proofs.Token.Sequence

/-!
# Programs are read back

Reading the source of a program gives the tokens of the program and no diagnostics: `read_source`.
It holds for every program, the empty one included, and whatever its strings look like.

The way there goes along the stages of the reader: `fields_valueList` for value lists,
`Statement.exists_step` for one line, and `outcome_ofLinesFrom_contents` for the run, by
induction on the program with the place of its first statement generalised.
-/

namespace Claw.Program

open Source (Line)

/-! ## Value lists -/

/-- The fields of a value list are its numerals. -/
lemma fields_valueList {type : IntegerType} (listed : List (ListedInteger type)) :
    fields (valueList listed) = listed.map ListedInteger.numeral := by
  refine fields_intercalate fun text htext => ?_
  obtain ⟨integer, -, rfl⟩ := List.mem_map.mp htext
  exact integer.spelling.isField_numeral integer.value

lemma valueTokens_numerals (line : Line) {type : IntegerType} (listed : List (ListedInteger type)) :
    valueTokens line (.integer type) (listed.map ListedInteger.numeral) =
      .ok (listed.map fun listed => tokenAt line (.data (.integer type listed.value)), []) :=
  valueTokens_map line (fun listed => Numeral.Spelling.literal_numeral listed.admits_value) listed

/-! ## One line -/

lemma ofName?_name (operation : Instruction) :
    Instruction.ofName? (Text.uppercase operation.name) = some operation := by
  cases operation <;> decide

lemma selectStack_name (stack : Stack) (standIn : Option Stack) :
    selectStack (Text.uppercase stack.name) standIn = some stack := by
  cases stack <;> rfl

lemma Statement.readLine_content {options : Options} (hemit : options.emitLabels = true)
    (file : String) (number : Int) (position : Nat) (statement : Statement) :
    readLine options position (.ofContent file number statement.content) =
      .ok ((statement.items position).map fun item => ⟨item, number, file⟩, []) := by
  have hcategory : (Line.ofContent file number statement.content).category = statement.category :=
    statement.categoryOf_content
  rw [readLine, hcategory]
  cases statement with
  | integers type first others =>
    have hdeclares : Source.Declares
        (Line.ofContent file number (integers type first others).content).content (.integer type)
        (.values (valueList (first :: others))) := declares_integers type first others
    simp only [category, dataLine_of_declares hdeclares, operandTokens, fields_valueList,
      valueTokens_numerals, items, List.map_map]
    rfl
  | string text =>
    have hdeclares : Source.Declares
        (Line.ofContent file number (string text).content).content .string (.quoted text.text) :=
      declares_string text
    simp only [category, dataLine_of_declares hdeclares]
    rfl
  | instruction operation input output =>
    have hstatement := instructionStatement?_content operation input output
    obtain ⟨letter, hletter, -⟩ := exists_letter input
    have hinput : String.ofList input.name.toList.head?.toList = input.name := by
      rw [hletter, List.head?_cons, Option.toList_some, ← hletter, String.ofList_toList]
    simp only [category, instructionLine, Line.ofContent, hstatement, hinput, ofName?_name,
      selectStack_name]
    rfl
  | label name =>
    have hstatement := labelStatement?_content name
    simp only [category, labelLine, Line.ofContent, hstatement, hemit, if_true]
    rfl

lemma Statement.codeCount_items (file : String) (number : Int) (position : Nat)
    (statement : Statement) :
    codeCount ((statement.items position).map fun item => ⟨item, number, file⟩) =
      statement.codes := by
  cases statement with
  | integers type first others =>
    have hall : ∀ listed : List (ListedInteger type),
        codeCount ((listed.map fun listed => Item.data (.integer type listed.value)).map
          fun item => ⟨item, number, file⟩) = listed.length := by
      intro listed
      rw [codeCount, List.map_map, List.countP_map, List.countP_eq_length]
      intro integer _
      rfl
    exact hall (first :: others)
  | string text => rfl
  | instruction operation input output => rfl
  | label name => rfl

lemma Statement.exists_step {options : Options} (hemit : options.emitLabels = true)
    (file : String) (number : Int) (index position : Nat) (statement : Statement) :
    ∃ step, Tokenization.ofLine options index position
        (.ofContent file number statement.content) = .ok step ∧
      step.diagnostics = [] ∧
      step.tokens = (statement.items position).map fun item => ⟨item, number, file⟩ := by
  have hcategory : (Line.ofContent file number statement.content).category = statement.category :=
    statement.categoryOf_content
  have hknown : statement.category ≠ .unknown := by cases statement <;> simp [category]
  have hprocessed : ¬(Line.ofContent file number statement.content).processed = true := by
    have hne : statement.category ≠ .empty := by cases statement <;> simp [category]
    simpa [Line.ofContent, statement.categoryOf_content] using hne
  rw [Tokenization.ofLine, if_neg hprocessed, hcategory, if_neg hknown,
    statement.readLine_content hemit]
  exact ⟨_, rfl, rfl, List.append_nil _⟩

/-! ## The run -/

/-- **The run over a program.** From any place on, the statements give their tokens and nothing
else. -/
lemma outcome_ofLinesFrom_contents {options : Options} (hemit : options.emitLabels = true)
    (file : String) (number : Int) (index position : Nat) (program : List Statement) :
    ∃ result, (Tokenization.ofLinesFrom options index position
        (Source.number file number (program.map Statement.content))).outcome = .ok result ∧
      result.diagnostics = [] ∧ result.tokens = tokensFrom file number position program := by
  -- the place of the first statement moves on with the tokens of the statement
  induction program generalizing number index position with
  | nil => exact ⟨.empty, rfl, rfl, rfl⟩
  | cons statement rest ih =>
    obtain ⟨step, hstep, hnone, htokens⟩ := statement.exists_step hemit file number index position
    obtain ⟨behind, hbehind, hnone', htokens'⟩ :=
      ih (number + 1) (index + 1) (position + statement.codes)
    have hcodes : codeCount step.tokens = statement.codes := by
      rw [htokens, statement.codeCount_items]
    refine ⟨step ++ behind, ?_, ?_, ?_⟩
    · rw [List.map_cons, Source.number, Tokenization.outcome_ofLinesFrom_cons, hstep]
      simp only [Except.bind, hcodes, hbehind, Except.map]
    · rw [Tokenization.diagnostics_append, hnone, hnone', List.append_nil]
    · rw [Tokenization.tokens_append, htokens, htokens', tokensFrom]

/-- **Programs are read back.** When labels become tokens, the source of a program is read without
diagnostics, and as the tokens of the program. -/
theorem read_source (options : Options) (file : String) (program : List Statement) :
    ∃ result, (Tokenization.ofLines { options with emitLabels := true }
        (Source.read (source program) file)).outcome = .ok result ∧
      result.diagnostics = [] ∧ result.tokens = tokensFrom file 1 0 program := by
  rw [Tokenization.outcome_ofLines]
  cases program with
  | nil => exact ⟨_, rfl, rfl, rfl⟩
  | cons statement rest =>
    rw [Source.read, contents_source (List.cons_ne_nil statement rest)]
    exact outcome_ofLinesFrom_contents rfl file 1 0 0 (statement :: rest)

-- a string may look like a comment and like a directive
example : source [.string ⟨";.DB8(1)", by decide, by decide, by decide⟩, .label ⟨'X', by decide⟩,
    .integers ⟨true, .byte⟩ ⟨.decimal, -5, by decide⟩ [⟨.binary, 6, by decide⟩]] =
      ".DBS\"\\;.DB8(1)\"\nX:\n.DB8(-5, 0b110)" := by
  decide

end Claw.Program
