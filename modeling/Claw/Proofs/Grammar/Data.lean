import Claw.Proofs.Correspondence
import Claw.Proofs.Pattern.Data

/-!
# The grammar of data lines

A data directive can be anywhere on a line, with any text in front of it and behind it.  The first one
is meant, and what the line yields depends on its type and its operand only.

* `fields_eq`: the fields of a value list are the texts between its commas, trimmed, that are not
  blank;
* `IsValueOf` and `IsRefusalOf`: what a field gives, and `valueTokens_split`, that each field gives
  one of the two, in their order;
* `DataOutcome`: what a directive yields, and `dataOutcome_of_operandTokens`, that it does.

`data_line_grammar` says what is found in a line, in the terms of `Source.DataStatement.IsWritten`,
and what a data line with this content yields, also where it was put together by hand.
-/

namespace Claw

open Source (Line DataStatement Operand Declares)

/-! ## Fields -/

lemma Text.pieces_eq_splitOn (separator : Char) (cs : List Char) :
    Text.pieces separator cs = cs.splitOn separator := by
  induction cs with
  | nil => rfl
  | cons c cs ih =>
    rw [Text.pieces, ih, List.splitOn_cons_eq_if_modifyHead]
    simp only [beq_iff_eq]

/-- The texts of a value list that are read: those between the commas, trimmed, without the ones that
trim to nothing. -/
def listedTexts (raw : String) : List String :=
  (((raw.toList.splitOn ',').map Text.trim).filter (· ≠ [])).map String.ofList

lemma fields_eq (raw : String) : fields raw = listedTexts raw := by
  rw [fields, listedTexts, Text.pieces_eq_splitOn]
  generalize (raw.toList.splitOn ',').map Text.trim = texts
  rw [← List.filterMap_eq_map, List.filterMap_filter]
  refine List.filterMap_congr fun text _ => ?_
  cases text <;> rfl

/-- Whether a field is a literal of the type. -/
def isLiteral (type : DataType) (field : String) : Bool :=
  (literal type field).isOk

/-- The token is the value that a field is a literal of. -/
def IsValueOf (line : Line) (type : DataType) (field : String) (token : Token) : Prop :=
  ∃ datum, literal type field = .ok datum ∧ token = tokenAt line (.data datum)

/-- The diagnostic says why a field is no literal. -/
def IsRefusalOf (line : Line) (type : DataType) (field : String) (diagnostic : Diagnostic) : Prop :=
  ∃ fault message, literal type field = .error fault ∧ fault.message = .ok message ∧
    diagnostic = diagnosticAt line .malformedLiteral message

/-- **Value lists.** Of the fields of a value list, those that are literals of the type give tokens
and the others give diagnostics, one each and in their order. -/
lemma valueTokens_split {line : Line} {type : DataType} {fields : List String}
    {tokens : List Token} {diagnostics : List Diagnostic}
    (h : valueTokens line type fields = .ok (tokens, diagnostics)) :
    List.Forall₂ (IsValueOf line type) (fields.filter (isLiteral type ·)) tokens ∧
      List.Forall₂ (IsRefusalOf line type) (fields.filter (!isLiteral type ·)) diagnostics := by
  induction fields generalizing tokens diagnostics with
  | nil =>
    obtain ⟨rfl, rfl⟩ := Prod.mk.inj (Except.ok.inj h)
    exact ⟨.nil, .nil⟩
  | cons field rest ih =>
    obtain ⟨tokens', diagnostics', hrest, hfield⟩ := valueTokens_cons_eq_ok h
    obtain ⟨htokens, hdiagnostics⟩ := ih hrest
    rcases hfield with ⟨datum, hliteral, rfl, rfl⟩ | ⟨fault, message, hliteral, hmessage, rfl, rfl⟩
    · have hok : isLiteral type field = true := by
        rw [isLiteral, hliteral]
        rfl
      rw [List.filter_cons_of_pos hok, List.filter_cons_of_neg (by simp [hok])]
      exact ⟨.cons ⟨datum, hliteral, rfl⟩ htokens, hdiagnostics⟩
    · have hfault : isLiteral type field = false := by
        rw [isLiteral, hliteral]
        rfl
      rw [List.filter_cons_of_neg (by simp [hfault]), List.filter_cons_of_pos (by simp [hfault])]
      exact ⟨htokens, .cons ⟨fault, message, hliteral, hmessage, rfl⟩ hdiagnostics⟩

/-! ## Lines -/

/-- What a directive of a type yields: a quoted text is one value of the type of strings and nothing
else, and a value list is only for the types of numbers. -/
inductive DataOutcome (line : Line) : DataType → Operand → List Token → List Diagnostic → Prop
  | text (text : String) :
    DataOutcome line .string (.quoted text) [tokenAt line (.data (.string text))] []
  | listedText (raw : String) :
    DataOutcome line .string (.values raw) []
      [diagnosticAt line .malformedLiteral ".DBS requires a quoted string"]
  | quotedNumber {type : DataType} (text : String) (numeric : type ≠ .string) :
    DataOutcome line type (.quoted text) []
      [diagnosticAt line .malformedLiteral
        (type.directive ++ " requires a parenthesized value list")]
  | numbers {type : DataType} {raw : String} {tokens : List Token} {diagnostics : List Diagnostic}
    (numeric : type ≠ .string)
    (valued : List.Forall₂ (IsValueOf line type)
      ((listedTexts raw).filter (isLiteral type ·)) tokens)
    (refused : List.Forall₂ (IsRefusalOf line type)
      ((listedTexts raw).filter (!isLiteral type ·)) diagnostics) :
    DataOutcome line type (.values raw) tokens diagnostics

lemma dataOutcome_of_operandTokens {line : Line} {type : DataType} {operand : Operand}
    {tokens : List Token} {diagnostics : List Diagnostic}
    (h : operandTokens line type operand = .ok (tokens, diagnostics)) :
    DataOutcome line type operand tokens diagnostics := by
  have hvalues : ∀ raw, type ≠ .string →
      valueTokens line type (fields raw) = .ok (tokens, diagnostics) →
        DataOutcome line type (.values raw) tokens diagnostics := by
    intro raw hnumeric hread
    rw [fields_eq] at hread
    obtain ⟨hvalued, hrefused⟩ := valueTokens_split hread
    exact .numbers hnumeric hvalued hrefused
  unfold operandTokens at h
  split at h
  · cases h
    exact .text _
  · cases h
    exact .listedText _
  · next hnumeric =>
    cases h
    exact .quotedNumber _ hnumeric
  · next hnumeric => exact hvalues _ hnumeric h

lemma ofSuffix?_of_map_toUpper {suffix : List Char} {type : DataType}
    (h : suffix.map Char.toUpper = type.suffix.toList) :
    DataType.ofSuffix? (String.ofList suffix) = some type := by
  have hall : ∀ suffix ∈ Source.suffixSpellings, ∀ type ∈ DataType.all,
      suffix.map Char.toUpper = type.suffix.toList →
        DataType.ofSuffix? (String.ofList suffix) = some type := by decide +kernel
  exact hall suffix (Source.mem_suffixSpellings_iff.mpr ⟨type, h⟩) type
    type.mem_all h

/-- **The grammar of data lines.** The pattern of data directives is found in a content just if some
part of the content is a data directive.  What is found is the directive with the shortest text in
front of it; only one directive starts there, and the groups of the pattern have its suffix and its
operand.  A line in the category of data with this content, whenever it can be read, yields what the
directive says, also as a part of a list of lines. -/
theorem data_line_grammar (content : String) :
    ((Source.Expression.data.search? content.toList).isSome = true ↔
      ∃ (statement : DataStatement) (front text behind : List Char), statement.IsWritten text ∧
        content.toList = front ++ (text ++ behind)) ∧
    ∀ front groups behind,
      Source.Expression.data.search? content.toList = some (front, groups, behind) →
      ∃ (statement : DataStatement) (text : List Char) (type : DataType),
        statement.IsWritten text ∧ content.toList = front ++ (text ++ behind) ∧
        (∀ (statement' : DataStatement) (front' text' behind' : List Char),
          statement'.IsWritten text' → content.toList = front' ++ (text' ++ behind') →
          front.length ≤ front'.length ∧
            (front' = front → statement' = statement ∧ text' = text ∧ behind' = behind)) ∧
        groups = Source.Expression.dataGroups statement ∧
        statement.suffix.toList.map Char.toUpper = type.suffix.toList ∧
        ∀ (options : Options) (line : Line), line.category = .data → line.content = content →
          (∀ position tokens diagnostics,
            readLine options position line = .ok (tokens, diagnostics) →
            DataOutcome line type statement.operand tokens diagnostics) ∧
          ∀ (lines : List Line) (result : Tokenization) (i : Nat),
            (Tokenization.ofLines options lines).outcome = .ok result → lines[i]? = some line →
            line.processed = false →
            ∃ tokens diagnostics, result.yieldAt? i = some ⟨i, tokens, diagnostics⟩ ∧
              DataOutcome line type statement.operand tokens diagnostics := by
  refine ⟨Source.Expression.isSome_search?_data_iff, fun front groups behind hsearch => ?_⟩
  obtain ⟨statement, text, hwritten, hcontent, hgroups, hfound, hshortest⟩ :=
    Source.Expression.search?_data hsearch
  obtain ⟨-, -, -, -, ⟨type, htype⟩, -, -⟩ := id hwritten
  refine ⟨statement, text, type, hwritten, hcontent, ?_, hgroups, htype, ?_⟩
  · intro statement' front' text' behind' hwritten' hcontent'
    refine ⟨hshortest statement' front' text' behind' hwritten' hcontent', ?_⟩
    rintro rfl
    have hsame := List.append_cancel_left (hcontent'.symm.trans hcontent)
    exact hwritten'.unique hwritten hsame
  · intro options line hcategory hline
    have hdeclares : Declares line.content type statement.operand := by
      refine ⟨statement.suffix, by rw [hline, hfound], ?_⟩
      rw [← String.ofList_toList (s := statement.suffix)]
      exact ofSuffix?_of_map_toUpper htype
    have hread : ∀ position tokens diagnostics,
        readLine options position line = .ok (tokens, diagnostics) →
          DataOutcome line type statement.operand tokens diagnostics := by
      intro position tokens diagnostics h
      rw [readLine, hcategory] at h
      dsimp only at h
      rw [dataLine_of_declares hdeclares] at h
      exact dataOutcome_of_operandTokens h
    refine ⟨hread, fun lines result i h hmem hprocessed => ?_⟩
    rw [Tokenization.outcome_ofLines] at h
    obtain ⟨position, tokens, diagnostics, hhandled, hyield⟩ :=
      Tokenization.exists_yieldAt? h hmem hprocessed (by simp [hcategory])
    exact ⟨tokens, diagnostics, hyield, hread position tokens diagnostics hhandled⟩

/-- A directive in the middle of a line, with a blank field and a field that is out of range. -/
def mixedLine : Line :=
  ⟨"x .dB16 (1, ,70000,2) y", 1, "a", .data, false, by decide⟩

/-- The directive is found behind the text in front of it, with its suffix and its value list, and
the line yields two values and one diagnostic. -/
theorem data_line_grammar_mixedLine :
    let type : DataType := .integer ⟨true, .half⟩
    let values : List Token := [⟨.data (.integer ⟨true, .half⟩ 1), 1, "a"⟩,
      ⟨.data (.integer ⟨true, .half⟩ 2), 1, "a"⟩]
    let refusal : Diagnostic :=
      ⟨.malformedLiteral, "Value 70000 out of range for .DB16 (-32768..32767)", 1, "a"⟩
    Source.Expression.data.search? mixedLine.content.toList =
        some (['x', ' '], [(2, "1, ,70000,2".toList), (1, ['1', '6'])], [' ', 'y']) ∧
      readLine {} 0 mixedLine = .ok (values, [refusal]) ∧
      DataOutcome mixedLine type (.values "1, ,70000,2") values [refusal] := by
  have hsearch : Source.Expression.data.search? mixedLine.content.toList =
      some (['x', ' '], [(2, "1, ,70000,2".toList), (1, ['1', '6'])], [' ', 'y']) := by
    decide +kernel
  have hread : readLine {} 0 mixedLine = .ok
      ([⟨.data (.integer ⟨true, .half⟩ 1), 1, "a"⟩, ⟨.data (.integer ⟨true, .half⟩ 2), 1, "a"⟩],
        [⟨.malformedLiteral, "Value 70000 out of range for .DB16 (-32768..32767)", 1, "a"⟩]) := by
    decide +kernel
  obtain ⟨⟨suffix, operand⟩, -, type, -, -, -, hgroups, htype, houtcome⟩ :=
    (data_line_grammar mixedLine.content).2 _ _ _ hsearch
  have hline := (houtcome {} mixedLine rfl rfl).1 0 _ _ hread
  -- the groups settle the operand, and the suffix in them settles the type
  obtain ⟨hoperand, hsuffix⟩ := List.cons.inj hgroups
  have hvalues : operand = .values "1, ,70000,2" := by
    cases operand with
    | values raw => rw [String.toList_inj.mp (Prod.mk.inj hoperand).2]
    | quoted text => exact absurd (Prod.mk.inj hoperand).1 (by decide)
  have hsixteen : ['1', '6'] = type.suffix.toList := by
    rw [← htype, ← (Prod.mk.inj (List.cons.inj hsuffix).1).2]
    rfl
  have htypes : ∀ type ∈ DataType.all, ['1', '6'] = type.suffix.toList →
      type = .integer ⟨true, .half⟩ := by
    decide
  rw [hvalues, htypes type type.mem_all hsixteen] at hline
  exact ⟨hsearch, hread, hline⟩

end Claw
