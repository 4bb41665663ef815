import Claw.Proofs.Text.Margin
import Claw.Proofs.Token.Line
import Claw.Proofs.Token.Place

/-!
# No line is lost

Under strict options, where labels become tokens and lines of unknown category are reported, the
result says of every line of a source what became of it.

* `Account` lists the ways in which a line is accounted for, `Account.Covers` says which lines are
  accounted for in which way, and `Account.Settles` what the result then holds for the line.
* `existsUnique_covers`: of a line that was read from a text, exactly one account is true.
* `settles_of_covers`: what the step at such a line yields.

`strict_run_accounts` puts the two together for whole sources.  Apart from empty lines and
directives only one kind of line passes without a trace: a numeric directive whose list holds no
field that is not blank (`passes_iff`).
-/

namespace Claw

open Source (Line Declares)

/-- The options under which every line is accounted for. -/
def Options.strict (options : Options) : Options :=
  { options with emitLabels := true, reportUnknown := true }

/-- How many of the pieces between the commas of a value list are not blank. -/
def fieldCount (raw : String) : Nat :=
  (Text.pieces ',' raw.toList).countP fun piece => piece.any (!Text.isBlank ·)

lemma length_fields (raw : String) : (fields raw).length = fieldCount raw := by
  rw [fields, List.length_filterMap_eq_countP, List.countP_map, fieldCount]
  refine List.countP_congr fun piece _ => ?_
  have hblank : ¬Text.trim piece = [] ↔ ∃ c ∈ piece, Text.isBlank c = false := by
    rw [Text.trim_eq_nil_iff]
    simp
  simpa using hblank

/-- The ways in which a line is accounted for. -/
inductive Account
  | empty
  | directive
  | unclassified
  | label
  | instruction
  /-- Data of the string type. -/
  | string
  /-- Data of a numeric type with a quoted string. -/
  | misquoted
  /-- Data of a numeric type with a value list. -/
  | values
  deriving DecidableEq, Repr

namespace Account

/-- Whether the account is that of the line. -/
def Covers (line : Line) : Account → Prop
  | .empty => line.content = ""
  | .directive => Source.isDirective line.content = true
  | .unclassified => line.category = .unknown ∧ Source.isDirective line.content = false
  | .label => line.category = .label
  | .instruction => line.category = .instruction
  | .string => line.category = .data ∧ ∃ operand, Declares line.content .string operand
  | .misquoted => line.category = .data ∧
      ∃ type text, Declares line.content type (.quoted text) ∧ type ≠ .string
  | .values => line.category = .data ∧
      ∃ type raw, Declares line.content type (.values raw) ∧ type ≠ .string

/-- Whether the account is borne out by all that the result holds for the line. -/
def Settles (line : Line) (yields : List LineYield) : Account → Prop
  | .empty => yields = []
  | .directive => yields = []
  | .unclassified => ∃ yield diagnostic, yields = [yield] ∧ yield.tokens = [] ∧
      yield.diagnostics = [diagnostic] ∧ diagnostic.kind = .unclassifiedLine
  | .label => ∃ yield name position, yields = [yield] ∧
      yield.tokens = [tokenAt line (.label name position)] ∧ yield.diagnostics = []
  | .instruction => ∃ yield, yields = [yield] ∧
      ((∃ operation input output,
          yield.tokens = [tokenAt line (.instruction operation input output)] ∧
            yield.diagnostics = []) ∨
        yield.tokens = [] ∧ (yield.diagnostics.length = 1 ∨ yield.diagnostics.length = 2))
  | .string => ∃ yield, yields = [yield] ∧
      (yield.tokens.length = 1 ∧ yield.diagnostics = [] ∨
        yield.tokens = [] ∧ yield.diagnostics.length = 1)
  | .misquoted => ∃ yield, yields = [yield] ∧ yield.tokens = [] ∧ yield.diagnostics.length = 1
  | .values => ∃ yield, yields = [yield] ∧ ∀ type raw, Declares line.content type (.values raw) →
      yield.tokens.length + yield.diagnostics.length = fieldCount raw

/-- The category of the lines that an account covers. -/
def category : Account → Source.Category
  | .empty => .empty
  | .directive | .unclassified => .unknown
  | .label => .label
  | .instruction => .instruction
  | .string | .misquoted | .values => .data

/-- The account of a line that declares data. -/
def ofDeclared : DataType → Source.Operand → Account
  | .string, _ => .string
  | _, .quoted _ => .misquoted
  | _, .values _ => .values

/-! ## One account for every line -/

lemma category_of_covers {file content : String} {number : Int} {account : Account}
    (h : Covers (.ofContent file number content) account) :
    Source.categoryOf content = account.category := by
  cases account with
  | empty => exact (Source.categoryOf_eq_empty_iff content).mpr h
  | directive => exact Source.categoryOf_of_isDirective h
  | label => exact h
  | instruction => exact h
  | _ => exact h.1

lemma exists_covers (file content : String) (number : Int) :
    ∃ account, Covers (.ofContent file number content) account := by
  cases hcategory : Source.categoryOf content with
  | empty => exact ⟨.empty, (Source.categoryOf_eq_empty_iff content).mp hcategory⟩
  | label => exact ⟨.label, hcategory⟩
  | instruction => exact ⟨.instruction, hcategory⟩
  | unknown =>
    cases hdirective : Source.isDirective content with
    | true => exact ⟨.directive, hdirective⟩
    | false => exact ⟨.unclassified, hcategory, hdirective⟩
  | data =>
    obtain ⟨type, operand, hdeclares⟩ := Source.exists_declares hcategory
    by_cases htype : type = .string
    · subst htype
      exact ⟨.string, hcategory, operand, hdeclares⟩
    · cases operand with
      | quoted text => exact ⟨.misquoted, hcategory, type, text, hdeclares, htype⟩
      | values raw => exact ⟨.values, hcategory, type, raw, hdeclares, htype⟩

lemma exists_eq_ofDeclared {file content : String} {number : Int} {account : Account}
    (h : Covers (.ofContent file number content) account) (hdata : account.category = .data) :
    ∃ type operand, Declares content type operand ∧ account = ofDeclared type operand := by
  cases account with
  | string =>
    obtain ⟨-, operand, hdeclares⟩ := h
    exact ⟨.string, operand, hdeclares, rfl⟩
  | misquoted =>
    obtain ⟨-, type, text, hdeclares, htype⟩ := h
    exact ⟨type, .quoted text, hdeclares, by cases type <;> first | rfl | contradiction⟩
  | values =>
    obtain ⟨-, type, raw, hdeclares, htype⟩ := h
    exact ⟨type, .values raw, hdeclares, by cases type <;> first | rfl | contradiction⟩
  | _ => cases hdata

/-- Away from data, only directives share their category with other lines. -/
lemma eq_or_unknown {account account' : Account}
    (h : account.category = account'.category) (hdata : account.category ≠ .data) :
    account = account' ∨ account = .directive ∧ account' = .unclassified ∨
      account = .unclassified ∧ account' = .directive := by
  revert h hdata
  cases account <;> cases account' <;> decide

/-- Accounts in different categories exclude each other, and within a category the content
decides. -/
lemma covers_unique {file content : String} {number : Int} {account account' : Account}
    (h : Covers (.ofContent file number content) account)
    (h' : Covers (.ofContent file number content) account') : account = account' := by
  have hcategory : account.category = account'.category :=
    (category_of_covers h).symm.trans (category_of_covers h')
  by_cases hdata : account.category = .data
  · obtain ⟨type, operand, hdeclares, rfl⟩ := exists_eq_ofDeclared h hdata
    obtain ⟨type', operand', hdeclares', rfl⟩ := exists_eq_ofDeclared h' (hcategory ▸ hdata)
    obtain ⟨rfl, rfl⟩ := hdeclares.unique hdeclares'
    rfl
  · rcases eq_or_unknown hcategory hdata with rfl | ⟨rfl, rfl⟩ | ⟨rfl, rfl⟩
    · rfl
    · exact absurd (h'.2.symm.trans h) (by decide)
    · exact absurd (h.2.symm.trans h') (by decide)

/-- **Exactly one account.** A line that was read from a text is accounted for in one way. -/
lemma existsUnique_covers (file content : String) (number : Int) :
    ∃! account, Covers (.ofContent file number content) account := by
  obtain ⟨account, h⟩ := exists_covers file content number
  exact ⟨account, h, fun account' h' => covers_unique h' h⟩

/-! ## What a line yields -/

lemma settles_of_dataLine {file content : String} {number : Int} {index : Nat}
    {tokens : List Token} {diagnostics : List Diagnostic} {account : Account}
    (hread : dataLine (.ofContent file number content) = .ok (tokens, diagnostics))
    (h : Covers (.ofContent file number content) account) (hdata : account.category = .data) :
    Settles (.ofContent file number content) [⟨index, tokens, diagnostics⟩] account := by
  obtain ⟨type, operand, hdeclares, rfl⟩ := exists_eq_ofDeclared h hdata
  rw [dataLine_of_declares hdeclares] at hread
  have hvalues : ∀ raw, operand = .values raw →
      valueTokens (.ofContent file number content) type (fields raw) = .ok (tokens, diagnostics) →
      Settles (.ofContent file number content) [⟨index, tokens, diagnostics⟩] .values := by
    rintro raw rfl hvalues
    refine ⟨_, rfl, fun type' raw' hdeclares' => ?_⟩
    obtain ⟨-, hraw⟩ := hdeclares.unique hdeclares'
    cases hraw
    rw [← length_fields]
    exact length_valueTokens hvalues
  cases operand with
  | quoted text =>
    cases type <;> obtain ⟨rfl, rfl⟩ := Prod.mk.inj (Except.ok.inj hread)
    · exact ⟨_, rfl, rfl, rfl⟩
    · exact ⟨_, rfl, rfl, rfl⟩
    · exact ⟨_, rfl, .inl ⟨rfl, rfl⟩⟩
  | values raw =>
    cases type with
    | string =>
      obtain ⟨rfl, rfl⟩ := Prod.mk.inj (Except.ok.inj hread)
      exact ⟨_, rfl, .inr ⟨rfl, rfl⟩⟩
    | integer type => exact hvalues raw rfl hread
    | single => exact hvalues raw rfl hread

section Steps

variable {options : Options} {index position : Nat} {file content : String} {number : Int}
  {step : Tokenization} {account : Account}

lemma settles_of_skip
    (h : Covers (.ofContent file number content) account)
    (hskip : (Line.ofContent file number content).processed = true ∨
      Source.categoryOf content = .unknown ∧
        isReported options.strict (.ofContent file number content) = false) :
    Settles (.ofContent file number content) [] account := by
  rcases hskip with hprocessed | ⟨hunknown, hreported⟩
  · have hempty : Source.categoryOf content = .empty := by
      simpa [Line.ofContent] using hprocessed
    cases account with
    | empty => rfl
    | _ => cases hempty.symm.trans (category_of_covers h)
  · cases account with
    | directive => rfl
    | unclassified =>
      have hdirective : Source.isDirective content = false := h.2
      simp [isReported, Options.strict, Line.ofContent, hdirective] at hreported
    | _ => cases hunknown.symm.trans (category_of_covers h)

lemma settles_of_reject
    (h : Covers (.ofContent file number content) account)
    (hunknown : Source.categoryOf content = .unknown)
    (hreported : isReported options.strict (.ofContent file number content) = true) :
    Settles (.ofContent file number content)
      [⟨index, [], [Claw.unclassified (.ofContent file number content)]⟩] account := by
  cases account with
  | directive =>
    have hdirective : Source.isDirective content = true := h
    simp [isReported, Line.ofContent, hdirective] at hreported
  | unclassified => exact ⟨_, _, rfl, rfl, rfl, rfl⟩
  | _ => cases hunknown.symm.trans (category_of_covers h)

/-- A line that is handled settles its account because the reader recognises it once more. -/
lemma settles_of_handle {tokens : List Token} {diagnostics : List Diagnostic}
    (h : Covers (.ofContent file number content) account)
    (hprocessed : (Line.ofContent file number content).processed = false)
    (hunknown : Source.categoryOf content ≠ .unknown)
    (hread : readLine options.strict position (.ofContent file number content) =
      .ok (tokens, diagnostics)) :
    Settles (.ofContent file number content) [⟨index, tokens, diagnostics⟩] account := by
  have hcategory := category_of_covers h
  have hline : (Line.ofContent file number content).category = account.category := hcategory
  rw [readLine, hline] at hread
  cases account with
  | empty =>
    have hempty : Source.categoryOf content ≠ .empty := by
      simpa [Line.ofContent] using hprocessed
    exact absurd hcategory hempty
  | directive => exact absurd hcategory hunknown
  | unclassified => exact absurd hcategory hunknown
  | label =>
    obtain ⟨name, hname⟩ := Source.exists_labelStatement hcategory
    obtain ⟨rfl, rfl⟩ := Prod.mk.inj (Except.ok.inj hread)
    exact ⟨_, name, position, rfl, labelLine_of_labelStatement? position hname rfl, rfl⟩
  | instruction =>
    obtain ⟨statement, hstatement⟩ := Source.exists_instructionStatement hcategory
    have hline : Source.instructionStatement?
        (Line.ofContent file number content).content.toList = some statement := hstatement
    have hcases := instructionLine_cases options.strict hline
    have hyielded := Except.ok.inj hread
    refine ⟨_, rfl, ?_⟩
    rcases hcases with ⟨operation, input, output, hcase⟩ | ⟨faults, hcase, hcount⟩
    · obtain ⟨rfl, rfl⟩ := Prod.mk.inj (hyielded.symm.trans hcase)
      exact .inl ⟨operation, input, output, rfl, rfl⟩
    · obtain ⟨rfl, rfl⟩ := Prod.mk.inj (hyielded.symm.trans hcase)
      exact .inr ⟨rfl, hcount⟩
  | string => exact settles_of_dataLine hread h rfl
  | misquoted => exact settles_of_dataLine hread h rfl
  | values => exact settles_of_dataLine hread h rfl

/-- **Every step settles its account.** Whatever account of a line is true, the step at the line
bears it out. -/
lemma settles_of_covers
    (hstep : Tokenization.ofLine options.strict index position (.ofContent file number content) =
      .ok step)
    (h : Covers (.ofContent file number content) account) :
    Settles (.ofContent file number content) step.yields account := by
  rcases Tokenization.ofLine_cases hstep with ⟨rfl, hskip⟩ | ⟨rfl, -, hunknown, hreported⟩ |
    ⟨tokens, diagnostics, rfl, hprocessed, hunknown, hread⟩
  · exact settles_of_skip h hskip
  · exact settles_of_reject h hunknown hreported
  · exact settles_of_handle h hprocessed hunknown hread

end Steps

/-! ## Lines without a trace -/

/-- Whether a line with content that is no directive is followed by neither a token nor a
diagnostic. -/
def Passes (line : Line) (yields : List LineYield) : Prop :=
  line.content ≠ "" ∧ Source.isDirective line.content = false ∧
    ∀ yield ∈ yields, yield.tokens = [] ∧ yield.diagnostics = []

/-- An account that is borne out by nothing is that of an empty value list. -/
lemma fieldCount_eq_zero_of_passes {file content : String} {number : Int}
    {yields : List LineYield} {account : Account}
    (hcovers : Covers (.ofContent file number content) account)
    (hsettles : Settles (.ofContent file number content) yields account)
    (h : Passes (.ofContent file number content) yields) :
    account = .values ∧ ∀ type raw, Declares content type (.values raw) → fieldCount raw = 0 := by
  obtain ⟨hcontent, hdirective, hnone⟩ := h
  cases account with
  | empty => exact absurd hcovers hcontent
  | directive => cases hdirective.symm.trans hcovers
  | unclassified =>
    obtain ⟨yield, diagnostic, rfl, -, hdiagnostics, -⟩ := hsettles
    have := (hnone yield (List.mem_singleton_self _)).2
    simp [hdiagnostics] at this
  | label =>
    obtain ⟨yield, name, position, rfl, htokens, -⟩ := hsettles
    have := (hnone yield (List.mem_singleton_self _)).1
    simp [htokens] at this
  | instruction =>
    obtain ⟨yield, rfl, hyield⟩ := hsettles
    obtain ⟨htokens, hdiagnostics⟩ := hnone yield (List.mem_singleton_self _)
    simp [htokens, hdiagnostics] at hyield
  | string =>
    obtain ⟨yield, rfl, hyield⟩ := hsettles
    obtain ⟨htokens, hdiagnostics⟩ := hnone yield (List.mem_singleton_self _)
    simp [htokens, hdiagnostics] at hyield
  | misquoted =>
    obtain ⟨yield, rfl, -, hcount⟩ := hsettles
    have := (hnone yield (List.mem_singleton_self _)).2
    simp [this] at hcount
  | values =>
    obtain ⟨yield, rfl, hcount⟩ := hsettles
    obtain ⟨htokens, hdiagnostics⟩ := hnone yield (List.mem_singleton_self _)
    refine ⟨rfl, fun type raw hdeclares => ?_⟩
    have := hcount type raw hdeclares
    simpa [htokens, hdiagnostics] using this.symm

/-- **The one way to pass.** A line passes without a trace just if it is a numeric directive with
no field that is not blank. -/
lemma passes_iff {file content : String} {number : Int} {yields : List LineYield}
    (hsettles : ∀ account, Covers (.ofContent file number content) account →
      Settles (.ofContent file number content) yields account) :
    Passes (.ofContent file number content) yields ↔
      Source.categoryOf content = .data ∧ ∃ type raw, Declares content type (.values raw) ∧
        type ≠ .string ∧ fieldCount raw = 0 := by
  constructor
  · intro h
    obtain ⟨account, hcovers⟩ := exists_covers file content number
    obtain ⟨rfl, hcount⟩ := fieldCount_eq_zero_of_passes hcovers (hsettles account hcovers) h
    obtain ⟨hcategory, type, raw, hdeclares, htype⟩ := hcovers
    exact ⟨hcategory, type, raw, hdeclares, htype, hcount type raw hdeclares⟩
  · rintro ⟨hcategory, type, raw, hdeclares, htype, hcount⟩
    obtain ⟨yield, rfl, hsum⟩ := hsettles .values ⟨hcategory, type, raw, hdeclares, htype⟩
    have hzero : yield.tokens.length + yield.diagnostics.length = 0 :=
      (hsum type raw hdeclares).trans hcount
    refine ⟨?_, ?_, ?_⟩
    · intro hcontent
      cases hcategory.symm.trans ((Source.categoryOf_eq_empty_iff content).mpr hcontent)
    · by_contra hdirective
      have := Source.categoryOf_of_isDirective (eq_true_of_ne_false hdirective)
      cases hcategory.symm.trans this
    · intro found hfound
      obtain rfl := List.mem_singleton.mp hfound
      exact ⟨List.eq_nil_of_length_eq_zero (by omega), List.eq_nil_of_length_eq_zero (by omega)⟩

end Account

/-- **No line is lost.** In a result under strict options all tokens and diagnostics are those of
the yields; exactly one account of every line is true, and the yields of the line bear it out; and a
line passes without a trace only as a numeric directive that lists nothing. -/
theorem strict_run_accounts (options : Options) (text file : String) (result : Tokenization)
    (h : (Tokenization.ofLines options.strict (Source.read text file)).outcome = .ok result) :
    (result.tokens = result.yields.flatMap LineYield.tokens ∧
      result.diagnostics = result.yields.flatMap LineYield.diagnostics) ∧
    ∀ i line, (Source.read text file)[i]? = some line →
      let yields := result.yields.filter fun yield => yield.index = i
      (∃! account, Account.Covers line account) ∧
      (∀ account, Account.Covers line account → Account.Settles line yields account) ∧
      (Account.Passes line yields ↔ line.category = .data ∧
        ∃ type raw, Declares line.content type (.values raw) ∧ type ≠ .string ∧
          fieldCount raw = 0) := by
  rw [Tokenization.outcome_ofLines] at h
  refine ⟨Tokenization.tokens_of_ofLinesFrom h, fun i line hline => ?_⟩
  obtain ⟨position, step, hstep, hfilter⟩ := Tokenization.yields_filter_index h hline
  obtain ⟨content, -, rfl⟩ := Source.exists_eq_ofContent hline
  rw [Nat.zero_add] at hstep hfilter
  have hsettles : ∀ account, Account.Covers (.ofContent file (1 + i) content) account →
      Account.Settles (.ofContent file (1 + i) content) step.yields account :=
    fun account hcovers => Account.settles_of_covers hstep hcovers
  dsimp only
  rw [hfilter]
  exact ⟨Account.existsUnique_covers file content _, hsettles, Account.passes_iff hsettles⟩

/-- The one account of a value list without values, which passes. -/
theorem strict_run_accounts_blank_list :
    ∃ result, (Tokenization.ofLines (Options.strict {}) (Source.read ".DB8( , )" "")).outcome =
        .ok result ∧
      (∃! account, Account.Covers (.ofContent "" 1 ".DB8( , )") account) ∧
      result.yields.flatMap LineYield.tokens = [] :=
  ⟨_, rfl, ((strict_run_accounts {} ".DB8( , )" "" _ rfl).2 0 _ rfl).1, rfl⟩

end Claw
