import Claw.Proofs.Program.Statement
import Claw.Proofs.Source.Reading
import Claw.Proofs.Source.Seam
import Claw.Proofs.Text.Margin
import Claw.Proofs.Token.Fields

/-!
# From a program to the contents of its lines

No pass over the source of a program changes anything, and the lines of the source hold what the
statements hold: `contents_source`.

* `bare_escapeChars`: removing comments and escapes undoes the escaping, whatever the text is;
* `layout_escapeChars`: escaping leads to no pair of characters that settling the layout replaces;
* `IsSettled`: what the content of a line has to meet for that, and `Statement.isSettled_content`;
* `isSettled_listDirective`: the same for any text between the parentheses of a directive.

Consumed by `Claw/Proofs/Program/Recognition.lean`.
-/

namespace Claw

open Text (replacePair_pair replacePair_cons replacePair_eq_self pair_infix_cons
  pair_infix_of_concat)

lemma IsField.of_isNumeralChar {text : String} (hne : text ≠ "")
    (h : ∀ c ∈ text.toList, Numeral.isNumeralChar c = true) : IsField text where
  ne_empty := hne
  no_comma := fun hmem => absurd (h ',' hmem) (by decide)
  trim_eq := Numeral.trim_eq_of_isNumeralChar h

lemma Numeral.Spelling.isField_numeral (spelling : Spelling) (n : Int) :
    IsField (spelling.numeral n) :=
  .of_isNumeralChar (by simpa using spelling.numeral_ne_nil n)
    (spelling.isNumeralChar_of_mem_numeral n)

namespace Program

/-! ## Escaped text -/

@[simp] lemma escapeChars_nil : escapeChars [] = [] := rfl

@[simp] lemma escapeChars_semicolon (cs : List Char) :
    escapeChars (';' :: cs) = '\\' :: ';' :: escapeChars cs := rfl

lemma escapeChars_cons {c : Char} (h : c ≠ ';') (cs : List Char) :
    escapeChars (c :: cs) = c :: escapeChars cs := by
  rw [escapeChars, List.flatMap_cons, if_neg h]
  rfl

lemma escapeChars_append (cs ds : List Char) :
    escapeChars (cs ++ ds) = escapeChars cs ++ escapeChars ds :=
  List.flatMap_append

lemma escape_append (front behind : String) :
    escape (front ++ behind) = escape front ++ escape behind := by
  simp only [escape, String.toList_append, escapeChars_append, String.ofList_append]

lemma escapeChars_eq_self {cs : List Char} (h : ';' ∉ cs) : escapeChars cs = cs := by
  induction cs with
  | nil => rfl
  | cons c cs ih =>
    obtain ⟨hc, hcs⟩ := not_or.mp (List.mem_cons.not.mp h)
    rw [escapeChars_cons (Ne.symm hc), ih hcs]

/-- Escaping adds backslashes only. -/
lemma mem_escapeChars {c : Char} {cs : List Char} (h : c ∈ escapeChars cs) : c ∈ cs ∨ c = '\\' := by
  obtain ⟨d, hd, hc⟩ := List.mem_flatMap.mp h
  by_cases hsemicolon : d = ';'
  · rw [if_pos hsemicolon] at hc
    simp only [List.mem_cons, List.not_mem_nil, or_false] at hc
    rcases hc with rfl | rfl
    · exact .inr rfl
    · exact .inl (hsemicolon ▸ hd)
  · rw [if_neg hsemicolon, List.mem_singleton] at hc
    exact .inl (hc ▸ hd)

lemma head?_escapeChars (cs : List Char) : (escapeChars cs).head? ≠ some ';' := by
  cases cs with
  | nil => simp
  | cons c cs =>
    by_cases hc : c = ';'
    · simp [hc]
    · simpa [escapeChars_cons hc] using hc

lemma getLast?_escapeChars (cs : List Char) : (escapeChars cs).getLast? = cs.getLast? := by
  induction cs with
  | nil => rfl
  | cons c cs ih =>
    by_cases hc : c = ';'
    · subst hc
      rw [escapeChars_semicolon, List.getLast?_cons_cons, List.getLast?_cons, List.getLast?_cons,
        ih]
    · rw [escapeChars_cons hc, List.getLast?_cons, List.getLast?_cons, ih]

/-- An escaped semicolon starts no comment. -/
lemma dropComments_escapeChars (afterBackslash : Bool) (cs : List Char) :
    Source.dropComments (.code afterBackslash) (escapeChars cs) = escapeChars cs := by
  -- the state does not matter, since every semicolon brings its backslash along
  induction cs generalizing afterBackslash with
  | nil => cases afterBackslash <;> rfl
  | cons c cs ih =>
    by_cases hc : c = ';'
    · subst hc
      rw [escapeChars_semicolon, Source.dropComments, if_neg (by simp), Source.dropComments,
        if_neg (by simp), ih]
    · rw [escapeChars_cons hc, Source.dropComments, if_neg (by simp [hc]), ih]

lemma unescape_escapeChars (cs : List Char) : Source.unescape (escapeChars cs) = cs := by
  rw [Source.unescape_eq]
  induction cs with
  | nil => rfl
  | cons c cs ih =>
    by_cases hc : c = ';'
    · subst hc
      rw [escapeChars_semicolon, replacePair_pair, ih]
      rfl
    · rw [escapeChars_cons hc, replacePair_cons (.inr (head?_escapeChars cs)), ih]

/-- **Escaping is undone.** What is left of an escaped text is the text without its margins. -/
lemma bare_escapeChars (cs : List Char) : Source.bare (escapeChars cs) = Text.trim cs := by
  rw [Source.bare, dropComments_escapeChars, unescape_escapeChars]

/-! ## The layout of escaped text -/

/-- Escaping makes no escaped line break, since a semicolon follows what it adds. -/
lemma pair_infix_escapeChars {cs : List Char} (h : ['\\', 'n'] <:+: escapeChars cs) :
    ['\\', 'n'] <:+: cs := by
  induction cs with
  | nil => simp at h
  | cons c cs ih =>
    by_cases hc : c = ';'
    · subst hc
      rw [escapeChars_semicolon, pair_infix_cons, pair_infix_cons] at h
      rcases h with ⟨-, h⟩ | ⟨h, -⟩ | h
      · simp at h
      · simp at h
      · exact List.infix_cons (ih h)
    · rw [escapeChars_cons hc, pair_infix_cons] at h
      rcases h with ⟨rfl, hhead⟩ | h
      · rw [pair_infix_cons]
        refine .inl ⟨rfl, ?_⟩
        cases cs with
        | nil => simp at hhead
        | cons d ds =>
          by_cases hd : d = ';'
          · simp [hd] at hhead
          · simpa [escapeChars_cons hd] using hhead
      · exact List.infix_cons (ih h)

/-- Settling the layout leaves an escaped text as it is, if nothing in the text breaks a line. -/
lemma layout_escapeChars {cs : List Char} (hbreak : '\n' ∉ cs) (hescape : ¬['\\', 'n'] <:+: cs) :
    Source.layout (escapeChars cs) = escapeChars cs := by
  have hnone : ∀ c, ¬[c, '\n'] <:+: escapeChars cs := by
    intro c hpair
    have hmem : '\n' ∈ escapeChars cs := hpair.subset (by simp)
    rcases mem_escapeChars hmem with hmem | hbackslash
    · exact hbreak hmem
    · exact absurd hbackslash (by decide)
  rw [Source.layout, Source.unifyPairs_eq, replacePair_eq_self (hnone '\r'),
    Source.joinContinued_eq, replacePair_eq_self (hnone '\\'), Source.breakEscapes_eq,
    replacePair_eq_self fun hpair => hescape (pair_infix_escapeChars hpair)]

/-! ## Settled contents -/

/-- A content that is a line of its own and comes back as it is. -/
structure IsSettled (content : String) : Prop where
  no_break : '\n' ∉ content.toList
  no_escape : ¬['\\', 'n'] <:+: content.toList
  trim_eq : Text.trim content.toList = content.toList
  isClosed : Source.IsClosed content.toList

/-- What is left to see about a content is its two ends. -/
lemma IsSettled.of_concat {content : String} {front : List Char} {last : Char}
    (hbreak : '\n' ∉ content.toList) (hescape : ¬['\\', 'n'] <:+: content.toList)
    (hhead : ∀ c ∈ content.toList.head?, Text.isBlank c = false)
    (hconcat : content.toList = front ++ [last]) (hblank : Text.isBlank last = false)
    (hbackslash : last ≠ '\\') : IsSettled content := by
  have hlast : content.toList.getLast? = some last := by
    rw [hconcat, List.getLast?_concat]
  refine ⟨hbreak, hescape, ?_, ?_⟩
  · refine Text.trim_eq_self hhead ?_
    rw [hlast]
    rintro c ⟨rfl⟩
    exact hblank
  · rw [Source.IsClosed, hlast]
    refine ⟨by simpa using hbackslash, ?_⟩
    intro hreturn
    obtain rfl := Option.some.inj hreturn
    exact absurd hblank (by decide)

lemma IsSettled.isClosed_escape {content : String} (h : IsSettled content) :
    Source.IsClosed (escape content).toList := by
  rw [Source.IsClosed, escape, String.toList_ofList, getLast?_escapeChars]
  exact h.isClosed

lemma IsSettled.contents_escape {content : String} (h : IsSettled content) :
    Source.contents (escape content) = [content] := by
  have hbreak : '\n' ∉ escapeChars content.toList := by
    intro hmem
    rcases mem_escapeChars hmem with hmem | hbackslash
    · exact h.no_break hmem
    · exact absurd hbackslash (by decide)
  rw [Source.contents, escape, String.toList_ofList, layout_escapeChars h.no_break h.no_escape,
    Text.lines, Text.pieces_eq_singleton hbreak, List.map_singleton, bare_escapeChars, h.trim_eq,
    String.ofList_toList]

/-! ## Characters of code -/

/-- The characters of everything but strings. -/
def isCodeChar (c : Char) : Bool :=
  Text.isWord c || Source.isValueChar c || ['(', ')', ':'].contains c

/-- The text consists of characters of code. -/
def IsCode (content : String) : Prop :=
  ∀ c ∈ content.toList, isCodeChar c = true

lemma IsCode.no_break {content : String} (h : IsCode content) : '\n' ∉ content.toList :=
  fun hmem => absurd (h _ hmem) (by decide)

lemma IsCode.no_escape {content : String} (h : IsCode content) :
    ¬['\\', 'n'] <:+: content.toList :=
  fun hpair => absurd (h '\\' (hpair.subset (by simp))) (by decide)

lemma IsCode.escape_eq {content : String} (h : IsCode content) : escape content = content := by
  have hsemicolon : ';' ∉ content.toList := fun hmem => absurd (h _ hmem) (by decide)
  rw [escape, escapeChars_eq_self hsemicolon, String.ofList_toList]

lemma isWord_of_mem_name (operation : Instruction) :
    ∀ c ∈ operation.name.toList, Text.isWord c = true := by
  refine List.all_eq_true.mp ?_
  cases operation <;> rfl

lemma name_ne_nil (operation : Instruction) : operation.name.toList ≠ [] := by
  cases operation <;> simp [Instruction.name]

/-- The letter of a stack. -/
lemma exists_letter (stack : Stack) :
    ∃ letter, stack.name.toList = [letter] ∧ Source.isStackLetter letter = true := by
  cases stack
  · exact ⟨'A', rfl, rfl⟩
  · exact ⟨'B', rfl, rfl⟩
  · exact ⟨'C', rfl, rfl⟩
  · exact ⟨'D', rfl, rfl⟩

/-! ## Value lists -/

lemma isValueChar_of_isNumeralChar {c : Char} (h : Numeral.isNumeralChar c = true) :
    Source.isValueChar c = true := by
  have hascii := (Numeral.toNat_bounds_of_isNumeralChar h).2
  rcases (Bool.or_eq_true _ _).mp h with hdigit | hsign
  · have hrange : 48 ≤ c.toNat ∧ c.toNat ≤ 57 := by simpa using Char.isDigit_iff_toNat.mp hdigit
    simp [Source.isValueChar, Text.isDecimalDigit, hascii, hrange]
  · simp only [List.contains_eq_mem, decide_eq_true_eq, List.mem_cons, List.not_mem_nil,
      or_false] at hsign
    rcases hsign with rfl | rfl | rfl <;> rfl

lemma isValueChar_of_mem_numeral (spelling : Numeral.Spelling) (n : Int) :
    ∀ c ∈ (spelling.numeral n).toList, Source.isValueChar c = true :=
  fun c hc => isValueChar_of_isNumeralChar (spelling.isNumeralChar_of_mem_numeral n c hc)

lemma isValueChar_of_mem_valueList {type : IntegerType} (listed : List (ListedInteger type)) :
    ∀ c ∈ (valueList listed).toList, Source.isValueChar c = true := by
  refine isValueChar_of_mem_intercalate fun text htext => ?_
  obtain ⟨integer, -, rfl⟩ := List.mem_map.mp htext
  exact isValueChar_of_mem_numeral integer.spelling integer.value

lemma toList_listDirective (type : DataType) (raw : String) :
    (listDirective type raw).toList =
      '.' :: 'D' :: 'B' :: (type.suffix.toList ++ '(' :: (raw.toList ++ [')'])) := by
  simp [listDirective]

variable {raw : String}

lemma isCode_listDirective (type : DataType)
    (h : ∀ c ∈ raw.toList, Source.isValueChar c = true) : IsCode (listDirective type raw) := by
  intro c hc
  have hsuffix : ∀ c ∈ type.suffix.toList, isCodeChar c = true := by
    refine List.all_eq_true.mp ?_
    cases type with
    | integer type =>
      obtain ⟨signed, width⟩ := type
      cases signed <;> cases width <;> rfl
    | single => rfl
    | string => rfl
  rw [toList_listDirective] at hc
  simp only [List.mem_cons, List.mem_append, List.not_mem_nil, or_false] at hc
  rcases hc with rfl | rfl | rfl | hc | rfl | hc | rfl
  · rfl
  · rfl
  · rfl
  · exact hsuffix c hc
  · rfl
  · simp [isCodeChar, h c hc]
  · rfl

lemma isSettled_listDirective (type : DataType)
    (h : ∀ c ∈ raw.toList, Source.isValueChar c = true) : IsSettled (listDirective type raw) := by
  have hcode : IsCode (listDirective type raw) := isCode_listDirective type h
  have hhead : ∀ c ∈ (listDirective type raw).toList.head?, Text.isBlank c = false := by
    rw [toList_listDirective]
    rintro c ⟨rfl⟩
    rfl
  have hconcat : (listDirective type raw).toList =
      ".DB".toList ++ type.suffix.toList ++ '(' :: raw.toList ++ [')'] := by
    rw [toList_listDirective]
    simp
  exact .of_concat hcode.no_break hcode.no_escape hhead hconcat rfl (by decide)

lemma contents_listDirective (type : DataType)
    (h : ∀ c ∈ raw.toList, Source.isValueChar c = true) :
    Source.contents (listDirective type raw) = [listDirective type raw] := by
  have hcode : IsCode (listDirective type raw) := isCode_listDirective type h
  have hsettled : IsSettled (listDirective type raw) := isSettled_listDirective type h
  have hcontents := hsettled.contents_escape
  rwa [hcode.escape_eq] at hcontents

/-! ## Statements -/

namespace Statement

lemma toList_content_string (text : PlainText) :
    (string text).content.toList =
      '.' :: 'D' :: 'B' :: 'S' :: '"' :: (text.text.toList ++ ['"']) := by
  simp [content]

lemma toList_content_instruction (operation : Instruction) (input output : Stack) :
    (instruction operation input output).content.toList =
      operation.name.toList ++ ' ' :: (input.name.toList ++ ' ' :: output.name.toList) := by
  simp [content]

lemma toList_content_label (name : LabelName) :
    (label name).content.toList = [name.name, ':'] :=
  String.toList_ofList

lemma isCode_content_instruction (operation : Instruction) (input output : Stack) :
    IsCode (instruction operation input output).content := by
  intro c hc
  have hstack : ∀ stack : Stack, ∀ c ∈ stack.name.toList, isCodeChar c = true := by
    refine fun stack => List.all_eq_true.mp ?_
    cases stack <;> rfl
  rw [toList_content_instruction] at hc
  simp only [List.mem_cons, List.mem_append] at hc
  rcases hc with hc | rfl | hc | rfl | hc
  · simp [isCodeChar, isWord_of_mem_name operation c hc]
  · rfl
  · exact hstack input c hc
  · rfl
  · exact hstack output c hc

lemma isCode_content_label (name : LabelName) : IsCode (label name).content := by
  intro c hc
  rw [toList_content_label] at hc
  simp only [List.mem_cons, List.not_mem_nil, or_false] at hc
  rcases hc with rfl | rfl
  · simp [isCodeChar, name.isWord_name]
  · rfl

/-- Only strings need escapes. -/
lemma line_eq_escape (statement : Statement) : statement.line = escape statement.content := by
  cases statement with
  | integers type first others =>
    have hcode : IsCode (listDirective (.integer type) (valueList (first :: others))) :=
      isCode_listDirective (.integer type) (isValueChar_of_mem_valueList _)
    exact hcode.escape_eq.symm
  | string text =>
    simp only [line, content, escape_append]
    rfl
  | instruction operation input output =>
    exact (isCode_content_instruction operation input output).escape_eq.symm
  | label name => exact (isCode_content_label name).escape_eq.symm

/-- The ends of a string are those of its directive, and what is between them is plain. -/
lemma isSettled_content_string (text : PlainText) : IsSettled (string text).content := by
  have hbreak : '\n' ∉ (string text).content.toList := by
    rw [toList_content_string]
    simpa using text.no_break
  have hescape : ¬['\\', 'n'] <:+: (string text).content.toList := by
    rw [toList_content_string]
    intro hpair
    simp only [pair_infix_cons, List.head?_cons, Option.some.injEq, Char.reduceEq, false_and,
      false_or] at hpair
    exact text.no_escape (pair_infix_of_concat (by decide) hpair)
  have hhead : ∀ c ∈ (string text).content.toList.head?, Text.isBlank c = false := by
    rw [toList_content_string]
    rintro c ⟨rfl⟩
    rfl
  have hconcat : (string text).content.toList = ".DBS\"".toList ++ text.text.toList ++ ['"'] := by
    rw [toList_content_string]
    simp
  exact .of_concat hbreak hescape hhead hconcat rfl (by decide)

/-- An instruction starts with its mnemonic and ends in the letter of a stack. -/
lemma isSettled_content_instruction (operation : Instruction) (input output : Stack) :
    IsSettled (instruction operation input output).content := by
  have hcode := isCode_content_instruction operation input output
  obtain ⟨c, cs, hname⟩ := List.exists_cons_of_ne_nil (name_ne_nil operation)
  obtain ⟨letter, houtput, hletter⟩ := exists_letter output
  have hhead : ∀ d ∈ (instruction operation input output).content.toList.head?,
      Text.isBlank d = false := by
    rw [toList_content_instruction, hname]
    rintro d ⟨rfl⟩
    exact Text.isBlank_of_isWord (isWord_of_mem_name operation c (by simp [hname]))
  have hconcat : (instruction operation input output).content.toList =
      operation.name.toList ++ ' ' :: (input.name.toList ++ [' ']) ++ [letter] := by
    rw [toList_content_instruction, houtput]
    simp
  have hlast : Text.isBlank letter = false ∧ letter ≠ '\\' := by
    rcases Source.eq_of_isStackLetter hletter with rfl | rfl | rfl | rfl | rfl | rfl | rfl | rfl <;>
      decide
  exact .of_concat hcode.no_break hcode.no_escape hhead hconcat hlast.1 hlast.2

/-- A word character is not blank, so a label has no margin. -/
lemma isSettled_content_label (name : LabelName) : IsSettled (label name).content := by
  have hcode := isCode_content_label name
  have hhead : ∀ c ∈ (label name).content.toList.head?, Text.isBlank c = false := by
    rw [toList_content_label]
    rintro c ⟨rfl⟩
    exact Text.isBlank_of_isWord name.isWord_name
  have hconcat : (label name).content.toList = [name.name] ++ [':'] := toList_content_label name
  exact .of_concat hcode.no_break hcode.no_escape hhead hconcat rfl (by decide)

/-- **Every content is settled.** -/
lemma isSettled_content (statement : Statement) : IsSettled statement.content := by
  cases statement with
  | integers type first others =>
    exact isSettled_listDirective (.integer type) (isValueChar_of_mem_valueList _)
  | string text => exact isSettled_content_string text
  | instruction operation input output =>
    exact isSettled_content_instruction operation input output
  | label name => exact isSettled_content_label name

end Statement

/-! ## Sources -/

/-- **The source of a program.** Its lines hold what the statements hold. -/
lemma contents_source {program : List Statement} (h : program ≠ []) :
    Source.contents (source program) = program.map Statement.content := by
  induction program with
  | nil => exact absurd rfl h
  | cons statement rest ih =>
    have hsettled := statement.isSettled_content
    cases rest with
    | nil =>
      rw [source_singleton, statement.line_eq_escape, hsettled.contents_escape]
      rfl
    | cons second rest =>
      rw [source_cons_cons, statement.line_eq_escape,
        Source.contents_append hsettled.isClosed_escape, hsettled.contents_escape,
        ih (List.cons_ne_nil second rest)]
      rfl

end Program

end Claw
