import Claw.Proofs.Correspondence
import Claw.Proofs.Pattern.Instruction
import Claw.Proofs.Text.Uppercase

/-!
# The grammar of instruction lines

A line is an instruction if it consists of a mnemonic, which is the longest run of word characters at
its head, and of selectors: nothing; separators alone; or separators, the letter of an input,
separators or none, and the letters of an output or none.

* `Selects` and `IsInstruction` are this grammar, with the parts of the line that it tells apart;
* `instructionStatement?_eq_some_iff`: in a text of one line the recogniser finds the instructions of
  the grammar, and their parts; by `Source.Expression.captures?_instruction` these are the groups of
  the pattern;
* `Routes`: the stacks that an instruction works on, and `Source.Selects.exists_routes`, that these
  are the stacks which are looked up, unless the output is too long;
* `exists_instructionLine`: what an instruction of the grammar yields.

`instruction_line_grammar` puts this together for lines in the category of instructions, also where
they were put together by hand.
-/

namespace Claw

open Text (isWord takeWhile_append_eq dropWhile_append_eq)

namespace Source

/-! ## The grammar -/

/-- What may be behind the mnemonic of an instruction, with the letter of the input and the letters
of the output that it selects. -/
inductive Selects : List Char → Option Char → List Char → Prop
  | nothing : Selects [] none []
  | separators {front : List Char} (ne_nil : front ≠ [])
      (separated : ∀ c ∈ front, isSeparator c = true) : Selects front none []
  | letters {front between output : List Char} {input : Char} (ne_nil : front ≠ [])
      (separated : ∀ c ∈ front, isSeparator c = true) (isInput : isStackLetter input = true)
      (separated' : ∀ c ∈ between, isSeparator c = true)
      (isOutput : ∀ c ∈ output, isStackLetter c = true) :
      Selects (front ++ input :: (between ++ output)) (some input) output

/-- The text is an instruction: a mnemonic, which is as long as it can be, and selectors. -/
def IsInstruction (cs mnemonic : List Char) (input : Option Char) (output : List Char) : Prop :=
  ∃ behind, cs = mnemonic ++ behind ∧ mnemonic ≠ [] ∧ (∀ c ∈ mnemonic, isWord c = true) ∧
    (∀ c ∈ behind.head?, isWord c = false) ∧ Selects behind input output

/-- A text of one line is at its end only if nothing is left. -/
lemma atEnd_iff {cs : List Char} (h : '\n' ∉ cs) : atEnd cs = true ↔ cs = [] := by
  cases cs with
  | nil => simp [atEnd]
  | cons c cs =>
    rw [atEnd_cons]
    grind

/-- Behind a mnemonic, the selectors that are recognised are those of the grammar. -/
lemma selectors?_eq_some_iff {cs output : List Char} {input : Option Char} (hbreak : '\n' ∉ cs)
    (hword : ∀ c ∈ cs.head?, isWord c = false) :
    selectors? (cs.dropWhile isSeparator) = some (input, output) ↔ Selects cs input output := by
  constructor
  · intro h
    have hsplit := List.takeWhile_append_dropWhile (p := isSeparator) (l := cs)
    have hfront : ∀ c ∈ cs.takeWhile isSeparator, isSeparator c = true := fun _ =>
      List.mem_takeWhile_imp
    have hbreak' : '\n' ∉ cs.dropWhile isSeparator := fun hmem =>
      hbreak ((List.dropWhile_suffix _).subset hmem)
    generalize cs.takeWhile isSeparator = front at hsplit hfront
    generalize cs.dropWhile isSeparator = behind at h hsplit hbreak'
    subst hsplit
    unfold selectors? at h
    split at h
    · cases h
      rw [List.append_nil]
      by_cases hnil : front = []
      · rw [hnil]
        exact .nothing
      · exact .separators hnil hfront
    · next c rest =>
      split at h
      · next hletter =>
        dsimp only at h
        split at h
        · next hend =>
          have hfrontNe : front ≠ [] := by
            rintro rfl
            cases (isWord_of_isStackLetter hletter).symm.trans (hword c rfl)
          have hrest : '\n' ∉ (rest.dropWhile isSeparator).dropWhile isStackLetter := by
            intro hmem
            have hsuffix := (List.dropWhile_suffix isStackLetter).trans
              (List.dropWhile_suffix isSeparator (l := rest))
            exact hbreak' (List.mem_cons_of_mem _ (hsuffix.subset hmem))
          have hall := List.dropWhile_eq_nil_iff.mp ((atEnd_iff hrest).mp hend)
          obtain ⟨rfl, rfl⟩ := Prod.mk.inj (Option.some.inj h)
          rw [List.takeWhile_eq_self_iff.mpr hall]
          have hselects := Selects.letters hfrontNe hfront hletter
            (fun _ => List.mem_takeWhile_imp (l := rest)) hall
          rwa [List.takeWhile_append_dropWhile] at hselects
        · contradiction
      · split at h
        · next hend => cases (atEnd_iff hbreak').mp hend
        · contradiction
  · intro h
    cases h with
    | nothing => rfl
    | separators ne_nil separated =>
      have hnil : cs.dropWhile isSeparator = [] := List.dropWhile_eq_nil_iff.mpr separated
      rw [hnil]
      rfl
    | @letters front between _ input ne_nil separated isInput separated' isOutput =>
      have hinput : ∀ c ∈ (input :: (between ++ output)).head?, isSeparator c = false := by
        rintro c ⟨rfl⟩
        exact isSeparator_of_isStackLetter isInput
      have houtput : ∀ c ∈ output.head?, isSeparator c = false := fun c hc =>
        isSeparator_of_isStackLetter (isOutput c (List.mem_of_mem_head? hc))
      have hall : output.dropWhile isStackLetter = [] := List.dropWhile_eq_nil_iff.mpr isOutput
      rw [dropWhile_append_eq separated hinput, selectors?, if_pos isInput]
      dsimp only
      rw [dropWhile_append_eq separated' houtput, hall, List.takeWhile_eq_self_iff.mpr isOutput]
      rfl

/-- **The grammar of instructions.** In a text of one line, the instructions that are recognised are
those of the grammar. -/
lemma instructionStatement?_eq_some_iff {cs mnemonic output : List Char} {input : Option Char}
    (hbreak : '\n' ∉ cs) :
    instructionStatement? cs =
        some ⟨String.ofList mnemonic, input, String.ofList output⟩ ↔
      IsInstruction cs mnemonic input output := by
  constructor
  · intro h
    have hsplit := List.takeWhile_append_dropWhile (p := isWord) (l := cs)
    have hword : ∀ c ∈ (cs.dropWhile isWord).head?, isWord c = false := by
      intro c hc
      have := List.head?_dropWhile_not isWord cs
      rwa [Option.mem_def.mp hc] at this
    have hbreak' : '\n' ∉ cs.dropWhile isWord := fun hmem =>
      hbreak ((List.dropWhile_suffix _).subset hmem)
    unfold instructionStatement? at h
    dsimp only at h
    split at h
    · contradiction
    · next hempty =>
      obtain ⟨⟨input', output'⟩, hselectors, heq⟩ := Option.map_eq_some_iff.mp h
      simp only [InstructionStatement.mk.injEq, String.ofList_inj] at heq
      obtain ⟨rfl, rfl, rfl⟩ := heq
      have hselects := (selectors?_eq_some_iff hbreak' hword).mp hselectors
      exact ⟨_, hsplit.symm, by simpa using hempty, fun _ => List.mem_takeWhile_imp, hword, hselects⟩
  · rintro ⟨behind, rfl, hne, hmnemonic, hlongest, hselects⟩
    have hbreak' : '\n' ∉ behind := fun hmem => hbreak (List.mem_append_right _ hmem)
    have hselectors := (selectors?_eq_some_iff hbreak' hlongest).mpr hselects
    have hempty : mnemonic.isEmpty = false := by simpa using hne
    rw [instructionStatement?, takeWhile_append_eq hmnemonic hlongest,
      dropWhile_append_eq hmnemonic hlongest, hselectors]
    simp [hempty]

lemma Selects.isInput {cs output : List Char} {input : Char}
    (h : Selects cs (some input) output) : isStackLetter input = true := by
  cases h
  assumption

lemma Selects.isOutput {cs output : List Char} {input : Option Char} (h : Selects cs input output) :
    ∀ c ∈ output, isStackLetter c = true := by
  cases h with
  | letters _ _ _ _ isOutput => exact isOutput
  | _ => simp

lemma Selects.output_eq_nil {cs output : List Char} (h : Selects cs none output) : output = [] := by
  cases h <;> rfl

end Source

open Source (Line Selects IsInstruction)

/-! ## Stacks -/

/-- Whether a letter, in either case, is the name of a stack. -/
def Names (letter : Char) (stack : Stack) : Prop :=
  stack.name = String.ofList [letter.toUpper]

/-- The stacks that an instruction works on: those that it names, the input for an output that is
left out, and the given stack if nothing is named. -/
inductive Routes (standard : Stack) : Option Char → List Char → Stack → Stack → Prop
  | neither : Routes standard none [] standard standard
  | input {letter : Char} {stack : Stack} (named : Names letter stack) :
      Routes standard (some letter) [] stack stack
  | both {letter letter' : Char} {stack stack' : Stack} (named : Names letter stack)
      (named' : Names letter' stack') : Routes standard (some letter) [letter'] stack stack'

lemma exists_names {letter : Char} (h : Source.isStackLetter letter = true) :
    ∃ stack, Names letter stack ∧ ∀ standIn,
      selectStack (Text.uppercase (String.ofList [letter])) standIn = some stack := by
  rcases Source.eq_of_isStackLetter h with rfl | rfl | rfl | rfl | rfl | rfl | rfl | rfl
  · exact ⟨.a, rfl, fun _ => rfl⟩
  · exact ⟨.a, rfl, fun _ => rfl⟩
  · exact ⟨.b, rfl, fun _ => rfl⟩
  · exact ⟨.b, rfl, fun _ => rfl⟩
  · exact ⟨.c, rfl, fun _ => rfl⟩
  · exact ⟨.c, rfl, fun _ => rfl⟩
  · exact ⟨.d, rfl, fun _ => rfl⟩
  · exact ⟨.d, rfl, fun _ => rfl⟩

lemma upperChar_letter {letter : Char} (h : Source.isStackLetter letter = true) :
    ∃ capital, Text.upperChar letter = [capital] ∧ Source.isStackLetter capital = true := by
  rcases Source.eq_of_isStackLetter h with rfl | rfl | rfl | rfl | rfl | rfl | rfl | rfl <;>
    exact ⟨_, rfl, rfl⟩

lemma upper_letters {letters : List Char} (h : ∀ c ∈ letters, Source.isStackLetter c = true) :
    (Text.upper letters).length = letters.length ∧
      ∀ c ∈ Text.upper letters, Source.isStackLetter c = true := by
  induction letters with
  | nil => exact ⟨rfl, by simp [Text.upper]⟩
  | cons letter letters ih =>
    obtain ⟨hletter, hletters⟩ := List.forall_mem_cons.mp h
    obtain ⟨capital, hcapital, hstack⟩ := upperChar_letter hletter
    obtain ⟨hlength, hall⟩ := ih hletters
    have hcons : Text.upper (letter :: letters) = capital :: Text.upper letters := by
      rw [Text.upper, List.flatMap_cons, hcapital]
      rfl
    rw [hcons]
    exact ⟨by simp [hlength], List.forall_mem_cons.mpr ⟨hstack, hall⟩⟩

/-- Two letters or more name no stack. -/
lemma selectStack_of_two_le {letters : List Char}
    (h : ∀ c ∈ letters, Source.isStackLetter c = true) (hmany : 2 ≤ letters.length)
    (standIn : Option Stack) :
    selectStack (Text.uppercase (String.ofList letters)) standIn = none := by
  obtain ⟨hlength, hall⟩ := upper_letters h
  obtain ⟨hlength', hall'⟩ := upper_letters hall
  have hblank : ∀ c ∈ Text.upper (Text.upper letters), Text.isBlank c = false := fun c hc =>
    Text.isBlank_of_isWord (Source.isWord_of_isStackLetter (hall' c hc))
  have hwritten : Text.uppercase (String.ofList letters) ≠ "" := by
    intro hempty
    rw [Text.uppercase, String.toList_ofList, String.ofList_eq_empty_iff] at hempty
    rw [hempty] at hlength
    simp only [List.length_nil] at hlength
    omega
  rw [selectStack, if_neg hwritten, Stack.ofName?, List.find?_eq_none]
  intro stack _ hname
  have hshort : stack.name.length = 1 := by cases stack <;> rfl
  rw [beq_iff_eq] at hname
  rw [hname, Text.trimmed, Text.uppercase, Text.uppercase, String.toList_ofList,
    String.toList_ofList, String.toList_ofList, Text.trim_eq_self_of_forall hblank,
    String.length_ofList] at hshort
  omega

/-- **The stacks of an instruction.** The input is always a stack; the output is one just if it has
at most one letter. -/
lemma Source.Selects.exists_routes {behind output : List Char} {input : Option Char}
    (h : Selects behind input output) (standard : Stack) :
    ∃ stack, selectStack (Text.uppercase (String.ofList input.toList)) (some standard) = some stack ∧
      (output.length ≤ 1 ∧ (∃ stack', Routes standard input output stack stack' ∧
          selectStack (Text.uppercase (String.ofList output)) (some stack) = some stack') ∨
        2 ≤ output.length ∧
          selectStack (Text.uppercase (String.ofList output)) (some stack) = none) := by
  cases input with
  | none =>
    obtain rfl := h.output_eq_nil
    exact ⟨standard, rfl, .inl ⟨by simp, standard, .neither, rfl⟩⟩
  | some letter =>
    obtain ⟨stack, hnamed, hselected⟩ := exists_names h.isInput
    refine ⟨stack, hselected _, ?_⟩
    match output, h.isOutput with
    | [], _ => exact .inl ⟨by simp, stack, .input hnamed, rfl⟩
    | [letter'], hletters =>
      obtain ⟨stack', hnamed', hselected'⟩ :=
        exists_names (hletters letter' (List.mem_singleton_self _))
      exact .inl ⟨by simp, stack', .both hnamed hnamed', hselected' _⟩
    | _ :: _ :: _, hletters =>
      have hmany := selectStack_of_two_le hletters (by simp) (some stack)
      exact .inr ⟨by simp, hmany⟩

/-! ## Lines -/

/-- The names of the instructions. -/
def mnemonics : List String :=
  Instruction.all.map Instruction.name

/-- What there is to say against an instruction: its mnemonic is none, or its output is more than
one letter, or both. -/
def instructionFaults (line : Line) (mnemonic output : List Char) : List Diagnostic :=
  (if Text.uppercase (String.ofList mnemonic) ∈ mnemonics then []
    else [diagnosticAt line .unknownMnemonic
      ("Unknown instruction: " ++ Text.uppercase (String.ofList mnemonic))]) ++
  if output.length ≤ 1 then []
    else [diagnosticAt line .unknownStack
      ("Unknown stack: " ++ Text.uppercase (String.ofList output))]

lemma mem_mnemonics_iff {name : String} :
    name ∈ mnemonics ↔ ∃ operation : Instruction, operation.name = name := by
  have hall : ∀ operation : Instruction, operation ∈ Instruction.all := by
    intro operation
    cases operation <;> decide
  simp [mnemonics, hall]

/-- **What an instruction of the grammar yields**: its token if its mnemonic and its output are in
order, and otherwise what there is to say against them. -/
lemma exists_instructionLine (options : Options) {line : Line} {mnemonic output : List Char}
    {input : Option Char} (hbreak : '\n' ∉ line.content.toList)
    (h : IsInstruction line.content.toList mnemonic input output) :
    ∃ tokens, instructionLine options line = (tokens, instructionFaults line mnemonic output) ∧
      (Text.uppercase (String.ofList mnemonic) ∈ mnemonics ∧ output.length ≤ 1 →
        ∃ operation stack stack', operation.name = Text.uppercase (String.ofList mnemonic) ∧
          Routes options.defaultStack input output stack stack' ∧
          tokens = [tokenAt line (.instruction operation stack stack')]) ∧
      (¬(Text.uppercase (String.ofList mnemonic) ∈ mnemonics ∧ output.length ≤ 1) →
        tokens = []) := by
  have hstatement := (Source.instructionStatement?_eq_some_iff hbreak).mpr h
  obtain ⟨behind, -, -, hword, -, hselects⟩ := h
  obtain ⟨stack, hstack, houtput⟩ := hselects.exists_routes options.defaultStack
  rw [instructionLine_eq hstatement hstack]
  dsimp only
  by_cases hknown : Text.uppercase (String.ofList mnemonic) ∈ mnemonics
  · obtain ⟨operation, hname⟩ := mem_mnemonics_iff.mp hknown
    rw [(ofName?_uppercase_iff hword operation).mpr hname]
    rcases houtput with ⟨hfew, stack', hroutes, hselected⟩ | ⟨hmany, hselected⟩
    · simp only [hselected, instructionFaults, if_pos hknown, if_pos hfew]
      refine ⟨_, rfl, fun _ => ⟨operation, stack, stack', hname, hroutes, rfl⟩, fun hnot => ?_⟩
      exact absurd ⟨hknown, hfew⟩ hnot
    · have hnot := Nat.not_le.mpr hmany
      simp only [hselected, instructionFaults, if_pos hknown, if_neg hnot]
      exact ⟨[], rfl, fun hfew => absurd hfew.2 hnot, fun _ => rfl⟩
  · have hnone : Instruction.ofName? (Text.uppercase (String.ofList mnemonic)) = none := by
      by_contra hsome
      obtain ⟨operation, hfound⟩ := Option.ne_none_iff_exists'.mp hsome
      exact hknown (mem_mnemonics_iff.mpr
        ⟨operation, (ofName?_uppercase_iff hword operation).mp hfound⟩)
    rw [hnone]
    rcases houtput with ⟨hfew, stack', -, hselected⟩ | ⟨hmany, hselected⟩
    · simp only [hselected, instructionFaults, if_neg hknown, if_pos hfew]
      exact ⟨[], rfl, fun h => absurd h.1 hknown, fun _ => rfl⟩
    · simp only [hselected, instructionFaults, if_neg hknown, if_neg (Nat.not_le.mpr hmany)]
      exact ⟨[], rfl, fun h => absurd h.1 hknown, fun _ => rfl⟩

lemma instructionLine_of_not {options : Options} {line : Line}
    (hbreak : '\n' ∉ line.content.toList)
    (h : ¬∃ mnemonic input output, IsInstruction line.content.toList mnemonic input output) :
    instructionLine options line = ([], [diagnosticAt line .unknownMnemonic
      ("Malformed instruction: " ++ line.content)]) := by
  cases hstatement : Source.instructionStatement? line.content.toList with
  | none => simp only [instructionLine, hstatement]
  | some statement =>
    refine absurd ⟨statement.mnemonic.toList, statement.input, statement.output.toList, ?_⟩ h
    rw [← Source.instructionStatement?_eq_some_iff hbreak, hstatement]
    simp only [String.ofList_toList]

lemma exists_captures? {cs mnemonic output : List Char} {input : Option Char} (hbreak : '\n' ∉ cs)
    (h : IsInstruction cs mnemonic input output) :
    ∃ groups, Source.Expression.instruction.captures? cs = some groups ∧
      groups.lookup 1 = some mnemonic ∧
      groups.lookup 2 = input.map (fun letter => [letter]) ∧
      groups.lookup 3 = some output := by
  refine ⟨_, by rw [Source.Expression.captures?_instruction,
    (Source.instructionStatement?_eq_some_iff hbreak).mpr h, Option.map_some], ?_⟩
  simp only [Source.Expression.instructionGroups, Source.Expression.selectorGroups,
    String.toList_ofList]
  cases input <;> exact ⟨rfl, rfl, rfl⟩

lemma isSome_captures?_iff {cs : List Char} (hbreak : '\n' ∉ cs) :
    (Source.Expression.instruction.captures? cs).isSome = true ↔
      ∃ mnemonic input output, IsInstruction cs mnemonic input output := by
  rw [Source.Expression.captures?_instruction, Option.isSome_map]
  constructor
  · intro h
    obtain ⟨statement, hstatement⟩ := Option.isSome_iff_exists.mp h
    refine ⟨statement.mnemonic.toList, statement.input, statement.output.toList, ?_⟩
    rw [← Source.instructionStatement?_eq_some_iff hbreak, hstatement]
    simp only [String.ofList_toList]
  · rintro ⟨mnemonic, input, output, h⟩
    rw [(Source.instructionStatement?_eq_some_iff hbreak).mpr h]
    rfl

/-- **The grammar of instruction lines.** The pattern of instructions matches a line just if the line
is an instruction of the grammar, and its groups then take the mnemonic, the input and the output of
the grammar.  A line in the category of instructions can always be read; it yields one token, for the
operation with the name and for the stacks that are selected, if the mnemonic in uppercase is a name
and the output has at most one letter, and otherwise no token but a diagnostic for the mnemonic, for
the output, or for both in this order. -/
theorem instruction_line_grammar (options : Options) (line : Line)
    (hcategory : line.category = .instruction) (hbreak : '\n' ∉ line.content.toList) :
    ((Source.Expression.instruction.captures? line.content.toList).isSome = true ↔
      ∃ mnemonic input output, IsInstruction line.content.toList mnemonic input output) ∧
    ∃ tokens diagnostics,
      (∀ position, readLine options position line = .ok (tokens, diagnostics)) ∧
      (∀ (lines : List Line) (result : Tokenization) (i : Nat),
        (Tokenization.ofLines options lines).outcome = .ok result → lines[i]? = some line →
        line.processed = false → result.yieldAt? i = some ⟨i, tokens, diagnostics⟩) ∧
      ((¬∃ mnemonic input output, IsInstruction line.content.toList mnemonic input output) →
        tokens = [] ∧ diagnostics = [diagnosticAt line .unknownMnemonic
          ("Malformed instruction: " ++ line.content)]) ∧
      ∀ mnemonic input output, IsInstruction line.content.toList mnemonic input output →
        (∃ groups, Source.Expression.instruction.captures? line.content.toList = some groups ∧
          groups.lookup 1 = some mnemonic ∧
          groups.lookup 2 = input.map (fun letter => [letter]) ∧
          groups.lookup 3 = some output) ∧
        (Text.uppercase (String.ofList mnemonic) ∈ mnemonics ∧ output.length ≤ 1 →
          ∃ operation stack stack', operation.name = Text.uppercase (String.ofList mnemonic) ∧
            Routes options.defaultStack input output stack stack' ∧
            tokens = [tokenAt line (.instruction operation stack stack')]) ∧
        (¬(Text.uppercase (String.ofList mnemonic) ∈ mnemonics ∧ output.length ≤ 1) →
          tokens = []) ∧
        diagnostics = instructionFaults line mnemonic output := by
  refine ⟨isSome_captures?_iff hbreak, (instructionLine options line).1,
    (instructionLine options line).2, ?_, ?_, ?_, ?_⟩
  · intro position
    rw [readLine, hcategory]
  · intro lines result i h hline hprocessed
    rw [Tokenization.outcome_ofLines] at h
    obtain ⟨position, tokens, diagnostics, hread, hyield⟩ :=
      Tokenization.exists_yieldAt? h hline hprocessed (by simp [hcategory])
    rw [readLine, hcategory] at hread
    rw [Except.ok.inj hread]
    exact hyield
  · intro hnot
    rw [instructionLine_of_not hbreak hnot]
    exact ⟨rfl, rfl⟩
  · intro mnemonic input output h
    obtain ⟨tokens, hline, htoken, hnone⟩ := exists_instructionLine options hbreak h
    rw [hline]
    exact ⟨exists_captures? hbreak h, htoken, hnone, rfl⟩

/-- An instruction with a letter that only its uppercase form has in ASCII, and with the output right
behind the input. -/
def joinedLine : Line :=
  ⟨"ſub , aB", 1, "a", .instruction, false, by decide⟩

lemma isInstruction_joinedLine :
    IsInstruction joinedLine.content.toList ['ſ', 'u', 'b'] (some 'a') ['B'] := by
  refine ⟨[' ', ',', ' ', 'a', 'B'], rfl, by simp, List.all_eq_true.mp rfl, ?_, ?_⟩
  · rintro c ⟨rfl⟩
    rfl
  · exact @Selects.letters [' ', ',', ' '] [] ['B'] 'a' (by simp) (List.all_eq_true.mp rfl) rfl
      (by simp) (List.all_eq_true.mp rfl)

/-- The output is not lost to the input, and not the other way around. -/
theorem instruction_line_grammar_joinedLine :
    joinedLine.category = .instruction ∧ '\n' ∉ joinedLine.content.toList ∧
      ∃ tokens, readLine {} 0 joinedLine = .ok (tokens, []) ∧ ∃ operation stack stack',
        operation.name = "SUB" ∧ Routes .a (some 'a') ['B'] stack stack' ∧
        tokens = [tokenAt joinedLine (.instruction operation stack stack')] := by
  refine ⟨rfl, by decide, ?_⟩
  obtain ⟨-, tokens, diagnostics, hread, -, -, hgrammar⟩ :=
    instruction_line_grammar {} joinedLine rfl (by decide)
  obtain ⟨-, htoken, -, hfaults⟩ := hgrammar _ _ _ isInstruction_joinedLine
  have hname : Text.uppercase (String.ofList ['ſ', 'u', 'b']) = "SUB" := by decide +kernel
  have hknown : "SUB" ∈ mnemonics := by decide
  rw [instructionFaults, hname, if_pos hknown] at hfaults
  rw [hname] at htoken
  subst hfaults
  exact ⟨tokens, hread 0, htoken ⟨hknown, by decide⟩⟩

end Claw
