import Claw.Proofs.Program.Rendering
import Claw.Proofs.Text.Lines

/-!
# The rule of comments

Comments are dropped in one pass over a whole text, which remembers one character, and the escapes of
semicolons in another.  The rule itself speaks of lines and of places on them:

* `startsComment` and `codePart`: a line is cut at its first semicolon that no backslash is directly
  in front of;
* `isEscape` and `withoutEscapes`: of what is left, every backslash directly in front of a semicolon
  goes away.

The two passes follow the rule because neither carries anything across a line break
(`dropComments_break`, `unescape_break`), so that a text is treated line by line
(`Text.pass_unlines`), and because on one line the character that the first pass remembers is the
last one that it read (`Reading.behind`): `dropComments_eq_codePart` and `unescape_eq_withoutEscapes`.

`comment_rule` puts this together.  Its second part says that a comment is of no account, and its
third that escaping keeps every text as it is, backslashes included.

The rule is consumed by `Claw/Proofs/Recording.lean`.
-/

namespace Claw

namespace Text

/-- A pass that carries nothing across a line break treats every line on its own. -/
lemma pass_unlines {pass : List Char → List Char} (hnil : pass [] = [])
    (hbreak : ∀ line rest, '\n' ∉ line → pass (line ++ '\n' :: rest) = pass line ++ '\n' :: pass rest)
    {ls : List (List Char)} (h : ∀ line ∈ ls, '\n' ∉ line) :
    pass (unlines ls) = unlines (ls.map pass) := by
  induction ls with
  | nil => exact hnil
  | cons line rest ih =>
    obtain ⟨hline, hrest⟩ := List.forall_mem_cons.mp h
    by_cases hlast : rest = []
    · subst hlast
      rfl
    · rw [unlines_cons hlast, hbreak _ _ hline, ih hrest, List.map_cons,
        unlines_cons (by simpa using hlast)]

end Text

namespace Source

open Text (replacePair_append replacePair_cons replacePair_pair)

/-! ## The rule -/

/-- Whether a comment starts at the place: at a semicolon that no backslash is directly in front
of. -/
def startsComment (cs : List Char) (place : Nat) : Bool :=
  cs[place]? == some ';' && (cs.take place).getLast? != some '\\'

/-- The line up to the first place where a comment starts. -/
def codePart (line : List Char) : List Char :=
  line.take ((List.range line.length).findIdx (startsComment line))

/-- Whether there is a backslash directly in front of a semicolon at the place. -/
def isEscape (cs : List Char) (place : Nat) : Bool :=
  cs[place]? == some '\\' && cs[place + 1]? == some ';'

/-- The characters at all places but those of the escapes. -/
def withoutEscapes (cs : List Char) : List Char :=
  (List.range cs.length).filterMap fun place => if isEscape cs place then none else cs[place]?

/-! ## Comments -/

/-- Where the pass stands behind code that it has read. -/
def Reading.behind (read : List Char) : Reading :=
  .code (read.getLast? == some '\\')

lemma dropComments_behind_cons (read : List Char) (c : Char) (cs : List Char) :
    dropComments (.behind read) (c :: cs) =
      if c = ';' ∧ read.getLast? ≠ some '\\' then dropComments .comment cs
      else c :: dropComments (.behind (read ++ [c])) cs := by
  have hnext : Reading.behind (read ++ [c]) = .code (c == '\\') := by
    rw [Reading.behind, List.getLast?_concat]
    rfl
  rw [hnext, Reading.behind, dropComments]
  simp

/-- Nothing is left of a comment that goes on to the end. -/
lemma dropComments_comment {cs : List Char} (h : '\n' ∉ cs) : dropComments .comment cs = [] := by
  induction cs with
  | nil => rfl
  | cons c cs ih =>
    obtain ⟨hc, hcs⟩ := not_or.mp (List.mem_cons.not.mp h)
    rw [dropComments, if_neg (Ne.symm hc), ih hcs]

/-- A line break ends a comment and is no backslash. -/
lemma dropComments_break {line : List Char} (h : '\n' ∉ line) (rest : List Char)
    (state : Reading) :
    dropComments state (line ++ '\n' :: rest) =
      dropComments state line ++ '\n' :: dropComments (.code false) rest := by
  induction line generalizing state with
  | nil => cases state <;> simp [dropComments]
  | cons c line ih =>
    obtain ⟨hc, hline⟩ := not_or.mp (List.mem_cons.not.mp h)
    cases state with
    | comment => simp only [List.cons_append, dropComments, if_neg (Ne.symm hc), ih hline]
    | code afterBackslash =>
      simp only [List.cons_append, dropComments]
      split
      · exact ih hline .comment
      · rw [ih hline, List.cons_append]

/-- On one line, the pass keeps what is in front of the first comment. -/
lemma dropComments_behind_eq_take {cs : List Char} (h : '\n' ∉ cs) (read : List Char) :
    dropComments (.behind read) cs =
      cs.take ((List.range cs.length).findIdx fun place =>
        cs[place]? == some ';' && (read ++ cs.take place).getLast? != some '\\') := by
  induction cs generalizing read with
  | nil => rfl
  | cons c cs ih =>
    obtain ⟨-, hcs⟩ := not_or.mp (List.mem_cons.not.mp h)
    -- on what follows the first character, every place counts one less
    rw [dropComments_behind_cons, List.length_cons, List.range_succ_eq_map, List.findIdx_cons]
    by_cases hcomment : c = ';' ∧ read.getLast? ≠ some '\\'
    · have hhere : ((c :: cs)[0]? == some ';' &&
          (read ++ (c :: cs).take 0).getLast? != some '\\') = true := by
        simpa using hcomment
      rw [if_pos hcomment, dropComments_comment hcs, hhere, cond_true, List.take_zero]
    · have hhere : ((c :: cs)[0]? == some ';' &&
          (read ++ (c :: cs).take 0).getLast? != some '\\') = false := by
        simpa using hcomment
      rw [if_neg hcomment, hhere, cond_false, List.take_succ_cons, ih hcs, List.findIdx_map]
      simp [Function.comp_def]

/-- **Comments.** A line is cut where its first comment starts. -/
lemma dropComments_eq_codePart {line : List Char} (h : '\n' ∉ line) :
    dropComments (.code false) line = codePart line :=
  dropComments_behind_eq_take h []

/-- A semicolon starts a comment behind code that does not end in a backslash. -/
lemma dropComments_behind_append {front behind : List Char} (hbehind : '\n' ∉ behind)
    (read : List Char) (hlast : (read ++ front).getLast? ≠ some '\\') (hfront : '\n' ∉ front) :
    dropComments (.behind read) (front ++ ';' :: behind) = dropComments (.behind read) front := by
  induction front generalizing read with
  | nil =>
    rw [List.append_nil] at hlast
    rw [List.nil_append, dropComments_behind_cons, if_pos ⟨rfl, hlast⟩, dropComments_comment hbehind]
    rfl
  | cons c front ih =>
    obtain ⟨-, hrest⟩ := not_or.mp (List.mem_cons.not.mp hfront)
    rw [List.cons_append, dropComments_behind_cons, dropComments_behind_cons]
    split
    · rw [dropComments_comment hrest, dropComments_comment (by simp [hrest, hbehind])]
    · rw [ih (read ++ [c]) (by simpa using hlast) hrest]

/-! ## Escapes -/

lemma unescape_cons (c : Char) (cs : List Char) :
    unescape (c :: cs) =
      if c = '\\' ∧ cs.head? = some ';' then unescape cs else c :: unescape cs := by
  rw [unescape_eq]
  split
  · next hescape =>
    obtain ⟨rfl, hhead⟩ := hescape
    obtain ⟨rest, rfl⟩ := List.head?_eq_some_iff.mp hhead
    rw [replacePair_pair, replacePair_cons (.inl (by decide))]
    rfl
  · next hescape => rw [replacePair_cons (not_and_or.mp hescape)]

lemma unescape_break (line rest : List Char) :
    unescape (line ++ '\n' :: rest) = unescape line ++ '\n' :: unescape rest := by
  rw [unescape_eq, replacePair_append (.inr (by simp)), replacePair_cons (.inl (by decide))]

/-- **Escapes.** What goes away is the backslashes directly in front of semicolons. -/
lemma unescape_eq_withoutEscapes (cs : List Char) : unescape cs = withoutEscapes cs := by
  induction cs with
  | nil => rfl
  | cons c cs ih =>
    have hshift : withoutEscapes (c :: cs) =
        (if isEscape (c :: cs) 0 then [] else [c]) ++ withoutEscapes cs := by
      rw [withoutEscapes, List.length_cons, List.range_succ_eq_map, List.filterMap_cons,
        List.filterMap_map]
      cases hescape : isEscape (c :: cs) 0 with
      | true => rfl
      | false => rfl
    have hhere : isEscape (c :: cs) 0 = true ↔ c = '\\' ∧ cs.head? = some ';' := by
      simp [isEscape, List.head?_eq_getElem?]
    rw [unescape_cons, hshift, ih]
    by_cases hescape : c = '\\' ∧ cs.head? = some ';'
    · rw [if_pos hescape, if_pos (hhere.mpr hescape), List.nil_append]
    · rw [if_neg hescape, if_neg (hhere.not.mpr hescape), List.singleton_append]

/-! ## Both -/

/-- The two passes together, by the lines of the text. -/
lemma bare_eq (cs : List Char) :
    bare cs = Text.trim (Text.unlines ((Text.lines cs).map (withoutEscapes ∘ codePart))) := by
  have hlines : ∀ line ∈ Text.lines cs, '\n' ∉ line := fun line => Text.not_mem_of_mem_pieces
  have hcode : dropComments (.code false) cs = Text.unlines ((Text.lines cs).map codePart) := by
    conv_lhs => rw [← Text.unlines_lines cs]
    rw [Text.pass_unlines rfl (fun line rest h => dropComments_break h rest _) hlines]
    congr 1
    exact List.map_congr_left fun line hline => dropComments_eq_codePart (hlines line hline)
  have hparts : ∀ part ∈ (Text.lines cs).map codePart, '\n' ∉ part := by
    intro part hpart hmem
    obtain ⟨line, hline, rfl⟩ := List.mem_map.mp hpart
    exact hlines line hline (List.mem_of_mem_take hmem)
  rw [bare, hcode, Text.pass_unlines rfl (fun line rest _ => unescape_break line rest) hparts,
    List.map_map]
  congr 2
  exact List.map_congr_left fun line _ => unescape_eq_withoutEscapes _

lemma bare_append {front behind : List Char} (hfront : '\n' ∉ front)
    (hlast : front.getLast? ≠ some '\\') (hbehind : '\n' ∉ behind) :
    bare (front ++ ';' :: behind) = bare front := by
  have hdrop := dropComments_behind_append hbehind [] hlast hfront
  rw [bare, bare]
  exact congrArg (fun code => Text.trim (unescape code)) hdrop

/-- **The rule of comments.** What is left of a text is its lines, each up to its first comment and
without its escapes, trimmed as a whole.  So a comment behind a line that does not end in a backslash
is of no account, and a text in which every semicolon is escaped comes back as it is, trimmed. -/
theorem comment_rule :
    (∀ text : String, bareText text = Text.trimmed (String.ofList
      (Text.unlines ((Text.lines text.toList).map (withoutEscapes ∘ codePart))))) ∧
    (∀ line comment : String, '\n' ∉ line.toList → line.toList.getLast? ≠ some '\\' →
      '\n' ∉ comment.toList → bareText (line ++ ";" ++ comment) = bareText line) ∧
    ∀ text : String, bareText (Program.escape text) = Text.trimmed text := by
  refine ⟨fun text => ?_, fun line comment hline hlast hcomment => ?_, fun text => ?_⟩
  · rw [bareText, bare_eq, Text.trimmed, String.toList_ofList]
  · have hbare := bare_append hline hlast hcomment
    simpa [bareText] using congrArg String.ofList hbare
  · rw [bareText, Program.escape, String.toList_ofList, Program.bare_escapeChars, Text.trimmed]

/-- A comment that holds an escape and a second semicolon, behind a semicolon that is escaped, and
backslashes that are in front of a semicolon. -/
theorem comment_rule_escaped :
    bareText "a\\;b;\\;c;d" = bareText "a\\;b" ∧ bareText "a\\;b" = "a;b" ∧
    bareText (Program.escape " \\\\;; ") = "\\\\;;" :=
  ⟨comment_rule.2.1 "a\\;b" "\\;c;d" (by decide) (by decide) (by decide), by decide,
    (comment_rule.2.2 " \\\\;; ").trans (by decide)⟩

end Source

end Claw
