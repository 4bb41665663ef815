import Claw.Proofs.Memory
import Claw.Proofs.Text.Pair
import Claw.Proofs.Text.Utf8

/-!
# Line breaks and the way into the assembler

A source comes as a text or as a file, and its lines end in a line feed, in a carriage return with a
line feed, or, in a file, in a carriage return alone.  Two places unify line breaks: the reading of
a file reads every carriage return as one (`Text.unifyBreaks`), and the layout drops those before a
line feed (`Source.unifyPairs`), before it joins continued lines.

* `IsPaired`: every carriage return stands before a line feed.  On such a text the two agree:
  `unifyBreaks_eq_unifyPairs`, so the layout of what is read from a file is that of the text
  (`layout_unifyBreaks`).
* `breakAs`: a text with another mark in place of its line breaks.  `unifyBreaks_breakAs` says that
  a file shows nothing of the mark, and `unifyPairs_breakAs` is the same for a text with pairs.
* `Files.Holds`: what it means that a file holds given bytes.

`assemble_breaks` is about any assembler, any text and any path under which the text is filed.
-/

namespace Claw.Text

/-! ## Carriage returns in pairs -/

/-- Whether every carriage return of a text stands right before a line feed. -/
def IsPaired (cs : List Char) : Prop :=
  ∀ front rest, cs = front ++ '\r' :: rest → rest.head? = some '\n'

lemma IsPaired.of_cons {c : Char} {cs : List Char} (h : IsPaired (c :: cs)) : IsPaired cs := by
  intro front rest hcut
  exact h (c :: front) rest (by rw [hcut, List.cons_append])

lemma unifyBreaks_cons {c : Char} (h : c ≠ '\r') (cs : List Char) :
    unifyBreaks (c :: cs) = c :: unifyBreaks cs := by
  rw [unifyBreaks]
  · intro ds hc
    exact absurd hc h
  · exact h

lemma unifyBreaks_return {cs : List Char} (h : cs.head? ≠ some '\n') :
    unifyBreaks ('\r' :: cs) = '\n' :: unifyBreaks cs := by
  rw [unifyBreaks]
  rintro ds rfl
  exact h rfl

lemma return_not_mem_unifyBreaks (cs : List Char) : '\r' ∉ unifyBreaks cs := by
  induction cs using unifyBreaks.induct with
  | case1 => exact List.not_mem_nil
  | case2 cs ih =>
    rw [unifyBreaks, List.mem_cons, not_or]
    exact ⟨by decide, ih⟩
  | case3 cs hsingle ih =>
    have hhead : cs.head? ≠ some '\n' := by
      intro hhead
      obtain ⟨ds, rfl⟩ := List.head?_eq_some_iff.mp hhead
      exact hsingle ds rfl
    rw [unifyBreaks_return hhead, List.mem_cons, not_or]
    exact ⟨by decide, ih⟩
  | case4 c cs hpair hreturn ih =>
    rw [unifyBreaks_cons hreturn, List.mem_cons, not_or]
    exact ⟨Ne.symm hreturn, ih⟩

/-! ## Other marks for a line break -/

/-- The text with a mark in place of every line break. -/
def breakAs (mark : List Char) (cs : List Char) : List Char :=
  cs.flatMap fun c => if c = '\n' then mark else [c]

/-- The marks of a line break in a file. -/
def breakMarks : List (List Char) :=
  [['\n'], ['\r', '\n'], ['\r']]

variable {mark cs : List Char}

lemma breakAs_break (mark cs : List Char) : breakAs mark ('\n' :: cs) = mark ++ breakAs mark cs :=
  rfl

lemma breakAs_cons {c : Char} (h : c ≠ '\n') (mark cs : List Char) :
    breakAs mark (c :: cs) = c :: breakAs mark cs := by
  rw [breakAs, List.flatMap_cons, if_neg h]
  rfl

/-- A text in which line breaks are marked by carriage returns starts with no line feed. -/
lemma head?_breakAs_return (cs : List Char) : (breakAs ['\r'] cs).head? ≠ some '\n' := by
  cases cs with
  | nil => exact nofun
  | cons c cs =>
    by_cases hc : c = '\n'
    · rw [hc, breakAs_break, List.singleton_append, List.head?_cons]
      decide
    · rw [breakAs_cons hc, List.head?_cons]
      exact fun h => hc (Option.some.inj h)

/-- **Files.** Reading a file shows nothing of how its line breaks are marked. -/
lemma unifyBreaks_breakAs (hmark : mark ∈ breakMarks) (h : '\r' ∉ cs) :
    unifyBreaks (breakAs mark cs) = cs := by
  induction cs with
  | nil => rfl
  | cons c cs ih =>
    obtain ⟨hc, hcs⟩ := not_or.mp (List.mem_cons.not.mp h)
    by_cases hbreak : c = '\n'
    · subst hbreak
      have hfirst : unifyBreaks (mark ++ breakAs mark cs) = '\n' :: unifyBreaks (breakAs mark cs) := by
        simp only [breakMarks, List.mem_cons, List.not_mem_nil, or_false] at hmark
        rcases hmark with rfl | rfl | rfl
        · exact unifyBreaks_cons (by decide) _
        · rfl
        · exact unifyBreaks_return (head?_breakAs_return cs)
      rw [breakAs_break, hfirst, ih hcs]
    · rw [breakAs_cons hbreak, unifyBreaks_cons (Ne.symm hc), ih hcs]

end Claw.Text

namespace Claw.Source

open Text (IsPaired breakAs breakAs_cons unifyBreaks unifyBreaks_cons replacePair_cons replacePair_pair
  replacePair_eq_self return_not_mem_unifyBreaks)

/-! ## The layout -/

lemma unifyPairs_cons {c : Char} {cs : List Char} (h : c ≠ '\r') :
    unifyPairs (c :: cs) = c :: unifyPairs cs := by
  rw [unifyPairs_eq]
  exact replacePair_cons (.inl h)

/-- Where carriage returns stand in pairs only, reading a file drops those that the layout drops. -/
lemma unifyBreaks_eq_unifyPairs {cs : List Char} (h : IsPaired cs) :
    unifyBreaks cs = unifyPairs cs := by
  induction cs using Text.unifyBreaks.induct with
  | case1 => rfl
  | case2 cs ih =>
    rw [unifyBreaks, unifyPairs, ih h.of_cons.of_cons]
  | case3 cs hsingle ih =>
    -- a carriage return that stands alone
    obtain ⟨ds, rfl⟩ := List.head?_eq_some_iff.mp (h [] cs rfl)
    exact absurd rfl (hsingle ds)
  | case4 c cs hpair hreturn ih =>
    rw [unifyBreaks_cons hreturn, unifyPairs_cons hreturn, ih h.of_cons]

lemma unifyPairs_eq_self {cs : List Char} (h : '\r' ∉ cs) : unifyPairs cs = cs := by
  rw [unifyPairs_eq]
  refine replacePair_eq_self fun hpair => h ?_
  exact hpair.subset List.mem_cons_self

/-- The layout of what is read from a file is that of the text in the file. -/
lemma layout_unifyBreaks {cs : List Char} (h : IsPaired cs) :
    layout (unifyBreaks cs) = layout cs := by
  rw [layout, unifyPairs_eq_self (return_not_mem_unifyBreaks cs), unifyBreaks_eq_unifyPairs h]
  rfl

lemma unifyPairs_breakAs {cs : List Char} (h : '\r' ∉ cs) :
    unifyPairs (breakAs ['\r', '\n'] cs) = cs := by
  induction cs with
  | nil => rfl
  | cons c cs ih =>
    obtain ⟨hc, hcs⟩ := not_or.mp (List.mem_cons.not.mp h)
    by_cases hbreak : c = '\n'
    · have hpair : unifyPairs (breakAs ['\r', '\n'] ('\n' :: cs)) =
          '\n' :: unifyPairs (breakAs ['\r', '\n'] cs) := rfl
      rw [hbreak, hpair, ih hcs]
    · rw [breakAs_cons hbreak, unifyPairs_cons (Ne.symm hc), ih hcs]

/-- The layout of a text with pairs is that of the text with line feeds, also where a line is
continued, because pairs are unified before lines are joined. -/
lemma layout_breakAs {cs : List Char} (h : '\r' ∉ cs) :
    layout (breakAs ['\r', '\n'] cs) = layout cs := by
  rw [layout, unifyPairs_breakAs h, layout, unifyPairs_eq_self h]

/-- A source is read by its layout. -/
lemma read_congr {text text' : String} (h : layout text.toList = layout text'.toList)
    (file : String) : read text file = read text' file := by
  rw [read, read, contents, contents, h]

end Claw.Source

namespace Claw

open Text (IsPaired breakAs breakMarks encodeUtf8)

/-! ## Files and texts -/

/-- Whether the file under a path holds the bytes.  There is no file under a path with a null
character. -/
def Files.Holds (files : Files) (path : String) (bytes : List UInt8) : Prop :=
  hasNull path = false ∧ files.find path = .ok (.file bytes)

lemma Files.text_of_holds_bytes {files : Files} {path : String} {bytes : List UInt8}
    (h : files.Holds path bytes) :
    files.text path =
      match Text.decodeUtf8 bytes with
      | .error fault => .error (.decode fault)
      | .ok cs => .ok (String.ofList (Text.unifyBreaks cs)) := by
  obtain ⟨hnull, hfind⟩ := h
  have hbytes : files.bytes path = .ok bytes := by
    rw [Files.bytes, hfind]
  cases hdecoded : Text.decodeUtf8 bytes <;>
    simp only [text, hnull, hbytes, hdecoded, Bool.false_eq_true, if_false]

lemma Files.text_of_holds {files : Files} {path : String} {cs : List Char}
    (h : files.Holds path (encodeUtf8 cs)) :
    files.text path = .ok (String.ofList (Text.unifyBreaks cs)) := by
  rw [text_of_holds_bytes h, Text.decodeUtf8_encodeUtf8]

namespace Assembler

/-- A text is assembled by its layout. -/
lemma assemble_congr {text text' : String}
    (h : Source.layout text.toList = Source.layout text'.toList) (assembler : Assembler)
    (file : String) : assembler.assemble text file = assembler.assemble text' file := by
  rw [assemble_eq, assemble_eq, Source.read_congr h]

/-- A file that holds the encoding of a text is assembled like a text of the same layout. -/
lemma assembleFrom_of_holds {files : Files} {path text : String} {cs : List Char}
    (assembler : Assembler) (hfile : files.Holds path (encodeUtf8 cs))
    (hlayout : Source.layout (Text.unifyBreaks cs) = Source.layout text.toList) :
    (assembler.assembleFrom files path).1 = (assembler.assemble text path).1 ∧
      (assembler.assembleFrom files path).2.outcome = (assembler.assemble text path).2.outcome := by
  have hread : Source.layout (String.ofList (Text.unifyBreaks cs)).toList =
      Source.layout text.toList := by
    rw [String.toList_ofList, hlayout]
  simp only [assembleFrom_of_text assembler (Files.text_of_holds hfile), assemble_congr hread,
    and_self]

/-- **Line breaks and routes.** A file is assembled like the text that it holds, with the same result
and the same definitions or the same failure, if every carriage return of the text stands before a
line feed.  A text without carriage returns may be filed with any mark in place of its line breaks,
or be assembled with pairs in place of them. -/
theorem assemble_breaks (assembler : Assembler) (path : String) :
    (∀ (files : Files) (text : String), IsPaired text.toList →
      files.Holds path (encodeUtf8 text.toList) →
        (assembler.assembleFrom files path).1 = (assembler.assemble text path).1 ∧
        (assembler.assembleFrom files path).2.outcome =
          (assembler.assemble text path).2.outcome) ∧
    ∀ text : String, '\r' ∉ text.toList →
      (∀ mark ∈ breakMarks, ∀ files : Files,
        files.Holds path (encodeUtf8 (breakAs mark text.toList)) →
          (assembler.assembleFrom files path).1 = (assembler.assemble text path).1 ∧
          (assembler.assembleFrom files path).2.outcome =
            (assembler.assemble text path).2.outcome) ∧
      assembler.assemble (String.ofList (breakAs ['\r', '\n'] text.toList)) path =
        assembler.assemble text path := by
  refine ⟨fun files text hpaired hfile => ?_, fun text hreturn => ⟨?_, ?_⟩⟩
  · exact assembleFrom_of_holds assembler hfile (Source.layout_unifyBreaks hpaired)
  · intro mark hmark files hfile
    refine assembleFrom_of_holds assembler hfile ?_
    rw [Text.unifyBreaks_breakAs hmark hreturn]
  · refine assemble_congr ?_ assembler path
    rw [String.toList_ofList, Source.layout_breakAs hreturn]

/-- A file under every path: three lines that end in carriage returns, the first of them behind a
backslash. -/
def returnFiles : Files :=
  ⟨fun _ => .ok (.file (encodeUtf8 "AD\\\rD A\rX:".toList))⟩

/-- A file with carriage returns: the instruction goes on in the second line, as it does where the
lines end in line feeds. -/
theorem assemble_breaks_continued :
    returnFiles.Holds "a" (encodeUtf8 (breakAs ['\r'] "AD\\\nD A\nX:".toList)) ∧
    ((new {} false).assembleFrom returnFiles "a").2.outcome =
      ((new {} false).assemble "AD\\\nD A\nX:" "a").2.outcome ∧
    ((new {} false).assemble "AD\\\nD A\nX:" "a").2.outcome.map Tokenization.tokens =
      .ok [⟨.instruction .add .a .a, 1, "a"⟩] := by
  have hreturn : '\r' ∉ "AD\\\nD A\nX:".toList := by decide
  have hmarked : breakAs ['\r'] "AD\\\nD A\nX:".toList = "AD\\\rD A\rX:".toList := by decide
  have hfile : returnFiles.Holds "a"
      (encodeUtf8 (breakAs ['\r'] "AD\\\nD A\nX:".toList)) := by
    rw [hmarked]
    exact ⟨by decide, rfl⟩
  have hfiled := ((assemble_breaks (new {} false) "a").2 _ hreturn).1 ['\r'] (by decide)
    returnFiles hfile
  exact ⟨hfile, hfiled.2, rfl⟩

end Assembler

end Claw
