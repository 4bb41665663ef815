import Claw.Proofs.Comment
import Claw.Proofs.Source.Reading
import Claw.Proofs.Source.Seam
import Claw.Source.Recorder

/-!
# What a recorder gives and keeps

A recorder goes through a text line by line, puts directives on record where the category of a line
calls for it, and asks the checked constructor for every line.  None of this shows in the end:

* `Scan.behind`: a scan behind lines that are known as a whole, and `Scan.run_eq`, that this is where
  a run ends.  It rests on `Scan.step_eq`: a directive never misses the category under which it is
  put on record, and no line is ever refused;
* `Recorder.read_eq`: so a recorder gives the lines of `Source.read` and keeps their
  `Source.definitions`, whatever it kept before, and `Recorder.session_eq` is the same for texts one
  after another.

What the lines are like is `read_invariant`.  Of the text of a line, `IsClean` is known: what the
layout guarantees (`not_pair_infix_layout`) goes through the cut into lines and the removal of
comments, which take parts of a text, and through the removal of escapes, which brings characters
together but none behind a backslash (`isClean_bare`).

Consumed by `Claw/Proofs/Definitions.lean`.
-/

namespace Claw.Source

/-! ## One recorder, many lines -/

namespace Scan

/-- A scan behind more lines, the directives among which are on record. -/
def behind (scan : Scan) (lines : List Line) : Scan where
  recorder := ⟨applyAll scan.recorder.definitions (directives lines)⟩
  lines := scan.lines ++ lines
  reported := scan.reported ++ (directives lines).map directiveReport

lemma behind_nil (scan : Scan) : scan.behind [] = scan := by
  simp [behind, directives, applyAll]

lemma behind_behind (scan : Scan) (front back : List Line) :
    (scan.behind front).behind back = scan.behind (front ++ back) := by
  simp only [behind, directives, List.filterMap_append, applyAll_append, List.map_append,
    List.append_assoc]

/-- **One line.** It is never refused, and a directive on it never misses the record. -/
lemma step_eq (file : String) (scan : Scan) (raw : List Char) :
    scan.step file raw =
      (scan.behind [.ofContent file (scan.lines.length + 1) (String.ofList (bare raw))],
        .ok ()) := by
  generalize hcontent : String.ofList (bare raw) = content
  have haccepted : ∀ number, Line.of content number file (categoryOf content)
      (categoryOf content == .empty) = .ok (.ofContent file number content) :=
    fun number => dif_pos (categoryOf_eq_empty_iff content)
  rw [step, hcontent, haccepted]
  cases hdirective : directive? content.toList with
  | none =>
    have hrecord : ∀ number, scan.record number content = scan := by
      intro number
      rw [record, hdirective]
    simp only [hrecord, ite_self, behind, directives, Line.ofContent, List.filterMap_cons,
      hdirective, Option.map_none, List.filterMap_nil, applyAll, List.foldl_nil, List.map_nil,
      List.append_nil]
  | some directive =>
    -- directives are tried before everything else, so the line is of the category that is recorded
    have hunknown : categoryOf content = .unknown :=
      categoryOf_of_isDirective (Option.isSome_iff_exists.mpr ⟨directive, hdirective⟩)
    rw [if_pos hunknown]
    simp only [record, hdirective, behind, directives, Line.ofContent, List.filterMap_cons,
      Option.map_some, List.filterMap_nil, applyAll, List.foldl_cons, List.foldl_nil,
      List.map_cons, List.map_nil]

/-- **Many lines.** -/
lemma run_eq (file : String) (scan : Scan) (raws : List (List Char)) :
    scan.run file raws =
      (scan.behind (number file (scan.lines.length + 1)
        (raws.map fun raw => String.ofList (bare raw))), .ok ()) := by
  induction raws generalizing scan with
  | nil => rw [run, List.map_nil, number, behind_nil]
  | cons raw rest ih =>
    rw [run, step_eq]
    simp only [ih, behind_behind, List.map_cons, number, List.singleton_append]
    simp [behind]

end Scan

namespace Recorder

/-- **A recorder** gives the lines of a text and keeps the definitions of these lines. -/
lemma read_eq (recorder : Recorder) (text file : String) :
    recorder.read text file =
      (⟨Source.definitions (Source.read text file)⟩,
        ⟨log file (Source.read text file), .ok (Source.read text file)⟩) := by
  rw [read, Scan.run_eq]
  rfl

lemma session_eq (recorder : Recorder) (sources : List (String × String)) :
    recorder.session sources = sources.map fun source => new.read source.1 source.2 := by
  induction sources generalizing recorder with
  | nil => rfl
  | cons source rest ih =>
    simp only [session, ih, List.map_cons, read_eq]

end Recorder

/-! ## The text of a line -/

/-- What the text of a line is free of. -/
structure IsClean (content : List Char) : Prop where
  no_break : '\n' ∉ content
  no_escape : ¬['\\', 'n'] <:+: content
  head_not_blank : ∀ c ∈ content.head?, Text.isBlank c = false
  last_not_blank : ∀ c ∈ content.getLast?, Text.isBlank c = false

lemma not_pair_infix_layout (cs : List Char) : ¬['\\', 'n'] <:+: layout cs := by
  rw [layout, breakEscapes_eq]
  exact Text.not_pair_infix_replacePair (by decide) (by decide) _

lemma isPrefix_codePart (line : List Char) : codePart line <+: line :=
  List.take_prefix _ _

/-- The text of a line stays on its line, and what is taken out of it makes no escape of a line
break. -/
lemma isClean_bare {raw : List Char} (hbreak : '\n' ∉ raw) (hescape : ¬['\\', 'n'] <:+: raw) :
    IsClean (bare raw) := by
  have hcode := isPrefix_codePart raw
  have hkept : (unescape (codePart raw)).Sublist (codePart raw) := by
    rw [unescape_eq]
    exact Text.replacePair_sublist _
  have hbare : bare raw = Text.trim (unescape (codePart raw)) := by
    rw [bare, dropComments_eq_codePart hbreak]
  rw [hbare]
  refine ⟨fun hmem => ?_, fun hpair => ?_, fun c => Text.isBlank_of_mem_head?_trim,
    fun c => Text.isBlank_of_mem_getLast?_trim⟩
  · exact hbreak (hcode.subset (hkept.subset (Text.mem_of_mem_trim hmem)))
  · -- what the escapes leave behind is semicolons, which end no escape of a line break
    have hunescaped : ['\\', 'n'] <:+: unescape (codePart raw) := hpair.trans (Text.isInfix_trim _)
    rw [unescape_eq] at hunescaped
    have hcommented := Text.pair_infix_of_replacePair (by decide) hunescaped
    exact hescape (hcommented.trans hcode.isInfix)

lemma isClean_of_mem_contents {text content : String} (h : content ∈ contents text) :
    IsClean content.toList := by
  obtain ⟨raw, hraw, rfl⟩ := List.mem_map.mp h
  rw [String.toList_ofList]
  refine isClean_bare (Text.not_mem_of_mem_pieces hraw) fun hpair => ?_
  exact not_pair_infix_layout _ (hpair.trans (Text.isInfix_of_mem_pieces hraw))

/-! ## The lines of a text -/

/-- What is known of the line with the given number of a source. -/
structure Line.IsRead (file : String) (number : Int) (line : Line) : Prop where
  number_eq : line.number = number
  file_eq : line.file = file
  isClean : IsClean line.content.toList
  category_eq : line.category = categoryOf line.content
  category_iff : line.category = .empty ↔ line.content = ""
  processed_iff : line.processed = true ↔ line.content = ""

lemma length_contents (text : String) :
    (contents text).length = 1 + (layoutText text).toList.count '\n' := by
  rw [contents, List.length_map, Text.lines, Text.length_pieces, layoutText, String.toList_ofList,
    Nat.add_comm]

lemma isRead_of_getElem? {text file : String} {place : Nat} {line : Line}
    (h : (read text file)[place]? = some line) : line.IsRead file (1 + place) := by
  obtain ⟨content, hcontent, rfl⟩ := exists_eq_ofContent h
  have hempty := categoryOf_eq_empty_iff content
  refine ⟨rfl, rfl, isClean_of_mem_contents (List.mem_of_getElem? hcontent), rfl, hempty, ?_⟩
  exact beq_iff_eq.trans hempty

/-- **The lines of a text.** Whatever a recorder has read before, it reads a text to the end, and
gives one line more than the text has line breaks when its layout is settled.  They are numbered from
one on; each is clean, is under the category that its content calls for, and is done with just if
it is empty. -/
theorem read_invariant (recorder : Recorder) (text file : String) :
    ∃ lines, (recorder.read text file).2.outcome = .ok lines ∧
      lines.length = 1 + (layoutText text).toList.count '\n' ∧
      ∀ place (h : place < lines.length), (lines[place]).IsRead file (1 + place) := by
  refine ⟨read text file, by rw [recorder.read_eq], ?_, fun place h => ?_⟩
  · rw [length_read, length_contents]
  · exact isRead_of_getElem? (List.getElem?_eq_getElem h)

/-- One of the two line breaks is written as an escape, within what would be a comment. -/
theorem read_invariant_last :
    ∃ lines, (Recorder.new.read "\t.DB8(1) ; \\n#define A 1\nb:" "main.claw").2.outcome = .ok lines ∧
      ∃ h : 2 < lines.length, (lines[2]).IsRead "main.claw" 3 := by
  obtain ⟨lines, hread, hlength, hlines⟩ :=
    read_invariant Recorder.new "\t.DB8(1) ; \\n#define A 1\nb:" "main.claw"
  have hcount : 2 < lines.length := by
    rw [hlength]
    decide
  exact ⟨lines, hread, hcount, hlines 2 hcount⟩

end Claw.Source
