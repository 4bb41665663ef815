import Claw.Proofs.LineBreaks

/-!
# Where lines go on and where they end

A backslash at the end of a line continues the line, and a backslash before the letter `n` ends it.
Each of the two is the work of one pass over the text, but another pass runs before it and one
behind it, so that what a seam is made of depends on what the earlier pass left there.

* `layout_continued`, `layout_continued_pair`: a continuation leaves nothing behind, whatever is
  before it: also where it stands between a backslash and the letter `n`, which then make a line
  break together.  What is behind it must not begin with a line break of its own, because a line
  break that the continuation was kept from would go to what is before it;
* `layout_writtenBreak`: a line break that is written out is a line break, behind any text that is
  closed in the sense of `IsClosed`;
* `SameSource`: two texts that are the same source for everything that reads them.

`continuations_and_breaks` is about any two texts and any cut between them.
-/

namespace Claw.Source

open Text (replacePair_append replacePair_cons replacePair_pair)

variable {cs ds : List Char}

/-! ## Continuations -/

lemma unifyPairs_append_of_head (h : ds.head? ≠ some '\n') :
    unifyPairs (cs ++ ds) = unifyPairs cs ++ unifyPairs ds := by
  rw [unifyPairs_eq, replacePair_append (.inr h)]

lemma head?_unifyPairs_ne (hbreak : ds.head? ≠ some '\n') (hreturn : ds.head? ≠ some '\r') :
    (unifyPairs ds).head? ≠ some '\n' := by
  cases ds with
  | nil => exact hbreak
  | cons d ds =>
    have hd : d ≠ '\r' := by simpa using hreturn
    rw [unifyPairs_cons hd]
    exact hbreak

/-- The backslash of a continuation does not belong to what is before it, even if that ends in
another backslash. -/
lemma joinContinued_continued (cs ds : List Char) :
    joinContinued (cs ++ '\\' :: '\n' :: ds) = joinContinued cs ++ joinContinued ds := by
  rw [joinContinued_eq, replacePair_append (.inr (by simp)), replacePair_pair, List.nil_append]

lemma joinContinued_append_of_head (h : ds.head? ≠ some '\n') :
    joinContinued (cs ++ ds) = joinContinued cs ++ joinContinued ds := by
  rw [joinContinued_eq, replacePair_append (.inr h)]

lemma unifyPairs_continued (cs ds : List Char) :
    unifyPairs (cs ++ '\\' :: '\n' :: ds) = unifyPairs cs ++ '\\' :: '\n' :: unifyPairs ds := by
  rw [unifyPairs_append_of_head (by simp), unifyPairs_cons (by decide),
    unifyPairs_cons (by decide)]

/-- **Continuations.** A continuation leaves nothing behind. -/
lemma layout_continued (hbreak : ds.head? ≠ some '\n') (hreturn : ds.head? ≠ some '\r') :
    layout (cs ++ '\\' :: '\n' :: ds) = layout (cs ++ ds) := by
  have hrest : (unifyPairs ds).head? ≠ some '\n' := head?_unifyPairs_ne hbreak hreturn
  calc layout (cs ++ '\\' :: '\n' :: ds)
      = breakEscapes (joinContinued (unifyPairs cs) ++ joinContinued (unifyPairs ds)) := by
        rw [layout, unifyPairs_continued, joinContinued_continued]
    _ = layout (cs ++ ds) := by
        rw [layout, unifyPairs_append_of_head hbreak, joinContinued_append_of_head hrest]

/-- A continuation with a pair is one with a line feed, whatever is behind it. -/
lemma layout_continued_pair (cs ds : List Char) :
    layout (cs ++ '\\' :: '\r' :: '\n' :: ds) = layout (cs ++ '\\' :: '\n' :: ds) := by
  have hpair : unifyPairs ('\\' :: '\r' :: '\n' :: ds) = '\\' :: '\n' :: unifyPairs ds :=
    unifyPairs_cons (by decide)
  rw [layout, unifyPairs_append_of_head (by simp), hpair, layout, unifyPairs_continued]

/-! ## Line breaks that are written out -/

/-- **Written line breaks.** Behind a closed text a line break may be written out.  That a backslash
is before it would not matter to the one that is written out, but the real one would be joined. -/
lemma layout_writtenBreak (h : IsClosed cs) (ds : List Char) :
    layout (cs ++ '\\' :: 'n' :: ds) = layout (cs ++ '\n' :: ds) := by
  have hunify : unifyPairs (cs ++ '\\' :: 'n' :: ds) =
      unifyPairs cs ++ '\\' :: 'n' :: unifyPairs ds := by
    rw [unifyPairs_append_of_head (by simp), unifyPairs_cons (by decide),
      unifyPairs_cons (by decide)]
  have hjoin : ∀ cs ds, joinContinued (cs ++ '\\' :: 'n' :: ds) =
      joinContinued cs ++ '\\' :: 'n' :: joinContinued ds := by
    intro cs ds
    rw [joinContinued_append_of_head (by simp), joinContinued_eq,
      replacePair_cons (.inr (by simp)), replacePair_cons (.inl (by decide))]
  have hescape : ∀ cs ds, breakEscapes (cs ++ '\\' :: 'n' :: ds) =
      breakEscapes cs ++ '\n' :: breakEscapes ds := by
    intro cs ds
    rw [breakEscapes_eq, replacePair_append (.inr (by simp)), replacePair_pair,
      List.singleton_append]
  rw [layout, hunify, hjoin, hescape, layout_append h]
  rfl

/-! ## The same source -/

/-- Two texts that nothing tells apart behind the layout: they have the same lines with the same
numbers, put the same definitions on record, and yield the same under any options, reports
included. -/
structure SameSource (text text' : String) : Prop where
  layout_eq : layoutText text = layoutText text'
  read_eq : ∀ file, read text file = read text' file
  definitions_eq : ∀ file, definitions (read text file) = definitions (read text' file)
  ofLines_eq : ∀ options file,
    Tokenization.ofLines options (read text file) = Tokenization.ofLines options (read text' file)

lemma SameSource.of_layout {text text' : String} (h : layout text.toList = layout text'.toList) :
    SameSource text text' where
  layout_eq := congrArg String.ofList h
  read_eq := read_congr h
  definitions_eq file := by rw [read_congr h]
  ofLines_eq options file := by rw [read_congr h]

/-- The marks of a continuation: a backslash and a line break. -/
def continuationMarks : List String :=
  ["\\\n", "\\\r\n"]

/-- A line break that is written out. -/
def writtenBreak : String :=
  "\\n"

/-- **Continuations and written line breaks.** Wherever a text is cut, a continuation between the
two parts makes no difference, unless the second part begins with a line break of its own; and a
line break between them may be written out, unless the first part ends in a backslash or a carriage
return. -/
theorem continuations_and_breaks (front behind : String) :
    (behind.toList.head? ≠ some '\n' → behind.toList.head? ≠ some '\r' →
      ∀ mark ∈ continuationMarks, SameSource (front ++ mark ++ behind) (front ++ behind)) ∧
    (front.toList.getLast? ≠ some '\\' → front.toList.getLast? ≠ some '\r' →
      SameSource (front ++ writtenBreak ++ behind) (front ++ "\n" ++ behind)) := by
  refine ⟨fun hbreak hreturn mark hmark => ?_, fun hbackslash hreturn => ?_⟩
  · have hcontinued : layout (front.toList ++ '\\' :: '\n' :: behind.toList) =
        layout (front.toList ++ behind.toList) := layout_continued hbreak hreturn
    refine SameSource.of_layout ?_
    simp only [continuationMarks, List.mem_cons, List.not_mem_nil, or_false] at hmark
    rcases hmark with rfl | rfl
    · simpa using hcontinued
    · simpa using (layout_continued_pair front.toList behind.toList).trans hcontinued
  · have hbroken := layout_writtenBreak ⟨hbackslash, hreturn⟩ behind.toList
    refine SameSource.of_layout ?_
    simpa [writtenBreak] using hbroken

/-- A continuation between a backslash and the letter that makes it a line break, within a string,
and a line break written out behind an instruction. -/
theorem continuations_and_breaks_within_string :
    SameSource ".DBS\"a\\\\\r\nnb\"" ".DBS\"a\\nb\"" ∧
    contents ".DBS\"a\\\\\r\nnb\"" = [".DBS\"a", "b\""] ∧
    SameSource "ADD A\\nX:" "ADD A\nX:" :=
  ⟨(continuations_and_breaks ".DBS\"a\\" "nb\"").1 (by decide) (by decide) "\\\r\n" (by decide),
    by decide, (continuations_and_breaks "ADD A" "X:").2 (by decide) (by decide)⟩

end Claw.Source
