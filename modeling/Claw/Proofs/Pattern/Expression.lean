import Claw.Source.Statement
import Mathlib.Data.List.Basic

/-!
# Patterns as expressions

The recognisers of `Claw/Source/Statement.lean` and `Claw/Source/Definition.lean` never try anything
twice: each part of a statement is as long as it can be, and nothing is given back.  What they
recognise is meant, however, as a pattern, and a pattern is ambiguous: a run may also be shorter, an
optional part may also be left out, and the first choice that lets the rest succeed is taken.  This
file defines patterns in that sense, so that the recognisers can be compared with them.

* `Expression`: a pattern, and `Expression.ways`: every way to match the head of a text, in the
  order in which the choices are tried, the longer run and the present part first;
* `Expression.first?`: the way that is taken, `Expression.captures?`: the texts that the groups of
  the pattern take on this way, and `Expression.search?`: the same at the first place of the text
  where there is a way.

A way to match is given by the texts that the groups took and by the text behind.

There are two ways to reason about a pattern.  Where all ways are the same, the order in which they
are tried is of no account, and `mem_ways_one`, `mem_ways_run`, `mem_ways_seq` and the like say what
the ways are; `first?_eq_some_iff` and `search?_eq_some_iff` lead from there to the match that is
found.  Where the ways differ, the first choice must be shown never to be taken back.  A run keeps all
its characters if what follows fails behind a shorter run as well (`first?_run_seq`), in particular
if what follows cannot start with a character of the run (`first?_run_seq_of_head`);
`first?_group_word_seq` and `first?_group_run_seq_of_head` are the same for runs whose text is kept.

Consumed by the other files under `Claw/Proofs/Pattern/`.
-/

namespace Claw.Source

/-- The texts that groups took, with the numbers of the groups, the last one in front. -/
abbrev Groups := List (Nat × List Char)

/-- A pattern for the head of a text. -/
inductive Expression
  /-- One character of a class. -/
  | one (p : Char → Bool)
  /-- Any number of characters of a class, the more the better. -/
  | run (p : Char → Bool)
  /-- The end of the text, or of its last line. -/
  | ends
  /-- The body, or nothing if that fails. -/
  | optional (body : Expression)
  /-- The body, whose text is kept under a number. -/
  | group (number : Nat) (body : Expression)
  /-- The first pattern, or the second if that fails. -/
  | either (first second : Expression)
  /-- The first pattern and the second behind it. -/
  | seq (first second : Expression)

namespace Expression

/-- At least one character of a class. -/
def word (p : Char → Bool) : Expression :=
  seq (one p) (run p)

/-- One given character. -/
def char (c : Char) : Expression :=
  one (· == c)

/-- One of the given characters. -/
def among (cs : List Char) : Expression :=
  one cs.contains

/-- What is behind the runs of a class at the head of a text, the longest run first. -/
def runRests (p : Char → Bool) : List Char → List (List Char)
  | [] => [[]]
  | c :: cs => if p c then runRests p cs ++ [c :: cs] else [c :: cs]

/-- The ways to match the head of a text, in the order in which they are tried, behind groups that
have been matched before. -/
def ways : Expression → Groups → List Char → List (Groups × List Char)
  | one _, _, [] => []
  | one p, groups, c :: cs => if p c then [(groups, cs)] else []
  | run p, groups, cs => (runRests p cs).map (groups, ·)
  | ends, groups, cs => if atEnd cs then [(groups, cs)] else []
  | optional body, groups, cs => body.ways groups cs ++ [(groups, cs)]
  | group number body, groups, cs =>
    (body.ways groups cs).map fun (inner, rest) =>
      ((number, cs.take (cs.length - rest.length)) :: inner, rest)
  | either first second, groups, cs => first.ways groups cs ++ second.ways groups cs
  | seq first second, groups, cs =>
    (first.ways groups cs).flatMap fun (inner, rest) => second.ways inner rest

/-- The way in which the head of a text is matched. -/
def first? (expression : Expression) (groups : Groups) (cs : List Char) :
    Option (Groups × List Char) :=
  (expression.ways groups cs).head?

/-- What the groups take when the head of a text is matched. -/
def captures? (expression : Expression) (cs : List Char) : Option Groups :=
  (expression.first? [] cs).map Prod.fst

/-- The first place of a text where there is a match: the text in front of it, the groups, and the
text behind. -/
def search? (expression : Expression) : List Char → Option (List Char × Groups × List Char)
  | [] => (expression.first? [] []).map fun found => ([], found)
  | c :: cs =>
    (expression.first? [] (c :: cs)).map (fun found => ([], found)) <|>
      (search? expression cs).map fun (front, found) => (c :: front, found)

variable {p : Char → Bool} {a b : Expression} {groups inner : Groups} {cs rest : List Char}

/-! ## The ways to match -/

lemma mem_ways_one :
    (inner, rest) ∈ (one p).ways groups cs ↔ ∃ c, p c = true ∧ cs = c :: rest ∧ inner = groups := by
  cases cs with
  | nil => simp [ways]
  | cons c cs =>
    rw [ways]
    split <;> grind

lemma mem_ways_char {c : Char} :
    (inner, rest) ∈ (char c).ways groups cs ↔ cs = c :: rest ∧ inner = groups := by
  simp [char, mem_ways_one]

lemma mem_ways_among {letters : List Char} :
    (inner, rest) ∈ (among letters).ways groups cs ↔
      ∃ c ∈ letters, cs = c :: rest ∧ inner = groups := by
  simp [among, mem_ways_one]

lemma mem_runRests :
    rest ∈ runRests p cs ↔ ∃ front, (∀ c ∈ front, p c = true) ∧ cs = front ++ rest := by
  induction cs with
  | nil => simp [runRests]
  | cons c cs ih =>
    rw [runRests]
    constructor
    · intro h
      split at h
      · next hc =>
        rcases List.mem_append.mp h with h | h
        · obtain ⟨front, hfront, rfl⟩ := ih.mp h
          exact ⟨c :: front, List.forall_mem_cons.mpr ⟨hc, hfront⟩, rfl⟩
        · exact ⟨[], by simp, (List.mem_singleton.mp h).symm⟩
      · exact ⟨[], by simp, (List.mem_singleton.mp h).symm⟩
    · rintro ⟨front, hfront, heq⟩
      cases front with
      | nil =>
        rw [← show c :: cs = rest from heq]
        split <;> simp
      | cons d front =>
        obtain ⟨rfl, rfl⟩ := List.cons.inj heq
        obtain ⟨hc, hfront⟩ := List.forall_mem_cons.mp hfront
        rw [if_pos hc]
        exact List.mem_append_left _ (ih.mpr ⟨front, hfront, rfl⟩)

lemma mem_ways_run :
    (inner, rest) ∈ (run p).ways groups cs ↔
      ∃ front, (∀ c ∈ front, p c = true) ∧ cs = front ++ rest ∧ inner = groups := by
  rw [ways, List.mem_map]
  constructor
  · rintro ⟨_, hmem, ⟨⟩⟩
    obtain ⟨front, hfront, rfl⟩ := mem_runRests.mp hmem
    exact ⟨front, hfront, rfl, rfl⟩
  · rintro ⟨front, hfront, rfl, rfl⟩
    exact ⟨rest, mem_runRests.mpr ⟨front, hfront, rfl⟩, rfl⟩

lemma mem_ways_optional {body : Expression} :
    (inner, rest) ∈ (optional body).ways groups cs ↔
      (inner, rest) ∈ body.ways groups cs ∨ inner = groups ∧ rest = cs := by
  rw [ways, List.mem_append, List.mem_singleton, Prod.mk.injEq]

lemma mem_ways_group {number : Nat} {body : Expression} :
    (inner, rest) ∈ (group number body).ways groups cs ↔
      ∃ between, (between, rest) ∈ body.ways groups cs ∧
        inner = (number, cs.take (cs.length - rest.length)) :: between := by
  rw [ways, List.mem_map]
  constructor
  · rintro ⟨⟨between, _⟩, hmem, ⟨⟩⟩
    exact ⟨between, hmem, rfl⟩
  · rintro ⟨between, hmem, rfl⟩
    exact ⟨_, hmem, rfl⟩

lemma mem_ways_either :
    (inner, rest) ∈ (either a b).ways groups cs ↔
      (inner, rest) ∈ a.ways groups cs ∨ (inner, rest) ∈ b.ways groups cs := by
  rw [ways, List.mem_append]

lemma mem_ways_seq :
    (inner, rest) ∈ (seq a b).ways groups cs ↔
      ∃ between middle, (between, middle) ∈ a.ways groups cs ∧
        (inner, rest) ∈ b.ways between middle := by
  rw [ways, List.mem_flatMap]
  exact Prod.exists

lemma mem_ways_word :
    (inner, rest) ∈ (word p).ways groups cs ↔
      ∃ front, front ≠ [] ∧ (∀ c ∈ front, p c = true) ∧ cs = front ++ rest ∧ inner = groups := by
  simp only [word, mem_ways_seq, mem_ways_one, mem_ways_run]
  constructor
  · rintro ⟨_, _, ⟨c, hc, rfl, rfl⟩, front, hfront, rfl, rfl⟩
    exact ⟨c :: front, by simp, List.forall_mem_cons.mpr ⟨hc, hfront⟩, rfl, rfl⟩
  · rintro ⟨front, hne, hfront, rfl, rfl⟩
    obtain ⟨c, front, rfl⟩ := List.exists_cons_of_ne_nil hne
    obtain ⟨hc, hfront⟩ := List.forall_mem_cons.mp hfront
    exact ⟨_, _, ⟨c, hc, rfl, rfl⟩, front, hfront, rfl, rfl⟩

lemma mem_ways_ends :
    (inner, rest) ∈ ends.ways groups cs ↔ atEnd cs = true ∧ rest = cs ∧ inner = groups := by
  rw [ways]
  split <;> simp_all [and_comm]

lemma isSome_first?_iff :
    (a.first? groups cs).isSome = true ↔ ∃ inner rest, (inner, rest) ∈ a.ways groups cs := by
  rw [first?, List.isSome_head?, ← Prod.exists (p := fun way => way ∈ a.ways groups cs)]
  exact ⟨List.exists_mem_of_ne_nil _, fun ⟨_, hmem⟩ => List.ne_nil_of_mem hmem⟩

/-- Where all ways are the same, it is of no account which one is tried first. -/
lemma first?_eq_some_iff {found : Groups × List Char}
    (h : ∀ way ∈ a.ways groups cs, ∀ way' ∈ a.ways groups cs, way = way') :
    a.first? groups cs = some found ↔ found ∈ a.ways groups cs := by
  refine ⟨List.mem_of_head?, fun hmem => ?_⟩
  rw [first?]
  cases hways : a.ways groups cs with
  | nil => simp [hways] at hmem
  | cons way others =>
    rw [List.head?_cons, h found hmem way (by simp [hways])]

/-- **A search finds the first place** of the text where there is a match. -/
lemma search?_eq_some_iff {front : List Char} {found : Groups × List Char} :
    a.search? cs = some (front, found) ↔
      ∃ behind, cs = front ++ behind ∧ a.first? [] behind = some found ∧
        ∀ front' behind', cs = front' ++ behind' → front'.length < front.length →
          a.first? [] behind' = none := by
  induction cs generalizing front with
  | nil =>
    rw [search?, Option.map_eq_some_iff]
    constructor
    · rintro ⟨_, hfirst, ⟨⟩⟩
      exact ⟨[], rfl, hfirst, by simp⟩
    · rintro ⟨behind, heq, hfirst, -⟩
      obtain ⟨rfl, rfl⟩ := List.append_eq_nil_iff.mp heq.symm
      exact ⟨_, hfirst, rfl⟩
  | cons c cs ih =>
    rw [search?]
    cases hhere : a.first? [] (c :: cs) with
    | some here =>
      constructor
      · rintro ⟨⟩
        exact ⟨c :: cs, rfl, hhere, by simp⟩
      · rintro ⟨behind, heq, hfirst, hshortest⟩
        -- a match further behind is not the first one
        have hnil : front = [] := by
          by_contra hne
          have := hshortest [] _ rfl (List.length_pos_of_ne_nil hne)
          cases hhere.symm.trans this
        subst hnil
        rw [← show c :: cs = behind from heq, hhere] at hfirst
        rw [Option.some.inj hfirst]
        rfl
    | none =>
      rw [Option.map_none, Option.orElse_eq_orElse, Option.orElse_none, Option.map_eq_some_iff]
      constructor
      · rintro ⟨⟨front, _⟩, hsearch, ⟨⟩⟩
        obtain ⟨behind, rfl, hfirst, hshortest⟩ := ih.mp hsearch
        refine ⟨behind, rfl, hfirst, fun front' behind' heq hshort => ?_⟩
        cases front' with
        | nil => rwa [← show _ = behind' from heq]
        | cons d front' =>
          exact hshortest front' behind' (List.cons.inj heq).2 (Nat.lt_of_succ_lt_succ hshort)
      · rintro ⟨behind, heq, hfirst, hshortest⟩
        cases front with
        | nil =>
          rw [← show c :: cs = behind from heq, hhere] at hfirst
          contradiction
        | cons d front =>
          obtain ⟨rfl, rfl⟩ := List.cons.inj heq
          refine ⟨(front, found), ih.mpr ⟨behind, rfl, hfirst, ?_⟩, rfl⟩
          intro front' behind' heq hshort
          exact hshortest (c :: front') behind' (congrArg (c :: ·) heq) (Nat.succ_lt_succ hshort)

lemma search?_eq_none_iff :
    a.search? cs = none ↔ ∀ front behind, cs = front ++ behind → a.first? [] behind = none := by
  induction cs with
  | nil => simp [search?]
  | cons c cs ih =>
    rw [search?, Option.orElse_eq_orElse, Option.orElse_eq_or, Option.or_eq_none_iff,
      Option.map_eq_none_iff, Option.map_eq_none_iff, ih]
    constructor
    · rintro ⟨hhere, hbehind⟩ front behind heq
      cases front with
      | nil => rwa [← show c :: cs = behind from heq]
      | cons d front => exact hbehind front behind (List.cons.inj heq).2
    · intro h
      exact ⟨h [] _ rfl, fun front behind heq => h (c :: front) behind (congrArg (c :: ·) heq)⟩

/-! ## The parts of a sequence -/

lemma first?_seq (a b : Expression) (groups : Groups) (cs : List Char) :
    (seq a b).first? groups cs =
      (a.ways groups cs).findSome? fun (inner, rest) => b.first? inner rest := by
  rw [first?, ways, List.head?_flatMap]
  rfl

/-- An optional part is left out only if what follows fails behind it. -/
lemma first?_optional_seq (a b : Expression) (groups : Groups) (cs : List Char) :
    (seq (optional a) b).first? groups cs =
      ((seq a b).first? groups cs).or (b.first? groups cs) := by
  simp only [first?_seq, ways, List.findSome?_append, List.findSome?_cons, List.findSome?_nil]
  cases b.first? groups cs <;> rfl

/-! ## Runs -/

/-- The longest run is tried first.  A shorter one leaves behind the same text, with characters of
the class in front. -/
lemma exists_runRests_eq (p : Char → Bool) (cs : List Char) :
    ∃ shorter, runRests p cs = cs.dropWhile p :: shorter ∧
      ∀ rest ∈ shorter, (∃ c behind, rest = c :: behind ∧ p c = true) ∧
        rest.dropWhile p = cs.dropWhile p := by
  induction cs with
  | nil => exact ⟨[], rfl, by simp⟩
  | cons c cs ih =>
    obtain ⟨shorter, heq, hshorter⟩ := ih
    by_cases hc : p c = true
    · have hdrop : (c :: cs).dropWhile p = cs.dropWhile p := List.dropWhile_cons_of_pos hc
      refine ⟨shorter ++ [c :: cs], by simp [runRests, hc, heq], fun rest hrest => ?_⟩
      rw [hdrop]
      rcases List.mem_append.mp hrest with hrest | hrest
      · exact hshorter rest hrest
      · obtain rfl := List.mem_singleton.mp hrest
        exact ⟨⟨c, cs, rfl, hc⟩, hdrop⟩
    · refine ⟨[], ?_, by simp⟩
      rw [runRests, if_neg hc, List.dropWhile_cons_of_neg hc]

/-- The first success among the runs of a class is that of the longest run, if what follows fails
behind every shorter run once it fails behind the longest. -/
lemma findSome?_runRests (texts : List Char → Groups)
    (h : b.first? (texts (cs.dropWhile p)) (cs.dropWhile p) = none →
      ∀ c rest, p c = true → rest.dropWhile p = cs.dropWhile p →
        b.first? (texts (c :: rest)) (c :: rest) = none) :
    ((runRests p cs).findSome? fun rest => b.first? (texts rest) rest) =
      b.first? (texts (cs.dropWhile p)) (cs.dropWhile p) := by
  obtain ⟨shorter, heq, hshorter⟩ := exists_runRests_eq p cs
  rw [heq, List.findSome?_cons]
  cases hlongest : b.first? (texts (cs.dropWhile p)) (cs.dropWhile p) with
  | some found => rfl
  | none =>
    rw [List.findSome?_eq_none_iff]
    intro rest hrest
    obtain ⟨⟨c, behind, rfl, hc⟩, hsame⟩ := hshorter rest hrest
    rw [List.dropWhile_cons_of_pos hc] at hsame
    exact h hlongest c behind hc hsame

/-- **A run keeps what it has** if what follows fails behind every shorter run once it fails behind
the longest. -/
lemma first?_run_seq
    (h : b.first? groups (cs.dropWhile p) = none →
      ∀ c rest, p c = true → rest.dropWhile p = cs.dropWhile p →
        b.first? groups (c :: rest) = none) :
    (seq (run p) b).first? groups cs = b.first? groups (cs.dropWhile p) := by
  rw [first?_seq, ways, List.findSome?_map]
  exact findSome?_runRests (fun _ => groups) h

/-- What cannot start in the class of a run leaves the run all its characters. -/
lemma first?_run_seq_of_head
    (h : ∀ c rest, p c = true → b.first? groups (c :: rest) = none) :
    (seq (run p) b).first? groups cs = b.first? groups (cs.dropWhile p) :=
  first?_run_seq fun _ c rest hc _ => h c rest hc

/-! ## Runs whose text is kept -/

lemma take_length_sub (front rest : List Char) :
    (front ++ rest).take ((front ++ rest).length - rest.length) = front := by
  simp

lemma first?_group_run_seq_of_head {number : Nat}
    (h : ∀ inner c rest, p c = true → b.first? inner (c :: rest) = none) :
    (seq (group number (run p)) b).first? groups cs =
      b.first? ((number, cs.takeWhile p) :: groups) (cs.dropWhile p) := by
  have htaken := take_length_sub (cs.takeWhile p) (cs.dropWhile p)
  rw [List.takeWhile_append_dropWhile] at htaken
  rw [first?_seq, ways, ways, List.map_map, List.findSome?_map]
  refine (findSome?_runRests
    (fun rest => (number, cs.take (cs.length - rest.length)) :: groups)
    fun _ c rest hc _ => h _ c rest hc).trans ?_
  rw [htaken]

/-- **A word keeps what it has** if what follows fails behind every shorter word once it fails
behind the longest. -/
lemma first?_group_word_seq {number : Nat}
    (h : b.first? ((number, cs.takeWhile p) :: groups) (cs.dropWhile p) = none →
      ∀ inner c rest, p c = true → rest.dropWhile p = cs.dropWhile p →
        b.first? inner (c :: rest) = none) :
    (seq (group number (word p)) b).first? groups cs =
      if (cs.takeWhile p).isEmpty then none
      else b.first? ((number, cs.takeWhile p) :: groups) (cs.dropWhile p) := by
  cases cs with
  | nil => rfl
  | cons c cs =>
    by_cases hc : p c = true
    · have htaken := take_length_sub (c :: cs.takeWhile p) (cs.dropWhile p)
      rw [List.cons_append, List.takeWhile_append_dropWhile] at htaken
      rw [List.takeWhile_cons_of_pos hc, List.dropWhile_cons_of_pos hc] at h ⊢
      simp only [first?_seq, word, ways, if_pos hc, List.flatMap_singleton, List.map_map,
        List.findSome?_map]
      refine (findSome?_runRests
        (fun rest =>
          (number, (c :: cs).take ((c :: cs).length - rest.length)) :: groups) ?_).trans ?_
      · rw [htaken]
        exact fun hnone c' rest hc' hsame => h hnone _ c' rest hc' hsame
      · rw [htaken]
        rfl
    · simp [first?_seq, word, ways, hc]

end Expression

end Claw.Source
