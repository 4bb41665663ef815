import Claw.Yaml.Load
import Mathlib.Tactic.Common

/-!
# Texts that are too deep

However much room there is for going deeper, it is not enough for every text (`load_opened`).  A
text that is too deep for it consists of brackets only, each of which opens a sequence within the
one before.

* `Scan.IsOpening`: what holds of a scan between two brackets.  `IsOpening.exists_ahead` and
  `IsOpening.exists_token` keep it, so that `tokens_opened` is an induction on the brackets left;
* `Composer.IsOpening`: the same of the tokens.  The induction of `node_tooDeep` is on the room, of
  which every bracket takes some.

None of the sequences ends, so the text is not well-formed either.  That it is too deep comes up
first: a node is read as far as there is room for it before what stands behind it is looked at.

Consumed by `Claw/Proofs/Unreported.lean`.
-/

namespace Claw.Yaml

/-- A text that opens so many sequences, each within the one before. -/
def opened (count : Nat) : String :=
  String.ofList (List.replicate count '[')

/-! ## The tokens -/

namespace Cursor

variable {cursor : Cursor} {left : Nat} (h : cursor.rest = List.replicate left '[')
include h

lemma behindSpaces_opened : cursor.behindSpaces = cursor := by
  cases left <;> simp [behindSpaces, behind, run, h, List.replicate_succ, skip]

lemma behindComment_opened : cursor.behindComment = cursor := by
  cases left <;> simp [behindComment, peek, h, List.replicate_succ]

lemma lineBreak?_opened : cursor.lineBreak? = none := by
  cases left <;> simp [lineBreak?, h, List.replicate_succ, isBreak]

lemma marks_opened {c : Char} (hc : c ≠ '[') : cursor.marks c = false := by
  rw [marks, h]
  match left with
  | 0 | 1 | 2 => rfl
  | left + 3 => simp [List.replicate_succ, hc.symm]

end Cursor

namespace Scan

/-- Whether nothing is wrong if a candidate turns out to be no key. -/
def MayLapse (candidate? : Option Candidate) : Prop :=
  ∀ candidate ∈ candidate?, candidate.required = false

lemma exists_refresh (cursor : Cursor) {candidate? : Option Candidate} (h : MayLapse candidate?) :
    ∃ refreshed?, refresh cursor candidate? = .ok refreshed? ∧ MayLapse refreshed? := by
  cases candidate? with
  | none => exact ⟨none, rfl, h⟩
  | some candidate =>
    have hrequired : candidate.required = false := h candidate rfl
    rw [refresh]
    split
    · exact ⟨_, rfl, h⟩
    · exact ⟨none, by simp [hrequired], by simp [MayLapse]⟩

lemma exists_mapM_refresh (cursor : Cursor) {outer : List (Option Candidate)}
    (h : ∀ candidate? ∈ outer, MayLapse candidate?) :
    ∃ refreshed, outer.mapM (refresh cursor) = .ok refreshed ∧
      ∀ candidate? ∈ refreshed, MayLapse candidate? := by
  induction outer with
  | nil => exact ⟨[], rfl, h⟩
  | cons candidate? outer ih =>
    obtain ⟨hcandidate, houter⟩ := List.forall_mem_cons.mp h
    obtain ⟨refreshed?, hrefresh, hrefreshed⟩ := exists_refresh cursor hcandidate
    obtain ⟨refreshed, hrest, hmem⟩ := ih houter
    refine ⟨refreshed? :: refreshed, ?_, List.forall_mem_cons.mpr ⟨hrefreshed, hmem⟩⟩
    rw [List.mapM_cons, hrefresh, hrest]
    rfl

/-- A scan behind so many brackets that open sequences, with so many of them left. -/
structure IsOpening (taken left : Nat) (scan : Scan) : Prop where
  rest : scan.cursor.rest = List.replicate left '['
  reversed : scan.reversed = List.replicate taken .flowSequenceStart
  indent : scan.indent = -1
  indents : scan.indents = []
  keyAllowed : scan.keyAllowed = true
  candidate : scan.candidate = none
  outer : ∀ candidate? ∈ scan.outer, MayLapse candidate?

lemma isOpening_start (count : Nat) : (start (List.replicate count '[')).IsOpening 0 count where
  rest := rfl
  reversed := rfl
  indent := rfl
  indents := rfl
  keyAllowed := rfl
  candidate := rfl
  outer := by simp [start]

namespace IsOpening

variable {scan : Scan} {taken left : Nat} (h : scan.IsOpening taken left)
include h

lemma passMark_eq : scan.passMark = scan := by
  rw [passMark, if_neg]
  cases left <;> simp [Cursor.peek, h.rest, List.replicate_succ]

lemma passBlanks_eq (fuel : Nat) : passBlanks fuel scan = scan := by
  cases fuel with
  | zero => rfl
  | succ fuel =>
    rw [passBlanks, Cursor.behindSpaces_opened h.rest, Cursor.behindComment_opened h.rest,
      Cursor.lineBreak?_opened h.rest]

lemma unwind_eq (column : Int) : scan.unwind column = scan := by
  rw [unwind, h.indents]
  split
  · rfl
  · rw [closeBlocks, ← h.indents]

lemma exists_dropStale : ∃ place, scan.dropStale = .ok place ∧ place.IsOpening taken left := by
  obtain ⟨outer, houter, hmem⟩ := exists_mapM_refresh scan.cursor h.outer
  rw [dropStale, h.candidate, houter]
  exact ⟨_, rfl, h.rest, h.reversed, h.indent, h.indents, h.keyAllowed, rfl, hmem⟩

/-- Between two brackets nothing is passed over, and no candidate lapses that has to stay. -/
lemma exists_ahead : ∃ place, scan.ahead = .ok place ∧ place.IsOpening taken left := by
  obtain ⟨place, hdrop, hplace⟩ := h.exists_dropStale
  rw [ahead, h.passMark_eq, h.passBlanks_eq, hdrop]
  exact ⟨_, rfl, (hplace.unwind_eq _).symm ▸ hplace⟩

end IsOpening

/-- A bracket opens one more sequence, in front of which no key can be required, because no block
collection is open. -/
lemma IsOpening.exists_token {scan : Scan} {taken left : Nat}
    (h : scan.IsOpening taken (left + 1)) :
    ∃ next, scan.token '[' = .ok next ∧ next.IsOpening (taken + 1) left := by
  have htoken : scan.token '[' = scan.flowStart .flowSequenceStart := by
    simp [token, Cursor.marks_opened h.rest]
  have hnext : scan.cursor.next = ⟨List.replicate left '[', scan.cursor.index + 1,
      scan.cursor.line, scan.cursor.column + 1⟩ := by
    simp [Cursor.next, h.rest, List.replicate_succ]
  rw [htoken, flowStart, saveCandidate, if_pos h.keyAllowed, dropCandidate, h.candidate]
  refine ⟨_, rfl, ?_⟩
  constructor
  · exact congrArg Cursor.rest hnext
  · exact congrArg _ h.reversed
  · exact h.indent
  · exact h.indents
  · rfl
  · rfl
  · refine List.forall_mem_cons.mpr ⟨?_, h.outer⟩
    simp [MayLapse, h.indent]

lemma IsOpening.exists_finish {scan : Scan} {taken : Nat} (h : scan.IsOpening taken 0) :
    ∃ finished, scan.finish = .ok finished ∧
      finished.reversed = List.replicate taken .flowSequenceStart := by
  rw [finish, leaveDocument, h.unwind_eq, dropCandidate, h.candidate]
  exact ⟨_, rfl, h.reversed⟩

/-- What is left of the text becomes a token for each bracket. -/
lemma IsOpening.rounds_eq {scan : Scan} {taken left : Nat} (h : scan.IsOpening taken left) :
    rounds (left + 1) scan = ⟨List.replicate (taken + left) .flowSequenceStart, none⟩ := by
  induction left generalizing scan taken with
  | zero =>
    obtain ⟨place, hahead, hplace⟩ := h.exists_ahead
    obtain ⟨finished, hfinish, hreversed⟩ := hplace.exists_finish
    have hpeek : place.cursor.peek = none := by
      rw [Cursor.peek, hplace.rest]
      rfl
    simp only [rounds, hahead, hpeek, hfinish, hreversed, List.reverse_replicate, Nat.add_zero]
  | succ left ih =>
    obtain ⟨place, hahead, hplace⟩ := h.exists_ahead
    obtain ⟨next, htoken, hnext⟩ := hplace.exists_token
    have hpeek : place.cursor.peek = some '[' := by
      rw [Cursor.peek, hplace.rest]
      rfl
    rw [rounds]
    simp only [hahead, hpeek, htoken]
    rw [ih hnext, Nat.succ_add_eq_add_succ]

end Scan

lemma tokens_opened (count : Nat) : tokens (opened count).toList =
    ⟨List.replicate count .flowSequenceStart, none⟩ := by
  have hprintable : (List.replicate count '[').all isPrintable = true := by
    simp [List.all_replicate, isPrintable]
  rw [opened, String.toList_ofList, tokens, if_pos hprintable, List.length_replicate,
    (Scan.isOpening_start count).rounds_eq, Nat.zero_add]

/-! ## Reading nodes -/

section

variable {ρ σ α β : Type} {step : StateT σ (Except Failure) α} {state after : σ} {value : α}
  (h : step.run state = .ok (value, after))
include h

/-- A step that can be taken gives way to those behind it. -/
lemma run_bind_of_run (next : α → StateT σ (Except Failure) β) :
    (step >>= next).run state = (next value).run after := by
  rw [StateT.run_bind, h]
  rfl

lemma run_lift_bind_of_run (next : α → Within ρ σ β) (room : ρ) :
    ((liftM step >>= next : Within ρ σ β).run room).run state =
      ((next value).run room).run after :=
  run_bind_of_run h fun value => (next value).run room

end

lemma run_bind_of_error {ρ σ α β : Type} {step : Within ρ σ α} {room : ρ} {state : σ}
    {failure : Failure} (h : (step.run room).run state = .error failure)
    (next : α → Within ρ σ β) : ((step >>= next).run room).run state = .error failure := by
  rw [ReaderT.run_bind, StateT.run_bind, h]
  rfl

lemma run_deeper {σ α : Type} (step : Within Nat σ α) (room : Nat) :
    (deeper step).run (room + 1) = step.run room := rfl

namespace Composer

/-- Whether there are so many sequences left to be opened, and nothing else. -/
def IsOpening (left : Nat) (composer : Composer) : Prop :=
  composer.stream = ⟨List.replicate left .flowSequenceStart, none⟩

namespace IsOpening

variable {composer : Composer} {left : Nat} (h : composer.IsOpening (left + 1))
include h

lemma run_peek : Step.peek.run composer = .ok (some .flowSequenceStart, composer) := by
  obtain ⟨stream, graph, anchors, handles⟩ := composer
  obtain rfl : stream = _ := h
  rfl

lemma run_follows {expected : List Token}
    (hexpected : expected.contains .flowSequenceStart = false) :
    (Step.follows expected).run composer = .ok (false, composer) := by
  rw [Step.follows, run_bind_of_run h.run_peek]
  exact congrArg (fun found => Except.ok (found, composer)) hexpected

lemma run_properties : Step.properties.run composer = .ok ((none, none), composer) := by
  have hanchor : Step.takeAnchor.run composer = .ok (none, composer) :=
    run_bind_of_run h.run_peek _
  have htag : Step.takeTag.run composer = .ok (none, composer) :=
    run_bind_of_run h.run_peek _
  rw [Step.properties, run_bind_of_run hanchor]
  dsimp only
  rw [run_bind_of_run htag]
  rfl

lemma exists_addNode (node : Node) : ∃ place after,
    (Step.addNode none node).run composer = .ok (place, after) ∧ after.IsOpening (left + 1) :=
  ⟨_, _, rfl, h⟩

lemma exists_advance : ∃ after, Step.advance.run composer = .ok ((), after) ∧
    after.IsOpening left := by
  obtain ⟨stream, graph, anchors, handles⟩ := composer
  obtain rfl : stream = _ := h
  exact ⟨_, rfl, rfl⟩

end IsOpening
end Composer

section

variable {composer : Composer} {left room fuel : Nat} {block compact : Bool} {failure : Failure}

lemma run_node (h : composer.IsOpening (left + 1)) :
    ((node (fuel + 1) block compact).run (room + 1)).run composer =
      ((content fuel block compact none none).run room).run composer := by
  rw [node, run_deeper, run_lift_bind_of_run h.run_peek]
  exact run_lift_bind_of_run h.run_properties _ _

/-- A sequence that is opened fails where what it holds does. -/
lemma exists_run_content (h : composer.IsOpening (left + 1)) :
    ∃ within : Composer, within.IsOpening left ∧
      (((flowItems fuel true).run room).run within = .error failure →
        ((content (fuel + 1) block compact none none).run room).run composer = .error failure) := by
  obtain ⟨place, added, hadd, hadded⟩ := h.exists_addNode
    ⟨collectionTag .sequence none, .sequence []⟩
  obtain ⟨within, hadvance, hwithin⟩ := hadded.exists_advance
  refine ⟨within, hwithin, fun hitems => ?_⟩
  rw [content, run_lift_bind_of_run h.run_peek]
  dsimp only
  rw [collectionNode, run_lift_bind_of_run rfl, run_lift_bind_of_run hadd]
  refine run_bind_of_error ?_ _
  rw [run_lift_bind_of_run hadvance, hitems]

lemma run_flowItems (h : composer.IsOpening (left + 1))
    (hnode : ((node fuel false false).run room).run composer = .error failure) :
    ((flowItems (fuel + 1) true).run room).run composer = .error failure := by
  have hends := h.run_follows (show [Token.flowSequenceEnd].contains _ = false from rfl)
  have hkey := h.run_follows (show [Token.key].contains _ = false from rfl)
  rw [flowItems, run_lift_bind_of_run hends, if_neg Bool.false_ne_true, run_lift_bind_of_run rfl,
    run_lift_bind_of_run hkey, if_neg Bool.false_ne_true, run_lift_bind_of_run hends,
    if_neg Bool.false_ne_true]
  exact run_bind_of_error hnode _

end

/-- **Every sequence within another takes up room.**  Where more of them are opened than there is
room for, no node is read. -/
lemma node_tooDeep {room left fuel : Nat} {composer : Composer} (h : composer.IsOpening left)
    (hroom : room < left) (hfuel : 3 * room < fuel) (block compact : Bool) :
    ((node fuel block compact).run room).run composer = .error .tooDeep := by
  induction room generalizing left fuel composer block compact with
  | zero =>
    obtain ⟨fuel, rfl⟩ : ∃ fuel', fuel = fuel' + 1 := ⟨fuel - 1, by omega⟩
    rfl
  | succ room ih =>
    obtain ⟨fuel, rfl⟩ : ∃ fuel', fuel = fuel' + 3 := ⟨fuel - 3, by omega⟩
    obtain ⟨left, rfl⟩ : ∃ left', left = left' + 2 := ⟨left - 2, by omega⟩
    obtain ⟨within, hwithin, hcontent⟩ := exists_run_content h
    rw [run_node h]
    exact hcontent (run_flowItems hwithin (ih hwithin (by omega) (by omega) false false))

lemma onlyDocument?_tooDeep {room left fuel : Nat} {composer : Composer}
    (h : composer.IsOpening left) (hroom : room < left) (hfuel : 3 * room < fuel) :
    ((onlyDocument? fuel).run room).run composer = .error .tooDeep := by
  obtain ⟨left, rfl⟩ : ∃ left', left = left' + 1 := ⟨left - 1, by omega⟩
  rw [onlyDocument?, run_lift_bind_of_run h.run_peek]
  exact run_bind_of_error (node_tooDeep h hroom hfuel true false) _

/-- **No room is enough for every text.** -/
theorem load_opened {room : Room} {count : Nat} (h : room.nodes < count) :
    load room (opened count) = .error .tooDeep := by
  have hroot : ((onlyDocument? (5 * count + 5)).run room.nodes).run
      ⟨⟨List.replicate count .flowSequenceStart, none⟩, .empty, [], standardHandles⟩ =
        .error .tooDeep :=
    onlyDocument?_tooDeep rfl h (by omega)
  rw [load, Document.ofText?, tokens_opened, List.length_replicate]
  dsimp only
  rw [hroot]
  rfl

end Claw.Yaml
