import Claw.Yaml.Load
import Mathlib.Tactic.Common

/-!
# Room for going deeper

How much room there is for loading a text decides whether the text is too deep for it, and nothing
else (`load_of_le`): a text that is loaded, or refused for another reason, comes to the same with
more room.

A step is *stable* if it is so of the step from whatever state (`IsStable`).  Steps that do not look
at their room are (`isStable_lift`), and steps put together from stable ones are
(`IsStable.bind`, `IsStable.deeper`).  The functions that call one another are stable for one bound
because they are for the bound before it: `ReadersStable` says so of those that read nodes, and
`CompletersStable` of those that complete mappings.

Consumed by `Claw/Proofs/CommandLine/Course.lean`.
-/

namespace Claw.Yaml

instance : LE Room where
  le room more :=
    room.nodes ≤ more.nodes ∧ room.merges ≤ more.merges ∧ room.texts ≤ more.texts

/-! ## Stable steps -/

/-- More room makes no difference to a step, unless it had too little. -/
def IsStable {ρ σ α : Type} [LE ρ] (step : Within ρ σ α) : Prop :=
  ∀ ⦃room more : ρ⦄, room ≤ more → ∀ state, (step.run room).run state = .error .tooDeep ∨
    (step.run more).run state = (step.run room).run state

section

variable {ρ σ α β : Type} [LE ρ]

lemma isStable_lift (step : StateT σ (Except Failure) α) :
    IsStable (liftM step : Within ρ σ α) :=
  fun _ _ _ _ => .inr rfl

lemma isStable_get : IsStable (get : Within ρ σ σ) :=
  isStable_lift get

lemma isStable_set (state : σ) : IsStable (set state : Within ρ σ PUnit) :=
  isStable_lift (set state)

lemma isStable_modify (update : σ → σ) : IsStable (modify update : Within ρ σ PUnit) :=
  isStable_lift (modify update)

lemma isStable_pure (value : α) : IsStable (pure value : Within ρ σ α) :=
  isStable_lift (pure value)

lemma isStable_throw (failure : Failure) : IsStable (throw failure : Within ρ σ α) :=
  isStable_lift (throw failure)

lemma IsStable.bind {step : Within ρ σ α} {next : α → Within ρ σ β} (h : IsStable step)
    (hnext : ∀ value, IsStable (next value)) : IsStable (step >>= next) := by
  intro room more hle state
  simp only [ReaderT.run_bind, StateT.run_bind]
  rcases h hle state with hdeep | hsame
  · exact .inl (by rw [hdeep]; rfl)
  · rw [hsame]
    cases (step.run room).run state with
    | error failure => exact .inr rfl
    | ok yielded => exact hnext yielded.1 hle yielded.2

lemma IsStable.lift_bind {step : StateT σ (Except Failure) α} {next : α → Within ρ σ β}
    (hnext : ∀ value, IsStable (next value)) : IsStable (liftM step >>= next) :=
  (isStable_lift step).bind hnext

/-- A step that looks at its room, and goes on with an outcome that more room leaves as it is. -/
lemma IsStable.read_bind {outcome : ρ → Except Failure α} {next : α → Within ρ σ β}
    (h : ∀ ⦃room more⦄, room ≤ more → outcome room = .error .tooDeep ∨ outcome more = outcome room)
    (hnext : ∀ value, IsStable (next value)) :
    IsStable (do next (← outcome (← read)) : Within ρ σ β) := by
  intro room more hle state
  have hrun : ∀ given : ρ, ((do next (← outcome (← read)) : Within ρ σ β).run given).run state =
      outcome given >>= fun value => ((next value).run given).run state := fun given => by
    show (liftM (outcome given) >>= fun value => (next value).run given : StateT σ _ _).run state = _
    cases outcome given <;> rfl
  rw [hrun, hrun]
  rcases h hle with hdeep | hsame
  · exact .inl (by rw [hdeep]; rfl)
  · rw [hsame]
    cases outcome room with
    | error failure => exact .inr rfl
    | ok value => exact hnext value hle state

lemma IsStable.ite {condition : Prop} [Decidable condition] {step other : Within ρ σ α}
    (h : IsStable step) (hother : IsStable other) :
    IsStable (if condition then step else other) := by
  split
  · exact h
  · exact hother

lemma IsStable.mapM {items : List α} {step : α → Within ρ σ β} (h : ∀ item, IsStable (step item)) :
    IsStable (items.mapM step) := by
  induction items with
  | nil => exact isStable_pure []
  | cons item rest ih =>
    rw [List.mapM_cons]
    exact (h item).bind fun _ => ih.bind fun _ => isStable_pure _

end

lemma IsStable.deeper {σ α : Type} {step : Within Nat σ α} (h : IsStable step) :
    IsStable (deeper step) := by
  intro room more hle state
  cases room with
  | zero => exact .inl rfl
  | succ room =>
    cases more with
    | zero => exact absurd hle (Nat.not_succ_le_zero room)
    | succ more => exact h (Nat.le_of_succ_le_succ hle) state

/-! ## Reading nodes -/

lemma IsStable.collectionNode {α : Type} {standard : Tag} {content : List α → Content}
    {anchor tag : Option String} {read : Compose (List α)} (h : IsStable read) :
    IsStable (collectionNode standard content anchor tag read) :=
  .lift_bind fun _ => .lift_bind fun _ => h.bind fun _ => .lift_bind fun _ => isStable_pure _

lemma isStable_emptyNode : IsStable emptyNode :=
  (isStable_lift _).deeper

lemma IsStable.nodeUnless {ends : List Token} {read : Compose Place} (h : IsStable read) :
    IsStable (nodeUnless ends read) :=
  .lift_bind fun _ => .ite isStable_emptyNode h

/-- The functions that read nodes are stable for the given bound. -/
structure ReadersStable (fuel : Nat) : Prop where
  node : ∀ block compact, IsStable (node fuel block compact)
  content : ∀ block compact anchor tag, IsStable (content fuel block compact anchor tag)
  blockItems : IsStable (blockItems fuel)
  compactItems : IsStable (compactItems fuel)
  blockEntries : IsStable (blockEntries fuel)
  blockPart : ∀ indicator, IsStable (blockPart fuel indicator)
  flowItems : ∀ first, IsStable (flowItems fuel first)
  flowPair : IsStable (flowPair fuel)
  flowEntries : ∀ first, IsStable (flowEntries fuel first)
  flowPart : ∀ indicator ending, IsStable (flowPart fuel indicator ending)

namespace ReadersStable

variable {fuel : Nat} (h : ReadersStable fuel)
include h

lemma node_succ (block compact : Bool) : IsStable (Yaml.node (fuel + 1) block compact) := by
  unfold Yaml.node
  refine IsStable.deeper (.lift_bind fun token => ?_)
  split
  · exact .lift_bind fun _ => isStable_lift _
  · exact .lift_bind fun _ => h.content ..

lemma content_succ (block compact : Bool) (anchor tag : Option String) :
    IsStable (Yaml.content (fuel + 1) block compact anchor tag) := by
  unfold Yaml.content
  refine .lift_bind fun token => ?_
  split
  · exact .ite h.compactItems.collectionNode (isStable_lift _)
  · exact .lift_bind fun _ => isStable_lift _
  · exact IsStable.collectionNode (.lift_bind fun _ => h.flowItems true)
  · exact IsStable.collectionNode (.lift_bind fun _ => h.flowEntries true)
  · exact .ite (IsStable.collectionNode (.lift_bind fun _ => h.blockItems)) (isStable_lift _)
  · exact .ite (IsStable.collectionNode (.lift_bind fun _ => h.blockEntries)) (isStable_lift _)
  · exact isStable_lift _

lemma blockItems_succ : IsStable (Yaml.blockItems (fuel + 1)) := by
  unfold Yaml.blockItems
  refine .lift_bind fun follows => .ite (.lift_bind fun _ => ?_) (.lift_bind fun _ => ?_)
  · exact (h.node true false).nodeUnless.bind fun _ => h.blockItems.bind fun _ => isStable_pure _
  · exact isStable_pure []

lemma compactItems_succ : IsStable (Yaml.compactItems (fuel + 1)) := by
  unfold Yaml.compactItems
  refine .lift_bind fun follows => .ite (.lift_bind fun _ => ?_) (isStable_pure [])
  exact (h.node true false).nodeUnless.bind fun _ => h.compactItems.bind fun _ => isStable_pure _

lemma blockEntries_succ : IsStable (Yaml.blockEntries (fuel + 1)) := by
  unfold Yaml.blockEntries
  refine .lift_bind fun ends => .ite (.lift_bind fun _ => isStable_pure []) ?_
  refine .lift_bind fun follows => .ite ?_ (isStable_lift _)
  exact (h.blockPart .key).bind fun _ => (h.blockPart .value).bind fun _ =>
    h.blockEntries.bind fun _ => isStable_pure _

lemma blockPart_succ (indicator : Token) : IsStable (Yaml.blockPart (fuel + 1) indicator) := by
  unfold Yaml.blockPart
  refine .lift_bind fun follows => .ite (.lift_bind fun _ => ?_) isStable_emptyNode
  exact (h.node true true).nodeUnless

lemma flowItems_succ (first : Bool) : IsStable (Yaml.flowItems (fuel + 1) first) := by
  unfold Yaml.flowItems
  refine .lift_bind fun ends => .ite (.lift_bind fun _ => isStable_pure []) ?_
  refine .lift_bind fun _ => .lift_bind fun follows => .ite ?_ ?_
  · exact h.flowPair.deeper.bind fun _ => (h.flowItems false).bind fun _ => isStable_pure _
  · refine .lift_bind fun ends => .ite (.lift_bind fun _ => isStable_pure []) ?_
    exact (h.node false false).bind fun _ => (h.flowItems false).bind fun _ => isStable_pure _

lemma flowPair_succ : IsStable (Yaml.flowPair (fuel + 1)) := by
  unfold Yaml.flowPair
  refine .lift_bind fun pair => (h.flowPart .key .flowSequenceEnd).bind fun _ => ?_
  exact (h.flowPart .value .flowSequenceEnd).bind fun _ => .lift_bind fun _ => isStable_pure pair

lemma flowEntries_succ (first : Bool) : IsStable (Yaml.flowEntries (fuel + 1) first) := by
  unfold Yaml.flowEntries
  refine .lift_bind fun ends => .ite (.lift_bind fun _ => isStable_pure []) ?_
  refine .lift_bind fun _ => .lift_bind fun follows => .ite ?_ ?_
  · exact (h.flowPart .key .flowMappingEnd).bind fun _ =>
      (h.flowPart .value .flowMappingEnd).bind fun _ =>
        (h.flowEntries false).bind fun _ => isStable_pure _
  · refine .lift_bind fun ends => .ite (.lift_bind fun _ => isStable_pure []) ?_
    exact (h.node false false).bind fun _ => isStable_emptyNode.bind fun _ =>
      (h.flowEntries false).bind fun _ => isStable_pure _

lemma flowPart_succ (indicator ending : Token) :
    IsStable (Yaml.flowPart (fuel + 1) indicator ending) := by
  unfold Yaml.flowPart
  refine .lift_bind fun follows => .ite (.lift_bind fun _ => ?_) isStable_emptyNode
  exact (h.node false false).nodeUnless

end ReadersStable

lemma readersStable (fuel : Nat) : ReadersStable fuel := by
  induction fuel with
  | zero => constructor <;> intros <;> exact isStable_lift Step.malformed
  | succ fuel ih =>
    exact ⟨ih.node_succ, ih.content_succ, ih.blockItems_succ, ih.compactItems_succ,
      ih.blockEntries_succ, ih.blockPart_succ, ih.flowItems_succ, ih.flowPair_succ,
      ih.flowEntries_succ, ih.flowPart_succ⟩

lemma isStable_announcedRoot (fuel : Nat) : IsStable (announcedRoot fuel) := by
  unfold announcedRoot
  refine .lift_bind fun handles => .lift_bind fun _ => (isStable_modify _).bind fun _ => ?_
  exact .lift_bind fun _ => .ite isStable_emptyNode ((readersStable fuel).node true false)

lemma isStable_onlyDocument? (fuel : Nat) : IsStable (onlyDocument? fuel) := by
  unfold onlyDocument?
  have hannounced := isStable_announcedRoot fuel
  refine .lift_bind fun token => ?_
  split
  · exact isStable_pure none
  · exact hannounced.bind fun _ => .lift_bind fun _ => isStable_pure _
  · exact hannounced.bind fun _ => .lift_bind fun _ => isStable_pure _
  · exact ((readersStable fuel).node true false).bind fun _ => .lift_bind fun _ => isStable_pure _

/-! ## Completing mappings -/

/-- The functions that complete mappings are stable for the given bound. -/
structure CompletersStable (fuel : Nat) : Prop where
  complete : ∀ place, IsStable (complete fuel place)
  takeOver : ∀ place, IsStable (takeOver fuel place)
  offer : ∀ source, IsStable (offer fuel source)
  offerMapping : ∀ source, IsStable (offerMapping fuel source)

namespace CompletersStable

variable {fuel : Nat} (h : CompletersStable fuel)
include h

lemma complete_succ (place : Place) : IsStable (Yaml.complete (fuel + 1) place) := by
  unfold Yaml.complete
  exact IsStable.deeper ((h.takeOver place).bind fun _ => isStable_modify _)

lemma takeOver_succ (place : Place) : IsStable (Yaml.takeOver (fuel + 1) place) := by
  unfold Yaml.takeOver
  refine isStable_get.bind fun graph => ?_
  split
  · exact isStable_pure []
  · exact (isStable_set _).bind fun _ => (h.offer _).bind fun _ =>
      (h.takeOver place).bind fun _ => isStable_pure _

lemma offer_succ (source : Place) : IsStable (Yaml.offer (fuel + 1) source) := by
  unfold Yaml.offer
  refine isStable_get.bind fun graph => ?_
  split
  · exact isStable_throw .malformed
  · exact h.offerMapping source
  · exact (IsStable.mapM h.offerMapping).bind fun _ => isStable_pure _

lemma offerMapping_succ (source : Place) : IsStable (Yaml.offerMapping (fuel + 1) source) := by
  unfold Yaml.offerMapping
  refine isStable_get.bind fun graph => ?_
  split
  · exact (h.complete source).bind fun _ => isStable_get.bind fun _ => isStable_pure _
  · exact isStable_throw .malformed

end CompletersStable

lemma completersStable (fuel : Nat) : CompletersStable fuel := by
  induction fuel with
  | zero =>
    have hthrow : ∀ α, IsStable (throw .malformed : Completing α) := fun _ =>
      isStable_throw .malformed
    exact ⟨fun _ => hthrow _, fun _ => hthrow _, fun _ => hthrow _, fun _ => hthrow _⟩
  | succ fuel ih =>
    exact ⟨ih.complete_succ, ih.takeOver_succ, ih.offer_succ, ih.offerMapping_succ⟩

/-! ## Building data -/

/-- A text that was found is found with more room. -/
lemma scalarText_of_le {graph : Graph} {room more : Nat} (h : room ≤ more) (place : Place) :
    scalarText graph room place = .error .tooDeep ∨
      scalarText graph more place = scalarText graph room place := by
  induction room generalizing more place with
  | zero => exact .inl rfl
  | succ room ih =>
    cases more with
    | zero => exact absurd h (Nat.not_succ_le_zero room)
    | succ more =>
      unfold scalarText
      split
      · exact .inr rfl
      · exact .inr rfl
      · split
        · exact ih (Nat.le_of_succ_le_succ h) _
        · exact .inr rfl

lemma scalarAt_of_le {graph : Graph} {room more : Nat} (h : room ≤ more) (place : Place) :
    scalarAt graph room place = .error .tooDeep ∨
      scalarAt graph more place = scalarAt graph room place := by
  unfold scalarAt
  dsimp only
  split
  · exact .inr rfl
  · rcases scalarText_of_le h place with hdeep | hsame
    · exact .inl (by rw [hdeep]; rfl)
    · exact .inr (by rw [hsame])

namespace Build

lemma isStable_newValue (graph : Graph) (place : Place) : IsStable (newValue graph place) := by
  unfold newValue
  exact .ite (isStable_pure _) (.read_bind (fun _ _ hle => scalarAt_of_le hle.2.2 place)
    fun _ => isStable_pure _)

lemma isStable_completed (graph : Graph) (bound : Nat) (place : Place) :
    IsStable (completed graph bound place) := by
  have hcomplete := (completersStable bound).complete place
  exact .read_bind (fun _ _ hle => hcomplete hle.2.1 graph) fun _ => isStable_pure _

lemma isStable_visit (place : Place) : IsStable (visit place) := by
  unfold visit
  refine isStable_get.bind fun builder => ?_
  split
  · exact isStable_pure _
  · exact (isStable_newValue _ place).bind fun _ => (isStable_set _).bind fun _ => isStable_pure _

lemma isStable_visitKey (place : Place) : IsStable (visitKey place) := by
  unfold visitKey
  refine (isStable_visit place).bind fun value => ?_
  split
  · exact isStable_pure _
  · exact isStable_throw .malformed

lemma isStable_visitEntries (place : Place) : IsStable (visitEntries place) := by
  unfold visitEntries
  refine isStable_get.bind fun builder => (isStable_completed ..).bind fun graph => ?_
  refine (isStable_set _).bind fun _ => IsStable.bind (.mapM fun entry => ?_) fun _ =>
    isStable_pure _
  exact (isStable_visitKey entry.1).bind fun _ => (isStable_visit entry.2).bind fun _ =>
    isStable_pure _

lemma isStable_visitPair (place : Place) : IsStable (visitPair place) := by
  unfold visitPair
  refine isStable_get.bind fun builder => ?_
  split
  · exact (isStable_visit _).bind fun _ => (isStable_visit _).bind fun _ => isStable_pure _
  · exact isStable_throw .malformed

lemma isStable_fill (place : Place) : IsStable (fill place) := by
  unfold fill
  refine isStable_get.bind fun builder => ?_
  have hentries := isStable_visitEntries place
  dsimp only
  split
  · exact (IsStable.mapM isStable_visit).bind fun _ => isStable_pure _
  · exact hentries.bind fun _ => isStable_pure _
  · exact hentries.bind fun _ => isStable_pure _
  · exact (IsStable.mapM isStable_visitPair).bind fun _ => isStable_pure _
  · exact (IsStable.mapM isStable_visitPair).bind fun _ => isStable_pure _
  · exact isStable_throw .malformed

lemma isStable_fillFrom (fuel filled : Nat) : IsStable (fillFrom fuel filled) := by
  induction fuel generalizing filled with
  | zero => exact isStable_throw .malformed
  | succ fuel ih =>
    unfold fillFrom
    refine isStable_get.bind fun builder => ?_
    split
    · exact isStable_pure []
    · exact (isStable_fill _).bind fun _ => (ih (filled + 1)).bind fun _ => isStable_pure _

lemma isStable_all (document : Document) : IsStable (all document) :=
  (isStable_visit _).bind fun _ => (isStable_fillFrom ..).bind fun _ => isStable_pure _

end Build

/-! ## Loading -/

section

variable {room more : Room} (h : room ≤ more)
include h

lemma ofText?_of_le (text : String) : Document.ofText? room.nodes text = .error .tooDeep ∨
    Document.ofText? more.nodes text = Document.ofText? room.nodes text := by
  unfold Document.ofText?
  dsimp only
  rcases isStable_onlyDocument? _ h.1 _ with hdeep | hsame
  · exact .inl (by rw [hdeep]; rfl)
  · exact .inr (by rw [hsame])

lemma data_of_le (document : Document) : document.data room = .error .tooDeep ∨
    document.data more = document.data room := by
  unfold Document.data
  dsimp only
  rcases Build.isStable_all document h _ with hdeep | hsame
  · exact .inl (by rw [hdeep]; rfl)
  · exact .inr (by rw [hsame])

/-- **Room decides nothing but how deep a text may be.** -/
theorem load_of_le (text : String) :
    load room text = .error .tooDeep ∨ load more text = load room text := by
  unfold load
  rcases ofText?_of_le h text with hdeep | hsame
  · exact .inl (by rw [hdeep]; rfl)
  · rw [hsame]
    cases Document.ofText? room.nodes text with
    | error failure => exact .inr rfl
    | ok document? =>
      cases document? with
      | none => exact .inr rfl
      | some document => exact data_of_le h document

end

/-- Three sequences within each other need room for three. -/
example : (load ⟨2, 1, 1⟩ "[[[]]]", (load ⟨3, 1, 1⟩ "[[[]]]").toBool) =
    (.error .tooDeep, true) := by
  decide +kernel

end Claw.Yaml
