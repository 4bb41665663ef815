import Claw.Yaml.Load
import Mathlib.Data.List.Nodup
import Mathlib.Tactic.Common

/-!
# The keys of a loaded mapping

However often a key comes up in a text, and from wherever a mapping takes over entries with it, the
mapping that is loaded has one entry for it.  Entries are put together by `putEntry` alone, which
keeps keys distinct, so this holds of every collection that is filled (`hasDistinctKeys_of_fill`) and
then of all data that a text gives (`hasDistinctKeys_of_load`).

Consumed by `Claw/Proofs/Configuration.lean`.
-/

namespace Claw.Yaml

/-- The collection, if it is a mapping, has one entry for each of its keys. -/
def Collection.HasDistinctKeys : Collection → Prop
  | .mapping entries => (entries.map Prod.fst).Nodup
  | _ => True

/-! ## Entries -/

lemma mem_keys_putEntry {key other : Scalar} {value : Value} {entries : List (Scalar × Value)} :
    other ∈ (putEntry key value entries).map Prod.fst ↔
      other = key ∨ other ∈ entries.map Prod.fst := by
  induction entries with
  | nil => simp [putEntry]
  | cons entry rest ih =>
    rw [putEntry]
    split
    · next hkey => simp [hkey]
    · rw [List.map_cons, List.mem_cons, ih, List.map_cons, List.mem_cons]
      tauto

/-- A new value does not bring a key up twice. -/
lemma nodup_keys_putEntry {key : Scalar} {value : Value} {entries : List (Scalar × Value)}
    (h : (entries.map Prod.fst).Nodup) : ((putEntry key value entries).map Prod.fst).Nodup := by
  induction entries with
  | nil => simp [putEntry]
  | cons entry rest ih =>
    rw [List.map_cons, List.nodup_cons] at h
    rw [putEntry]
    split
    · next hkey => simpa [hkey] using h
    · next hkey =>
      rw [List.map_cons, List.nodup_cons, mem_keys_putEntry, not_or]
      exact ⟨⟨hkey, h.1⟩, ih h.2⟩

lemma nodup_keys_ofPairs (pairs : List (Scalar × Value)) :
    ((ofPairs pairs).map Prod.fst).Nodup := by
  have hfold : ∀ entries : List (Scalar × Value), (entries.map Prod.fst).Nodup →
      ((pairs.foldl (fun entries pair => putEntry pair.1 pair.2 entries) entries).map
        Prod.fst).Nodup := by
    induction pairs with
    | nil => exact fun entries h => h
    | cons pair rest ih => exact fun entries h => ih _ (nodup_keys_putEntry h)
  exact hfold [] List.nodup_nil

/-! ## Building -/

namespace Build

variable {α β : Type} {room : Room}

lemma bind_eq_ok_iff {first : Build α} {next : α → Build β} {builder : Builder}
    {outcome : β × Builder} :
    ((first >>= next).run room).run builder = .ok outcome ↔
      ∃ value between, (first.run room).run builder = .ok (value, between) ∧
        ((next value).run room).run between = .ok outcome := by
  rw [ReaderT.run_bind, StateT.run_bind]
  cases (first.run room).run builder with
  | error failure => simp [bind, Except.bind]
  | ok yielded =>
    obtain ⟨value, between⟩ := yielded
    simp [bind, Except.bind]

lemma pure_eq_ok_iff {value : α} {builder : Builder} {outcome : α × Builder} :
    ((pure value : Build α).run room).run builder = .ok outcome ↔ outcome = (value, builder) := by
  rw [ReaderT.run_pure, StateT.run_pure]
  exact ⟨fun h => (Except.ok.inj h).symm, fun h => h ▸ rfl⟩

lemma nodup_keys_of_visitEntries {place : Place} {builder after : Builder}
    {entries : List (Scalar × Value)}
    (h : ((visitEntries place).run room).run builder = .ok (entries, after)) :
    (entries.map Prod.fst).Nodup := by
  unfold visitEntries at h
  obtain ⟨current, _, -, h⟩ := bind_eq_ok_iff.mp h
  obtain ⟨graph, _, -, h⟩ := bind_eq_ok_iff.mp h
  obtain ⟨⟨⟩, _, -, h⟩ := bind_eq_ok_iff.mp h
  obtain ⟨pairs, _, -, h⟩ := bind_eq_ok_iff.mp h
  obtain ⟨rfl, -⟩ := Prod.mk.inj (pure_eq_ok_iff.mp h)
  exact nodup_keys_ofPairs pairs

lemma hasDistinctKeys_of_fill {place : Place} {builder after : Builder} {collection : Collection}
    (h : ((fill place).run room).run builder = .ok (collection, after)) :
    collection.HasDistinctKeys := by
  unfold fill at h
  obtain ⟨current, _, -, h⟩ := bind_eq_ok_iff.mp h
  dsimp only at h
  split at h
  -- of the collections that are filled, only a mapping has keys
  case h_2 =>
    obtain ⟨entries, _, hentries, h⟩ := bind_eq_ok_iff.mp h
    obtain ⟨rfl, -⟩ := Prod.mk.inj (pure_eq_ok_iff.mp h)
    exact nodup_keys_of_visitEntries hentries
  case h_6 => cases h
  all_goals
    obtain ⟨_, _, -, h⟩ := bind_eq_ok_iff.mp h
    obtain ⟨rfl, -⟩ := Prod.mk.inj (pure_eq_ok_iff.mp h)
    exact trivial

lemma hasDistinctKeys_of_fillFrom {fuel filled : Nat} {builder after : Builder}
    {collections : List (Place × Collection)}
    (h : ((fillFrom fuel filled).run room).run builder = .ok (collections, after)) :
    ∀ entry ∈ collections, entry.2.HasDistinctKeys := by
  induction fuel generalizing filled builder after collections with
  | zero => cases h
  | succ fuel ih =>
    rw [fillFrom] at h
    obtain ⟨current, _, -, h⟩ := bind_eq_ok_iff.mp h
    split at h
    · obtain ⟨rfl, -⟩ := Prod.mk.inj (pure_eq_ok_iff.mp h)
      simp
    · obtain ⟨collection, _, hfill, h⟩ := bind_eq_ok_iff.mp h
      obtain ⟨rest, _, hrest, h⟩ := bind_eq_ok_iff.mp h
      obtain ⟨rfl, -⟩ := Prod.mk.inj (pure_eq_ok_iff.mp h)
      exact List.forall_mem_cons.mpr ⟨hasDistinctKeys_of_fill hfill, ih hrest⟩

end Build

/-! ## Loading -/

variable {room : Room}

lemma hasDistinctKeys_of_data {document : Document} {data : Data}
    (h : document.data room = .ok data) : ∀ entry ∈ data.collections, entry.2.HasDistinctKeys := by
  unfold Document.data at h
  dsimp only at h
  generalize Builder.mk _ _ _ _ = builder at h
  cases hrun : ((Build.all document).run room).run builder with
  | error failure =>
    rw [hrun] at h
    cases h
  | ok yielded =>
    obtain ⟨all, after⟩ := yielded
    rw [hrun] at h
    obtain rfl := Except.ok.inj h
    obtain ⟨root, _, -, hrun⟩ := Build.bind_eq_ok_iff.mp hrun
    obtain ⟨collections, _, hcollections, hrun⟩ := Build.bind_eq_ok_iff.mp hrun
    obtain ⟨rfl, -⟩ := Prod.mk.inj (Build.pure_eq_ok_iff.mp hrun)
    exact Build.hasDistinctKeys_of_fillFrom hcollections

/-- **A mapping that is loaded has one entry for each of its keys.** -/
lemma hasDistinctKeys_of_load {text : String} {data : Data} (h : load room text = .ok data)
    {value : Value} {collection : Collection} (hvalue : data.collection? value = some collection) :
    collection.HasDistinctKeys := by
  have hall : ∀ entry ∈ data.collections, entry.2.HasDistinctKeys := by
    unfold load at h
    cases hdocument : Document.ofText? room.nodes text with
    | error failure =>
      rw [hdocument] at h
      cases h
    | ok document? =>
      rw [hdocument] at h
      cases document? with
      | none =>
        obtain rfl := Except.ok.inj h
        simp [Data.ofScalar]
      | some document => exact hasDistinctKeys_of_data h
  cases value with
  | scalar _ => cases hvalue
  | collection place =>
    obtain ⟨front, behind, hcollections, -⟩ := List.lookup_eq_some_iff.mp hvalue
    exact hall (place, collection) (by simp [hcollections])

end Claw.Yaml
