import Claw.Proofs.Text.Lines
import Claw.Proofs.Text.Margin
import Claw.Source.Statement
import Claw.Token.Reader

/-!
# Value lists that are put together

Texts with a comma and a space between each two are a value list, and the fields of the list are the
texts, as long as none of them has a margin or a comma (`IsField`).

* `fields_intercalate`: the fields of such a list;
* `isValueChar_of_mem_intercalate`: the characters of such a list;
* `valueTokens_map`: what a list of literals yields when none of them is at fault.

Consumers: `Claw/Proofs/Program/RoundTrip.lean` for lists of integers, `Claw/Proofs/Singles.lean` for
lists of singles, and `Claw/Proofs/Overlong.lean`.
-/

namespace Claw

open Source (Line)

/-- A text that a value list gives back as it is. -/
structure IsField (text : String) : Prop where
  ne_empty : text ≠ ""
  no_comma : ',' ∉ text.toList
  trim_eq : Text.trim text.toList = text.toList

lemma intercalate_cons_cons (first second : String) (rest : List String) :
    (", ".intercalate (first :: second :: rest)).toList =
      first.toList ++ ',' :: ' ' :: (", ".intercalate (second :: rest)).toList := by
  simp

/-- A blank at the head of a text is in the margin of its first piece. -/
lemma map_trim_pieces_blank {separator c : Char} (hc : Text.isBlank c = true) (hne : c ≠ separator)
    (cs : List Char) :
    (Text.pieces separator (c :: cs)).map Text.trim = (Text.pieces separator cs).map Text.trim := by
  obtain ⟨first, rest, hpieces, hcons⟩ := Text.exists_pieces_cons separator cs
  rw [hcons c hne, hpieces, List.map_cons, List.map_cons, Text.trim_cons hc]

/-- The pieces of a list are the texts, up to the blanks behind the commas. -/
lemma map_trim_pieces_intercalate {texts : List String} (hne : texts ≠ [])
    (h : ∀ text ∈ texts, IsField text) :
    (Text.pieces ',' (", ".intercalate texts).toList).map Text.trim = texts.map String.toList := by
  induction texts with
  | nil => contradiction
  | cons first rest ih =>
    obtain ⟨hfirst, hrest⟩ := List.forall_mem_cons.mp h
    have hpieces := Text.pieces_eq_singleton hfirst.no_comma
    cases rest with
    | nil =>
      rw [String.intercalate_singleton, hpieces, List.map_singleton, hfirst.trim_eq,
        List.map_singleton]
    | cons second rest =>
      rw [intercalate_cons_cons, Text.pieces_append, hpieces, List.map_append, List.map_singleton,
        hfirst.trim_eq, map_trim_pieces_blank rfl (by decide), ih (List.cons_ne_nil _ _) hrest]
      rfl

/-- **The fields of a list** are the texts that it was put together from. -/
lemma fields_intercalate {texts : List String} (h : ∀ text ∈ texts, IsField text) :
    fields (", ".intercalate texts) = texts := by
  by_cases hne : texts = []
  · subst hne
    rfl
  rw [fields, map_trim_pieces_intercalate hne h, List.filterMap_map]
  have hkept : ∀ text ∈ texts,
      ((fun field => if field.isEmpty then none else some (String.ofList field)) ∘ String.toList)
        text = some text := by
    intro text htext
    simp [(h text htext).ne_empty]
  rw [List.filterMap_congr hkept, List.filterMap_some]

lemma isValueChar_of_mem_intercalate {texts : List String}
    (h : ∀ text ∈ texts, ∀ c ∈ text.toList, Source.isValueChar c = true) :
    ∀ c ∈ (", ".intercalate texts).toList, Source.isValueChar c = true := by
  induction texts with
  | nil => simp
  | cons first rest ih =>
    obtain ⟨hfirst, hrest⟩ := List.forall_mem_cons.mp h
    cases rest with
    | nil => rwa [String.intercalate_singleton]
    | cons second rest =>
      rw [intercalate_cons_cons, List.forall_mem_append]
      exact ⟨hfirst, List.forall_mem_cons.mpr ⟨rfl, List.forall_mem_cons.mpr ⟨rfl, ih hrest⟩⟩⟩

lemma valueTokens_map {α : Type} (line : Line) {type : DataType} {text : α → String}
    {datum : α → Datum} (h : ∀ listed, literal type (text listed) = .ok (datum listed))
    (listed : List α) :
    valueTokens line type (listed.map text) =
      .ok (listed.map fun one => tokenAt line (.data (datum one)), []) := by
  induction listed with
  | nil => rfl
  | cons first rest ih =>
    rw [List.map_cons, valueTokens, h, ih]
    rfl

end Claw
