import Claw.Proofs.Memory

/-!
# Assembling two sources as one

The result of a source that consists of two parts is the result of the first part, followed by the
result of the second moved to the place where the first ends.  The definitions of the first part are
what the directives of the second start from.

The law needs nothing but a closed seam (`Source.IsClosed`): whatever the parts are, comments,
continued lines, escapes and labels on either side stay on their side.  `assemble_append` states it
for an assembler with any settings and any past; `outcome_ofLines_append` is the part of it that
concerns the reader of lines.
-/

namespace Claw

/-- The tokenization of two sources as one, in terms of the tokenizations of the two. -/
lemma Tokenization.outcome_ofLines_append {front : String} (h : Source.IsClosed front.toList)
    (options : Options) (behind file : String) :
    (ofLines options (Source.read (front ++ "\n" ++ behind) file)).outcome =
      (ofLines options (Source.read front file)).outcome.bind fun first =>
        (ofLines options (Source.read behind file)).outcome.map fun second =>
          first ++ second.shift first.lines.length (codeCount first.tokens) := by
  simp only [outcome_ofLines, Source.read_append h, outcome_ofLinesFrom_append]
  cases hfirst : (ofLinesFrom options 0 0 (Source.read front file)).outcome with
  | error fault => rfl
  | ok first =>
    have hlength : first.lines.length = (Source.read front file).length := by
      rw [lines_of_ofLinesFrom hfirst, List.length_map]
    simp only [Except.bind, outcome_ofLinesFrom_shift, hlength]
    cases (ofLinesFrom options 0 0 (Source.read behind file)).outcome <;> rfl

namespace Assembler

/-- **The concatenation law.** Two sources with a closed seam between them fail as one just if one
of them fails, and otherwise give the result of the first followed by that of the second, moved
behind all lines, values and instructions of the first; the directives of the second are applied to
the definitions of the first. -/
theorem assemble_append (assembler : Assembler) (front behind file : String)
    (h : Source.IsClosed front.toList) :
    let whole := assembler.assemble (front ++ "\n" ++ behind) file
    let first := assembler.assemble front file
    let second := assembler.assemble behind file
    ((∃ failure, whole.2.outcome = .error failure) ↔
      (∃ failure, first.2.outcome = .error failure) ∨
        ∃ failure, second.2.outcome = .error failure) ∧
    (∀ result₁ result₂, first.2.outcome = .ok result₁ → second.2.outcome = .ok result₂ →
      whole.2.outcome =
        .ok (result₁ ++ result₂.shift result₁.lines.length (codeCount result₁.tokens))) ∧
    whole.1.definitions =
      Source.applyAll first.1.definitions (Source.directives (Source.read behind file)) := by
  intro whole first second
  have hwhole : whole.2.outcome = first.2.outcome.bind fun result₁ =>
      second.2.outcome.map fun result₂ =>
        result₁ ++ result₂.shift result₁.lines.length (codeCount result₁.tokens) := by
    simp only [whole, first, second, outcome_assemble, Tokenization.outcome_ofLines_append h]
    cases (Tokenization.ofLines assembler.config.toOptions (Source.read front file)).outcome with
    | error fault => rfl
    | ok result₁ =>
      cases (Tokenization.ofLines assembler.config.toOptions
        (Source.read behind file)).outcome <;> rfl
  refine ⟨?_, ?_, ?_⟩
  · rw [hwhole]
    cases first.2.outcome with
    | error failure => simp [Except.bind]
    | ok result₁ => cases second.2.outcome <;> simp [Except.bind, Except.map]
  · intro result₁ result₂ hfirst hsecond
    rw [hwhole, hfirst, hsecond]
    rfl
  · simp only [whole, first, definitions_assemble]
    exact Source.definitions_append h behind file

/-- The law at a seam between a line that is out of order and a comment. -/
theorem assemble_append_comment :
    let assembler := Assembler.new { emitLabels := true } false
    let front := "#define A 1\nX:\n.DB8(1, 300)"
    let behind := "; note\nADD A B\nY:\n#undef A"
    Source.IsClosed front.toList ∧
      (assembler.assemble (front ++ "\n" ++ behind) "").1.definitions =
        Source.applyAll (assembler.assemble front "").1.definitions
          (Source.directives (Source.read behind "")) :=
  ⟨by decide, (assemble_append (Assembler.new { emitLabels := true } false)
    "#define A 1\nX:\n.DB8(1, 300)" "; note\nADD A B\nY:\n#undef A" "" (by decide)).2.2⟩

end Assembler

end Claw
