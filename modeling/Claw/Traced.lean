/-!
# Outcomes with a trace

A `Traced ε α` is an outcome, a value or a failure, together with the lines that were reported on
the way to it.  A failure ends what follows it and keeps the lines reported before it.

Reports are always made; whether they are shown is the concern of whoever runs the work.
-/

namespace Claw

/-- An outcome and the lines reported on the way to it. -/
structure Traced (ε α : Type) where
  reported : List String
  outcome : Except ε α

namespace Traced

variable {ε ε' α β : Type}

/-- Goes on with the value of an outcome, behind what was reported so far. -/
def bind (x : Traced ε α) (next : α → Traced ε β) : Traced ε β :=
  match x.outcome with
  | .ok a => ⟨x.reported ++ (next a).reported, (next a).outcome⟩
  | .error e => ⟨x.reported, .error e⟩

instance : Monad (Traced ε) where
  pure a := ⟨[], .ok a⟩
  bind := bind

/-- Reports lines. -/
def report (rows : List String) : Traced ε Unit :=
  ⟨rows, .ok ()⟩

/-- An outcome with nothing reported. -/
def ofExcept (outcome : Except ε α) : Traced ε α :=
  ⟨[], outcome⟩

/-- The same trace, with a failure seen as one of another kind. -/
def mapError (f : ε → ε') (x : Traced ε α) : Traced ε' α :=
  ⟨x.reported, x.outcome.mapError f⟩

@[simp] theorem outcome_pure (a : α) : (pure a : Traced ε α).outcome = .ok a := rfl

@[simp] theorem outcome_bind (x : Traced ε α) (next : α → Traced ε β) :
    (x >>= next).outcome = x.outcome.bind fun a => (next a).outcome := by
  show (Traced.bind x next).outcome = _
  unfold Traced.bind
  cases h : x.outcome <;> rfl

@[simp] theorem outcome_report (rows : List String) :
    (report rows : Traced ε Unit).outcome = .ok () := rfl

@[simp] theorem outcome_ofExcept (outcome : Except ε α) :
    (ofExcept outcome).outcome = outcome := rfl

@[simp] theorem outcome_mapError (f : ε → ε') (x : Traced ε α) :
    (x.mapError f).outcome = x.outcome.mapError f := rfl

end Traced

end Claw
