/-
DoubleEntry/Proofs/Outcome.lean

Outcomes told in full.  A check is described by what it accepts and by what it
refuses and why.  Where the check keeps to both descriptions and one of them
always applies, each says exactly when it ends in its way (`eq_ok_iff`,
`eq_error_iff`).
-/

namespace DoubleEntry

variable {ε α : Type} {r : Except ε α} {Accepts : α → Prop} {Refuses : ε → Prop}

/-- The result keeps to both descriptions, and one of them applies. -/
structure EndsAs (r : Except ε α) (Accepts : α → Prop) (Refuses : ε → Prop) : Prop where
  accepted : ∀ a, Accepts a → r = .ok a
  refused : ∀ e, Refuses e → r = .error e
  total : (∃ a, Accepts a) ∨ ∃ e, Refuses e

namespace EndsAs

theorem eq_ok_iff (h : EndsAs r Accepts Refuses) (a : α) : r = .ok a ↔ Accepts a := by
  refine ⟨fun ha => ?_, h.accepted a⟩
  rcases h.total with ⟨b, hb⟩ | ⟨e, he⟩
  · obtain rfl := Except.ok.inj ((h.accepted b hb).symm.trans ha)
    exact hb
  · cases (h.refused e he).symm.trans ha

theorem eq_error_iff (h : EndsAs r Accepts Refuses) (e : ε) : r = .error e ↔ Refuses e := by
  refine ⟨fun he => ?_, h.refused e⟩
  rcases h.total with ⟨a, ha⟩ | ⟨e', he'⟩
  · cases (h.accepted a ha).symm.trans he
  · obtain rfl := Except.error.inj ((h.refused e' he').symm.trans he)
    exact he'

end EndsAs

end DoubleEntry
