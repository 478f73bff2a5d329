/-!
# Outcomes side by side

Two computations that can fail, run side by side.  They are alike if they end with the same error or
with the same result, and of the result something is known.  Whatever both go on to do, it is enough
to look at a common error and at a common result.
-/

namespace ApiStubs

variable {ε α : Type}

/-- The same error, or the same result, of which something holds. -/
structure Alike (P : α → Prop) (x y : Except ε α) : Prop where
  eq : x = y
  ok : ∀ {a}, x = .ok a → P a

namespace Alike

variable {P Q : α → Prop} {x y : Except ε α}

theorem refl (h : ∀ {a}, x = .ok a → P a) : Alike P x x := ⟨rfl, h⟩

theorem error (e : ε) : Alike P (.error e) (.error e) := ⟨rfl, nofun⟩

theorem pure {a : α} (h : P a) : Alike P (.ok a : Except ε α) (.ok a) :=
  refl fun hb => Except.ok.inj hb ▸ h

theorem imp (h : Alike P x y) (hPQ : ∀ a, P a → Q a) : Alike Q x y :=
  ⟨h.eq, fun hok => hPQ _ (h.ok hok)⟩

/-- What goes on from alike outcomes goes on from a common error or from a common result. -/
@[elab_as_elim]
theorem elim {motive : Except ε α → Except ε α → Prop} (h : Alike P x y)
    (error : ∀ e, motive (.error e) (.error e)) (ok : ∀ a, P a → motive (.ok a) (.ok a)) :
    motive x y := by
  obtain ⟨rfl, hok⟩ := h
  cases x with
  | error e => exact error e
  | ok a => exact ok a (hok rfl)

end Alike

end ApiStubs
