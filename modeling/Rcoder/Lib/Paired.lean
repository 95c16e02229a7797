import Rcoder.Lib.Transaction

/-!
# Two programs side by side

`Paired R E m s n t` runs `m` from `s` and `n` from `t`: either both return and `R` relates what
they return and leave, or both fail and `E` relates the errors and the state `m` leaves. The rules
take the two texts apart together where they make the same decision, and one at a time where only
one of them has a step to make.
-/

namespace Rcoder.Effect

variable {ε ε' σ τ α β α' β' : Type}

def Paired (R : α → σ → β → τ → Prop) (E : ε → σ → ε' → Prop) (m : EStateM ε σ α) (s : σ)
    (n : EStateM ε' τ β) (t : τ) : Prop :=
  (∃ a s' b t', m s = .ok a s' ∧ n t = .ok b t' ∧ R a s' b t') ∨
    ∃ e s' e' t', m s = .error e s' ∧ n t = .error e' t' ∧ E e s' e'

section Failing

variable {m : EStateM ε σ α} {f : α → EStateM ε σ β} {s s' : σ} {e : ε}

theorem ensure_fails {c : Prop} [Decidable c] {f : Unit → EStateM ε σ β} (hc : ¬c) :
    (ensure c e >>= f) s = .error e s := by
  rw [ensure, if_neg hc]
  rfl

theorem require_fails {o : Option α} (ho : o = none) : (require o e >>= f) s = .error e s := by
  rw [ho]
  rfl

theorem fromExcept_fails {x : Except ε α} (hx : x = .error e) :
    (fromExcept x >>= f) s = .error e s := by
  rw [hx]
  rfl

end Failing

namespace Paired

variable {R : α → σ → β → τ → Prop} {E : ε → σ → ε' → Prop} {m : EStateM ε σ α}
  {n : EStateM ε' τ β} {s s' : σ} {t t' : τ}

theorem pure {a : α} {b : β} (h : R a s b t) :
    Paired R E (pure a : EStateM ε σ α) s (pure b : EStateM ε' τ β) t :=
  .inl ⟨a, s, b, t, rfl, rfl, h⟩

theorem fails {e : ε} {e' : ε'} (hm : m s = .error e s') (hn : n t = .error e' t')
    (h : E e s' e') : Paired R E m s n t := .inr ⟨e, s', e', t', hm, hn, h⟩

theorem right {n : EStateM ε' τ β'} {g : β' → EStateM ε' τ β} {b : β'} (hn : n t = .ok b t')
    (h : Paired R E m s (g b) t') : Paired R E m s (n >>= g) t := by
  unfold Paired at h ⊢
  rwa [bind_of_ok hn]

theorem left {m : EStateM ε σ α'} {f : α' → EStateM ε σ α} {a : α'} (hm : m s = .ok a s')
    (h : Paired R E (f a) s' n t) : Paired R E (m >>= f) s n t := by
  unfold Paired at h ⊢
  rwa [bind_of_ok hm]

theorem getLeft {f : σ → EStateM ε σ α} (h : Paired R E (f s) s n t) :
    Paired R E (get >>= f) s n t := left get_run h

variable {f : Unit → EStateM ε σ α} {g : Unit → EStateM ε' τ β} {c c' : Prop} [Decidable c]
  [Decidable c'] {e : ε} {e' : ε'}

theorem ensure_bind (hc : c ↔ c') (hE : E e s e') (h : c → Paired R E (f ()) s (g ()) t) :
    Paired R E (ensure c e >>= f) s (ensure c' e' >>= g) t := by
  by_cases hcase : c
  · exact left (ensure_run hcase) (right (ensure_run (hc.mp hcase)) (h hcase))
  · exact fails (ensure_fails hcase) (ensure_fails fun h => hcase (hc.mpr h)) hE

theorem ensureRight (hc : c') (h : Paired R E m s (g ()) t) :
    Paired R E m s (ensure c' e' >>= g) t := right (ensure_run hc) h

theorem ite {m' : EStateM ε σ α} {n' : EStateM ε' τ β} (hc : c ↔ c')
    (ht : c → Paired R E m s n t) (hf : ¬c → Paired R E m' s n' t) :
    Paired R E (if c then m else m') s (if c' then n else n') t := by
  by_cases hcase : c
  · rw [if_pos hcase, if_pos (hc.mp hcase)]
    exact ht hcase
  · rw [if_neg hcase, if_neg fun h => hcase (hc.mpr h)]
    exact hf hcase

end Paired

end Rcoder.Effect
