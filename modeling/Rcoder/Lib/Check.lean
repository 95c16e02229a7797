import Rcoder.Lib.Transaction

/-!
# Checks

Programs that refuse their input one condition at a time. `failIf` is the early error return,
`demand` the value that has to be there; both are used in pure checks, over `Except`, and
inside transactions. The lemmas say what a check that passed has established.
-/

namespace Rcoder

variable {ε σ α β : Type} {e : ε} {bad : Prop} [Decidable bad] {o : Option α} {a : α}

/-- Return the error where `bad` holds. -/
def failIf {m : Type → Type} [Monad m] [MonadExcept ε m] (bad : Prop) [Decidable bad] (e : ε) :
    m Unit :=
  if bad then throw e else pure ()

/-- The value of `o`, or the error. -/
def demand {m : Type → Type} [Monad m] [MonadExcept ε m] (o : Option α) (e : ε) : m α :=
  match o with
  | some a => pure a
  | none => throw e

/-- A failed check reported under another error. -/
def mapFailure {ε' : Type} (f : ε → ε') : Except ε α → Except ε' α
  | .ok a => .ok a
  | .error e => .error (f e)

variable {x : Except ε α}

@[simp] theorem mapFailure_eq_ok {ε' : Type} {f : ε → ε'} : mapFailure f x = .ok a ↔ x = .ok a := by
  cases x <;> simp [mapFailure]

namespace Check

variable {b : β}

theorem bind_eq_ok {f : α → Except ε β} : (x >>= f) = .ok b ↔ ∃ a, x = .ok a ∧ f a = .ok b := by
  cases x with
  | ok | error => simp [bind, Except.bind]

theorem map_some_eq_ok : some <$> x = .ok (some a) ↔ x = .ok a := by
  cases x <;> simp

@[simp] theorem failIf_eq_ok {u : Unit} : (failIf bad e : Except ε Unit) = .ok u ↔ ¬bad := by
  by_cases h : bad <;> simp [failIf, pure, Except.pure]

@[simp] theorem demand_eq_ok : (demand o e : Except ε α) = .ok a ↔ o = some a := by
  cases o <;> simp [demand, pure, Except.pure]

variable {f : Unit → Except ε β}

theorem failIf_bind (h : (failIf bad e >>= f) = .ok b) : ¬bad ∧ f () = .ok b := by
  obtain ⟨_, hbad, hf⟩ := bind_eq_ok.mp h
  exact ⟨failIf_eq_ok.mp hbad, hf⟩

theorem failIf_passed (h : ¬bad) : (failIf bad e >>= f) = f () := by
  rw [failIf, if_neg h]
  rfl

theorem failIf_failed (h : bad) : (failIf bad e >>= f) = .error e := by
  rw [failIf, if_pos h]
  rfl

theorem demand_bind {f : α → Except ε β} (h : (demand o e >>= f) = .ok b) :
    ∃ a, o = some a ∧ f a = .ok b := by
  obtain ⟨a, ho, hf⟩ := bind_eq_ok.mp h
  exact ⟨a, demand_eq_ok.mp ho, hf⟩

theorem forM_eq_ok {xs : List α} {f : α → Except ε PUnit} {u : PUnit} :
    xs.forM f = .ok u ↔ ∀ x ∈ xs, f x = .ok () := by
  induction xs with
  | nil => simp [pure, Except.pure]
  | cons x xs ih =>
    change (f x >>= fun _ => xs.forM f) = .ok u ↔ _
    rw [bind_eq_ok, List.forall_mem_cons, ← ih]
    exact ⟨fun ⟨_, hx, hxs⟩ => ⟨hx, hxs⟩, fun ⟨hx, hxs⟩ => ⟨(), hx, hxs⟩⟩

end Check

namespace Effect

variable {s : σ} {Q : β → σ → Prop} {f : α → EStateM ε σ β}

theorem fromExcept_failIf {x : Unit → Except ε α} :
    (fromExcept (failIf bad e >>= x) >>= f : EStateM ε σ β) =
      ensure (¬bad) e >>= fun _ => fromExcept (x ()) >>= f := by
  by_cases h : bad
  · rw [Check.failIf_failed h, ensure, if_neg (not_not.mpr h)]
    rfl
  · rw [Check.failIf_passed h, ensure, if_pos h]
    rfl

theorem Returns.failIf_bind {f : Unit → EStateM ε σ β}
    (hbad : ¬bad) (h : Returns (f ()) s Q) : Returns (failIf bad e >>= f) s Q := by
  rw [failIf, if_neg hbad]
  exact h

theorem Returns.demand_bind
    (ho : o = some a) (h : Returns (f a) s Q) : Returns (demand o e >>= f) s Q := by
  rw [ho]
  exact h

theorem Gives.failIf_bind {f : Unit → EStateM ε σ β}
    (h : ¬bad → Gives (f ()) s Q) : Gives (failIf bad e >>= f) s Q := by
  unfold failIf
  by_cases hb : bad
  · simp only [if_pos hb]
    exact Gives.throw.bind (R := fun _ _ => False) fun _ _ hf => hf.elim
  · simp only [if_neg hb]
    exact h hb

theorem Gives.demand_bind
    (h : ∀ a, o = some a → Gives (f a) s Q) : Gives (demand o e >>= f) s Q := by
  cases o with
  | none => exact Gives.throw.bind (R := fun _ _ => False) fun _ _ hf => hf.elim
  | some a => exact h a rfl

theorem Gives.failIf {Q : Unit → σ → Prop}
    (h : ¬bad → Q () s) : Gives (Rcoder.failIf bad e : EStateM ε σ Unit) s Q :=
  .ite (fun _ => .throw) fun hb => .pure (h hb)

theorem Gives.demand :
    Gives (Rcoder.demand o e : EStateM ε σ α) s fun a s' => s' = s ∧ o = some a := by
  cases o with
  | none => exact .throw
  | some => exact .pure ⟨rfl, rfl⟩

end Effect

end Rcoder
