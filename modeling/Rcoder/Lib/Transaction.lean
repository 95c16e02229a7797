import Rcoder.Lib.Effect

/-!
# Transactions

A transaction is a program whose writes are kept where it returns and undone where it fails.
`Gives m s Q` says what holds once `m`, started from `s`, has returned; the rules take a
program apart in the order of its text. Nothing is said about a failure, whose state is never
kept.
-/

namespace Rcoder.Effect

variable {ε σ α β : Type} {m : EStateM ε σ α} {s : σ}

/-- Run `m`: commit where it returns, roll back where it fails. -/
def transact (m : EStateM ε σ α) (s : σ) : Except ε α × σ :=
  match m s with
  | .ok a s' => (.ok a, s')
  | .error e _ => (.error e, s)

/-- A query: a value of the state, or a failure. -/
def reads (f : σ → Except ε α) : EStateM ε σ α := fun s =>
  match f s with
  | .ok a => .ok a s
  | .error e => .error e s

/-- Once `m`, started from `s`, has returned, `Q` holds. -/
def Gives (m : EStateM ε σ α) (s : σ) (Q : α → σ → Prop) : Prop :=
  ∀ a s', m s = .ok a s' → Q a s'

theorem Gives.mono {Q Q' : α → σ → Prop} (h : Gives m s Q) (hQ : ∀ a s', Q a s' → Q' a s') :
    Gives m s Q' :=
  fun a s' hm => hQ a s' (h a s' hm)

variable {R : α → σ → Prop} {f : α → EStateM ε σ β} {Q : β → σ → Prop}

theorem Gives.bind (hm : Gives m s R)
    (hf : ∀ a s', R a s' → Gives (f a) s' Q) : Gives (m >>= f) s Q := by
  intro b s'' h
  change EStateM.bind m f s = .ok b s'' at h
  unfold EStateM.bind at h
  cases hr : m s with
  | ok a s' =>
    rw [hr] at h
    exact hf a s' (hm a s' hr) b s'' h
  | error => simp [hr] at h

/-- A program that only reads, and what follows it in the same state. -/
theorem Gives.query_bind {P : α → Prop} (hm : Gives m s fun a s' => s' = s ∧ P a)
    (hf : ∀ a, P a → Gives (f a) s Q) : Gives (m >>= f) s Q :=
  hm.bind fun a _ h => h.1 ▸ hf a h.2

variable {a : α}

theorem bind_of_ok {s' : σ} (h : m s = .ok a s') : (m >>= f) s = f a s' := by
  change EStateM.bind m f s = f a s'
  unfold EStateM.bind
  rw [h]

theorem bind_of_error {s' : σ} (h : m s = .error e s') : (m >>= f) s = .error e s' := by
  change EStateM.bind m f s = .error e s'
  unfold EStateM.bind
  rw [h]

theorem error_of_bind {s' : σ} (h : (m >>= f) s = .error e s') :
    m s = .error e s' ∨ ∃ a s₁, m s = .ok a s₁ ∧ f a s₁ = .error e s' := by
  cases hm : m s with
  | ok a s₁ => exact .inr ⟨a, s₁, rfl, (bind_of_ok hm).symm.trans h⟩
  | error =>
    cases (bind_of_error (f := f) hm).symm.trans h
    exact .inl rfl

theorem Gives.pure {Q : α → σ → Prop} (h : Q a s) : Gives (pure a : EStateM ε σ α) s Q := by
  rintro _ _ ⟨⟩
  exact h

variable {e : ε}

theorem Gives.throw {Q : α → σ → Prop} : Gives (throw e : EStateM ε σ α) s Q := by
  rintro _ _ ⟨⟩

theorem Gives.update {f : σ → σ} {Q : Unit → σ → Prop} (h : Q () (f s)) :
    Gives (modify f : EStateM ε σ Unit) s Q := by
  rintro _ _ ⟨⟩
  exact h

variable {c : Prop}

theorem Gives.ite [Decidable c] {n : EStateM ε σ α} {Q : α → σ → Prop} (ht : c → Gives m s Q)
    (hf : ¬c → Gives n s Q) : Gives (if c then m else n) s Q := by
  split
  · exact ht ‹_›
  · exact hf ‹_›

theorem Gives.reads {f : σ → Except ε α} : Gives (reads f) s fun a s' => s' = s ∧ f s = .ok a := by
  intro a s' h
  unfold Effect.reads at h
  cases hf : f s with
  | ok =>
    rw [hf] at h
    cases h
    exact ⟨rfl, rfl⟩
  | error => simp [hf] at h

theorem Gives.ensure [Decidable c] :
    Gives (ensure c e : EStateM ε σ Unit) s fun _ s' => s' = s ∧ c :=
  .ite (fun hc => .pure ⟨rfl, hc⟩) fun _ => .throw

theorem Gives.require {o : Option α} :
    Gives (require o e : EStateM ε σ α) s fun a s' => s' = s ∧ o = some a := by
  cases o with
  | none => exact .throw
  | some => exact .pure ⟨rfl, rfl⟩

variable {x : Except ε α}

theorem Gives.fromExcept :
    Gives (fromExcept x : EStateM ε σ α) s fun a s' => s' = s ∧ x = .ok a := by
  cases x with
  | ok => exact .pure ⟨rfl, rfl⟩
  | error => exact .throw

theorem Gives.onlyIf [Decidable c] {m : EStateM ε σ Unit} {Q : Unit → σ → Prop}
    (ht : c → Gives m s Q) (hf : ¬c → Q () s) : Gives (onlyIf c m) s Q :=
  .ite ht fun hc => .pure (hf hc)

section Steps

variable {f : α → EStateM ε σ β} {Q : β → σ → Prop}

theorem Gives.get_bind {f : σ → EStateM ε σ β} (h : Gives (f s) s Q) : Gives (get >>= f) s Q :=
  h

theorem Gives.reads_bind {g : σ → Except ε α} (h : ∀ a, g s = .ok a → Gives (f a) s Q) :
    Gives (Effect.reads g >>= f) s Q :=
  Gives.reads.bind fun a s' hs => by
    obtain ⟨rfl, ha⟩ := hs
    exact h a ha

theorem Gives.ensure_bind [Decidable c] {f : Unit → EStateM ε σ β} (h : c → Gives (f ()) s Q) :
    Gives (Effect.ensure c e >>= f) s Q :=
  Gives.ensure.bind fun _ s' hs => by
    obtain ⟨rfl, hc⟩ := hs
    exact h hc

theorem Gives.require_bind {o : Option α} (h : ∀ a, o = some a → Gives (f a) s Q) :
    Gives (Effect.require o e >>= f) s Q :=
  Gives.require.bind fun a s' hs => by
    obtain ⟨rfl, ha⟩ := hs
    exact h a ha

theorem Gives.fromExcept_bind (h : ∀ a, x = .ok a → Gives (f a) s Q) :
    Gives (Effect.fromExcept x >>= f) s Q :=
  Gives.fromExcept.bind fun a s' hs => by
    obtain ⟨rfl, ha⟩ := hs
    exact h a ha

theorem Gives.update_bind {g : σ → σ} {f : Unit → EStateM ε σ β} (h : Gives (f ()) (g s) Q) :
    Gives (modify g >>= f) s Q :=
  (Gives.update (Q := fun _ s' => s' = g s) rfl).bind fun _ s' hs => by
    obtain rfl := hs
    exact h

end Steps

/-- Started from `s`, `m` returns, and leaves `Q`. -/
def Returns (m : EStateM ε σ α) (s : σ) (Q : α → σ → Prop) : Prop :=
  ∃ a s', m s = .ok a s' ∧ Q a s'

theorem Returns.bind (hm : Returns m s R)
    (hf : ∀ a s', R a s' → Returns (f a) s' Q) : Returns (m >>= f) s Q := by
  obtain ⟨a, s', hm, hR⟩ := hm
  obtain ⟨b, t, hb, hQ⟩ := hf a s' hR
  exact ⟨b, t, (bind_of_ok hm).trans hb, hQ⟩

theorem Returns.fromExcept_bind (hx : x = .ok a) (h : Returns (f a) s Q) :
    Returns (Effect.fromExcept x >>= f) s Q := by
  rw [hx]
  exact h

/-- A transaction either returns, and keeps what `m` left, or leaves the state as it was. -/
theorem transact_cases (m : EStateM ε σ α) (s : σ) :
    (∃ a s', m s = .ok a s' ∧ transact m s = (.ok a, s')) ∨
      ∃ e, transact m s = (.error e, s) := by
  unfold transact
  cases hm : m s with
  | ok a s' => exact .inl ⟨a, s', rfl, rfl⟩
  | error e => exact .inr ⟨e, rfl⟩

theorem Gives.transact {R : σ → Prop} (h : Gives m s fun _ => R) (hs : R s) :
    R (transact m s).2 := by
  obtain ⟨a, s', hm, ht⟩ | ⟨e, ht⟩ := transact_cases m s
  · rw [ht]
    exact h a s' hm
  · rw [ht]
    exact hs

end Rcoder.Effect
