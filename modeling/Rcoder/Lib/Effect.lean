import Mathlib.Logic.Basic
import Mathlib.Tactic.Common

/-!
# Programs whose state survives a failure

A program is an `EStateM ε σ`: it either returns or fails, and in both cases leaves a
state behind. A triple therefore has two postconditions, one for each way out, and the
rules below follow a program's own text: sequencing, branching, catching, looping.
-/

namespace Rcoder.Effect

variable {ε ε' σ α β : Type}

/-- Run `m` and hand its failure to the caller as a value. -/
def attempt (m : EStateM ε σ α) : EStateM ε' σ (Except ε α) := fun s =>
  match m s with
  | .ok a s' => .ok (.ok a) s'
  | .error e s' => .ok (.error e) s'

/-- Run `m`, translating its failure. -/
def mapError (f : ε → ε') (m : EStateM ε σ α) : EStateM ε' σ α := fun s =>
  match m s with
  | .ok a s' => .ok a s'
  | .error e s' => .error (f e) s'

/-- Fail with `e` unless `c` holds. -/
def ensure (c : Prop) [Decidable c] (e : ε) : EStateM ε σ Unit :=
  if c then pure () else throw e

/-- The value of `o`, or the failure `e`. -/
def require (o : Option α) (e : ε) : EStateM ε σ α :=
  match o with
  | some a => pure a
  | none => throw e

/-- Run `m` only where `c` holds. -/
def onlyIf (c : Prop) [Decidable c] (m : EStateM ε σ Unit) : EStateM ε σ Unit :=
  if c then m else pure ()

/-- Run `m` on a part of a larger state. -/
def zoom {τ : Type} (view : τ → σ) (put : σ → τ → τ) (m : EStateM ε σ α) : EStateM ε τ α :=
  fun t =>
    match m (view t) with
    | .ok a s => .ok a (put s t)
    | .error e s => .error e (put s t)

def fromExcept (x : Except ε α) : EStateM ε σ α :=
  match x with
  | .ok a => pure a
  | .error e => throw e

/-- From a state with `P`, `m` returns with `Q` or fails with `E`. -/
def Triple (P : σ → Prop) (m : EStateM ε σ α) (Q : α → σ → Prop) (E : ε → σ → Prop) : Prop :=
  ∀ s, P s → match m s with
    | .ok a s' => Q a s'
    | .error e s' => E e s'

/-- `m` preserves `P`, whichever way it ends. -/
def Keeps (P : σ → Prop) (m : EStateM ε σ α) : Prop :=
  Triple P m (fun _ => P) fun _ => P

variable {P P' : σ → Prop} {Q Q' : α → σ → Prop} {E E' : ε → σ → Prop} {m : EStateM ε σ α} {a : α}
  {s : σ} {e : ε}

section

variable (h : Triple P m Q E)
include h

theorem Triple.ok {s' : σ} (hs : P s) (hm : m s = .ok a s') : Q a s' := by
  simpa only [hm] using h s hs

theorem Triple.error {s' : σ} (hs : P s) (hm : m s = .error e s') : E e s' := by
  simpa only [hm] using h s hs

theorem Triple.imp (hP : ∀ s, P' s → P s) (hQ : ∀ a s, Q a s → Q' a s)
    (hE : ∀ e s, E e s → E' e s) : Triple P' m Q' E' := by
  intro s hs
  cases hm : m s with
  | ok a s' => exact hQ a s' (h.ok (hP s hs) hm)
  | error e s' => exact hE e s' (h.error (hP s hs) hm)

theorem Triple.pre (hP : ∀ s, P' s → P s) : Triple P' m Q E :=
  h.imp hP (fun _ _ h => h) fun _ _ h => h

theorem Triple.post (hQ : ∀ a s, Q a s → Q' a s) (hE : ∀ e s, E e s → E' e s) : Triple P m Q' E' :=
  h.imp (fun _ h => h) hQ hE

theorem Triple.fails (hE : ∀ e s, E e s → E' e s) : Triple P m Q E' :=
  h.post (fun _ _ h => h) hE

end

theorem Triple.bind {f : α → EStateM ε σ β} {R : α → σ → Prop} {Q : β → σ → Prop}
    (hm : Triple P m R E) (hf : ∀ a, Triple (R a) (f a) Q E) : Triple P (m >>= f) Q E := by
  intro s hs
  change match EStateM.bind m f s with
    | .ok a s' => Q a s'
    | .error e s' => E e s'
  unfold EStateM.bind
  cases h : m s with
  | ok a s' => exact hf a s' (hm.ok hs h)
  | error => exact hm.error hs h

theorem Triple.pure (h : ∀ s, P s → Q a s) : Triple P (pure a : EStateM ε σ α) Q E := h

theorem Triple.throw (h : ∀ s, P s → E e s) : Triple P (throw e : EStateM ε σ α) Q E := h

theorem get_run : (get : EStateM ε σ σ) s = .ok s s := rfl

variable {f : σ → σ}

theorem modify_run : (modify f : EStateM ε σ Unit) s = .ok () (f s) := rfl

variable {c : Prop}

theorem ensure_run [Decidable c] (h : c) : (ensure c e : EStateM ε σ Unit) s = .ok () s := by
  rw [ensure, if_pos h]
  rfl

variable {o : Option α}

theorem require_run (h : o = some a) : (require o e : EStateM ε σ α) s = .ok a s := by
  rw [h]
  rfl

variable {x : Except ε α}

theorem fromExcept_run (h : x = .ok a) : (fromExcept x : EStateM ε σ α) s = .ok a s := by
  rw [h]
  rfl

/-- The state that is read satisfies the precondition. -/
theorem Triple.read {f : σ → EStateM ε σ β} {Q : β → σ → Prop}
    (h : ∀ s, P s → Triple (fun s' => s' = s ∧ P s) (f s) Q E) : Triple P (get >>= f) Q E :=
  fun s hs => h s hs s ⟨rfl, hs⟩

theorem Triple.get {f : σ → EStateM ε σ β} {Q : β → σ → Prop}
    (h : ∀ s, Triple (fun s' => s' = s ∧ P s) (f s) Q E) : Triple P (get >>= f) Q E :=
  fun s hs => h s s ⟨rfl, hs⟩

theorem Triple.modify {Q : Unit → σ → Prop} (h : ∀ s, P s → Q () (f s)) :
    Triple P (modify f : EStateM ε σ Unit) Q E := h

variable {n : EStateM ε σ α}

theorem Triple.ite [Decidable c] (ht : c → Triple P m Q E) (hf : ¬c → Triple P n Q E) :
    Triple P (if c then m else n) Q E := by
  split
  · exact ht ‹_›
  · exact hf ‹_›

theorem Triple.ensure [Decidable c] {Q : Unit → σ → Prop} (ht : ∀ s, c → P s → Q () s)
    (hf : ∀ s, ¬c → P s → E e s) : Triple P (ensure c e) Q E :=
  .ite (fun hc => .pure fun s => ht s hc) fun hc => .throw fun s => hf s hc

theorem Triple.require (ht : ∀ a s, o = some a → P s → Q a s) (hf : ∀ s, o = none → P s → E e s) :
    Triple P (require o e) Q E := by
  cases o with
  | none => exact .throw fun s => hf s rfl
  | some a => exact .pure fun s => ht a s rfl

theorem Triple.onlyIf [Decidable c] {m : EStateM ε σ Unit} {Q : Unit → σ → Prop}
    (ht : c → Triple P m Q E) (hf : ∀ s, ¬c → P s → Q () s) : Triple P (onlyIf c m) Q E :=
  .ite ht fun hc => .pure fun s => hf s hc

/-- A fact that does not speak of the state. -/
theorem Triple.assume {p : Prop} (h : p → Triple P m Q E) : Triple (fun s => P s ∧ p) m Q E :=
  fun s hs => h hs.2 s hs.1

theorem Triple.attempt {Q : Except ε α → σ → Prop} {E' : ε' → σ → Prop}
    (h : Triple P m (fun a => Q (.ok a)) fun e => Q (.error e)) : Triple P (attempt m) Q E' := by
  intro s hs
  unfold Effect.attempt
  cases hm : m s with
  | ok => exact h.ok hs hm
  | error => exact h.error hs hm

theorem Triple.mapError {f : ε → ε'} {E : ε' → σ → Prop}
    (h : Triple P m Q fun e => E (f e)) : Triple P (mapError f m) Q E := by
  intro s hs
  unfold Effect.mapError
  cases hm : m s with
  | ok => exact h.ok hs hm
  | error => exact h.error hs hm

theorem Triple.zoom {τ : Type} {view : τ → σ} {put : σ → τ → τ} {P : τ → Prop} {Q : α → τ → Prop}
    {E : ε → τ → Prop} (h : ∀ t, P t → Triple (fun s => s = view t) m (fun a s => Q a (put s t))
      fun e s => E e (put s t)) : Triple P (zoom view put m) Q E := by
  intro t ht
  unfold Effect.zoom
  cases hm : m (view t) with
  | ok => exact (h t ht).ok rfl hm
  | error => exact (h t ht).error rfl hm

theorem Triple.fromExcept (ht : ∀ a s, x = .ok a → P s → Q a s)
    (hf : ∀ e s, x = .error e → P s → E e s) : Triple P (fromExcept x) Q E := by
  cases x with
  | ok a => exact .pure fun s => ht a s rfl
  | error e => exact .throw fun s => hf e s rfl

theorem Triple.and (h : Triple P m Q E) (h' : Triple P' m Q' E') :
    Triple (fun s => P s ∧ P' s) m (fun a s => Q a s ∧ Q' a s) fun e s => E e s ∧ E' e s := by
  intro s hs
  cases hm : m s with
  | ok => exact ⟨h.ok hs.1 hm, h'.ok hs.2 hm⟩
  | error => exact ⟨h.error hs.1 hm, h'.error hs.2 hm⟩

namespace Keeps

/-! A program keeps `P` if each of its steps does. -/

theorem pure : Keeps P (pure a : EStateM ε σ α) := Triple.pure fun _ h => h

theorem bind {f : α → EStateM ε σ β} (hm : Keeps P m) (hf : ∀ a, Keeps P (f a)) :
    Keeps P (m >>= f) := Triple.bind hm hf

theorem get {f : σ → EStateM ε σ β} (h : ∀ s, Keeps P (f s)) : Keeps P (get >>= f) :=
  Triple.get fun s => (h s).pre fun _ hs => hs.1 ▸ hs.2

theorem modify (h : ∀ s, P s → P (f s)) : Keeps P (modify f : EStateM ε σ Unit) := Triple.modify h

theorem ite [Decidable c] (ht : c → Keeps P m) (hf : ¬c → Keeps P n) :
    Keeps P (if c then m else n) := Triple.ite ht hf

theorem ensure [Decidable c] : Keeps P (ensure c e) :=
  Triple.ensure (fun _ _ h => h) fun _ _ h => h

theorem require : Keeps P (require o e) :=
  Triple.require (fun _ _ _ h => h) fun _ _ h => h

theorem onlyIf [Decidable c] {m : EStateM ε σ Unit} (h : c → Keeps P m) :
    Keeps P (onlyIf c m) := Triple.onlyIf h fun _ _ h => h

end Keeps

end Rcoder.Effect
