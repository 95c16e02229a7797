import Mathlib.Data.List.Induction
import Mathlib.Tactic.Common

/-!
# Machines and their runs

A machine answers each input and moves on. A run is recorded as its trace, the inputs with
their answers, and every step of it meets a condition `ok` on the state it starts from and
its input. Invariants are carried along runs by `Run.invariant`; facts about two points of
one run come from `Run.split`.
-/

namespace Rcoder

/-- A deterministic machine: from a state and an input, an answer and the next state. -/
structure Machine (σ ι ο : Type) where
  exec : σ → ι → ο × σ

namespace Machine

variable {σ ι ο : Type}

/-- `t` is reached from `s` along the trace, each step meeting `ok`. -/
inductive Run (m : Machine σ ι ο) (ok : σ → ι → Prop) (s : σ) : List (ι × ο) → σ → Prop
  | nil : Run m ok s [] s
  | snoc {tr : List (ι × ο)} {t : σ} {i : ι} (run : Run m ok s tr t) (step : ok t i) :
      Run m ok s (tr ++ [(i, (m.exec t i).1)]) (m.exec t i).2

variable {m : Machine σ ι ο} {ok ok' : σ → ι → Prop} {s t u : σ} {tr tr' : List (ι × ο)}

/-- An invariant that also reads the trace so far. -/
theorem Run.trace_invariant {I : List (ι × ο) → σ → Prop} (hr : m.Run ok s tr t) (hs : I [] s)
    (step : ∀ tr t i, ok t i → I tr t → I (tr ++ [(i, (m.exec t i).1)]) (m.exec t i).2) :
    I tr t := by
  induction hr with
  | nil => exact hs
  | snoc _ hok ih => exact step _ _ _ hok ih

variable {I : σ → Prop}

theorem Run.invariant (hr : m.Run ok s tr t) (hs : I s)
    (step : ∀ t i, ok t i → I t → I (m.exec t i).2) : I t :=
  hr.trace_invariant hs fun _ => step

theorem Run.mono (hr : m.Run ok s tr t) (h : ∀ t i, ok t i → ok' t i) : m.Run ok' s tr t := by
  induction hr with
  | nil => exact .nil
  | snoc _ hok ih => exact .snoc ih (h _ _ hok)

theorem Run.append (h : m.Run ok s tr t) (h' : m.Run ok t tr' u) : m.Run ok s (tr ++ tr') u := by
  induction h' with
  | nil => simpa only [List.append_nil] using h
  | snoc _ hok ih => simpa only [List.append_assoc] using Run.snoc ih hok

variable {i : ι}

theorem Run.last {o : ο} (hr : m.Run ok s (tr ++ [(i, o)]) u) :
    ∃ t, m.Run ok s tr t ∧ ok t i ∧ m.exec t i = (o, u) := by
  generalize hl : tr ++ [(i, o)] = l at hr
  cases hr with
  | nil => simp at hl
  | snoc run hok =>
    obtain ⟨htr, hio⟩ := List.append_inj' hl rfl
    obtain ⟨rfl, rfl⟩ := hio
    subst htr
    exact ⟨_, run, hok, rfl⟩

theorem Run.split (hr : m.Run ok s (tr ++ tr') u) : ∃ t, m.Run ok s tr t ∧ m.Run ok t tr' u := by
  induction tr' using List.reverseRecOn generalizing u with
  | nil => exact ⟨u, by simpa only [List.append_nil] using hr, .nil⟩
  | append_singleton l x ih =>
    rw [← List.append_assoc] at hr
    obtain ⟨v, hv, hok, hx⟩ := hr.last
    obtain ⟨t, ht, hl⟩ := ih hv
    refine ⟨t, ht, ?_⟩
    have hstep := hl.snoc hok
    rw [hx] at hstep
    exact hstep

theorem Run.step_at {o : ο} (hr : m.Run ok s (tr ++ (i, o) :: tr') u) :
    ∃ t, m.Run ok s tr t ∧ ok t i ∧ (m.exec t i).1 = o ∧ m.Run ok (m.exec t i).2 tr' u := by
  rw [List.append_cons] at hr
  obtain ⟨v, hv, hrest⟩ := hr.split
  obtain ⟨t, ht, hok, hstep⟩ := hv.last
  exact ⟨t, ht, hok, by rw [hstep], by rw [hstep]; exact hrest⟩

/-- Some step of the trace is taken from a state and with an input that meet `P`. -/
def Passes (m : Machine σ ι ο) (s : σ) (P : σ → ι → Prop) (tr : List (ι × ο)) : Prop :=
  ∃ tr₁ i tr₂ t, tr = tr₁ ++ (i, (m.exec t i).1) :: tr₂ ∧ m.Run (fun _ _ => True) s tr₁ t ∧ P t i

variable {P : σ → ι → Prop}

theorem Passes.append (h : m.Passes s P tr) (tr' : List (ι × ο)) : m.Passes s P (tr ++ tr') := by
  obtain ⟨tr₁, i, tr₂, t, rfl, hr, hP⟩ := h
  exact ⟨tr₁, i, tr₂ ++ tr', t, by simp, hr, hP⟩

theorem Run.passes (hr : m.Run ok s tr t) (hP : P t i) :
    m.Passes s P (tr ++ [(i, (m.exec t i).1)]) :=
  ⟨tr, i, [], t, rfl, hr.mono fun _ _ _ => trivial, hP⟩

/-- The state a list of inputs leads to. -/
def after (m : Machine σ ι ο) (s : σ) : List ι → σ
  | [] => s
  | i :: is => m.after (m.exec s i).2 is

theorem after_concat (is : List ι) (i : ι) :
    m.after s (is ++ [i]) = (m.exec (m.after s is) i).2 := by
  induction is generalizing s with
  | nil => rfl
  | cons j is ih => exact ih

theorem after_append (is is' : List ι) : m.after s (is ++ is') = m.after (m.after s is) is' := by
  induction is generalizing s with
  | nil => rfl
  | cons i is ih => exact ih

theorem after_invariant (hs : I s) (step : ∀ t i, I t → I (m.exec t i).2) (is : List ι) :
    I (m.after s is) := by
  induction is generalizing s with
  | nil => exact hs
  | cons i is ih => exact ih (step s i hs)

/-- The trace of a list of inputs. -/
def trace (m : Machine σ ι ο) (s : σ) : List ι → List (ι × ο)
  | [] => []
  | i :: is => (i, (m.exec s i).1) :: m.trace (m.exec s i).2 is

/-- Every input of the list meets `ok` where it is given. -/
def Follows (m : Machine σ ι ο) (ok : σ → ι → Prop) (s : σ) : List ι → Prop
  | [] => True
  | i :: is => ok s i ∧ m.Follows ok (m.exec s i).2 is

instance decidableFollows [∀ s i, Decidable (ok s i)] :
    (s : σ) → (is : List ι) → Decidable (m.Follows ok s is)
  | _, [] => inferInstanceAs (Decidable True)
  | s, i :: is =>
    have := decidableFollows (m.exec s i).2 is
    inferInstanceAs (Decidable (ok s i ∧ m.Follows ok (m.exec s i).2 is))

theorem Run.of_follows {is : List ι} (h : m.Follows ok s is) :
    m.Run ok s (m.trace s is) (m.after s is) := by
  induction is generalizing s with
  | nil => exact .nil
  | cons i is ih =>
    have h1 : m.Run ok s [(i, (m.exec s i).1)] (m.exec s i).2 := .snoc .nil h.1
    exact h1.append (ih h.2)

theorem follows_of_forall {is : List ι} (h : ∀ t, ∀ i ∈ is, ok t i) : m.Follows ok s is := by
  induction is generalizing s with
  | nil => trivial
  | cons i is ih =>
    exact ⟨h s i (by simp), ih fun t j hj => h t j (by simp [hj])⟩

end Machine

end Rcoder
