import Mathlib.Data.List.Basic
import Mathlib.Logic.Function.Basic
import Mathlib.Tactic.Common

/-!
# Walks through a list of stages

`upTo order a` are the entries of `order` down to `a`. A list walks through `order` if it visits
the entries one after the other and stays at each for a while.
-/

namespace Rcoder

variable {α : Type}

/-- `l` visits the entries of `order` in turn, each at least once. -/
def Walks (order l : List α) : Prop :=
  ∃ times : α → ℕ, l = order.flatMap fun a => List.replicate (times a + 1) a

theorem Walks.start (a : α) : Walks [a] [a] := ⟨fun _ => 0, rfl⟩

variable [DecidableEq α]

/-- The entries of `order` up to `a`. -/
def upTo (order : List α) (a : α) : List α := order.take (order.idxOf a + 1)

theorem upTo_cons_self (order : List α) (a : α) : upTo (a :: order) a = [a] := by
  simp [upTo]

theorem upTo_cons_of_ne {a b : α} (order : List α) (h : b ≠ a) :
    upTo (b :: order) a = b :: upTo order a := by
  simp [upTo, h]

/-- The last entry up to `a` is `a`, for the first time. -/
theorem upTo_ends {order : List α} {a : α} (h : a ∈ order) :
    ∃ earlier, upTo order a = earlier ++ [a] ∧ a ∉ earlier := by
  induction order with
  | nil => cases h
  | cons b order ih =>
    by_cases hb : b = a
    · subst hb
      exact ⟨[], upTo_cons_self order b, by simp⟩
    · obtain ⟨earlier, hends, hnot⟩ := ih ((List.mem_cons.mp h).resolve_left (Ne.symm hb))
      refine ⟨b :: earlier, ?_, by simp [Ne.symm hb, hnot]⟩
      rw [upTo_cons_of_ne order hb, hends]
      rfl

namespace Walks

variable {order l : List α} {a b : α}

theorem flatMap_update (times : α → ℕ) (n : ℕ) (h : a ∉ order) :
    (order.flatMap fun b => List.replicate (Function.update times a n b + 1) b) =
      order.flatMap fun b => List.replicate (times b + 1) b := by
  refine List.flatMap_congr fun b hb => ?_
  rw [Function.update_of_ne]
  rintro rfl
  exact h hb

theorem stay (h : Walks (upTo order a) l) (ha : a ∈ order) : Walks (upTo order a) (l ++ [a]) := by
  obtain ⟨earlier, hends, hnot⟩ := upTo_ends ha
  obtain ⟨times, rfl⟩ := h
  refine ⟨Function.update times a (times a + 1), ?_⟩
  rw [hends, List.flatMap_append, List.flatMap_append, flatMap_update times _ hnot]
  simp [List.replicate_succ']

theorem next (h : Walks (upTo order a) l) (hb : b ∈ order)
    (hnext : upTo order b = upTo order a ++ [b]) : Walks (upTo order b) (l ++ [b]) := by
  obtain ⟨earlier, hends, hnot⟩ := upTo_ends hb
  have hearlier : earlier = upTo order a := (List.append_inj' (hends.symm.trans hnext) rfl).1
  obtain ⟨times, rfl⟩ := h
  refine ⟨Function.update times b 0, ?_⟩
  rw [hends, List.flatMap_append, flatMap_update times _ hnot, hearlier]
  simp

end Walks

end Rcoder
