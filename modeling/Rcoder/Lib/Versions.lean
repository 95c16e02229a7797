import Mathlib.Data.List.Basic
import Mathlib.Logic.Function.Basic
import Mathlib.Tactic.Common

/-!
# Logged tables

A table whose rows are rewritten in place, together with the log of everything that was written.
`Versions first step l a` says that `l` are the versions of one row, oldest first, that the
first one was as `first` asks, that `step` relates every version to the next, and that `a` is the
last. `Logged` says that of every row of the table.
-/

namespace Rcoder

open List

variable {α κ : Type}

/-- `l` are the versions of a row up to the present one, `a`. -/
inductive Versions (first : α → Prop) (step : α → α → Prop) : List α → α → Prop
  | first {a : α} (start : first a) : Versions first step [a] a
  | next {l : List α} {a b : α} (before : Versions first step l a) (change : step a b) :
      Versions first step (l ++ [b]) b

namespace Versions

variable {first : α → Prop} {step : α → α → Prop} {l : List α} {a : α}

variable (h : Versions first step l a)
include h

theorem mem : a ∈ l := by
  cases h <;> simp

theorem ends : ∃ earlier, l = earlier ++ [a] := by
  cases h with
  | first => exact ⟨[], rfl⟩
  | @next l => exact ⟨l, rfl⟩

/-- What the first version has and every step keeps, every version has. -/
theorem forall_mem {P : α → Prop} (hfirst : ∀ a, first a → P a)
    (hstep : ∀ a b, P a → step a b → P b) : ∀ b ∈ l, P b := by
  induction h with
  | first start => simpa using hfirst _ start
  | next before change ih =>
    intro b hb
    obtain hb | hb := mem_append.mp hb
    · exact ih b hb
    · rw [mem_singleton.mp hb]
      exact hstep _ _ (ih _ before.mem) change

variable {R : α → α → Prop}

/-- A relation that every step implies, and that composes, holds between any two versions. -/
theorem pairwise (hstep : ∀ a b, step a b → R a b) (trans : ∀ a b c, R a b → R b c → R a c) :
    l.Pairwise R := by
  have hall : l.Pairwise R ∧ ∀ b ∈ l, b = a ∨ R b a := by
    induction h with
    | first => simp
    | @next l a b before change ih =>
      obtain ⟨hpair, hlast⟩ := ih
      have hto : ∀ c ∈ l, R c b := by
        intro c hc
        obtain rfl | hca := hlast c hc
        · exact hstep _ _ change
        · exact trans _ _ _ hca (hstep _ _ change)
      refine ⟨pairwise_append.mpr ⟨hpair, pairwise_singleton .., ?_⟩, ?_⟩
      · intro c hc d hd
        rw [mem_singleton.mp hd]
        exact hto c hc
      · intro c hc
        obtain hc | hc := mem_append.mp hc
        · exact .inr (hto c hc)
        · exact .inl (mem_singleton.mp hc)
  exact hall.1

theorem reaches (refl : ∀ a, R a a) (hstep : ∀ a b, step a b → R a b)
    (trans : ∀ a b c, R a b → R b c → R a c) : ∀ b ∈ l, R b a := by
  obtain ⟨earlier, rfl⟩ := h.ends
  have hpair := (pairwise_append.mp (h.pairwise hstep trans)).2.2
  intro b hb
  obtain hb | hb := mem_append.mp hb
  · exact hpair b hb a (mem_singleton_self a)
  · rw [mem_singleton.mp hb]
    exact refl a

/-- The versions before any given one, and the steps that led there. -/
theorem cut : ∀ {before after : List α} {b : α},
    l = before ++ b :: after → Versions first step (before ++ [b]) b := by
  induction h with
  | @first a start =>
    intro before after b heq
    obtain ⟨rfl, rfl, -⟩ : before = [] ∧ a = b ∧ after = [] := by
      cases before <;> simp_all
    exact .first start
  | @next l a c earlier change ih =>
    intro before after b heq
    obtain rfl | ⟨rest, last, rfl⟩ := after.eq_nil_or_concat
    · obtain ⟨rfl, hc⟩ := append_inj' heq rfl
      obtain rfl : c = b := by simpa using hc
      exact .next earlier change
    · rw [concat_eq_append, ← cons_append, ← append_assoc] at heq
      exact ih (append_inj' heq rfl).1

end Versions

section Log

variable [DecidableEq κ] (key : α → κ)

def versions (log : List α) (k : κ) : List α := log.filter fun r => key r = k

/-- Every row of the table is the last of its logged versions. -/
def Logged (first : α → Prop) (step : α → α → Prop) (log : List α) (row : κ → Option α) : Prop :=
  ∀ k, match row k with
    | none => versions key log k = []
    | some a => Versions first step (versions key log k) a

variable {key} {first : α → Prop} {step : α → α → Prop} {log : List α} {row : κ → Option α}
  {k : κ} {r x : α}

theorem versions_append_self :
    versions key (log ++ [r]) (key r) = versions key log (key r) ++ [r] := by
  simp [versions]

theorem versions_append_ne (h : k ≠ key r) : versions key (log ++ [r]) k = versions key log k := by
  simp [versions, Ne.symm h]

theorem mem_versions : r ∈ versions key log k ↔ r ∈ log ∧ key r = k := by
  simp [versions]

namespace Logged

theorem empty : Logged key first step [] fun _ => none := fun _ => rfl

variable (h : Logged key first step log row)
include h

theorem versions_of_some (hr : row k = some r) : Versions first step (versions key log k) r := by
  have hk := h k
  rw [hr] at hk
  exact hk

theorem versions_of_none (hr : row k = none) : versions key log k = [] := by
  have hk := h k
  rw [hr] at hk
  exact hk

theorem pairwise {R : α → α → Prop} (hstep : ∀ a b, step a b → R a b)
    (trans : ∀ a b c, R a b → R b c → R a c) : (versions key log k).Pairwise R := by
  cases hk : row k with
  | none =>
    rw [h.versions_of_none hk]
    exact .nil
  | some => exact (h.versions_of_some hk).pairwise hstep trans

theorem update (hr : Versions first step (versions key log (key r) ++ [r]) r) :
    Logged key first step (log ++ [r]) (Function.update row (key r) (some r)) := by
  intro k
  by_cases hk : k = key r
  · subst hk
    rw [Function.update_self, versions_append_self]
    exact hr
  · rw [Function.update_of_ne hk, versions_append_ne hk]
    exact h k

theorem insert (hnone : row (key r) = none) (hr : first r) :
    Logged key first step (log ++ [r]) (Function.update row (key r) (some r)) := by
  refine h.update ?_
  rw [h.versions_of_none hnone]
  exact .first hr

theorem set (hsome : row (key r) = some x) (hr : step x r) :
    Logged key first step (log ++ [r]) (Function.update row (key r) (some r)) :=
  h.update (.next (h.versions_of_some hsome) hr)

theorem row_of_mem (hr : r ∈ log) : ∃ a, row (key r) = some a := by
  cases ha : row (key r) with
  | some a => exact ⟨a, rfl⟩
  | none =>
    have hnone := h.versions_of_none ha
    have hmem : r ∈ versions key log (key r) := mem_versions.mpr ⟨hr, rfl⟩
    rw [hnone] at hmem
    cases hmem

end Logged

end Log

end Rcoder
