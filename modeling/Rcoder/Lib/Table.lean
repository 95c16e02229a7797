import Mathlib.Data.List.Nodup
import Mathlib.Logic.Function.Basic
import Mathlib.Tactic.Common

/-!
# Tables with a primary key

A table is a list of rows in the order of their insertion, no two with the same key. The
statements a program issues against it are an insertion, the replacement of the row with a
given key and the removal of that row.
-/

namespace Rcoder

open Function List

variable {κ α : Type}

theorem update_eq_some [DecidableEq κ] {f : κ → Option α} {k j : κ} {a b : α} :
    update f k (some a) j = some b ↔ (j = k ∧ b = a) ∨ (j ≠ k ∧ f j = some b) := by
  by_cases h : j = k
  · subst h
    simp [eq_comm]
  · simp [h]

theorem update_fresh [DecidableEq κ] {f : κ → Option α} {k j : κ} {a b : α}
    (h : f k = none) : update f k (some a) j = some b ↔ (j = k ∧ b = a) ∨ f j = some b := by
  rw [update_eq_some]
  refine or_congr_right (and_iff_right_of_imp fun hj hk => ?_)
  rw [hk, h] at hj
  cases hj

theorem update_none_eq_some [DecidableEq κ] {f : κ → Option α} {k j : κ} {b : α} :
    update f k none j = some b ↔ j ≠ k ∧ f j = some b := by
  by_cases h : j = k
  · simp [h]
  · simp [h]

/-- A new row that is not related to any other leaves related rows under one key. -/
theorem apart_update [DecidableEq κ] {f : κ → Option α} {R : α → α → Prop} {k : κ} {a : α}
    (hsymm : ∀ x y, R x y → R y x) (h : ∀ i j x y, f i = some x → f j = some y → R x y → i = j)
    (hnew : ∀ i x, f i = some x → i ≠ k → ¬R x a) (i j : κ) (x y : α)
    (hx : update f k (some a) i = some x) (hy : update f k (some a) j = some y) (hR : R x y) :
    i = j := by
  obtain ⟨hi, rfl⟩ | ⟨hi, hfx⟩ := update_eq_some.mp hx <;>
    obtain ⟨hj, rfl⟩ | ⟨hj, hfy⟩ := update_eq_some.mp hy
  · exact hi.trans hj.symm
  · exact absurd (hsymm _ _ hR) (hnew j y hfy hj)
  · exact absurd hR (hnew i x hfx hi)
  · exact h i j x y hfx hfy hR

/-- Rows in insertion order, distinct in their key. -/
structure Table {κ α : Type} (key : α → κ) where
  rows : List α
  nodup : (rows.map key).Nodup

namespace Table

variable {κ α : Type} [DecidableEq κ] {key : α → κ}

def empty : Table key := ⟨[], List.nodup_nil⟩

def find? (t : Table key) (k : κ) : Option α := t.rows.find? fun r => key r = k

/-- `INSERT`: the table itself where the key is taken. -/
def insert (t : Table key) (r : α) : Table key :=
  if h : key r ∈ t.rows.map key then t
  else ⟨t.rows ++ [r], by simpa [List.nodup_append, t.nodup] using h⟩

/-- `UPDATE`: the row with the key of `r` becomes `r`. -/
def set (t : Table key) (r : α) : Table key :=
  ⟨t.rows.map fun x => if key x = key r then r else x, by
    have h : (t.rows.map fun x => if key x = key r then r else x).map key = t.rows.map key := by
      rw [List.map_map]
      refine List.map_congr_left fun x _ => ?_
      by_cases hx : key x = key r <;> simp [hx]
    rw [h]
    exact t.nodup⟩

/-- The row is stored under its key, in place of the row that was there. -/
def put (t : Table key) (r : α) : Table key :=
  if (t.find? (key r)).isSome then t.set r else t.insert r

/-- Every row is rewritten, and keeps its key. -/
def rewrite (t : Table key) (f : α → α) (hf : ∀ r, key (f r) = key r) : Table key :=
  ⟨t.rows.map f, by
    have h : (t.rows.map f).map key = t.rows.map key := by
      rw [List.map_map]
      exact List.map_congr_left fun x _ => hf x
    rw [h]
    exact t.nodup⟩

def erase (t : Table key) (k : κ) : Table key :=
  ⟨t.rows.filter fun x => key x ≠ k, (t.nodup.sublist (List.Sublist.map key List.filter_sublist))⟩

variable {t : Table key} {k : κ} {r x : α}

theorem find?_mem (h : t.find? k = some r) : r ∈ t.rows := mem_of_find?_eq_some h

theorem find?_key (h : t.find? k = some r) : key r = k := by
  simpa using find?_some h

theorem find?_of_mem (h : r ∈ t.rows) : t.find? (key r) = some r := by
  cases hf : t.find? (key r) with
  | none => simpa using find?_eq_none.mp hf r h
  | some =>
    have hx := inj_on_of_nodup_map t.nodup (find?_mem hf) h (find?_key hf)
    rw [hx]

theorem find?_eq_none : t.find? k = none ↔ ∀ r ∈ t.rows, key r ≠ k := by
  simp [find?]

theorem insert_rows (h : t.find? (key r) = none) : (t.insert r).rows = t.rows ++ [r] := by
  have hk : key r ∉ t.rows.map key := by
    simpa using find?_eq_none.mp h
  simp only [insert, dif_neg hk]

theorem find?_insert_self (h : t.find? (key r) = none) : (t.insert r).find? (key r) = some r :=
  find?_of_mem (by simp [insert_rows h])

theorem find?_insert_ne (h : k ≠ key r) : (t.insert r).find? k = t.find? k := by
  by_cases hr : t.find? (key r) = none
  · have hs : List.find? (fun x => decide (key x = k)) [r] = none := by simp [h.symm]
    simp only [find?, insert_rows hr, List.find?_append, hs, Option.or_none]
  · have hk : key r ∈ t.rows.map key := by
      obtain ⟨x, hx⟩ := Option.ne_none_iff_exists'.mp hr
      exact mem_map.mpr ⟨x, find?_mem hx, find?_key hx⟩
    simp only [insert, dif_pos hk]

theorem mem_set (hr : t.find? (key r) = some x) {y : α} :
    y ∈ (t.set r).rows ↔ y = r ∨ y ∈ t.rows ∧ key y ≠ key r := by
  simp only [set, mem_map]
  constructor
  · rintro ⟨z, hz, rfl⟩
    by_cases hk : key z = key r
    · exact .inl (if_pos hk)
    · exact .inr ⟨by rwa [if_neg hk], by rwa [if_neg hk]⟩
  · rintro (rfl | ⟨hy, hk⟩)
    · exact ⟨x, find?_mem hr, if_pos (find?_key hr)⟩
    · exact ⟨y, hy, if_neg hk⟩

theorem find?_set_self (hr : t.find? (key r) = some x) : (t.set r).find? (key r) = some r :=
  find?_of_mem ((mem_set hr).mpr (.inl rfl))

theorem find?_set_ne (h : k ≠ key r) : (t.set r).find? k = t.find? k := by
  simp only [find?, set]
  induction t.rows with
  | nil => rfl
  | cons y ys ih =>
    by_cases hy : key y = key r
    · have hk : key r ≠ k := .symm h
      have hyk : key y ≠ k := by rwa [hy]
      simpa [find?_cons, hy, hk, hyk] using ih
    · by_cases hyk : key y = k
      · simp [hyk, h]
      · simpa [find?_cons, hy, hyk] using ih

theorem mem_erase : r ∈ (t.erase k).rows ↔ r ∈ t.rows ∧ key r ≠ k := by
  simp [erase]

theorem find?_erase_self : (t.erase k).find? k = none :=
  find?_eq_none.mpr fun _ hr => (mem_erase.mp hr).2

theorem find?_erase_ne {j : κ} (h : j ≠ k) : (t.erase k).find? j = t.find? j := by
  cases hf : t.find? j with
  | none => exact find?_eq_none.mpr fun r hr => find?_eq_none.mp hf r (mem_erase.mp hr).1
  | some =>
    have hk := find?_key hf
    subst hk
    exact find?_of_mem (mem_erase.mpr ⟨find?_mem hf, h⟩)

/-! ### The table as a function of its keys -/

theorem find?_insert (h : t.find? (key r) = none) :
    (t.insert r).find? = update t.find? (key r) (some r) := by
  funext k
  by_cases hk : k = key r
  · rw [hk, update_self, find?_insert_self h]
  · rw [update_of_ne hk, find?_insert_ne hk]

theorem find?_set (h : t.find? (key r) = some x) :
    (t.set r).find? = update t.find? (key r) (some r) := by
  funext k
  by_cases hk : k = key r
  · rw [hk, update_self, find?_set_self h]
  · rw [update_of_ne hk, find?_set_ne hk]

theorem find?_put : (t.put r).find? = update t.find? (key r) (some r) := by
  unfold put
  cases h : t.find? (key r) with
  | none => exact find?_insert h
  | some => exact find?_set h

theorem find?_rewrite {f : α → α} {hf : ∀ r, key (f r) = key r} :
    (t.rewrite f hf).find? k = (t.find? k).map f := by
  simp only [find?, rewrite, find?_map]
  have hp : ((fun r => decide (key r = k)) ∘ f) = fun r => decide (key r = k) := by
    funext r
    simp [hf]
  rw [hp]

theorem find?_erase : (t.erase k).find? = update t.find? k none := by
  funext j
  by_cases hj : j = k
  · rw [hj, update_self, find?_erase_self]
  · rw [update_of_ne hj, find?_erase_ne hj]

end Table

/-- The same keys are taken, and by related values. -/
def Related {κ α β : Type} (R : α → β → Prop) (f : κ → Option α) (g : κ → Option β) : Prop :=
  ∀ k, Option.Rel R (f k) (g k)

namespace Related

variable {κ α β γ : Type} {R : α → β → Prop} {f : κ → Option α} {g : κ → Option β} {k : κ}
  {a : α} {b : β}

variable (h : Related R f g)
include h

theorem cases (k : κ) : (f k = none ∧ g k = none) ∨ ∃ a b, f k = some a ∧ g k = some b ∧ R a b := by
  have hk := h k
  generalize f k = o at hk
  generalize g k = o' at hk
  cases hk with
  | none => exact .inl ⟨rfl, rfl⟩
  | some hR => exact .inr ⟨_, _, rfl, rfl, hR⟩

theorem of_left (ha : f k = some a) : ∃ b, g k = some b ∧ R a b := by
  obtain ⟨hnone, -⟩ | ⟨a', b, ha', hb, hR⟩ := h.cases k
  · cases hnone.symm.trans ha
  · cases ha'.symm.trans ha
    exact ⟨b, hb, hR⟩

theorem of_right (hb : g k = some b) : ∃ a, f k = some a ∧ R a b := by
  obtain ⟨-, hnone⟩ | ⟨a, b', ha, hb', hR⟩ := h.cases k
  · cases hnone.symm.trans hb
  · cases hb'.symm.trans hb
    exact ⟨a, ha, hR⟩

theorem none_iff : f k = none ↔ g k = none := by
  obtain ⟨hf, hg⟩ | ⟨a, b, ha, hb, -⟩ := h.cases k
  · simp [hf, hg]
  · simp [ha, hb]

omit h

theorem refl {R : α → α → Prop} (hR : ∀ a, R a a) (f : κ → Option α) : Related R f f := by
  intro k
  cases f k with
  | none => exact .none
  | some a => exact .some (hR a)

theorem comp {S : β → γ → Prop} {T : α → γ → Prop} {u : κ → Option γ} (h : Related R f g)
    (h' : Related S g u) (hT : ∀ a b c, R a b → S b c → T a c) : Related T f u := by
  intro k
  obtain ⟨hf, hg⟩ | ⟨a, b, ha, hb, hR⟩ := h.cases k
  · rw [hf, h'.none_iff.mp hg]
    exact .none
  · obtain ⟨c, hc, hS⟩ := h'.of_left hb
    rw [ha, hc]
    exact .some (hT a b c hR hS)

theorem update [DecidableEq κ] (h : Related R f g) {o : Option α} {o' : Option β}
    (ho : Option.Rel R o o') : Related R (update f k o) (update g k o') := by
  intro j
  by_cases hj : j = k
  · rw [hj, update_self, update_self]
    exact ho
  · rw [update_of_ne hj, update_of_ne hj]
    exact h j

/-- One value is replaced by a related one. -/
theorem update_right [DecidableEq κ] {R : α → α → Prop} {b : α} (hR : ∀ a, R a a)
    (ha : f k = some a) (h : R a b) : Related R f (Function.update f k (some b)) := by
  have hself := (refl hR f).update (k := k) (.some h)
  rwa [update_eq_self_iff.mpr ha.symm] at hself

end Related

end Rcoder
