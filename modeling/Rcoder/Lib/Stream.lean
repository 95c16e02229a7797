import Mathlib.Data.List.Infix
import Mathlib.Data.List.Sort
import Mathlib.Order.Basic

/-!
# Numbered streams

A stream is a list of elements that carry their own number. It is *numbered* when the numbers
are 1, 2, … in order and nothing follows an element that closes the stream. A reader who keeps
the number of the last element it has seen reads such a stream piece by piece, while it grows.
-/

namespace Rcoder

open List

variable {α : Type} {seq : α → Nat} {closes : α → Prop} {l l' : List α} {a : α} {c : Nat}

structure Numbered (seq : α → Nat) (closes : α → Prop) (l : List α) : Prop where
  seqs : l.map seq = List.range' 1 l.length
  closed : ∀ a ∈ l.dropLast, ¬closes a

namespace Numbered

theorem nil : Numbered seq closes [] := ⟨rfl, by simp⟩

variable (h : Numbered seq closes l)
include h

theorem snoc (hopen : ∀ b ∈ l, ¬closes b) (ha : seq a = l.length + 1) :
    Numbered seq closes (l ++ [a]) := by
  refine ⟨?_, by simpa using hopen⟩
  rw [map_append, h.seqs, map_singleton, length_append, length_singleton,
    range'_concat, ha]
  simp [Nat.add_comm]

theorem seq_getElem (i : Nat) (hi : i < l.length) : seq l[i] = i + 1 := by
  have hmap : (l.map seq)[i]? = (range' 1 l.length)[i]? := by rw [h.seqs]
  simpa [hi, Nat.add_comm] using hmap

theorem seq_getLast (ha : l.getLast? = some a) : seq a = l.length := by
  rw [List.getLast?_eq_getElem?] at ha
  obtain ⟨hi, rfl⟩ := List.getElem?_eq_some_iff.mp ha
  rw [h.seq_getElem]
  omega

theorem pairwise : l.Pairwise fun a b => seq a < seq b := by
  rw [← pairwise_map, h.seqs]
  exact pairwise_lt_range'

/-- The elements after a number are the rest of the stream. -/
theorem filter_eq_drop (c : Nat) : l.filter (fun a => c < seq a) = l.drop c := by
  conv_lhs => rw [← take_append_drop c l, filter_append]
  have hbefore : (l.take c).filter (fun a => c < seq a) = [] := by
    refine filter_eq_nil_iff.mpr fun a ha => ?_
    obtain ⟨i, hi, rfl⟩ := getElem_of_mem ha
    rw [getElem_take, h.seq_getElem]
    simp only [length_take] at hi
    simp only [decide_eq_true_eq]
    omega
  have hafter : (l.drop c).filter (fun a => c < seq a) = l.drop c := by
    refine filter_eq_self.mpr fun a ha => ?_
    obtain ⟨i, hi, rfl⟩ := getElem_of_mem ha
    rw [getElem_drop, h.seq_getElem]
    simp only [decide_eq_true_eq]
    omega
  rw [hbefore, hafter, nil_append]

end Numbered

/-- The number of the last element read, or the one before the reading. -/
def cursorAfter (seq : α → Nat) (c : Nat) (read : List α) : Nat :=
  (read.getLast?.map seq).getD c

theorem Numbered.cursorAfter_drop (h : Numbered seq closes l) (c : Nat) :
    cursorAfter seq c (l.drop c) = c + (l.drop c).length := by
  unfold cursorAfter
  by_cases hc : c < l.length
  · obtain ⟨a, ha⟩ : ∃ a, l.getLast? = some a :=
      Option.isSome_iff_exists.mp (getLast?_isSome.mpr (by rintro rfl; simp at hc))
    rw [getLast?_drop, if_neg (by omega), ha, length_drop, Option.map_some,
      Option.getD_some, h.seq_getLast ha]
    omega
  · rw [drop_eq_nil_iff.mpr (by omega)]
    rfl

/-- What has been read and what lies behind it are the whole. -/
theorem append_drop_of_prefix {read : List α} (h : read <+: l.drop c) :
    read ++ l.drop (c + read.length) = l.drop c := by
  obtain ⟨rest, hrest⟩ := h
  rw [← drop_drop, ← hrest, drop_left]

end Rcoder
