import Mathlib.Data.List.Basic
import Mathlib.Tactic.Common

/-!
# Preview keys

The canonical identity of a preview: its project, three isolation values and the resolved path in
one text. U+001F stands between the fields, U+001E between the isolation values.
-/

namespace Rcoder.Preview

open List

structure PreviewKeyInput where
  projectId : String
  tenantId : Option String
  spaceId : Option String
  isolationType : Option String
  resolvedPath : String

def isolationNorm (tenant space isolation : Option String) : String :=
  tenant.getD "" ++ "\x1e" ++ space.getD "" ++ "\x1e" ++ isolation.getD ""

def previewKey (input : PreviewKeyInput) : String :=
  input.projectId ++ "\x1f" ++
    isolationNorm input.tenantId input.spaceId input.isolationType ++ "\x1f" ++ input.resolvedPath

section Separators

variable {α : Type} [DecidableEq α] {c : α} {l l' m m' : List α}

theorem takeWhile_append_cons (h : c ∉ l) : (l ++ c :: m).takeWhile (· ≠ c) = l := by
  have hne : ∀ x ∈ l, decide (x ≠ c) = true := by
    intro x hx
    refine decide_eq_true ?_
    rintro rfl
    exact h hx
  rw [takeWhile_append_of_pos hne, takeWhile_cons_of_neg (by simp), append_nil]

/-- What stands before the first separator, and behind it, is determined. -/
theorem append_cons_inj (hl : c ∉ l) (hl' : c ∉ l') (h : l ++ c :: m = l' ++ c :: m') :
    l = l' ∧ m = m' := by
  have hbefore := congrArg (takeWhile (· ≠ c)) h
  rw [takeWhile_append_cons hl, takeWhile_append_cons hl'] at hbefore
  subst hbefore
  exact ⟨rfl, (cons.inj (append_cancel_left h)).2⟩

end Separators

/-- No separator is in the fields before the path. -/
def PreviewKeyInput.Plain (input : PreviewKeyInput) : Prop :=
  ∀ text ∈ [input.projectId, input.tenantId.getD "", input.spaceId.getD "",
    input.isolationType.getD ""], '\x1f' ∉ text.toList ∧ '\x1e' ∉ text.toList

variable {a b : PreviewKeyInput}

theorem previewKey_toList : (previewKey a).toList = a.projectId.toList ++
    '\x1f' :: ((isolationNorm a.tenantId a.spaceId a.isolationType).toList ++
      '\x1f' :: a.resolvedPath.toList) := by
  simp [previewKey]

theorem isolationNorm_toList {tenant space isolation : Option String} :
    (isolationNorm tenant space isolation).toList = (tenant.getD "").toList ++
      '\x1e' :: ((space.getD "").toList ++ '\x1e' :: (isolation.getD "").toList) := by
  simp [isolationNorm]

theorem previewKey_inj (ha : a.Plain) (hb : b.Plain) (h : previewKey a = previewKey b) :
    a.projectId = b.projectId ∧ a.resolvedPath = b.resolvedPath ∧
      a.tenantId.getD "" = b.tenantId.getD "" ∧ a.spaceId.getD "" = b.spaceId.getD "" ∧
      a.isolationType.getD "" = b.isolationType.getD "" := by
  have hkey := congrArg String.toList h
  rw [previewKey_toList, previewKey_toList] at hkey
  simp only [PreviewKeyInput.Plain, forall_mem_cons] at ha hb
  obtain ⟨hproject, hrest⟩ := append_cons_inj ha.1.1 hb.1.1 hkey
  obtain ⟨hnorm, hpath⟩ := append_cons_inj (by simp [isolationNorm_toList, ha])
    (by simp [isolationNorm_toList, hb]) hrest
  rw [isolationNorm_toList, isolationNorm_toList] at hnorm
  obtain ⟨htenant, hnorm⟩ := append_cons_inj ha.2.1.2 hb.2.1.2 hnorm
  obtain ⟨hspace, hisolation⟩ := append_cons_inj ha.2.2.1.2 hb.2.2.1.2 hnorm
  simp only [String.toList_inj] at hproject hpath htenant hspace hisolation
  exact ⟨hproject, hpath, htenant, hspace, hisolation⟩

/-- An absent value counts as the empty one. -/
theorem previewKey_inj_absent :
    let a : PreviewKeyInput := ⟨"p", some "t", none, some "i", "/p"⟩
    let b : PreviewKeyInput := ⟨"p", some "t", some "", some "i", "/p"⟩
    previewKey a = previewKey b ∧ a.spaceId.getD "" = b.spaceId.getD "" := by
  refine ⟨rfl, (previewKey_inj ?_ ?_ rfl).2.2.2.1⟩ <;> unfold PreviewKeyInput.Plain <;> decide

end Rcoder.Preview
