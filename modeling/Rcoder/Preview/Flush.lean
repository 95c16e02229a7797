import Rcoder.Preview.Statements

/-!
# A batch of activity

What a batch makes of the instances does not depend on the order of its entries, as long as the
entries of one instance stay in order: the PostgreSQL store may sort them. An entry for an instance
that is not the stored one has no effect at any point of the batch.
-/

namespace Rcoder.Preview

open Effect Function

variable {T : Instances} {r : PreviewInstanceRecord} {a b e : ActivityFlushEntry}
  {entries : List ActivityFlushEntry} {key : String}

/-- The entry moves the row. -/
def Moves (e : ActivityFlushEntry) (r : PreviewInstanceRecord) : Prop :=
  r.previewKey = e.previewKey ∧ r.instanceId = e.instanceId ∧ r.state.isActive = true ∧
    r.lastActivityAt < e.activityAt

instance : Decidable (Moves e r) := inferInstanceAs (Decidable (_ ∧ _))

def stir (e : ActivityFlushEntry) (r : PreviewInstanceRecord) : PreviewInstanceRecord :=
  if Moves e r then { r with lastActivityAt := e.activityAt } else r

def flushRow (e : ActivityFlushEntry) (T : Instances) : Nat × Instances :=
  (if ∃ r ∈ T e.previewKey, Moves e r then 1 else 0, fun k => (T k).map (stir e))

def flushRows : List ActivityFlushEntry → Instances → Nat × Instances
  | [], T => (0, T)
  | e :: entries, T =>
    ((flushRow e T).1 + (flushRows entries (flushRow e T).2).1,
      (flushRows entries (flushRow e T).2).2)

section Entries

def Unrelated (a b : ActivityFlushEntry) : Prop :=
  a.previewKey ≠ b.previewKey ∨ a.instanceId ≠ b.instanceId

theorem Unrelated.symm (h : Unrelated a b) : Unrelated b a :=
  h.imp .symm .symm

theorem stir_of_moves (h : Moves e r) : stir e r = { r with lastActivityAt := e.activityAt } :=
  if_pos h

theorem stir_of_not (h : ¬Moves e r) : stir e r = r := if_neg h

variable (h : Unrelated a b)
include h

theorem Unrelated.not_moves (hb : Moves b r) {since : Nat} :
    ¬Moves a { r with lastActivityAt := since } := by
  rintro ⟨hkey, hinst, -⟩
  rcases h with h | h
  · exact h (hkey.symm.trans hb.1)
  · exact h (hinst.symm.trans hb.2.1)

theorem Unrelated.moves_stir : Moves a (stir b r) ↔ Moves a r := by
  by_cases hb : Moves b r
  · rw [stir_of_moves hb]
    exact iff_of_false (h.not_moves hb) (h.not_moves hb)
  · rw [stir_of_not hb]

theorem Unrelated.stir_comm : stir a (stir b r) = stir b (stir a r) := by
  by_cases ha : Moves a r
  · have hb : ¬Moves b r := fun hb => h.not_moves hb ha
    rw [stir_of_not hb, stir_of_not fun hb' => hb (h.symm.moves_stir.mp hb')]
  · rw [stir_of_not ha, stir_of_not fun ha' => ha (h.moves_stir.mp ha')]

theorem Unrelated.flushRows_swap (entries : List ActivityFlushEntry) :
    flushRows (a :: b :: entries) T = flushRows (b :: a :: entries) T := by
  have htable : (flushRow b (flushRow a T).2).2 = (flushRow a (flushRow b T).2).2 := by
    funext k
    simp only [flushRow, Option.map_map]
    refine congrArg (fun f => (T k).map f) (funext fun r => ?_)
    exact h.symm.stir_comm
  have hcount : ∀ {a b : ActivityFlushEntry}, Unrelated a b →
      (flushRow a (flushRow b T).2).1 = (flushRow a T).1 := by
    intro a b h
    refine if_congr ⟨?_, ?_⟩ rfl rfl
    · rintro ⟨r', hr', hm⟩
      obtain ⟨r, hr, rfl⟩ := Option.map_eq_some_iff.mp hr'
      exact ⟨r, hr, h.moves_stir.mp hm⟩
    · rintro ⟨r, hr, hm⟩
      exact ⟨stir b r, Option.map_eq_some_iff.mpr ⟨r, hr, rfl⟩, h.moves_stir.mpr hm⟩
  simp only [flushRows, htable, hcount h, hcount h.symm]
  exact Prod.ext (Nat.add_left_comm ..) rfl

omit h

theorem flushRows_cons_congr {entries' : List ActivityFlushEntry}
    (h : ∀ T, flushRows entries T = flushRows entries' T) :
    flushRows (e :: entries) T = flushRows (e :: entries') T := by
  simp only [flushRows, h]

variable {before : ActivityFlushEntry → ActivityFlushEntry → Prop}

/-- Sorting by instance leaves the entries of one instance in order. -/
theorem flushRows_orderedInsert [DecidableRel before] (hbefore : ∀ a b, ¬before a b → Unrelated a b)
    (e : ActivityFlushEntry) (entries : List ActivityFlushEntry) :
    ∀ T, flushRows (entries.orderedInsert before e) T = flushRows (e :: entries) T := by
  induction entries with
  | nil => exact fun _ => rfl
  | cons b entries ih =>
    intro T
    rw [List.orderedInsert_cons]
    split_ifs with h
    · rfl
    · rw [(hbefore e b h).flushRows_swap]
      exact flushRows_cons_congr ih

theorem flushRows_insertionSort [DecidableRel before] (hbefore : ∀ a b, ¬before a b → Unrelated a b)
    (entries : List ActivityFlushEntry) :
    ∀ T, flushRows (entries.insertionSort before) T = flushRows entries T := by
  induction entries with
  | nil => exact fun _ => rfl
  | cons e entries ih =>
    intro T
    rw [List.insertionSort_cons, flushRows_orderedInsert hbefore]
    exact flushRows_cons_congr ih

theorem flushRow_still (h : ∀ k r, T k = some r → ¬Moves e r) : flushRow e T = (0, T) := by
  refine Prod.ext (if_neg ?_) (funext fun k => ?_)
  · rintro ⟨r, hr, hm⟩
    exact h e.previewKey r hr hm
  · change (T k).map (stir e) = T k
    cases hr : T k with
    | none => rfl
    | some r => exact congrArg some (stir_of_not (h k r hr))

variable {rows : Table PreviewInstanceRecord.previewKey}

theorem flushRow_moves (hr : rows.find? e.previewKey = some r) (h : Moves e r) :
    flushRow e rows.find? =
      (1, update rows.find? e.previewKey (some { r with lastActivityAt := e.activityAt })) := by
  refine Prod.ext (if_pos ⟨r, hr, h⟩) (funext fun k => ?_)
  change (rows.find? k).map (stir e) = update rows.find? e.previewKey _ k
  by_cases hk : k = e.previewKey
  · subst hk
    rw [update_self, hr, Option.map_some, stir_of_moves h]
  · rw [update_of_ne hk]
    cases hr' : rows.find? k with
    | none => rfl
    | some r' =>
      exact congrArg some (stir_of_not fun hm => hk ((Table.find?_key hr').symm.trans hm.1))

/-- An entry that finds nothing to move under its key has no effect. -/
theorem flushRow_idle (h : ∀ r, rows.find? e.previewKey = some r → ¬Moves e r) :
    flushRow e rows.find? = (0, rows.find?) :=
  flushRow_still fun _ r hr hm => h r (hm.1 ▸ (Table.find?_key hr).symm ▸ hr) hm

end Entries

namespace InProcess

theorem flushEntry_run (e : ActivityFlushEntry) (s : State) :
    ∃ s', flushEntry e s = .ok (flushRow e s.table).1 s' ∧ s'.table = (flushRow e s.table).2 ∧
      s'.operations = s.operations := by
  have hrun : flushEntry e s = _ := bind_of_ok get_run
  rw [hrun]
  cases hr : s.instances.find? e.previewKey with
  | none =>
    have hstill : flushRow e s.table = (0, s.table) :=
      flushRow_idle fun _ hr' => by cases hr.symm.trans hr'
    exact ⟨s, by rw [hstill]; rfl, by rw [hstill], rfl⟩
  | some r =>
    have hkey : r.previewKey = e.previewKey := table_key hr
    by_cases hm : r.state.isActive = true ∧ r.instanceId = e.instanceId ∧
        r.lastActivityAt < e.activityAt
    · have hmoves : flushRow e s.table = _ :=
        flushRow_moves hr ⟨hkey, hm.2.1, hm.1, hm.2.2⟩
      rw [hmoves]
      refine ⟨{ s with instances := s.instances.put { r with lastActivityAt := e.activityAt } }, ?_,
        ?_, rfl⟩
      · simp only [if_pos hm]
        rfl
      · rw [putInstance_table, hkey]
        rfl
    · have hstill : flushRow e s.table = (0, s.table) :=
        flushRow_idle fun _ hr' hm' => by
          cases hr.symm.trans hr'
          exact hm ⟨hm'.2.2.1, hm'.2.1, hm'.2.2.2⟩
      refine ⟨s, ?_, by rw [hstill], rfl⟩
      rw [hstill]
      simp only [if_neg hm]
      rfl

theorem flushActivity_run (entries : List ActivityFlushEntry) (s : State) :
    ∃ s', flushActivity entries s = .ok (flushRows entries s.table).1 s' ∧
      s'.table = (flushRows entries s.table).2 ∧ s'.operations = s.operations := by
  induction entries generalizing s with
  | nil => exact ⟨s, rfl, rfl, rfl⟩
  | cons e entries ih =>
    obtain ⟨s₁, hrun₁, htable₁, hops₁⟩ := flushEntry_run e s
    obtain ⟨s₂, hrun₂, htable₂, hops₂⟩ := ih s₁
    rw [htable₁] at hrun₂ htable₂
    exact ⟨s₂, (bind_of_ok hrun₁).trans (bind_of_ok hrun₂), htable₂, hops₂.trans hops₁⟩

end InProcess

namespace Postgres

variable {t : Tables}

theorem flushEntry_run (e : ActivityFlushEntry) (h : Lawful t.table) :
    ∃ t', flushEntry e t = .ok (flushRow e t.table).1 t' ∧ t'.table = (flushRow e t.table).2 ∧
      t'.operations = t.operations ∧ Lawful t'.table := by
  have hrun : flushEntry e t = _ := bind_of_ok get_run
  rw [hrun]
  cases hr : t.instances.find? e.previewKey with
  | none =>
    have hstill : flushRow e t.table = (0, t.table) :=
      flushRow_idle fun _ hr' => by cases hr.symm.trans hr'
    exact ⟨t, by rw [hstill]; rfl, by rw [hstill], rfl, h⟩
  | some r =>
    have hkey : r.previewKey = e.previewKey := table_key hr
    by_cases hm : r.instanceId = e.instanceId ∧ r.lastActivityAt < e.activityAt ∧
        r.state.isActive = true
    · have hmoves : flushRow e t.table = _ :=
        flushRow_moves hr ⟨hkey, hm.1, hm.2.2, hm.2.1⟩
      have hmax : max r.lastActivityAt e.activityAt = e.activityAt := max_eq_right hm.2.1.le
      have hrow : t.table r.previewKey = some r := hkey ▸ hr
      let row : PreviewInstanceRecord := { r with lastActivityAt := e.activityAt }
      have hkept : Kept r row := ⟨rfl, rfl, rfl, rfl, rfl, rfl, id, fun _ h => .inl h⟩
      have htable := table_save hrow hkept.key
      have hlawful := h.kept hrow hkept
      rw [← htable] at hlawful
      rw [hmoves]
      refine ⟨{ t with instances := t.instances.set row }, ?_, ?_, rfl, hlawful⟩
      · simp only [if_pos hm, hmax]
        have hwrite : writeInstances (t.instances.set row) t = _ := writeInstances_run hlawful
        exact bind_of_ok hwrite
      · exact htable.trans (congrArg (update t.table · (some row)) hkey)
    · have hstill : flushRow e t.table = (0, t.table) :=
        flushRow_idle fun _ hr' hm' => by
          cases hr.symm.trans hr'
          exact hm ⟨hm'.2.1, hm'.2.2.2, hm'.2.2.1⟩
      refine ⟨t, ?_, by rw [hstill], rfl, h⟩
      rw [hstill]
      simp only [if_neg hm]
      rfl

theorem flushEntries_run (entries : List ActivityFlushEntry) (h : Lawful t.table) :
    ∃ t', flushEntries entries t = .ok (flushRows entries t.table).1 t' ∧
      t'.table = (flushRows entries t.table).2 ∧ t'.operations = t.operations := by
  induction entries generalizing t with
  | nil => exact ⟨t, rfl, rfl, rfl⟩
  | cons e entries ih =>
    obtain ⟨t₁, hrun₁, htable₁, hops₁, h₁⟩ := flushEntry_run e h
    obtain ⟨t₂, hrun₂, htable₂, hops₂⟩ := ih h₁
    rw [htable₁] at hrun₂ htable₂
    exact ⟨t₂, (bind_of_ok hrun₁).trans (bind_of_ok hrun₂), htable₂, hops₂.trans hops₁⟩

/-- Entries that are not in order are for different instances. -/
theorem unrelated_of_before (h : entryBefore b a = true) : Unrelated a b := by
  rcases of_decide_eq_true h with hkey | ⟨-, hinst⟩
  · refine .inl fun heq => ?_
    rw [heq, textBefore_irrefl] at hkey
    cases hkey
  · refine .inr fun heq => ?_
    rw [heq, textBefore_irrefl] at hinst
    cases hinst

theorem flushActivity_run (entries : List ActivityFlushEntry) (h : Lawful t.table) :
    ∃ t', flushActivity entries t = .ok (flushRows entries t.table).1 t' ∧
      t'.table = (flushRows entries t.table).2 ∧ t'.operations = t.operations := by
  obtain ⟨t', hrun, htable, hops⟩ :=
    flushEntries_run (entries.insertionSort fun a b => entryBefore b a = false) h
  rw [flushRows_insertionSort fun a b hab => unrelated_of_before (by simpa using hab)]
    at hrun htable
  exact ⟨t', hrun, htable, hops⟩

end Postgres

end Rcoder.Preview
