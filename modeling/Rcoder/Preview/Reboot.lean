import Rcoder.Preview.Accepting
import Rcoder.Preview.Key

/-!
# The instances of an earlier boot

The in-process store rewrites its map at once; the PostgreSQL store goes through the active rows one
by one. The texts that the stores leave as the detail of a settled row differ in one letter.
-/

namespace Rcoder.Preview

open Effect Function List Postgres

variable {env : Postgres.Env} {w : String → String} {s s' : InProcess.State}
  {t t' : Postgres.Tables} {r r' : PreviewInstanceRecord} {podUid bootId : String} {now : Nat}

/-- A host id belongs to the pod named before its first colon. -/
theorem Postgres.podOf_eq_some {hostId : String} (hpod : ':' ∉ podUid.toList) :
    podOf hostId = some podUid ↔
      (podUid ++ ":").toList.isPrefixOf hostId.toList = true := by
  rw [ isPrefixOf_iff_prefix, String.toList_append]
  constructor
  · intro h
    unfold podOf at h
    split_ifs at h with hcolon
    obtain ⟨before, after, hlist, hbefore⟩ := eq_append_cons_of_mem hcolon
    rw [hlist, takeWhile_append_cons hbefore] at h
    refine ⟨after, ?_⟩
    rw [hlist, ← Option.some.inj h, String.toList_ofList, append_assoc]
    rfl
  · rintro ⟨after, hlist⟩
    have hlist : hostId.toList = podUid.toList ++ ':' :: after := by
      rw [← hlist, append_assoc]
      rfl
    have hcolon : ':' ∈ hostId.toList := by
      rw [hlist]
      exact mem_append_right _ mem_cons_self
    rw [podOf, if_pos hcolon, hlist, takeWhile_append_cons hpod, String.ofList_toList]

/-- The PostgreSQL store passes over the rows that the in-process store leaves alone. -/
theorem Postgres.passed_over (hpod : ':' ∉ podUid.toList) (hactive : r.state.isActive = true) :
    (podOf r.hostId ≠ some podUid ∨ r.hostId = podUid ++ ":" ++ bootId) ↔
      InProcess.outlived podUid bootId r = false := by
  simp only [InProcess.outlived, decide_eq_false_iff_not, hactive, and_true, ← podOf_eq_some hpod,
    not_and_or, not_not]

theorem Alike.outlived (h : Alike w r r') :
    InProcess.outlived podUid bootId r' = InProcess.outlived podUid bootId r := by
  obtain ⟨_, _, _, rfl, -⟩ := h.exists_stamped
  rfl

theorem SameRows.exclusive {T T' : Instances} (h : SameRows w T T') (he : Exclusive T') :
    Exclusive T where
  sound k r hr := by
    obtain ⟨r', hr', halike⟩ := Related.of_left h hr
    obtain ⟨_, _, _, rfl, -⟩ := halike.exists_stamped
    obtain ⟨hrev, hpid, hport⟩ := he.sound k _ hr'
    exact ⟨hrev, hpid, hport⟩
  apart k k' r₁ r₂ hr₁ hr₂ ha₁ ha₂ hp := by
    obtain ⟨r, hr, h₁⟩ := Related.of_left h hr₁
    obtain ⟨r', hr', h₂⟩ := Related.of_left h hr₂
    exact he.apart k k' r r' hr hr' (h₁.active.trans ha₁) (h₂.active.trans ha₂)
      (h₁.port.trans (hp.trans h₂.port.symm))

theorem Mirrors.twins (h : Mirrors w s t) (hl : Lawful t.table) : Twins w s t :=
  ⟨h, hl, h.rows.exclusive hl.exclusive⟩

theorem Mirrors.congr_left (h : Mirrors w s' t) (hrows : s'.table = s.table)
    (hops : s'.operations = s.operations) : Mirrors w s t := by
  refine ⟨hrows ▸ h.rows, ?_, h.linked, ?_⟩
  · rw [← hops]
    exact h.ledger
  · rw [← hops]
    exact h.starting

theorem Twins.settle_outlived (h : Twins w s t) (now : Nat)
    (hw : w (InProcess.rebootDetail podUid bootId) = w (rebootDetail podUid bootId))
    (hr' : t.table r'.previewKey = some r') (hs : s.table r'.previewKey = some r)
    (hout : InProcess.outlived podUid bootId r' = true) :
    ∃ t₀ t', save r' (r'.toRecovered (rebootDetail podUid bootId) now) t =
        .ok () t₀ ∧
      finishRecovered (r'.toRecovered (rebootDetail podUid bootId) now) t₀ =
        .ok () t' ∧
      t'.table = update t.table r'.previewKey
        (some (r'.toRecovered (rebootDetail podUid bootId) now)) ∧
      Twins w { s with
        instances := s.instances.put (r.toRecovered (InProcess.rebootDetail podUid bootId) now) }
        t' := by
  have hactive : r'.state.isActive = true := (of_decide_eq_true hout).2.2
  have hk : Kept r' (r'.toRecovered (rebootDetail podUid bootId) now) :=
    ⟨rfl, rfl, rfl, rfl, rfl, rfl, fun _ => hactive, by rintro _ ⟨⟩⟩
  obtain ⟨t₀, t', hsave, hfinish, hrewritten⟩ := h.save_finish hr' hk rfl finishRecovered_run
  have ⟨_, _, _, _, ht, _⟩ := hrewritten
  refine ⟨t₀, t', hsave, hfinish, ht, ?_⟩
  obtain ⟨r, hlocal, halike⟩ := Related.of_right h.rows hr'
  cases hs.symm.trans hlocal
  obtain ⟨beat, updated, d, rfl, hbeat, -⟩ := halike.exists_stamped
  have hx : Alike w (r.toRecovered (InProcess.rebootDetail podUid bootId) now)
      ((r.stamped beat updated d).toRecovered (rebootDetail podUid bootId) now) :=
    alike_stamped hbeat
      (congrArg some hw.symm)
  have hput : InProcess.State.table { s with
      instances := s.instances.put (r.toRecovered (InProcess.rebootDetail podUid bootId) now) } = _ :=
    InProcess.putInstance_table
  refine (h.settle hx hk (by rintro ⟨⟩) hput (.of_eq rfl) hrewritten).twins ?_
  rw [ht]
  exact h.lawful.kept hr' hk

theorem Twins.reconcileEach (now : Nat) (hpod : ':' ∉ podUid.toList) {l : List PreviewInstanceRecord}
    (hw : (∃ c ∈ l, InProcess.outlived podUid bootId c = true) →
      w (InProcess.rebootDetail podUid bootId) = w (rebootDetail podUid bootId))
    (h : Twins w s t) (hrows : ∀ c ∈ l, t.table c.previewKey = some c ∧ c.state.isActive = true)
    (hnodup : (l.map (·.previewKey)).Nodup) :
    ∃ s' t', reconcileEach podUid bootId now l t =
        .ok ((l.filter (InProcess.outlived podUid bootId)).map
          (·.toRecovered (rebootDetail podUid bootId) now)) t' ∧
      Mirrors w s' t' ∧ s'.operations = s.operations ∧
      ∀ k, s'.table k = if k ∈ l.map (·.previewKey) then
        (s.table k).map (InProcess.reboot podUid bootId now) else s.table k := by
  induction l generalizing s t with
  | nil => exact ⟨s, t, rfl, h.toMirrors, rfl, fun k => rfl⟩
  | cons c l ih =>
    rw [map_cons, nodup_cons] at hnodup
    obtain ⟨hc, hactive⟩ := hrows c mem_cons_self
    obtain ⟨r, hlocal, halike⟩ := Related.of_right h.rows hc
    have hw' : (∃ c ∈ l, InProcess.outlived podUid bootId c = true) → _ :=
      fun ⟨c, hmem, hout⟩ => hw ⟨c, mem_cons_of_mem _ hmem, hout⟩
    by_cases hout : InProcess.outlived podUid bootId c = true
    · obtain ⟨t₀, t₁, hsave, hfinish, htable, hnext⟩ := h.settle_outlived now
        (hw ⟨c, mem_cons_self, hout⟩) hc hlocal hout
      have hrows₁ : ∀ c' ∈ l, t₁.table c'.previewKey = some c' ∧ c'.state.isActive = true := by
        intro c' hc'
        have hne : c'.previewKey ≠ c.previewKey := fun heq =>
          hnodup.1 (heq ▸ mem_map_of_mem hc')
        rw [htable, update_of_ne hne]
        exact hrows c' (mem_cons_of_mem _ hc')
      obtain ⟨s', t', hrun, hmirrors, hops, hrest⟩ := ih hw' hnext hrows₁ hnodup.2
      refine ⟨s', t', ?_, hmirrors, hops, fun k => ?_⟩
      · have hskip : ¬(podOf c.hostId ≠ some podUid ∨ c.hostId = podUid ++ ":" ++ bootId) :=
          fun hc => Bool.false_ne_true (((passed_over hpod hactive).mp hc).symm.trans hout)
        rw [reconcileEach, if_neg hskip, filter_cons_of_pos hout]
        refine (bind_of_ok (current_run h.lawful hc)).trans ?_
        rw [if_neg (by simp [hactive])]
        exact (bind_of_ok hsave).trans ((bind_of_ok hfinish).trans (bind_of_ok hrun))
      · have hput : InProcess.State.table { s with
            instances := s.instances.put
              (r.toRecovered (InProcess.rebootDetail podUid bootId) now) } =
            update s.table c.previewKey
              (some (r.toRecovered (InProcess.rebootDetail podUid bootId) now)) := by
          rw [← InProcess.table_key hlocal]
          exact InProcess.putInstance_table
        rw [hrest k, hput, map_cons]
        by_cases hk : k = c.previewKey
        · subst hk
          rw [if_neg hnodup.1, if_pos mem_cons_self, update_self, hlocal,
            Option.map_some, InProcess.reboot, if_pos (halike.outlived ▸ hout)]
        · rw [update_of_ne hk]
          simp only [mem_cons, hk, false_or]
    · have hfalse : InProcess.outlived podUid bootId c = false := Bool.eq_false_iff.mpr hout
      obtain ⟨s', t', hrun, hmirrors, hops, hrest⟩ :=
        ih hw' h (fun c' hc' => hrows c' (mem_cons_of_mem _ hc')) hnodup.2
      refine ⟨s', t', ?_, hmirrors, hops, fun k => ?_⟩
      · rw [reconcileEach, if_pos ((passed_over hpod hactive).mpr hfalse),
          filter_cons_of_neg hout]
        exact hrun
      · rw [hrest k, map_cons]
        by_cases hk : k = c.previewKey
        · subst hk
          have hsame : InProcess.reboot podUid bootId now r = r := by
            rw [InProcess.reboot, if_neg (halike.outlived ▸ hout)]
          rw [if_neg hnodup.1, if_pos mem_cons_self, hlocal, Option.map_some, hsame]
        · simp only [mem_cons, hk, false_or]

/-- The settled row, as far as the stores agree on it. -/
def settled (detail : String) (r : PreviewInstanceRecord) : PreviewInstanceRecord :=
  { r with state := .stopped, pid := none, detail := some detail }

variable (hw : (∃ r ∈ t.instances.rows, InProcess.outlived podUid bootId r = true) →
  w (InProcess.rebootDetail podUid bootId) = w (rebootDetail podUid bootId))
include hw

theorem Twins.rebooted_perm (h : Twins w s t) :
    ((((InProcess.values s.instances).filter (InProcess.outlived podUid bootId)).map
        (InProcess.reboot podUid bootId now)).map (erase w)).Perm
      ((((ordered env (t.instances.rows.filter (·.state.isActive))).filter
        (InProcess.outlived podUid bootId)).map
          (·.toRecovered (rebootDetail podUid bootId) now)).map (erase w)) := by
  have hlisted := h.filter_perm (p := InProcess.outlived podUid bootId) fun _ => rfl
  have hactive : t.instances.rows.filter (InProcess.outlived podUid bootId) =
      (t.instances.rows.filter (·.state.isActive)).filter (InProcess.outlived podUid bootId) := by
    rw [filter_filter]
    refine filter_congr fun r _ => ?_
    cases hout : InProcess.outlived podUid bootId r with
    | false => rfl
    | true => exact (of_decide_eq_true hout).2.2.symm
  have hordered : ((t.instances.rows.filter (InProcess.outlived podUid bootId)).map (erase w)).Perm
      (((ordered env (t.instances.rows.filter (·.state.isActive))).filter
        (InProcess.outlived podUid bootId)).map (erase w)) := by
    rw [hactive]
    exact ((ordered_perm env _).filter _).map _
  have hleft : (((InProcess.values s.instances).filter (InProcess.outlived podUid bootId)).map
      (InProcess.reboot podUid bootId now)).map (erase w) =
      (((InProcess.values s.instances).filter (InProcess.outlived podUid bootId)).map (erase w)).map
        (settled (w (InProcess.rebootDetail podUid bootId))) := by
    rw [map_map, map_map]
    refine map_congr_left fun r hr => ?_
    change erase w (InProcess.reboot podUid bootId now r) = _
    rw [InProcess.reboot, if_pos (of_mem_filter hr)]
    rfl
  have hright (l : List PreviewInstanceRecord) :
      (l.map (·.toRecovered (rebootDetail podUid bootId) now)).map (erase w) =
        (l.map (erase w)).map (settled (w (rebootDetail podUid bootId))) := by
    rw [map_map, map_map]
    rfl
  rw [hleft, hright]
  cases hrows : t.instances.rows.filter (InProcess.outlived podUid bootId) with
  | nil =>
    rw [hrows] at hlisted hordered
    rw [hlisted.eq_nil, hordered.symm.eq_nil]
    exact .refl _
  | cons r =>
    have hr : r ∈ t.instances.rows.filter (InProcess.outlived podUid bootId) := by
      rw [hrows]
      exact mem_cons_self
    obtain ⟨hmem, hout⟩ := mem_filter.mp hr
    rw [hw ⟨r, hmem, hout⟩]
    exact (hlisted.trans hordered).map _

theorem Twins.reconcileHostReboot (h : Twins w s t) (hids : podUid ≠ "" ∧ bootId ≠ "")
    (hcolon : ':' ∉ podUid.toList ∧ ':' ∉ bootId.toList) :
    Coincide w .records .records s (InProcess.reconcileHostReboot podUid bootId now) s
      (reconcileHostReboot env podUid bootId now) t := by
  have hmem {c : PreviewInstanceRecord}
      (hc : c ∈ ordered env (t.instances.rows.filter (·.state.isActive))) :
      t.table c.previewKey = some c ∧ c.state.isActive = true := by
    obtain ⟨hrow, hactive⟩ := mem_filter.mp (mem_ordered.mp hc)
    exact ⟨Table.find?_of_mem hrow, hactive⟩
  have hnodup : ((ordered env (t.instances.rows.filter (·.state.isActive))).map
      (·.previewKey)).Nodup := by
    refine (((ordered_perm env _).map _).nodup_iff).mp ?_
    exact t.instances.nodup.sublist (filter_sublist.map _)
  obtain ⟨s', t', hrun, hmirrors, hops, hrows⟩ := h.reconcileEach now hcolon.1
    (fun ⟨c, hc, hout⟩ => hw ⟨c, Table.find?_mem (hmem hc).1, hout⟩) (fun c hc => hmem hc) hnodup
  refine .getLeft (.ensureRight ⟨hids.1, hids.2, hcolon.1, hcolon.2⟩
    (.right (active_run h.lawful) ?_))
  refine .inl ⟨_, _, _, t', rfl, hrun, .records (h.rebooted_perm hw), ?_⟩
  refine hmirrors.congr_left (funext fun k => ?_) hops
  have hrewrite : (s.instances.rewrite (InProcess.reboot podUid bootId now)
      (InProcess.reboot_key podUid bootId now)).find? k =
      (s.table k).map (InProcess.reboot podUid bootId now) := Table.find?_rewrite
  refine Eq.trans ?_ hrewrite.symm
  rw [hrows k]
  split_ifs with hk
  · rfl
  · -- a row that is not a candidate is not active
    cases hs : s.table k with
    | none => rfl
    | some r =>
      obtain ⟨r', hr', halike⟩ := Related.of_left h.rows hs
      have hidle : ¬InProcess.outlived podUid bootId r = true := by
        intro hout
        have hactive : r'.state.isActive = true :=
          halike.active.trans (of_decide_eq_true hout).2.2
        refine hk (mem_map.mpr ⟨r', ?_, table_key hr'⟩)
        exact mem_ordered.mpr (mem_filter.mpr ⟨Table.find?_mem hr', hactive⟩)
      rw [Option.map_some, InProcess.reboot, if_neg hidle]

end Rcoder.Preview
