import Rcoder.Preview.Likeness

/-!
# One contract, written twice

Call by call, from stores that mirror each other: both accept or both reject, the answers agree, and
the stores mirror each other again.
-/

namespace Rcoder.Preview

open Effect Function Check Related PreviewInstanceRecord Table Postgres
open Lifecycle (checkedSucc)

variable {env : Postgres.Env} {w : String → String} {s s' : InProcess.State} {t t' : Postgres.Tables}
  {r r' : PreviewInstanceRecord} {key instanceId operationId detail : String} {now port : Nat}
  {revision pid : Int} {α β : Type} {f : α → Answer} {g : β → Answer}

/-- Stores that mirror each other, with rows as either of them keeps them. -/
structure Twins (w : String → String) (s : InProcess.State) (t : Postgres.Tables) : Prop extends
    Mirrors w s t where
  lawful : Lawful t.table
  exclusive : Exclusive s.table

/-- The answers agree and the stores mirror each other. -/
def Matches (w : String → String) (f : α → Answer) (g : β → Answer) (a : α) (s : InProcess.State)
    (b : β) (t : Postgres.Tables) : Prop := Agree w (f a) (g b) ∧ Mirrors w s t

/-- The programs agree, and the in-process one fails without a change. -/
abbrev Coincide (w : String → String) (f : α → Answer) (g : β → Answer) (s₀ : InProcess.State)
    (m : InProcess.StoreM α) (s : InProcess.State) (n : Postgres.TxM β) (t : Postgres.Tables) :
    Prop := Paired (Matches w f g) (fun e s' e' => SameKind e e' ∧ s' = s₀) m s n t

theorem Twins.respond {m : InProcess.StoreM α} {n : TxM β} (h : Twins w s t)
    (hp : Coincide w f g s m s n t) :
    Agree w (InProcess.respond f m s).1 (Postgres.respond g n t).1 ∧
      Mirrors w (InProcess.respond f m s).2 (Postgres.respond g n t).2 := by
  rcases hp with ⟨a, s', b, t', hm, hn, hR⟩ | ⟨e, s', e', t', hm, hn, hkind, rfl⟩
  · simp only [InProcess.respond, Postgres.respond, transact, hm, hn]
    exact hR
  · simp only [InProcess.respond, Postgres.respond, transact, hm, hn]
    exact ⟨.error hkind, h.toMirrors⟩

section Reads

theorem Mirrors.rows_perm (h : Mirrors w s t) :
    (s.instances.rows.map (erase w)).Perm (t.instances.rows.map (erase w)) := by
  have nodup {rows : Table PreviewInstanceRecord.previewKey} : (rows.rows.map (erase w)).Nodup := by
    refine List.Nodup.of_map (·.previewKey) ?_
    rw [List.map_map]
    exact rows.nodup
  refine (List.perm_ext_iff_of_nodup nodup nodup).mpr fun x => ?_
  simp only [List.mem_map]
  constructor
  · rintro ⟨r, hr, rfl⟩
    obtain ⟨r', hr', halike⟩ := of_left h.rows (find?_of_mem hr)
    exact ⟨r', find?_mem hr', halike.symm⟩
  · rintro ⟨r', hr', rfl⟩
    obtain ⟨r, hr, halike⟩ := of_right h.rows (find?_of_mem hr')
    exact ⟨r, find?_mem hr, halike⟩

theorem Mirrors.filter_perm (h : Mirrors w s t) {p : PreviewInstanceRecord → Bool}
    (hp : ∀ r, p (erase w r) = p r) :
    (((InProcess.values s.instances).filter p).map (erase w)).Perm
      ((t.instances.rows.filter p).map (erase w)) := by
  have hfilter (l : List PreviewInstanceRecord) :
      (l.filter p).map (erase w) = (l.map (erase w)).filter p := by
    rw [List.filter_map]
    exact congrArg (fun q => (l.filter q).map (erase w)) (funext fun r => (hp r).symm)
  have hsorted : ((InProcess.values s.instances).map (erase w)).Perm
      (s.instances.rows.map (erase w)) := (List.perm_insertionSort _ _).map _
  rw [hfilter, hfilter]
  exact (hsorted.trans h.rows_perm).filter p

theorem ordered_perm (env : Env) (rows : List PreviewInstanceRecord) :
    rows.Perm (ordered env rows) := (List.perm_insertionSort _ _).symm

variable (h : Twins w s t)
include h

theorem Twins.get :
    Agree w (.found (s.instances.find? key))
      (Postgres.respond .found (Postgres.getInstance key) t).1 ∧
      (Postgres.respond .found (Postgres.getInstance key) t).2 = t := by
  simp only [Postgres.respond, transact, Postgres.getInstance_run h.lawful, and_true]
  exact .found (h.rows key)

theorem Twins.findActiveByPort :
    Agree w (.found (InProcess.findActiveByPort s port))
        (Postgres.exec env t ⟨.findActiveByPort port, now⟩).1 ∧
      (Postgres.exec env t ⟨.findActiveByPort port, now⟩).2 = t := by
  have hlocal : FindsOwner s.table port _ := InProcess.findActiveByPort_finds h.exclusive
  have hstored : FindsOwner t.table port (Postgres.exec env t ⟨.findActiveByPort port, now⟩).1 :=
    findActiveByPort_finds h.lawful now
  obtain ⟨found, hfound, howner⟩ := hlocal
  obtain ⟨found', hfound', howner'⟩ := hstored
  refine ⟨?_, ?_⟩
  · rw [hfound, hfound']
    refine .found ?_
    cases found with
    | some r =>
      obtain ⟨k, hr, hactive, hport⟩ := (howner r).mp rfl
      obtain ⟨r', hr', halike⟩ := of_left h.rows hr
      rw [(howner' r').mpr ⟨k, hr', halike.active.trans hactive, halike.port.trans hport⟩]
      exact .some halike
    | none =>
      cases found' with
      | none => exact .none
      | some r' =>
        obtain ⟨k, hr', hactive, hport⟩ := (howner' r').mp rfl
        obtain ⟨r, hr, halike⟩ := of_right h.rows hr'
        cases (howner r).mpr ⟨k, hr, halike.active.symm.trans hactive, halike.port.symm.trans hport⟩
  · simp only [Postgres.exec, Postgres.respond, transact,
      Postgres.findActiveByPort_run h.lawful port]

theorem Twins.activePorts :
    Agree w (.ports (InProcess.occupiedPorts s)) (Postgres.respond .ports (Postgres.ports env) t).1 ∧
      (Postgres.respond .ports (Postgres.ports env) t).2 = t := by
  simp only [Postgres.respond, transact, Postgres.ports_run h.lawful, and_true]
  refine .ports ?_
  have hport (l : List PreviewInstanceRecord) :
      l.filterMap (·.port) = (l.map (erase w)).filterMap (·.port) := by
    rw [List.filterMap_map]
    rfl
  have hactive := h.filter_perm (p := (·.state.isActive)) fun _ => rfl
  have hports := (hactive.trans ((ordered_perm env _).map _)).filterMap (·.port)
  rwa [← hport, ← hport] at hports

theorem Twins.listActive :
    Agree w (.records (InProcess.listActive s))
        (Postgres.respond .records (Postgres.active env) t).1 ∧
      (Postgres.respond .records (Postgres.active env) t).2 = t := by
  simp only [Postgres.respond, transact, Postgres.active_run h.lawful, and_true]
  have hactive := h.filter_perm (p := (·.state.isActive)) fun _ => rfl
  exact .records (hactive.trans ((ordered_perm env _).map _))

theorem Twins.listByHost {hostId : String} {activeOnly : Bool} :
    Agree w (.records (InProcess.listByHost s hostId activeOnly))
        (Postgres.respond .records (Postgres.listByHost env hostId activeOnly) t).1 ∧
      (Postgres.respond .records (Postgres.listByHost env hostId activeOnly) t).2 = t := by
  simp only [Postgres.respond, transact, Postgres.listByHost_run h.lawful, and_true]
  let p : PreviewInstanceRecord → Bool := fun r =>
    r.hostId = hostId ∧ (activeOnly = false ∨ r.state.isActive = true)
  have hlisted := h.filter_perm (p := p) fun _ => rfl
  have hsplit : t.instances.rows.filter p =
      (t.instances.rows.filter (·.hostId = hostId)).filter fun r =>
        activeOnly = false ∨ r.state.isActive := by
    rw [List.filter_filter]
    refine List.filter_congr fun r _ => ?_
    simp only [p, Bool.decide_and, Bool.and_comm]
  rw [hsplit] at hlisted
  exact .records (hlisted.trans (((ordered_perm env _).filter _).map _))

end Reads

variable {beat : Option Nat} {updated : Nat}

section Stamps

variable {e : ActivityFlushEntry}

theorem moves_stamped {detail : Option String} :
    Moves e (r.stamped beat updated detail) ↔ Moves e r := .rfl

theorem stir_alike (h : Alike w r r') : Alike w (stir e r) (stir e r') := by
  obtain ⟨beat, updated, detail, rfl, hbeat, hdetail⟩ := h.exists_stamped
  by_cases hm : Moves e r
  · rw [stir_of_moves hm, stir_of_moves (moves_stamped.mpr hm)]
    exact alike_stamped hbeat hdetail
  · rw [stir_of_not hm, stir_of_not fun h => hm (moves_stamped.mp h)]
    exact h

variable {T T' : Instances}

theorem flushRow_alike (h : SameRows w T T') :
    (flushRow e T).1 = (flushRow e T').1 ∧ SameRows w (flushRow e T).2 (flushRow e T').2 := by
  refine ⟨if_congr ?_ rfl rfl, fun k => ?_⟩
  · rcases h.cases e.previewKey with ⟨hs, ht⟩ | ⟨r, _, _, _, hs, ht, -⟩
    · rw [hs, ht]
    · rw [hs, ht]
      simp only [Option.mem_def, Option.some.injEq, exists_eq_left']
      exact moves_stamped.symm
  · change Option.Rel (Alike w) ((T k).map (stir e)) ((T' k).map (stir e))
    rcases h.cases k with ⟨hs, ht⟩ | ⟨r, _, _, _, hs, ht, hbeat, hdetail⟩
    · rw [hs, ht]
      exact .none
    · rw [hs, ht]
      exact .some (stir_alike (alike_stamped hbeat hdetail))

theorem flushRows_alike (entries : List ActivityFlushEntry) (h : SameRows w T T') :
    (flushRows entries T).1 = (flushRows entries T').1 ∧
      SameRows w (flushRows entries T).2 (flushRows entries T').2 := by
  induction entries generalizing T T' with
  | nil => exact ⟨rfl, h⟩
  | cons e entries ih =>
    obtain ⟨hcount, hrows⟩ := flushRow_alike h
    obtain ⟨hcounts, hall⟩ := ih hrows
    exact ⟨congrArg₂ _ hcount hcounts, hall⟩

theorem flushRows_kept {entries : List ActivityFlushEntry}
    (hr' : (flushRows entries T).2 key = some r') :
    ∃ r, T key = some r ∧ Kept r r' ∧ r'.state = r.state := by
  induction entries generalizing T with
  | nil => exact ⟨r', hr', .refl, rfl⟩
  | cons e entries ih =>
    obtain ⟨r₁, hr₁, hk₁, hst₁⟩ := ih hr'
    obtain ⟨r, hr, rfl⟩ := Option.map_eq_some_iff.mp hr₁
    by_cases hm : Moves e r
    · rw [stir_of_moves hm] at hk₁ hst₁
      exact ⟨r, hr, ⟨hk₁.key, hk₁.inst, hk₁.operation, hk₁.revision, hk₁.host, hk₁.port, hk₁.active,
        hk₁.pid⟩, hst₁⟩
    · rw [stir_of_not hm] at hk₁ hst₁
      exact ⟨r, hr, hk₁, hst₁⟩

theorem Twins.flushActivity (h : Twins w s t) (entries : List ActivityFlushEntry) :
    Coincide w .count .count s (InProcess.flushActivity entries) s (flushActivity entries)
      t := by
  obtain ⟨s', hrun, htable, hops⟩ := InProcess.flushActivity_run entries s
  obtain ⟨t', hrun', htable', hops'⟩ := flushActivity_run entries h.lawful
  obtain ⟨hcount, hrows⟩ := flushRows_alike entries h.rows
  refine .inl ⟨_, s', _, t', hrun, hrun', ?_, ?_⟩
  · rw [hcount]
    exact .count
  · refine h.restamp ?_ hops hops' fun k r' hr' => ?_
    · rw [htable, htable']
      exact hrows
    · rw [htable'] at hr'
      exact flushRows_kept hr'

theorem Twins.refreshHeartbeat (h : Twins w s t) :
    Coincide w .found .found s (InProcess.refreshHeartbeat key instanceId now) s
      (refreshHeartbeat key instanceId now) t := by
  refine .getLeft (.right (Postgres.getInstance_run h.lawful) ?_)
  rcases h.rows.cases key with ⟨hs, ht⟩ | ⟨r, beat, updated, detail, hs, ht, hbeat, hdetail⟩
  · rw [show s.instances.find? key = none from hs, ht]
    exact .pure ⟨.found .none, h.toMirrors⟩
  rw [show s.instances.find? key = some r from hs, ht]
  refine .ite .rfl (fun hlive => ?_) fun _ => .pure ⟨.found .none, h.toMirrors⟩
  obtain rfl := InProcess.table_key hs
  let x : PreviewInstanceRecord := r.stamped (some now) now r.detail
  let x' : PreviewInstanceRecord := r.stamped (some ((beat.map (max · now)).getD now)) updated detail
  have hkept : Kept (r.stamped beat updated detail) x' :=
    ⟨rfl, rfl, rfl, rfl, rfl, rfl, id, fun _ h => .inl h⟩
  have halike : Alike w x x' := alike_stamped rfl hdetail
  have hput : InProcess.putInstance x s = .ok () { s with instances := s.instances.put x } := rfl
  have hsave := save_kept h.lawful ht hkept rfl
  have htable := table_save ht hkept.key
  refine .left hput (.right hsave ?_)
  refine Paired.pure ⟨.found (.some halike), h.restamp ?_ rfl rfl fun k r' hr' => ?_⟩
  · rw [InProcess.putInstance_table, htable]
    exact update h.rows (.some halike)
  · rw [htable] at hr'
    obtain ⟨rfl, rfl⟩ | ⟨-, hr'⟩ := update_eq_some.mp hr'
    · exact ⟨_, ht, hkept, rfl⟩
    · exact ⟨r', hr', .refl, rfl⟩

end Stamps

section Touches

theorem Twins.current (h : Twins w s t) {text : String}
    {m : PreviewInstanceRecord → InProcess.StoreM α} {n : PreviewInstanceRecord → TxM β}
    (hp : ∀ r beat updated detail, s.table r.previewKey = some r → r.previewKey = key →
      t.table r.previewKey = some (r.stamped beat updated detail) →
      beat.isSome = r.lastHeartbeatAt.isSome → detail.map w = r.detail.map w →
      Coincide w f g s (m r) s (n (r.stamped beat updated detail)) t) :
    Coincide w f g s (require (s.instances.find? key) (.invalid text) >>= m) s
      (Postgres.current key >>= n) t := by
  rcases h.rows.cases key with ⟨hs, ht⟩ | ⟨r, beat, updated, detail, hs, ht, hbeat, hdetail⟩
  · have hstored : Postgres.current key t = .error _ t :=
      (bind_of_ok (Postgres.getInstance_run h.lawful)).trans (by rw [ht]; rfl)
    exact .fails (require_fails hs) (bind_of_error hstored) ⟨rfl, rfl⟩
  · refine .left (require_run hs) (.right (current_run h.lawful ht) ?_)
    obtain rfl := InProcess.table_key hs
    exact hp r beat updated detail hs rfl ht hbeat hdetail

/-- Operations of one key are settled. -/
def InProcess.Settles (key : String) (s s' : InProcess.State) : Prop :=
  ∀ id, Option.Rel (fun o o' : PreviewOperationRecord => o'.kind = o.kind ∧
    o'.previewKey = o.previewKey ∧ (o.previewKey ≠ key → o' = o))
    (s.operations.find? id) (s'.operations.find? id)

theorem InProcess.Settles.of_eq (h : s'.operations = s.operations) :
    InProcess.Settles key s s' := by
  unfold InProcess.Settles
  rw [h]
  exact refl (fun _ => ⟨rfl, rfl, fun _ => rfl⟩) _

theorem InProcess.Settles.at {id : String} {o o' : PreviewOperationRecord}
    (ho : s.operations.find? id = some o)
    (h : s'.operations.find? = update s.operations.find? id (some o')) (hkind : o'.kind = o.kind)
    (hkey : o'.previewKey = o.previewKey) (hown : o.previewKey = key) :
    InProcess.Settles key s s' := by
  unfold InProcess.Settles
  rw [h]
  exact update_right (fun _ => ⟨rfl, rfl, fun _ => rfl⟩) ho
    ⟨hkind, hkey, fun hne => absurd hown hne⟩

def Postgres.Settles (key : String) (t t' : Postgres.Tables) : Prop :=
  ∀ id, Option.Rel (fun o o' : Postgres.OperationRow => o'.kind = o.kind ∧
    o'.previewKey = o.previewKey ∧ (o.previewKey ≠ key → o' = o))
    (t.operations.find? id) (t'.operations.find? id)

theorem Postgres.Settles.at {id : String} {op op' : OperationRow}
    (hop : t.operations.find? id = some op)
    (h : t'.operations.find? = update t.operations.find? id (some op')) (hkind : op'.kind = op.kind)
    (hkey : op'.previewKey = op.previewKey) (hown : op.previewKey = key) : Settles key t t' := by
  unfold Settles
  rw [h]
  exact update_right (fun _ => ⟨rfl, rfl, fun _ => rfl⟩) hop
    ⟨hkind, hkey, fun hne => absurd hown hne⟩

theorem InProcess.complete_run (key id : String) (s : InProcess.State) :
    ∃ s', InProcess.publishRunning.complete id s = .ok () s' ∧ s'.instances = s.instances ∧
      ((∀ {o}, s.operations.find? id = some o → o.previewKey = key) →
        InProcess.Settles key s s') := by
  have hrun : InProcess.publishRunning.complete id s = _ := bind_of_ok get_run
  rw [hrun]
  cases ho : s.operations.find? id with
  | none => exact ⟨s, rfl, rfl, fun _ => .of_eq rfl⟩
  | some o =>
    refine ⟨{ s with operations := s.operations.put { o with state := .succeeded } }, rfl, rfl,
      fun hkey => ?_⟩
    have hid : o.operationId = id := find?_key ho
    have hput : (s.operations.put { o with state := .succeeded }).find? = _ := find?_put
    have ho' : s.operations.find? o.operationId = some o := hid ▸ ho
    exact .at ho' hput rfl rfl (hkey rfl)

/-- The ledgers after the operations of one key have been settled on both sides. -/
theorem Mirrors.attends (h : Mirrors w s t) (hs : InProcess.Settles key s s')
    (ht : Settles key t t') : Attends key s s' t t' := by
  refine ⟨fun i => ?_, fun i o ho hne => ?_, fun i o ho hne => ?_⟩
  · obtain ⟨ho, hop⟩ | ⟨o, op, ho, hop, hsame⟩ := cases h.ledger i
    · rw [(none_iff hs).mp ho, (none_iff ht).mp hop]
      exact .none
    · obtain ⟨o', ho', hkind, hkey, -⟩ := of_left hs ho
      obtain ⟨op', hop', hkind', hkey', -⟩ := of_left ht hop
      rw [ho', hop']
      exact .some ⟨(hkind.trans hsame.1).trans hkind'.symm, (hkey.trans hsame.2).trans hkey'.symm⟩
  · obtain ⟨o', ho', -, -, hkept⟩ := of_left hs ho
    rw [ho', hkept hne]
  · obtain ⟨o', ho', -, -, hkept⟩ := of_left ht ho
    rw [ho', hkept hne]

theorem Mirrors.operation (h : Mirrors w s t) (hr' : t.table key = some r') :
    ∃ o op, s.operations.find? r'.operationId = some o ∧ o.previewKey = key ∧
      t.operations.find? r'.operationId = some op ∧ Linked op r' ∧
      op.previewKey = key := by
  obtain ⟨op, hop, hl⟩ := h.linked key r' hr'
  have hkey : op.previewKey = key := hl.key.trans (table_key hr')
  obtain ⟨o, ho, hsame⟩ := of_right h.ledger hop
  exact ⟨o, op, ho, hsame.2.trans hkey, hop, hl, hkey⟩

theorem Mirrors.owner (h : Mirrors w s t) (hr' : t.table key = some r')
    (hid : r'.operationId = operationId) {o : PreviewOperationRecord}
    (ho : s.operations.find? operationId = some o) : o.previewKey = key := by
  obtain ⟨o', -, ho', hkey, -⟩ := h.operation hr'
  rw [hid] at ho'
  cases ho'.symm.trans ho
  exact hkey

/-- The row is rewritten, and its operation settled. -/
def Postgres.Rewritten (r' x' : PreviewInstanceRecord) (t t' : Postgres.Tables) : Prop :=
  ∃ op state, t.operations.find? r'.operationId = some op ∧ Postgres.Linked op r' ∧
    t'.table = update t.table r'.previewKey (some x') ∧
    t'.operations.find? = update t.operations.find? r'.operationId
      (some { op with state := state })

variable {x x' : PreviewInstanceRecord}

/-- A row is touched and leaves the start behind it, and its operation is settled. -/
theorem Mirrors.settle (h : Mirrors w s t) (hx : Alike w x x') (hk : Kept r' x')
    (hstate : x'.state ≠ .starting) (hs : s'.table = Function.update s.table r'.previewKey (some x))
    (hsops : InProcess.Settles r'.previewKey s s') (hrow : Rewritten r' x' t t') :
    Mirrors w s' t' := by
  obtain ⟨op, state, hop, hl, ht, htops⟩ := hrow
  have hops : Attends r'.previewKey s s' t t' := h.attends hsops (.at hop htops rfl rfl hl.key)
  refine h.update hs ht hx hops ⟨{ op with state := state }, ?_, ?_⟩ fun hst => absurd hst hstate
  · rw [htops, hk.operation, update_self]
  · exact { hl.kept hk with }

variable {settle : Postgres.TxM Unit}

theorem Twins.save_finish (h : Twins w s t) (hr' : t.table r'.previewKey = some r')
    (hk : Kept r' x') (hrow : writeColumns r' x' = x') (hsettle : Closes settle x') :
    ∃ t₀ t', save r' x' t = .ok () t₀ ∧ settle t₀ = .ok () t' ∧
      Rewritten r' x' t t' := by
  obtain ⟨op, hop, hl⟩ := h.linked _ r' hr'
  obtain ⟨t', state', hrun, hinst, hops⟩ :=
    hsettle { t with instances := t.instances.set x' } op (hk.operation ▸ hop) (hl.kept hk)
  refine ⟨_, t', save_kept h.lawful hr' hk hrow, hrun, op, state', hop, hl, ?_,
    hk.operation ▸ hops⟩
  exact (congrArg find? hinst).trans (table_save hr' hk.key)

theorem Twins.touch (h : Twins w s t) {m : InProcess.StoreM PreviewInstanceRecord}
    (hm : ∃ s', m s = .ok x s' ∧ s'.table = update s.table r'.previewKey (some x) ∧
      InProcess.Settles r'.previewKey s s') (hr' : t.table r'.previewKey = some r')
    (hx : Alike w x x') (hk : Kept r' x') (hstate : x'.state ≠ .starting)
    (hrow : writeColumns r' x' = x') (hsettle : Closes settle x') :
    Coincide w .record .record s m s (do save r' x'; settle; pure x') t := by
  obtain ⟨s', hrun, hs, hsops⟩ := hm
  obtain ⟨t₀, t', hsave, hfinish, hrewritten⟩ := h.save_finish hr' hk hrow hsettle
  have hrun' : (do save r' x'; settle; pure x' : TxM _) t = .ok x' t' :=
    (bind_of_ok hsave).trans (bind_of_ok hfinish)
  exact .inl ⟨x, s', x', t', hrun, hrun', .record hx, h.settle hx hk hstate hs hsops hrewritten⟩

theorem Twins.markUnknown (h : Twins w s t) :
    Coincide w .record .record s (InProcess.markUnknown key instanceId detail now) s
      (markUnknown key instanceId detail now) t := by
  refine .getLeft (h.current fun r beat updated d hs hkey ht hbeat hdetail => ?_)
  rw [fromExcept_failIf]
  refine .ensure_bind (not_or.trans (and_congr not_not not_not)) ⟨rfl, rfl⟩ fun hc => ?_
  refine h.touch ⟨_, rfl, InProcess.putInstance_table, .of_eq rfl⟩ ht (alike_stamped hbeat rfl) ?_
    (by rintro ⟨⟩) rfl (finish_run .uncertain)
  exact ⟨rfl, rfl, rfl, rfl, rfl, rfl, fun _ => not_not.mp (not_or.mp hc).2, fun _ h => .inl h⟩

theorem Twins.resolveUnknownStopped (h : Twins w s t) {evidence : String} (he : evidence ≠ "") :
    Coincide w .record .record s (InProcess.resolveUnknownStopped key instanceId evidence now) s
      (resolveUnknownStopped key instanceId evidence now) t := by
  refine .getLeft (h.current fun r beat updated d hs hkey ht hbeat hdetail => ?_)
  rw [fromExcept_failIf]
  refine .ensure_bind ((not_or.trans (and_congr not_not not_not)).trans (and_iff_right he).symm)
    ⟨rfl, rfl⟩ fun hc => ?_
  refine h.touch ⟨_, rfl, InProcess.putInstance_table, .of_eq rfl⟩ ht (alike_stamped hbeat rfl) ?_
    (by rintro ⟨⟩) rfl finishRecovered_run
  refine ⟨rfl, rfl, rfl, rfl, rfl, rfl, fun _ => ?_, by rintro _ ⟨⟩⟩
  change r.state.isActive = true
  rw [not_not.mp (not_or.mp hc).2]
  rfl

/-- A failure is reported to every open operation of the key. -/
theorem InProcess.failOperation_settles {instances} :
    InProcess.Settles key s
      { instances := instances
        operations := s.operations.rewrite (InProcess.failOperation key)
          (InProcess.failOperation_id key) } := by
  intro id
  have hfind : (s.operations.rewrite (InProcess.failOperation key)
      (InProcess.failOperation_id key)).find? id =
        (s.operations.find? id).map (InProcess.failOperation key) := find?_rewrite
  rw [hfind]
  cases s.operations.find? id with
  | none => exact .none
  | some =>
    refine .some ?_
    unfold InProcess.failOperation
    split_ifs with hc
    · exact ⟨rfl, rfl, fun hne => absurd hc.1 hne⟩
    · exact ⟨rfl, rfl, fun _ => rfl⟩

theorem Twins.markFailed (h : Twins w s t) :
    Coincide w .record .record s (InProcess.markFailed key instanceId revision detail now) s
      (markFailed key instanceId revision detail now) t := by
  refine .getLeft (h.current fun r beat updated d hs hkey ht hbeat hdetail => ?_)
  subst hkey
  refine .ensure_bind .rfl ⟨rfl, rfl⟩ fun hc => ?_
  refine h.touch ⟨_, rfl, InProcess.putInstance_table, InProcess.failOperation_settles⟩ ht
    (alike_stamped hbeat rfl) ?_ (by rintro ⟨⟩) rfl
    (finish_run .failed)
  refine ⟨rfl, rfl, rfl, rfl, rfl, rfl, fun _ => ?_, by rintro _ ⟨⟩⟩
  change r.state.isActive = true
  rcases hc.2.2 with hs | hs <;> rw [hs] <;> rfl

theorem InProcess.stop_lost (hstopping : ¬(r.operationId = operationId ∧ r.revision = revision ∧
    r.state = .stopping)) (hstopped : ¬(r.state = .stopped ∧ r.operationId = operationId ∧
    r.revision = revision)) : InProcess.markStopped.stop operationId revision now r s =
      .error (InProcess.conflict "mark_stopped lost the race" r) s := by
  rw [InProcess.markStopped.stop, if_neg hstopping]
  exact ensure_fails hstopped

theorem Twins.markStopped (h : Twins w s t) :
    Coincide w .record .record s (InProcess.markStopped key operationId revision now) s
      (markStopped key operationId revision now) t := by
  refine .getLeft (h.current fun r beat updated d hs hkey ht hbeat hdetail => ?_)
  by_cases hids : r.operationId = operationId ∧ r.revision = revision
  swap
  · -- neither store takes a completion for another generation
    exact .fails (bind_of_error (InProcess.stop_lost (fun hc => hids ⟨hc.1, hc.2.1⟩)
      fun hc => hids hc.2)) (ensure_fails hids) ⟨rfl, rfl⟩
  refine .ensureRight hids ?_
  obtain ⟨op, hop, hl⟩ := h.linked _ _ ht
  by_cases hstopping : r.state = .stopping
  · have hstop : InProcess.markStopped.stop operationId revision now r s =
        .ok (r.toStopped now) { s with instances := s.instances.put (r.toStopped now) } := by
      rw [InProcess.markStopped.stop, if_pos ⟨hids.1, hids.2, hstopping⟩]
      rfl
    obtain ⟨s', hrun, hinst, hsettles⟩ := InProcess.complete_run r.previewKey operationId
      { s with instances := s.instances.put (r.toStopped now) }
    have hne : ¬(r.stamped beat updated d).state = .stopped :=
      fun hc => by cases hc.symm.trans hstopping
    rw [if_neg hne]
    refine .ensureRight hstopping ?_
    refine h.touch ⟨s', (bind_of_ok hstop).trans (bind_of_ok hrun), ?_,
      hsettles (h.owner ht hids.1)⟩ ht
      (alike_stamped hbeat hdetail) ?_ (by rintro ⟨⟩) rfl
      (finish_run .succeeded)
    · exact (congrArg find? hinst).trans InProcess.putInstance_table
    · refine ⟨rfl, rfl, rfl, rfl, rfl, rfl, fun _ => ?_, by rintro _ ⟨⟩⟩
      change r.state.isActive = true
      rw [hstopping]
      rfl
  by_cases hstopped : r.state = .stopped
  · -- a repeated completion marks the operation once more
    have hstop : InProcess.markStopped.stop operationId revision now r s = .ok r s := by
      rw [InProcess.markStopped.stop, if_neg fun hc => hstopping hc.2.2]
      exact bind_of_ok (ensure_run ⟨hstopped, hids⟩)
    obtain ⟨s', hrun, hinst, hsettles⟩ := InProcess.complete_run r.previewKey operationId s
    refine .left hstop (.left hrun ?_)
    have heq : (r.stamped beat updated d).state = .stopped := hstopped
    rw [if_pos heq]
    have halike : Alike w r (r.stamped beat updated d) := alike_stamped hbeat hdetail
    have hops : t.operations.find? = update t.operations.find? r.operationId
        (some { op with state := op.state }) := (update_eq_self_iff.mpr hop.symm).symm
    refine .pure ⟨.record halike, h.settle halike .refl ?_ ?_ (hsettles (h.owner ht hids.1))
      ⟨op, op.state, hop, hl, (update_eq_self_iff.mpr ht.symm).symm, hops⟩⟩
    · rw [heq]
      rintro ⟨⟩
    · rw [show s'.table = s.table from congrArg find? hinst]
      exact (update_eq_self_iff.mpr hs.symm).symm
  · have hne : ¬(r.stamped beat updated d).state = .stopped := hstopped
    rw [if_neg hne]
    exact .fails (bind_of_error (InProcess.stop_lost (fun hc => hstopping hc.2.2)
      fun hc => hstopped hc.1)) (ensure_fails hstopping) ⟨rfl, rfl⟩

variable {basePath : Option String} {d : Option String}

/-- Neither the stamps nor the detail of a record have a say in a publication. -/
theorem applyRunningPublication_stamped :
    (r.stamped beat updated d).applyRunningPublication operationId revision pid port basePath now =
      (fun a => (a.1, a.2.stamped (if a.1 then some now else beat)
        (if a.1 ∨ r.basePath.isNone ∧ basePath.isSome then now else updated) d)) <$>
          r.applyRunningPublication operationId revision pid port basePath now := by
  simp only [applyRunningPublication, map_bind, map_pure]
  by_cases hfirst : r.state = .starting <;>
    by_cases hbase : r.basePath.isNone = true ∧ basePath.isSome = true <;>
      simp only [stamped, hfirst, hbase]
  all_goals rfl

theorem applyRunningPublication_alike (hbeat : beat.isSome = r.lastHeartbeatAt.isSome)
    (hdetail : d.map w = r.detail.map w) :
    (∃ first x x',
      r.applyRunningPublication operationId revision pid port basePath now = .ok (first, x) ∧
      (r.stamped beat updated d).applyRunningPublication operationId revision pid port basePath now =
        .ok (first, x') ∧ Alike w x x') ∨
    ∃ e, r.applyRunningPublication operationId revision pid port basePath now = .error e ∧
      (r.stamped beat updated d).applyRunningPublication operationId revision pid port basePath now =
        .error e := by
  rw [applyRunningPublication_stamped]
  cases h : r.applyRunningPublication operationId revision pid port basePath now with
  | error e => exact .inr ⟨e, rfl, rfl⟩
  | ok a =>
    obtain ⟨first, x⟩ := a
    obtain ⟨-, -, -, -, -, -, hx⟩ := applyRunningPublication_ok h
    refine .inl ⟨first, x, _, rfl, rfl, alike_stamped ?_ ?_⟩ <;> rw [hx]
    · cases first with
      | true => rfl
      | false => exact hbeat
    · exact hdetail

theorem Twins.publish_run (h : Twins w s t) (first : Bool) (hr' : t.table r'.previewKey = some r')
    (hk : Kept r' x') (hrow : writeColumns r' x' = x') :
    ∃ t', (do
        onlyIf (x' ≠ r') (save r' x')
        onlyIf first (finish x' .succeeded)
        pure x' : TxM _) t = .ok x' t' ∧ Rewritten r' x' t t' := by
  obtain ⟨op, hop, hl⟩ := h.linked _ r' hr'
  -- the row is written where it changes
  have hwritten : ∃ t₁, (onlyIf (x' ≠ r') (save r' x') : TxM Unit) t = .ok () t₁ ∧
      t₁.table = update t.table r'.previewKey (some x') ∧ t₁.operations = t.operations := by
    by_cases hne : x' = r'
    · refine ⟨t, ?_, ?_, rfl⟩
      · rw [onlyIf, if_neg (not_not.mpr hne)]
        rfl
      · rw [hne]
        exact (update_eq_self_iff.mpr hr'.symm).symm
    · refine ⟨{ t with instances := t.instances.set x' }, ?_, table_save hr' hk.key, rfl⟩
      rw [onlyIf, if_pos hne]
      exact save_kept h.lawful hr' hk hrow
  obtain ⟨t₁, hrun₁, htable₁, hops₁⟩ := hwritten
  cases first with
  | false =>
    refine ⟨t₁, (bind_of_ok hrun₁).trans rfl, op, op.state, hop, hl, htable₁, ?_⟩
    rw [hops₁]
    exact (update_eq_self_iff.mpr hop.symm).symm
  | true =>
    have hop₁ : t₁.operations.find? x'.operationId = some op := by
      rw [hops₁, hk.operation]
      exact hop
    obtain ⟨t', state', hrun, hinst, hops⟩ := finish_run .succeeded _ _ hop₁ (hl.kept hk)
    refine ⟨t', (bind_of_ok hrun₁).trans (bind_of_ok hrun), op, state', hop, hl, ?_, ?_⟩
    · exact (congrArg find? hinst).trans htable₁
    · rw [hops, hops₁, hk.operation]

theorem Twins.publishRunning (h : Twins w s t) :
    Coincide w .record .record s
      (InProcess.publishRunning key operationId revision pid port basePath now) s
      (publishRunning key operationId revision pid port basePath now) t := by
  refine .getLeft (h.current fun r beat updated d hs hkey ht hbeat hdetail => ?_)
  rcases applyRunningPublication_alike hbeat hdetail with
    ⟨first, x, x', hlocal, hstored, halike⟩ | ⟨e, hlocal, hstored⟩
  swap
  · exact .fails (fromExcept_fails hlocal) (fromExcept_fails hstored) ⟨rfl, rfl⟩
  refine .left (fromExcept_run hlocal) (.right (fromExcept_run hstored) ?_)
  obtain ⟨hop, -, -, -, -, -, hrow⟩ := applyRunningPublication_ok hstored
  have hk := (Touch.publish hstored).kept
  have hkey : x.previewKey = r.previewKey := (Touch.publish hlocal).kept.key
  have hready : x'.state ≠ .starting := by
    rw [hrow]
    rintro ⟨⟩
  have hput : InProcess.State.table { s with instances := s.instances.put x } = _ :=
    InProcess.putInstance_table
  rw [hkey] at hput
  have hleft : ∃ s', (do
        InProcess.putInstance x
        onlyIf (first = true) (InProcess.publishRunning.complete operationId)
        pure x : InProcess.StoreM _) s = .ok x s' ∧
      s'.table = update s.table r.previewKey (some x) ∧
      InProcess.Settles r.previewKey s s' := by
    cases first with
    | true =>
      obtain ⟨s', hrun, hinst, hsettles⟩ := InProcess.complete_run r.previewKey operationId
        { s with instances := s.instances.put x }
      exact ⟨s', (bind_of_ok modify_run).trans (bind_of_ok hrun),
        (congrArg find? hinst).trans hput, hsettles (h.owner ht hop)⟩
    | false => exact ⟨_, (bind_of_ok modify_run).trans rfl, hput, .of_eq rfl⟩
  obtain ⟨s', hrun, hs', hsettles⟩ := hleft
  obtain ⟨t', hrun', hrewritten⟩ := h.publish_run first ht hk (by rw [hrow]; rfl)
  exact .inl ⟨x, s', x', t', hrun, hrun', .record halike,
    h.settle halike hk hready hs' hsettles hrewritten⟩

end Touches

end Rcoder.Preview
