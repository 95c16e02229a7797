import Rcoder.Runtime.SessionMoves

/-!
# Hand-over and startup recovery as sequences of moves
-/

namespace Rcoder.Runtime

open Effect Kernel

variable {W : Settles} {P : Kernel → Prop} {env : KernelEnv}
  {id : String} {k k₀ k' : Kernel} {op r : StoredOperation} {E : Anyhow → Kernel → Prop}

section HandOver

/-- The state a hand-over works in: the interrupted operations taken out of `k`. -/
def TakenOver (W : Settles) (k₀ : Kernel) (a : AdmissionState)
    (k : Kernel) : Prop :=
  ∃ k₁, Moves W k₀ k₁ ∧ k₁.admission = a ∧
    k = k₁.handedOver none [] k₁.admission.recoveryProtection

variable {a : AdmissionState}

theorem steady_takenOver : Steady (TakenOver W k₀ a) := by
  rintro _ d hq ⟨k₁, hk₁, ha, rfl⟩
  exact ⟨{ k₁ with disk := d }, steady_moves k₁ d hq hk₁, ha, rfl⟩

theorem writeTerminal_takenOver {state : RuntimeOperationState} {error : Option (String × String)}
    {detail : Option RuntimeFailureDetail} (hW : W.records id error) (hS : W.states id state) :
    Keeps (TakenOver W k₀ a) (writeTerminal env id state error detail) := by
  refine (writeTerminal_rule steady_takenOver).post ?_ ?_
  · rintro stored k (h | ⟨_, r, ⟨k₁, hk₁, ha, rfl⟩, hr, hu, hs, rfl, hq⟩)
    · exact h.1
    · exact steady_takenOver.quietly hq ⟨k₁.publish _, hk₁.tail (.settle hr hu hs hW hS), ha, rfl⟩
  · rintro e k (h | ⟨_, r, ⟨k₁, hk₁, ha, rfl⟩, -, hr, hu, hs, hq⟩)
    · exact h.1
    · exact steady_takenOver.quietly hq ⟨k₁.publish _, hk₁.tail (.settle hr hu hs hW hS), ha, rfl⟩

/-- The diagnosis of an operation whose session ended first. -/
def sessionEnded : Option (String × String) :=
  some (errRecoveryRequired, "business session ended before the operation completed")

theorem settleOne_takenOver (stop : Option String)
    (hW : W.records id none ∧ W.records id sessionEnded)
    (hS : (stop = some id → W.states id .succeeded) ∧ W.states id .recoveryRequired)
    :
    Triple (TakenOver W k₀ a) (settleStale.settleOne env stop id)
      (fun _ => TakenOver W k₀ a) E := by
  refine .bind (R := fun _ => TakenOver W k₀ a) (.attempt
    ((loadOperation_kernel steady_takenOver).post (fun _ _ h => h.1) fun _ _ h => h.1))
    fun loaded => ?_
  cases loaded with
  | error => exact .pure fun _ h => h
  | ok loaded =>
    cases loaded with
    | none => exact .pure fun _ h => h
    | some =>
      refine .ite (fun _ => .pure fun _ h => h) fun _ => ?_
      refine .bind (R := fun _ => TakenOver W k₀ a) (.attempt (.ite
        (fun hstop => writeTerminal_takenOver hW.1 (hS.1 hstop))
        fun _ => writeTerminal_takenOver hW.2 hS.2)) fun settled => ?_
      cases settled with
      | error | ok => exact .pure fun _ h => h

theorem settleStale_takenOver (stop : Option String) (ids : List String)
    (hW : ∀ id ∈ ids, W.records id none ∧ W.records id sessionEnded)
    (hS : ∀ id ∈ ids, (stop = some id → W.states id .succeeded) ∧ W.states id .recoveryRequired) :
    Triple (TakenOver W k₀ a) (settleStale env stop ids)
      (fun x k => TakenOver W k₀ a k ∧ ∀ id ∈ x.1, id ∈ ids) E := by
  induction ids with
  | nil => exact .pure fun k h => ⟨h, by simp⟩
  | cons id ids ih =>
    refine .bind (settleOne_takenOver stop (hW id (.head _))
      (hS id (.head _))) fun failure => ?_
    refine .bind (ih (fun i hi => hW i (.tail _ hi)) fun i hi => hS i (.tail _ hi)) fun rest => ?_
    cases failure with
    | none => exact .pure fun k h => ⟨h.1, fun i hi => .tail _ (h.2 i hi)⟩
    | some =>
      refine .pure fun k h => ⟨h.1, fun i hi => ?_⟩
      rcases List.mem_cons.mp hi with rfl | hi
      · exact .head _
      · exact .tail _ (h.2 i hi)

theorem staleOperations_eq_nil (h : a.staleOperations = []) :
    a.interruptedStop = none ∧ a.interruptedOperations = [] := by
  unfold AdmissionState.staleOperations at h
  split at h
  · split_ifs at h with hmem
    · simp [h] at hmem
    · simp at h
  · exact ⟨‹_›, h⟩

theorem prepareRelaunch_moves
    (hW : ∀ id ∈ k₀.admission.staleOperations, W.records id none ∧ W.records id sessionEnded)
    (hS : ∀ id ∈ k₀.admission.staleOperations,
      (k₀.admission.interruptedStop = some id → W.states id .succeeded) ∧
        W.states id .recoveryRequired) :
    Triple (· = k₀) (prepareRelaunch env) (fun _ => Moves W k₀) fun _ => Moves W k₀ := by
  refine .read ?_
  rintro k₁ rfl
  refine .bind (R := fun _ => TakenOver W k₁ k₁.admission) (modifyAdmission_rule ?_)
    fun _ => ?_
  · rintro _ ⟨rfl, -⟩
    exact ⟨_, .refl, rfl, rfl⟩
  refine .ite (fun hstale => .pure ?_) fun _ => ?_
  · rintro _ ⟨k₂, hk₂, ha, rfl⟩
    obtain ⟨hstop, hops⟩ := staleOperations_eq_nil (ha ▸ hstale)
    have : k₂.handedOver none [] k₂.admission.recoveryProtection = k₂ := by
      simp only [handedOver, withAdmission, ← hstop, ← hops]
    rwa [this]
  refine .bind (settleStale_takenOver _ _ hW hS) fun rest => ?_
  refine .ite (fun _ => ?_) fun _ => ?_
  · refine .bind (modifyAdmission_rule ?_) fun _ =>
      .throw fun _ h => h
    rintro _ ⟨⟨k₂, hk₂, ha, rfl⟩, hsub⟩
    refine hk₂.tail (.retain (fun i hi => ?_) fun i hi => ha ▸ hsub i hi)
    cases hstop : k₁.admission.interruptedStop with
    | none => simp [hstop, handedOver] at hi
    | some =>
      simp only [hstop] at hi
      split_ifs at hi with hmem
      · exact ⟨ha ▸ hstop.trans hi, Option.some.inj hi ▸ hmem⟩
      · simp [handedOver] at hi
  · refine ((refresh_rule steady_takenOver).pre fun _ h => h.1).post ?_ fun _ _ h => h
    rintro _ _ ⟨_, b, ⟨k₂, hk₂, ha, rfl⟩, hb, rfl⟩
    have hmove : Move W k₂ (k₂.handedOver none [] b) := .handOver hb
    exact hk₂.tail hmove

end HandOver

section Recover

theorem repairDesired_moves : Keeps (Moves W k₀) (onDisk (repairDesiredAfterQuiescence env)) := by
  refine onDisk_rule fun k => ?_
  have hst : Disk.Steady fun d => Moves W k₀ { k with disk := d } := steady_moves.disk k
  refine .bind ((access_rule hst).fails fun _ _ h => h.1) fun _ => ?_
  refine .get fun d₁ => ?_
  -- the damaged file is set aside first, and stays aside if the new one cannot be written
  have repair (hdam : d₁.store.Damaged) :
      Triple (fun d => d = d₁ ∧ Moves W k₀ { k with disk := d₁ }) (do
        access []
        modify fun d => { d with store := { d.store with
          desired := .absent, quarantined := d.store.quarantined ++ ["desired.json"] } }
        storeDesired env .stopped 0)
      (fun _ d => Moves W k₀ { k with disk := d }) fun _ d => Moves W k₀ { k with disk := d } := by
    let Fits (d : Disk) : Prop := Moves W k₀ { k with disk := d } ∧ d.store.Damaged
    have hfits : Disk.Steady Fits := by
      rintro d d' hq ⟨hd, hdam⟩
      refine ⟨hst d d' hq hd, ?_⟩
      rwa [hq.1]
    let Aside (d : Disk) : Prop := ∃ d', Fits d' ∧
      Quiet { d' with store := { d'.store with desired := .absent } } d
    have haside : Disk.Steady Aside := fun d d' hq ⟨d₂, hd₂, h⟩ => ⟨d₂, hd₂, h.trans hq⟩
    refine .bind (((access_rule hfits).pre ?_).fails fun _ _ h => h.1.1) fun _ => ?_
    · rintro _ ⟨rfl, hd⟩
      exact ⟨hd, hdam⟩
    refine .bind (R := fun _ => Aside)
      (.modify fun d h => ⟨d, h, rfl, List.suffix_rfl⟩) fun _ => ?_
    refine (storeDesired_rule haside .stopped 0).post ?_ ?_
    · rintro _ _ ⟨d', ⟨d₂, ⟨hm, hd₂⟩, hq⟩, rfl⟩
      refine (hm.tail (.repair hd₂)).tail (.quiet ⟨?_, hq.2⟩)
      simp only [Disk.setDesired]
      rw [hq.1]
      rfl
    · rintro _ d ⟨⟨d₂, ⟨hm, hd₂⟩, hq⟩, -⟩
      exact (hm.tail (.asideDesired hd₂)).tail (.quiet hq)
  cases hf : d₁.store.desired with
  | absent | record => exact .pure fun d h => h.1 ▸ h.2
  | undecodable cause => exact repair (.inr (.inr ⟨cause, hf⟩))
  | notObject => exact repair (.inl hf)
  | incomplete => exact repair (.inr (.inl hf))

/-- What a recovery scan knows while the files in `todo` are still to be read: every other open
outcome is live, recovered or blocked, and the recovered files are readable. -/
structure Scanned (live todo : List String) (scan : RecoveryScan) (s : RuntimeStore) : Prop where
  open_outcomes : ∀ id r, s.record? id = some r → r.view.state.isTerminal = false →
    id ∈ todo ∨ id ∈ live ∨ id ∈ scan.recovered ∨ id ∈ scan.blocked
  recovered : ∀ id ∈ scan.recovered, id ∉ todo ∧ ∃ r, s.record? id = some r

variable {live todo : List String} {scan : RecoveryScan}

theorem Scanned.steady : Disk.Steady fun d => Scanned live todo scan d.store := by
  rintro d d' hq ⟨ho, hr⟩
  rw [hq.1]
  exact ⟨ho, hr⟩

variable {s : RuntimeStore}

variable (h : Scanned live (id :: todo) scan s)
include h

theorem Scanned.skip
    (hopen : ∀ r, s.record? id = some r → r.view.state.isTerminal = false → id ∈ live) :
    Scanned live todo scan s := by
  refine ⟨fun i r hr ht => ?_, fun i hi => ?_⟩
  · rcases h.open_outcomes i r hr ht with hi | hi
    · rcases List.mem_cons.mp hi with rfl | hi
      · exact .inr (.inl (hopen r hr ht))
      · exact .inl hi
    · exact .inr hi
  · exact ⟨fun hmem => (h.recovered i hi).1 (.tail _ hmem), (h.recovered i hi).2⟩

theorem Scanned.blocked : Scanned live todo { scan with blocked := scan.blocked ++ [id] } s := by
  refine ⟨fun i r hr ht => ?_, fun i hi => ?_⟩
  · have := h.open_outcomes i r hr ht
    simp only [List.mem_cons, List.mem_append] at this ⊢
    tauto
  · exact ⟨fun hmem => (h.recovered i hi).1 (.tail _ hmem), (h.recovered i hi).2⟩

theorem Scanned.setAside :
    Scanned live todo { scan with quarantined := scan.quarantined ++ [id] } (s.setAside id) := by
  refine ⟨fun i r hr ht => ?_, fun i hi => ?_⟩
  · obtain ⟨f, hf, rfl⟩ := RuntimeStore.record?_eq_some.mp hr
    have hne : i ≠ id := by
      rintro rfl
      simp [RuntimeStore.setAside] at hf
    rw [RuntimeStore.setAside, AList.lookup_erase_ne hne] at hf
    have := h.open_outcomes i f.1 (RuntimeStore.record?_eq_some.mpr ⟨f, hf, rfl⟩) ht
    simpa [hne] using this
  · obtain ⟨hmem, r, hr⟩ := h.recovered i hi
    have hne : i ≠ id := fun h => hmem (h ▸ .head _)
    refine ⟨fun h => hmem (.tail _ h), r, ?_⟩
    rwa [RuntimeStore.record?, RuntimeStore.setAside, AList.lookup_erase_ne hne]

omit h

@[simp]
theorem recoveredRecord_id : (recoveredRecord r).view.operationId = r.view.operationId := by
  unfold recoveredRecord
  split_ifs <;> rfl

theorem Scanned.recover (h : Scanned live (r.view.operationId :: todo) scan s)
    (hid : r.view.operationId ∉ todo) :
    Scanned live todo { scan with recovered := scan.recovered ++ [r.view.operationId] }
      (s.publish (recoveredRecord r)) := by
  refine ⟨fun i r' hr' ht => ?_, fun i hi => ?_⟩
  · by_cases hi : i = r.view.operationId
    · exact .inr (.inr (.inl (by simp [hi])))
    · rw [RuntimeStore.record?_publish_ne (by simpa using hi)] at hr'
      have := h.open_outcomes i r' hr' ht
      simp only [List.mem_cons, List.mem_append] at this ⊢
      tauto
  · rcases List.mem_append.mp hi with hi | hi
    · obtain ⟨hmem, r', hr'⟩ := h.recovered i hi
      have hne : i ≠ (recoveredRecord r).view.operationId := by
        rw [recoveredRecord_id]
        exact fun h => hmem (h ▸ .head _)
      exact ⟨fun h => hmem (.tail _ h), r', by rwa [RuntimeStore.record?_publish_ne hne]⟩
    · obtain rfl : i = r.view.operationId := by simpa using hi
      have hrecord : (s.publish (recoveredRecord r)).record? _ = _ :=
        RuntimeStore.record?_publish_self
      exact ⟨hid, recoveredRecord r, by simpa using hrecord⟩

/-- The assertion of the scan: moves of the kernel, and what is known of the files. -/
def Scanning (W : Settles) (k₀ k : Kernel) (todo : List String)
    (scan : RecoveryScan) (d : Disk) : Prop :=
  Moves W k₀ { k with disk := d } ∧ Scanned k.live todo scan d.store

theorem Scanning.steady : Disk.Steady (Scanning W k₀ k todo scan) :=
  (steady_moves.disk k).and .steady

theorem Scanning.recover {d : Disk} (h : Scanning W k₀ k (r.view.operationId :: todo) scan d)
    (hid : r.view.operationId ∉ todo) (hrec : d.store.record? r.view.operationId = some r)
    (hdead : r.view.operationId ∉ k.live) (hopen : r.view.state.isTerminal = false) :
    Scanning W k₀ k todo { scan with recovered := scan.recovered ++ [r.view.operationId] }
      (d.publish (recoveredRecord r)) := by
  have hmove : Move W { k with disk := d } { k with disk := d.publish (recoveredRecord r) } :=
    .recover hrec hdead hopen
  exact ⟨h.1.tail hmove, h.2.recover hid⟩

theorem Disk.steady_record : Disk.Steady fun d => d.store.record? id = some r := by
  intro d d' hq hd
  rw [hq.1]
  exact hd

theorem storeRecovered_rule (hid : r.view.operationId ∉ todo) (hdead : r.view.operationId ∉ k.live)
    (hopen : r.view.state.isTerminal = false) :
    Triple (fun d => Scanning W k₀ k (r.view.operationId :: todo) scan d ∧
        d.store.record? r.view.operationId = some r)
      (do
        storeOperation (recoveredRecord r)
        return { scan with recovered := scan.recovered ++ [r.view.operationId] })
      (fun scan => Scanning W k₀ k todo scan) fun _ d => Moves W k₀ { k with disk := d } := by
  refine .bind ((storeOperation_rule (Scanning.steady.and Disk.steady_record)).post
    (fun _ _ h => h) ?_) fun _ => .pure ?_
  · rintro e d (h | ⟨d', ⟨hd', hrec⟩, -, hq⟩)
    · exact h.1.1.1
    · exact (hd'.recover hid hrec hdead hopen).1.tail (.quiet hq)
  · rintro _ ⟨d', ⟨hd', hrec⟩, rfl⟩
    exact hd'.recover hid hrec hdead hopen

/-- An unreadable file: its record cannot be decoded, or a fault was drawn. -/
def Unread (W : Settles) (k₀ k : Kernel) (id : String) (d : Disk) : Prop :=
  ∃ d', Moves W k₀ { k with disk := d' } ∧ (d'.store.record? id = none ∨ d'.script ≠ []) ∧
    Quiet d' d

theorem Unread.steady : Disk.Steady (Unread W k₀ k id) :=
  fun _ _ hq ⟨d₂, hd₂, hu, h⟩ => ⟨d₂, hd₂, hu, h.trans hq⟩

variable (hA : W.setsAside)
include hA

theorem Unread.setAside {d : Disk} (h : Unread W k₀ k id d) :
    Moves W k₀ { k with disk := { d with store := d.store.setAside id } } := by
  obtain ⟨d', hd', hu, hq⟩ := h
  have hmove : Move W { k with disk := d' }
      { k with disk := { d' with store := d'.store.setAside id } } := .setAside hu hA
  refine (hd'.tail hmove).tail (.quiet ⟨?_, hq.2⟩)
  simp only [RuntimeStore.setAside]
  rw [hq.1]

theorem reportUnread_rule {E : Anyhow → Disk → Prop} :
    Triple (fun d => Unread W k₀ k id d ∧ Scanned k.live (id :: todo) scan d.store)
      (reportUnreadableRecord id scan) (fun scan => Scanning W k₀ k todo scan) E := by
  refine .bind (R := fun _ d => Unread W k₀ k id d ∧ Scanned k.live (id :: todo) scan d.store)
    (.attempt ((access_rule (Unread.steady.and .steady)).post
      (fun _ _ h => h) fun _ _ h => h.1)) fun moved => ?_
  cases moved with
  | error =>
    refine .pure fun d h => ⟨?_, h.2.blocked⟩
    obtain ⟨d', hd', -, hq⟩ := h.1
    exact steady_moves.disk k d' d hq hd'
  | ok =>
    exact .bind
      (.modify fun d h => ⟨h.1.setAside hA, h.2.setAside⟩) fun _ => .pure fun d h => h

theorem recoverEntry_rule (hid : id ∉ todo) :
    Triple (Scanning W k₀ k (id :: todo) scan) (recoverEntry k.live scan id)
      (fun scan => Scanning W k₀ k todo scan) fun _ d => Moves W k₀ { k with disk := d } := by
  refine .bind ((access_rule .steady).fails fun _ _ h => h.1.1) fun _ => ?_
  refine .bind (R := fun read d => match read with
      | .ok _ => Scanning W k₀ k (id :: todo) scan d
      | .error _ => Unread W k₀ k id d ∧ Scanned k.live (id :: todo) scan d.store)
    (.attempt ((access_rule .steady).fails ?_)) fun read => ?_
  · rintro e d ⟨h, d', hd', hs, hq⟩
    exact ⟨⟨d', hd'.1, .inr hs, hq⟩, h.2⟩
  cases read with
  | error => exact reportUnread_rule hA
  | ok =>
    refine .get fun d₁ => ?_
    cases hl : d₁.store.operations.lookup id with
    | none =>
      refine .pure fun d h => ?_
      obtain ⟨rfl, h⟩ := h
      exact ⟨h.1, h.2.skip fun r hr _ => by simp [RuntimeStore.record?, hl] at hr⟩
    | some file =>
      cases file with
      | error =>
        refine (reportUnread_rule hA).pre ?_
        rintro _ ⟨rfl, h⟩
        exact ⟨⟨_, h.1, .inl (by simp [RuntimeStore.record?, hl]), .refl _⟩, h.2⟩
      | ok f =>
        obtain ⟨op, rfl⟩ := f
        have hrec : d₁.store.record? op.view.operationId = some op := by
          simp [RuntimeStore.record?, hl]
        refine .ite (fun hlive => .pure ?_) fun hdead =>
          .ite (fun hterm => .pure ?_) fun hopen => ?_
        · rintro _ ⟨rfl, h⟩
          exact ⟨h.1, h.2.skip fun _ _ _ => hlive⟩
        · rintro _ ⟨rfl, h⟩
          refine ⟨h.1, h.2.skip fun r hr ht => ?_⟩
          rw [hrec] at hr
          cases hr
          simp [hterm] at ht
        · refine (storeRecovered_rule hid hdead (by simpa using hopen)).pre ?_
          rintro _ ⟨rfl, h⟩
          exact ⟨h, hrec⟩

theorem recoverEntries_rule (ids : List String) (hids : ids.Nodup) :
    Triple (Scanning W k₀ k ids scan) (recoverEntries k.live scan ids)
      (fun scan => Scanning W k₀ k [] scan) fun _ d => Moves W k₀ { k with disk := d } := by
  induction ids generalizing scan with
  | nil => exact .pure fun d h => h
  | cons id ids ih =>
    obtain ⟨hid, hids⟩ := List.nodup_cons.mp hids
    exact .bind (recoverEntry_rule hA hid) fun scan => ih hids

omit hA

structure Recovered (W : Settles) (k₀ : Kernel) (scan : RecoveryScan)
    (k : Kernel) : Prop where
  moves : Moves W k₀ k
  open_outcomes : scan.recovered = [] → scan.blocked = [] → ∀ id, k.Unknown id → id ∈ k.live
  files : ∀ id ∈ scan.recovered, k.Readable id

theorem recoverUnfinished_rule (hA : W.setsAside) {a : AdmissionState} :
    Triple (fun k => Moves W k₀ k ∧ k.admission = a)
      (onDisk (recoverUnfinishedOperations (liveExecutionIds a)))
      (fun scan => Recovered W k₀ scan) fun _ => Moves W k₀ := by
  refine onDisk_rule fun k => ?_
  by_cases ha : k.admission = a
  swap
  · exact fun d h => absurd h.2 ha
  subst ha
  refine .bind (((access_rule (steady_moves.disk k)).pre fun d h => h.1).post
    (fun _ _ h => h) fun _ _ h => h.1) fun _ => ?_
  refine .get fun d₁ => ?_
  refine (recoverEntries_rule hA _ d₁.store.operations.keys_nodup).imp ?_ ?_ fun _ _ h => h
  · rintro _ ⟨rfl, h⟩
    exact ⟨h, fun id r hr _ => .inl (AList.mem_keys.mp (RuntimeStore.record?_mem hr)), by simp⟩
  · rintro scan d ⟨hm, hs⟩
    refine ⟨hm, fun hr hb id ⟨r, hrec, ht⟩ => ?_, fun id hi => (hs.recovered id hi).2⟩
    have hlive : id ∈ k.live := by simpa [hr, hb] using hs.open_outcomes id r hrec ht
    exact hlive

theorem onDisk_admission {ε α : Type} {m : EStateM ε Disk α} {a : AdmissionState} :
    Keeps (fun k => k.admission = a) (onDisk m) := by
  refine onDisk_rule fun k d h => ?_
  cases m d with
  | ok | error => exact h

/-- The marks of the operations in `ids`, whose files are readable, can be restored. -/
def Restorable (W : Settles) (k₀ : Kernel) (ids : List String)
    (k : Kernel) : Prop :=
  Moves W k₀ k ∧ ∀ id ∈ ids, k.Readable id

theorem Restorable.steady {ids : List String} : Steady (Restorable W k₀ ids) := by
  rintro k d hq ⟨hm, hf⟩
  refine ⟨steady_moves k d hq hm, fun id hid => ?_⟩
  obtain ⟨r, hr⟩ := hf id hid
  exact ⟨r, steady_record k d hq hr⟩

/-- Restoring the marks never fails; it protects where a receipt cannot be read. -/
theorem restore_rule (hP : Steady P)
    (hmark : ∀ k, P k → P { k with cancelled := k.cancelled.insert id })
    (hshield : ∀ k, P k → P k.shielded) :
    Triple P (restoreCancellations.restore env id) (fun _ => P) E := by
  refine .bind (R := fun _ => P) (.attempt ?_) fun read => ?_
  · refine .bind ((loadOperation_kernel hP).post (fun _ _ h => h.1)
      fun _ _ h => h.1) fun loaded => ?_
    exact .bind (.require (fun _ _ _ h => h) fun _ _ h => h)
      fun operation => cancellationRecorded_kernel hP
  cases read with
  | ok => exact .onlyIf (fun _ => .modify hmark) fun _ _ h => h
  | error =>
    exact .bind (protect_rule hshield) fun _ => .modify hmark

theorem restoreCancellations_rule (hP : Steady P) (ids : List String)
    (hmark : ∀ k, ∀ id ∈ ids, P k → P { k with cancelled := k.cancelled.insert id })
    (hshield : ∀ k, P k → P k.shielded) :
    Triple P (restoreCancellations env ids) (fun _ => P) E := by
  induction ids with
  | nil => exact .pure fun _ h => h
  | cons id ids ih =>
    exact .bind (restore_rule hP (fun k => hmark k id (.head _)) hshield) fun _ =>
      ih fun k i hi => hmark k i (.tail _ hi)

/-- A recovery that returns: the scan, the protection assessed from it, and the restored marks. -/
theorem recover_rule (hA : W.setsAside) : Triple (Moves W k₀) (recover env)
    (fun _ k => ∃ k₁ ids protection, Moves W k₀ k₁ ∧
      (protection = false → ∀ id, k₁.Unknown id → id ∈ k₁.live) ∧
      Moves W (k₁.withAdmission { k₁.admission with
        recoveredOperations := ids, recoveryProtection := protection }) k)
    fun _ => Moves W k₀ := by
  refine .get fun k₁ => ?_
  refine .bind (((repairDesired_moves).and
    (onDisk_admission (a := k₁.admission))).imp ?_ (fun _ _ h => h) fun _ _ h => h.1) fun _ => ?_
  · rintro _ ⟨rfl, h⟩
    exact ⟨h, rfl⟩
  refine .bind (recoverUnfinished_rule hA) fun scan k₂ hk₂ => ?_
  let protection : Bool := scan.recovered ≠ [] ∨ scan.blocked ≠ [] ∨
    k₂.admission.interruptedOperations ≠ [] ∨ k₂.admission.interruptedStop.isSome
  let ids := scan.recovered.foldl (fun ids id => ids.insert id) k₂.admission.recoveredOperations
  let k₃ := k₂.withAdmission { k₂.admission with
    recoveredOperations := ids, recoveryProtection := protection }
  have sound : protection = false → ∀ id, k₂.Unknown id → id ∈ k₂.live := by
    intro hp
    simp only [protection, ne_eq, decide_eq_false_iff_not, not_or, not_not] at hp
    exact hk₂.open_outcomes hp.1 hp.2.1
  refine Triple.bind (R := fun _ => Restorable W k₃ scan.recovered)
    (restoreCancellations_rule .steady scan.recovered ?_ ?_) (fun _ => Triple.pure ?_) k₃
    ⟨.refl, hk₂.files⟩
  · exact fun k id hid h => ⟨h.1.tail (.cancel (h.2 id hid)), h.2⟩
  · exact fun k h => ⟨h.1.tail .protect, h.2⟩
  · exact fun k h => ⟨k₂, ids, protection, hk₂.moves, sound, h.1⟩

theorem recover_moves (hA : W.setsAside) : Keeps (Moves W k₀) (recover env) := by
  refine (recover_rule hA).post ?_ fun _ _ h => h
  rintro _ k ⟨k₁, ids, protection, hm, sound, hafter⟩
  exact (hm.tail (.assess sound)).trans hafter

end Recover

end Rcoder.Runtime
