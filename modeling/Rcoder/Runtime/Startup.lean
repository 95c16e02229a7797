import Rcoder.Runtime.Run

/-!
# Startup recovery

A fresh owner recovers the records of its predecessor, completes the persisted Stop, and settles
what is left. On a disk without faults each of the three passes rewrites every record by a
function of its own.
-/

namespace Rcoder.Runtime

open Effect Kernel Machine RuntimeStore List

variable {env : KernelEnv} {id : String} {k k' : Kernel} {d : Disk} {s s' : RuntimeStore}
  {op r : StoredOperation} {f g : StoredOperation → StoredOperation} {todo : List String}
  {D : Disk → Prop}

section Rewriting

def RuntimeStore.AllReadable (s : RuntimeStore) : Prop :=
  ∀ id ∈ s.operations, ∃ r, s.record? id = some r

theorem RuntimeStore.AllReadable.publish (h : s.AllReadable) : (s.publish op).AllReadable := by
  intro i hi
  by_cases heq : i = op.view.operationId
  · exact ⟨op, heq ▸ record?_publish_self⟩
  · obtain ⟨r, hr⟩ := h i (by simpa [RuntimeStore.publish, heq] using hi)
    exact ⟨r, (record?_publish_ne heq).trans hr⟩

/-- Every record is rewritten by `f`. -/
def Rewrites (f : StoredOperation → StoredOperation) (s s' : RuntimeStore) : Prop :=
  ∀ id, s'.record? id = (s.record? id).map f

theorem Rewrites.trans {s'' : RuntimeStore} (h : Rewrites f s s') (h' : Rewrites g s' s'') :
    Rewrites (g ∘ f) s s'' := by
  intro id
  rw [h' id, h id, Option.map_map]

/-- A pass over the records of `s` with `todo` left, on a disk without faults. -/
structure Rewriting (f : StoredOperation → StoredOperation) (s : RuntimeStore)
    (todo : List String) (d : Disk) : Prop where
  calm : d.script = []
  desired : d.store.desired = s.desired ∧ d.store.legacyDesired = s.legacyDesired
  readable : d.store.AllReadable
  records : ∀ id, d.store.record? id = (s.record? id).map fun r => if id ∈ todo then r else f r

theorem Rewriting.steady : Disk.Steady (Rewriting f s todo) := by
  intro d d' hq h
  refine ⟨suffix_nil.mp (h.calm ▸ hq.2), ?_, ?_, ?_⟩ <;> rw [hq.1]
  · exact h.desired
  · exact h.readable
  · exact h.records

theorem Rewriting.start (hcalm : d.script = []) (hread : d.store.AllReadable) :
    Rewriting f d.store d.store.operations.keys d := by
  refine ⟨hcalm, ⟨rfl, rfl⟩, hread, fun id => ?_⟩
  cases hr : d.store.record? id with
  | none => rfl
  | some => simp [AList.mem_keys.mp (record?_mem hr)]

theorem Rewriting.rewrites (h : Rewriting f s [] d) : Rewrites f s d.store := by
  intro id
  simpa using h.records id

theorem Rewriting.next (h : Rewriting f s (id :: todo) d) : d.store.record? id = s.record? id := by
  simpa using h.records id

theorem Rewriting.skip (h : Rewriting f s (id :: todo) d)
    (hsame : ∀ r, s.record? id = some r → f r = r) : Rewriting f s todo d := by
  refine ⟨h.calm, h.desired, h.readable, fun i => ?_⟩
  rw [h.records i]
  refine Option.map_congr fun r hr => ?_
  by_cases hi : i = id
  · subst hi
    simp [hsame r hr]
  · simp [hi]

theorem Rewriting.publish (h : Rewriting f s (r.view.operationId :: todo) d)
    (hid : r.view.operationId ∉ todo) (hr : s.record? r.view.operationId = some r) (hop : f r = op)
    (hsame : op.view.operationId = r.view.operationId) : Rewriting f s todo (d.publish op) := by
  refine ⟨h.calm, h.desired, h.readable.publish, fun i => ?_⟩
  by_cases heq : i = op.view.operationId
  · subst heq
    refine RuntimeStore.record?_publish_self.trans ?_
    simp [hsame, hr, hid, hop]
  · refine (RuntimeStore.record?_publish_ne heq).trans ((h.records i).trans ?_)
    simp [hsame ▸ heq]

theorem not_disk_torn (h : ∀ d, D d → d.script = []) : ¬Disk.Torn D d :=
  fun ⟨d', hd, hs, _⟩ => hs (h d' hd)

/-- Reading the next file of a pass: it is gone, or it holds the record as it was. -/
theorem Rewriting.lookup (h : Rewriting f s (id :: todo) d) :
    (d.store.operations.lookup id = none ∧ s.record? id = none) ∨
      ∃ file, d.store.operations.lookup id = some (.ok file) ∧ s.record? id = some file.1 := by
  cases hl : d.store.operations.lookup id with
  | none => exact .inl ⟨rfl, by rw [← h.next, RuntimeStore.record?, hl]⟩
  | some =>
    obtain ⟨r, hr⟩ := h.readable id (AList.lookup_isSome.mp (by simp [hl]))
    obtain ⟨file', hf, rfl⟩ := record?_eq_some.mp hr
    exact .inr ⟨file', hl.symm.trans hf, h.next ▸ hr⟩

end Rewriting

section Recover

variable {scan : RecoveryScan}

/-- What the recovery makes of a record. -/
def recoveredForm (r : StoredOperation) : StoredOperation :=
  if r.view.state.isTerminal then r else recoveredRecord r

/-- The recovery scan on a readable store: nothing is blocked, and every open outcome that was
scanned is listed. -/
def Recovering (s : RuntimeStore) (todo : List String) (scan : RecoveryScan) (d : Disk) : Prop :=
  Rewriting recoveredForm s todo d ∧ scan.blocked = [] ∧
    ∀ id r, s.record? id = some r → r.view.state.isTerminal = false →
      id ∈ todo ∨ id ∈ scan.recovered

theorem Recovering.steady : Disk.Steady (Recovering s todo scan) :=
  Rewriting.steady.and fun _ _ _ h => h

theorem Recovering.skip (h : Recovering s (id :: todo) scan d)
    (hdone : ∀ r, s.record? id = some r → r.view.state.isTerminal = true) :
    Recovering s todo scan d := by
  refine ⟨h.1.skip fun r hr => by simp [recoveredForm, hdone r hr], h.2.1, fun i r hr hopen => ?_⟩
  rcases h.2.2 i r hr hopen with hi | hi
  · rcases mem_cons.mp hi with rfl | hi
    · simp [hdone r hr] at hopen
    · exact .inl hi
  · exact .inr hi

theorem Recovering.recover (h : Recovering s (r.view.operationId :: todo) scan d)
    (hid : r.view.operationId ∉ todo) (hr : s.record? r.view.operationId = some r)
    (hopen : r.view.state.isTerminal = false) :
    Recovering s todo { scan with recovered := scan.recovered ++ [r.view.operationId] }
      (d.publish (recoveredRecord r)) := by
  refine ⟨h.1.publish hid hr (by simp [recoveredForm, hopen]) recoveredRecord_id, h.2.1,
    fun i r' hr' hopen' => ?_⟩
  have := h.2.2 i r' hr' hopen'
  simp only [mem_cons, mem_append] at this ⊢
  tauto

theorem recoverEntry_calm (hid : id ∉ todo) :
    Triple (Recovering s (id :: todo) scan) (recoverEntry [] scan id) (Recovering s todo)
      fun _ _ => False := by
  have torn {d : Disk} : ¬Disk.Torn (Recovering s (id :: todo) scan) d :=
    not_disk_torn fun _ h => h.1.calm
  refine .bind ((access_rule Recovering.steady).fails fun _ _ h => torn h.2) fun _ => ?_
  refine .bind (R := fun read d => Recovering s (id :: todo) scan d ∧ read = .ok ())
    (.attempt ((access_rule Recovering.steady).post (fun _ _ h => ⟨h, rfl⟩)
      fun _ _ h => absurd h.2 torn)) fun read => ?_
  cases read with
  | error => exact fun _ h => by cases h.2
  | ok =>
    refine .read fun d₁ ⟨hd₁, _⟩ => ?_
    rcases hd₁.1.lookup with ⟨hl, hnone⟩ | ⟨⟨op, rfl⟩, hl, hr⟩
    · rw [hl]
      exact .pure fun d h => h.1 ▸ hd₁.skip fun r hr => by cases hnone.symm.trans hr
    · rw [hl]
      refine .ite (fun hlive => absurd hlive (by simp)) fun _ =>
        .ite (fun hterm => .pure ?_) fun hopen => ?_
      · rintro _ ⟨rfl, -⟩
        refine hd₁.skip fun r hr' => ?_
        rwa [← Option.mem_unique hr hr']
      · refine .bind ((storeOperation_rule Recovering.steady).imp (fun _ h => h.1 ▸ h.2.1)
          (fun _ _ h => h) ?_) fun _ => .pure ?_
        · rintro e d (h | ⟨d', hd', hs, -⟩)
          · exact torn h.2
          · exact hs hd'.1.calm
        · rintro _ ⟨d', hd', rfl⟩
          exact hd'.recover hid hr (by simpa using hopen)

theorem recoverEntries_calm (ids : List String) (hids : ids.Nodup) :
    Triple (Recovering s ids scan) (recoverEntries [] scan ids) (Recovering s [])
      fun _ _ => False := by
  induction ids generalizing scan with
  | nil => exact .pure fun d h => h
  | cons id ids ih =>
    obtain ⟨hid, hids⟩ := nodup_cons.mp hids
    exact .bind (recoverEntry_calm hid) fun scan => ih hids

/-- The store with its intent file repaired: same records, same intent. -/
structure Repaired (s : RuntimeStore) (d : Disk) : Prop where
  calm : d.script = []
  intact : ¬d.store.Damaged
  desired : d.store.currentDesired = s.currentDesired
  operations : d.store.operations = s.operations

theorem Repaired.steady : Disk.Steady (Repaired s) := by
  intro d d' hq h
  refine ⟨suffix_nil.mp (h.calm ▸ hq.2), ?_, ?_, ?_⟩ <;> rw [hq.1]
  · exact h.intact
  · exact h.desired
  · exact h.operations

/-- A damaged intent file reads as Stopped at revision 0, and is replaced by just that. -/
theorem repairDesired_calm : Triple (· = ⟨s, []⟩) (repairDesiredAfterQuiescence env)
    (fun _ => Repaired s) fun _ _ => False := by
  rintro _ rfl
  obtain ⟨operations, quarantined, desired, legacyDesired, cancellations, events⟩ := s
  cases desired
  all_goals
    refine .mk rfl ?_ rfl rfl
    rintro (h | h | ⟨cause, h⟩) <;> cases h

/-- A startup pass is done: the records of `s` are rewritten by `f`, and no slot is occupied. -/
structure Stage (s : RuntimeStore) (f : StoredOperation → StoredOperation) (k : Kernel) : Prop where
  calm : k.Calm
  intact : ¬k.disk.store.Damaged
  desired : k.disk.store.currentDesired = s.currentDesired
  readable : k.disk.store.AllReadable
  rewrites : Rewrites f s k.disk.store
  idle : k.live = []

/-- Every open outcome is one the recovery has taken over. -/
def Listed (k : Kernel) : Prop := ∀ id, k.Unknown id → id ∈ k.admission.recoveredOperations

theorem Stage.steady : Steady (Stage s f) := by
  intro k d hq h
  refine ⟨steady_calm k d hq h.calm, ?_, ?_, ?_, ?_, h.idle⟩ <;> rw [hq.1]
  · exact h.intact
  · exact h.desired
  · exact h.readable
  · exact h.rewrites

theorem Listed.steady : Steady Listed :=
  fun _ _ hq h id hu => h id ((Quietly.unknown ⟨rfl, hq⟩).mp hu)

theorem mem_foldl_insert (ids : List String) {acc : List String} (h : id ∈ acc ∨ id ∈ ids) :
    id ∈ ids.foldl (fun acc i => acc.insert i) acc := by
  induction ids generalizing acc with
  | nil => simpa using h
  | cons i ids ih =>
    refine ih ?_
    simp only [mem_insert_iff, mem_cons] at h ⊢
    tauto

theorem recoverUnfinished_calm (hread : s.AllReadable) :
    Triple (fun k => k.admission = {} ∧ Repaired s k.disk)
      (onDisk (recoverUnfinishedOperations []))
      (fun scan k => (k.admission = {} ∧ Stage s recoveredForm k) ∧
        ∀ id, k.Unknown id → id ∈ scan.recovered) fun _ _ => False := by
  refine onDisk_rule fun k => ?_
  by_cases hk : k.admission = {}
  swap
  · exact fun _ h => absurd h.1 hk
  refine .bind ((access_rule Repaired.steady).imp (fun _ h => h.2)
    (fun _ _ h => h) fun _ _ h => not_disk_torn (fun _ h => h.calm) h.2) fun _ => ?_
  refine .read fun d₁ hd₁ => ?_
  have hrecord (i : String) : d₁.store.record? i = s.record? i := by
    simp only [RuntimeStore.record?, hd₁.operations]
  have hread₁ : d₁.store.AllReadable := by
    intro i hi
    rw [hd₁.operations] at hi
    rw [hrecord]
    exact hread i hi
  refine (recoverEntries_calm (s := d₁.store) _ d₁.store.operations.keys_nodup).imp ?_ ?_
    fun _ _ h => h
  · rintro _ ⟨rfl, -⟩
    refine ⟨.start hd₁.calm hread₁, rfl, fun i r hr _ => .inl ?_⟩
    exact AList.mem_keys.mp (record?_mem hr)
  · rintro scan d ⟨hd, -, hlisted⟩
    have hrewrites : Rewrites recoveredForm s d.store := fun i => hrecord i ▸ hd.rewrites i
    refine ⟨⟨hk, hd.calm, ?_, ?_, hd.readable, hrewrites, ?_⟩, ?_⟩
    · rw [Damaged, hd.desired.1]
      exact hd₁.intact
    · rw [← hd₁.desired, currentDesired, hd.desired.1, hd.desired.2]
      rfl
    · simp [Kernel.live, hk, liveExecutionIds]
    · rintro i ⟨r, hr, hopen⟩
      obtain ⟨r₀, hr₀, rfl⟩ := Option.map_eq_some_iff.mp ((hrewrites i).symm.trans hr)
      refine (hlisted i r₀ ((hrecord i).trans hr₀) ?_).resolve_left (by simp)
      by_contra hterm
      rw [Bool.not_eq_false] at hterm
      simp [recoveredForm, hterm] at hopen

theorem recover_stage {identity : RuntimeIdentityView} (hread : s.AllReadable) :
    Triple (· = Kernel.new s identity) (recover env)
      (fun _ k => Stage s recoveredForm k ∧ Listed k) fun _ _ => False := by
  refine .read ?_
  rintro k₁ rfl
  refine .bind (R := fun _ k => k.admission = {} ∧ Repaired s k.disk)
    (.zoom fun k hk => ?_) fun _ => ?_
  · obtain rfl := hk.1
    exact repairDesired_calm.post (fun _ _ h => ⟨rfl, h⟩) fun _ _ h => h
  refine .bind (recoverUnfinished_calm hread) fun scan => ?_
  have hst : Steady fun k => Stage s recoveredForm k ∧ Listed k := Stage.steady.and .steady
  refine .bind (R := fun _ k => Stage s recoveredForm k ∧ Listed k)
    (modifyAdmission_rule ?_) fun _ => ?_
  · rintro k ⟨⟨hk, hstage⟩, hlisted⟩
    exact ⟨{ hstage with }, fun id hid => mem_foldl_insert _ (.inr (hlisted id hid))⟩
  · exact .bind (restoreCancellations_rule hst _ (fun _ _ _ h => ⟨{ h.1 with }, h.2⟩)
      fun _ h => ⟨{ h.1 with }, h.2⟩) fun _ => .pure fun _ h => h

end Recover

section Reconcile

/-- What completing the persisted Stop makes of a record. -/
def reconciledForm (current : DesiredState × Nat) (r : StoredOperation) : StoredOperation :=
  if current.1 = .stopped ∧ claimsStop current.2 r = true then confirmedStop r else r

theorem Stage.publish (h : Stage s f k) (hr : k.record? op.view.operationId = some r)
    (hop : g r = op) (hother : ∀ i r', k.record? i = some r' → i ≠ op.view.operationId → g r' = r') :
    Stage s (g ∘ f) (k.publish op) := by
  refine ⟨h.calm, h.intact, h.desired, h.readable.publish, h.rewrites.trans fun i => ?_, h.idle⟩
  by_cases heq : i = op.view.operationId
  · subst heq
    exact RuntimeStore.record?_publish_self.trans
      ((congrArg some hop).symm.trans (congrArg (Option.map g) hr).symm)
  · refine (RuntimeStore.record?_publish_ne heq).trans ?_
    cases hr' : k.disk.store.record? i with
    | none => rfl
    | some r' => exact congrArg some (hother i r' hr' heq).symm

/-- A pass that leaves every record as it is. -/
theorem Stage.same (h : Stage s f k) (hsame : ∀ i r, k.record? i = some r → g r = r) :
    Stage s (g ∘ f) k := by
  refine ⟨h.calm, h.intact, h.desired, h.readable, h.rewrites.trans fun i => ?_, h.idle⟩
  cases hr : k.disk.store.record? i with
  | none => rfl
  | some r => exact congrArg some (hsame i r hr).symm

theorem Listed.publish (h : Listed k) (hop : op.view.state.isTerminal = true) :
    Listed (k.publish op) := by
  intro i hu
  rcases unknown_publish_iff.mp hu with ⟨-, hopen⟩ | ⟨-, hu⟩
  · simp [hop] at hopen
  · exact h i hu

theorem reconcileQuiescedStop_stage :
    Triple (fun k => Stage s f k ∧ Listed k) (reconcileQuiescedStop env)
      (fun _ k => Stage s (reconciledForm s.currentDesired ∘ f) k ∧ Listed k)
      fun _ _ => True := by
  have hst : Steady fun k => Stage s f k ∧ Listed k := Stage.steady.and .steady
  refine .get fun k₁ => ?_
  refine .bind (R := fun _ k => Stage s f k ∧ Listed k)
    (.ensure (fun _ _ h => h.1 ▸ h.2) fun _ _ _ => trivial) fun _ => ?_
  refine .bind (R := fun current k => (Stage s f k ∧ Listed k) ∧ current = s.currentDesired)
    ((loadDesired_kernel hst).post (fun _ _ h => ⟨h.1, h.2.trans h.1.1.desired⟩)
      fun _ _ _ => trivial) fun current => ?_
  obtain ⟨desired, revision⟩ := current
  by_cases hcurrent : (desired, revision) = s.currentDesired
  swap
  · exact fun _ h => absurd h.2 hcurrent
  rw [← hcurrent]
  refine .ite (fun hrunning => .pure ?_) fun hstopped => ?_
  · rintro k ⟨hk, -⟩
    exact ⟨hk.1.same fun _ _ _ => by simp [reconciledForm, hrunning], hk.2⟩
  refine .bind (((scanStops_rule hst).pre fun _ h => h.1).fails
    fun _ _ _ => trivial) fun found => ?_
  have unclaimed {r : StoredOperation} (h : ¬claimsStop revision r = true) :
      reconciledForm (desired, revision) r = r := by simp [reconciledForm, h]
  cases found with
  | none =>
    refine .pure ?_
    rintro k ⟨hk, hcandidate⟩
    refine ⟨hk.1.same fun i r hr => unclaimed fun hclaims => ?_, hk.2⟩
    rcases hcandidate.only i r hr hclaims with h | h <;> simp at h
  | some op =>
    let Confirmed (k : Kernel) : Prop := Stage s (reconciledForm (desired, revision) ∘ f) k ∧ Listed k
    have hst' : Steady Confirmed := Stage.steady.and .steady
    have hcandidate : Steady fun k => Candidate revision [] (some op) k.disk.store := by
      intro k d hq h
      rw [hq.1]
      exact { h with }
    refine .bind (R := fun _ => Confirmed) ((storeOperation_kernel (hst.and hcandidate)).post
      ?_ fun _ _ _ => trivial) fun _ => ?_
    · rintro _ _ ⟨k, ⟨hk, hcandidate⟩, rfl⟩
      obtain ⟨hr, hclaims⟩ := hcandidate.claims op rfl
      refine ⟨hk.1.publish hr (by simp [reconciledForm, not_not.mp hstopped, hclaims]) ?_,
        hk.2.publish rfl⟩
      refine fun i r' hr' hne => unclaimed fun hclaims' => hne ?_
      rcases hcandidate.only i r' hr' hclaims' with h | h
      · simp at h
      · obtain rfl := Option.some.inj h
        exact (record?_id hr').symm
    · refine .bind (emitTerminalRecord_rule hst') fun _ => ?_
      refine .bind ((refresh_rule hst').post ?_ fun _ _ h => h)
        fun _ => .pure fun _ h => h
      rintro _ _ ⟨k₁, b, hk₁, -, rfl⟩
      exact ⟨{ hk₁.1 with }, hk₁.2⟩

end Reconcile

section Settle

/-- What the settlement makes of a recovered record: a Stop keeps its recovery state, since a
settlement never overwrites one. -/
def settledForm (r : StoredOperation) : StoredOperation :=
  if r.view.state.isTerminal ∨ r.view.kind = .stop then r else interruptedRecord r

/-- The settlement with `todo` left: every open outcome is in recovery, and taken over. -/
structure Settling (s : RuntimeStore) (todo : List String) (k : Kernel) : Prop where
  pass : Rewriting settledForm s todo k.disk
  unknown : ∀ id r, s.record? id = some r → r.view.state.isTerminal = false →
    r.view.state = .recoveryRequired
  listed : ∀ id ∈ todo, ∀ r, s.record? id = some r → r.view.state.isTerminal = false →
    id ∈ k.admission.recoveredOperations
  idle : k.live = []

theorem Settling.steady : Steady (Settling s todo) :=
  fun k d hq h => { h with pass := .steady k.disk d hq h.pass }

theorem Settling.mayResolve (h : Settling s (id :: todo) k) (hr : s.record? id = some r)
    (hopen : r.view.state.isTerminal = false) : k.admission.mayResolve r = true := by
  have hid := record?_id hr
  have hlisted := h.listed id (.head _) r hr hopen
  have hidle := h.idle
  simp only [Kernel.live, liveExecutionIds, append_eq_nil_iff, Option.toList_eq_nil_iff] at hidle
  simp [AdmissionState.mayResolve, hopen, hid, hlisted, hidle]

theorem Settling.skip (h : Settling s (id :: todo) k)
    (hsame : ∀ r, s.record? id = some r → settledForm r = r) : Settling s todo k :=
  { h with pass := h.pass.skip hsame, listed := fun i hi => h.listed i (.tail _ hi) }

theorem resolve_calm (hid : r.view.operationId ∉ todo) (hr : s.record? r.view.operationId = some r)
    (hopen : r.view.state.isTerminal = false) :
    Triple (Settling s (r.view.operationId :: todo)) (settleEntry.resolve env r)
      (fun _ => Settling s todo) fun _ _ => False := by
  have torn {k : Kernel} : ¬Torn (Settling s (r.view.operationId :: todo)) k :=
    not_torn fun _ h => h.pass.calm
  refine .bind (R := fun _ => Settling s (r.view.operationId :: todo))
    (.attempt (cancellationRecorded_kernel .steady)) fun recorded => ?_
  refine .ite (fun hkind => ?_) fun hkind => ?_
  · have same : ∀ r', s.record? r.view.operationId = some r' → settledForm r' = r' := by
      intro r' hr'
      obtain rfl : r = r' := Option.mem_unique hr hr'
      simp [settledForm, hkind]
    refine .bind
      ((writeTerminal_rule .steady).post ?_ ?_) fun _ => .pure fun _ h => h
    · rintro stored k (⟨hk, -⟩ | ⟨k₁, r', hk₁, hr', hopen', -⟩)
      · exact hk.skip same
      · obtain rfl : r = r' := Option.mem_unique hr (hk₁.pass.next ▸ hr')
        exact absurd (.inr (hk₁.unknown _ r hr hopen)) hopen'
    · rintro e k (⟨hk, htorn | hnone | hstate⟩ | ⟨k₁, r', hk₁, hs, -⟩)
      · exact torn htorn
      · rw [Kernel.record?, hk.pass.next, hr] at hnone
        cases hnone
      · exact hstate (.inl rfl)
      · exact hs hk₁.pass.calm
  · refine .bind (R := fun _ => Settling s todo)
      ((storeOperation_kernel .steady).post ?_ ?_) fun _ => ?_
    · rintro _ _ ⟨k, hk, rfl⟩
      exact { hk with
        pass := hk.pass.publish hid hr (by simp [settledForm, hopen, hkind]) interruptedRecord_id
        listed := fun i hi => hk.listed i (.tail _ hi) }
    · rintro e k (h | ⟨k', hk', hs, -⟩)
      · exact torn h.2
      · exact hs hk'.pass.calm
    · exact .bind (.onlyIf
        (fun _ => .modify fun _ h => { h with }) fun _ _ h => h) fun _ =>
        emitTerminalRecord_rule .steady

theorem settleEntry_calm (hid : id ∉ todo) :
    Triple (Settling s (id :: todo)) (settleEntry env id) (fun _ => Settling s todo)
      fun _ _ => False := by
  have torn {k : Kernel} : ¬Torn (Settling s (id :: todo)) k := not_torn fun _ h => h.pass.calm
  refine .bind ((access_kernel Settling.steady).fails fun _ _ h => torn h.2) fun _ => ?_
  refine .bind (R := fun read k => Settling s (id :: todo) k ∧ read = .ok ())
    (.attempt ((access_kernel Settling.steady).post (fun _ _ h => ⟨h, rfl⟩)
      fun _ _ h => absurd h.2 torn)) fun read => ?_
  cases read with
  | error => exact fun _ h => by cases h.2
  | ok =>
    refine .read fun k₁ ⟨hk₁, _⟩ => ?_
    rcases hk₁.pass.lookup with ⟨hl, hnone⟩ | ⟨⟨op, rfl⟩, hl, hr⟩
    · rw [hl]
      exact .pure fun k h => h.1 ▸ hk₁.skip fun r hr => by cases hnone.symm.trans hr
    · rw [hl]
      cases hopen : op.view.state.isTerminal with
      | true =>
        refine .ite (fun hmay => ?_) fun _ => .pure fun k h => h.1 ▸ hk₁.skip fun r hr' => ?_
        · simp [AdmissionState.mayResolve, hopen] at hmay
        · obtain rfl : op = r := Option.mem_unique hr hr'
          simp [settledForm, hopen]
      | false =>
        refine .ite (fun _ => ?_) fun hnot => absurd (hk₁.mayResolve hr hopen) hnot
        refine .bind ((resolve_calm hid hr hopen).pre fun _ h => h.1 ▸ hk₁) fun _ => ?_
        refine .bind (modifyAdmission_rule ?_) fun _ =>
          .pure fun _ h => h
        intro k hk
        refine { hk with listed := fun i hi r hr hopen => ?_ }
        have hne : i ≠ op.view.operationId := fun heq => hid (heq ▸ hi)
        simpa [hne] using hk.listed i hi r hr hopen

theorem settleEntries_calm (ids : List String) (hids : ids.Nodup) :
    Triple (Settling s ids) (settleEntries env ids) (fun _ => Settling s []) fun _ _ => False := by
  induction ids with
  | nil => exact .pure fun _ h => h
  | cons id ids ih =>
    obtain ⟨hid, hids⟩ := nodup_cons.mp hids
    exact .bind (settleEntry_calm hid) fun settled => .bind (ih hids) fun rest =>
      .pure fun _ h => h

/-- A scan that meets only terminal records answers `false`. -/
theorem scanUnresolved_done (hD : Disk.Steady D) (hcalm : ∀ d, D d → d.script = [])
    (live ids : List String) (hdone : ∀ d, D d → ∀ id ∈ ids, ∃ r, d.store.record? id = some r ∧
      r.view.state.isTerminal = true) :
    Triple D (scanUnresolved live ids) (fun b d => D d ∧ b = false) fun _ _ => False := by
  induction ids with
  | nil => exact .pure fun d h => ⟨h, rfl⟩
  | cons id ids ih =>
    refine .bind ((access_rule hD).fails fun _ _ h => not_disk_torn hcalm h.2) fun _ => ?_
    refine .bind ((access_rule hD).fails fun _ _ h => not_disk_torn hcalm h.2) fun _ => ?_
    refine .read fun d₁ hd₁ => ?_
    obtain ⟨r, hr, hterm⟩ := hdone d₁ hd₁ id (.head _)
    obtain ⟨file, hl, rfl⟩ := record?_eq_some.mp hr
    have rest := (ih fun d hd i hi => hdone d hd i (.tail _ hi)).pre
      (fun d (h : d = d₁ ∧ D d₁) => h.1 ▸ h.2)
    rw [hl]
    exact .ite (fun _ => rest) fun _ =>
      .ite (fun _ => rest) fun hopen => absurd hterm hopen

/-- The protection is dropped once every record is terminal. -/
theorem refresh_done : Triple (fun k => Stage s f k ∧ ∀ id, ¬k.Unknown id)
    (refreshRecoveryProtection : KernelM Unit)
    (fun _ k => Stage s f k ∧ k.admission.recoveryProtection = false) fun _ _ => False := by
  have hst : Steady fun k => Stage s f k ∧ ∀ id, ¬k.Unknown id :=
    Stage.steady.and fun k d hq h id => steady_unknown k d hq (h id)
  refine .get fun k₁ => ?_
  refine .bind (R := fun found k => (Stage s f k ∧ ∀ id, ¬k.Unknown id) ∧ found = .ok false)
    (.attempt ?_) fun found => ?_
  · refine onDisk_rule fun k => ?_
    have hcalm : ∀ d, (Stage s f { k with disk := d } ∧ ∀ id, ¬{ k with disk := d }.Unknown id) →
        d.script = [] := fun d h => h.1.calm
    refine .bind ((access_rule (hst.disk k)).imp (fun d h => h.1 ▸ h.2) (fun _ _ h => h)
      fun _ _ h => absurd h.2 (not_disk_torn hcalm)) fun _ => .get fun d₁ => ?_
    refine (scanUnresolved_done ((hst.disk k).and
      (Disk.steady_operations d₁.store.operations)) (fun d h => hcalm d h.1) _ _ ?_).imp
      ?_ ?_ fun _ _ h => h.elim
    · rintro d ⟨⟨hstage, hdone⟩, hops⟩ i hi
      obtain ⟨r, hr⟩ := hstage.readable i (hops ▸ AList.mem_keys.mpr hi)
      refine ⟨r, hr, ?_⟩
      by_contra hopen
      exact hdone i ⟨r, hr, by simpa using hopen⟩
    · rintro _ ⟨rfl, h⟩
      exact ⟨h, rfl⟩
    · rintro b d ⟨⟨h, -⟩, rfl⟩
      exact ⟨h, rfl⟩
  · cases found with
    | error => exact fun _ h => by cases h.2
    | ok b =>
      refine modifyAdmission_rule fun k h => ?_
      obtain rfl : b = false := Except.ok.inj h.2
      exact ⟨{ h.1.1 with }, rfl⟩

theorem settleUnresolved_stage (hunknown : ∀ r, (f r).view.state.isTerminal = false →
      (f r).view.state = .recoveryRequired) :
    Triple (fun k => Stage s f k ∧ Listed k) (settleUnresolvedRecoveries env)
      (fun _ k => Stage s (settledForm ∘ f) k ∧
        ((∀ id, ¬k.Unknown id) → k.admission.recoveryProtection = false))
      fun _ _ => False := by
  have hst : Steady fun k => Stage s f k ∧ Listed k := Stage.steady.and Listed.steady
  refine .bind ((access_kernel hst).fails
    fun _ _ h => not_torn (fun _ h => h.1.calm) h.2) fun _ => .get fun k₁ => ?_
  by_cases hk₁ : Stage s f k₁ ∧ Listed k₁
  swap
  · exact fun _ h => absurd h.2 hk₁
  obtain ⟨hstage, hlisted⟩ := hk₁
  refine .bind (R := fun _ => Stage s (settledForm ∘ f))
    ((settleEntries_calm (s := k₁.disk.store) _ k₁.disk.store.operations.keys_nodup).imp ?_ ?_
      fun _ _ h => h) fun settled => ?_
  · rintro _ ⟨rfl, -⟩
    refine ⟨.start hstage.calm hstage.readable, fun id r hr hopen => ?_,
      fun id _ r hr hopen => hlisted id ⟨r, hr, hopen⟩, hstage.idle⟩
    obtain ⟨r₀, -, rfl⟩ := Option.map_eq_some_iff.mp ((hstage.rewrites id).symm.trans hr)
    exact hunknown r₀ hopen
  · rintro _ k hk
    refine ⟨hk.pass.calm, ?_, ?_, hk.pass.readable, hstage.rewrites.trans hk.pass.rewrites, hk.idle⟩
    · rw [Damaged, hk.pass.desired.1]
      exact hstage.intact
    · rw [← hstage.desired, currentDesired, hk.pass.desired.1, hk.pass.desired.2]
      rfl
  refine .bind ?_ fun _ => .pure fun _ h => h
  intro k hk
  by_cases hdone : ∀ id, ¬k.Unknown id
  · exact refresh_done.post (fun _ _ h => ⟨h.1, fun _ => h.2⟩) (fun _ _ h => h) k ⟨hk, hdone⟩
  · obtain ⟨id, hu⟩ := not_forall_not.mp hdone
    have hst' : Steady fun k => Stage s (settledForm ∘ f) k ∧ k.Unknown id :=
      Stage.steady.and fun k d hq h => (Quietly.unknown ⟨rfl, hq⟩).mpr h
    refine (refresh_rule hst').post ?_ (fun _ _ h => h) k ⟨hk, hu⟩
    rintro _ _ ⟨k₂, b, ⟨hk₂, hu₂⟩, -, rfl⟩
    exact ⟨{ hk₂ with }, fun hdone => absurd hu₂ (hdone id)⟩

end Settle

end Rcoder.Runtime
