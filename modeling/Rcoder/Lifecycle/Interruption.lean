import Rcoder.Lifecycle.Handover

/-!
# Interrupted work does not come back

A control lists the business operations it interrupted. The authority check of those operations
reads only the control that the head of the scope names, so the list has to stay with the head for
as long as one of them is under way.
-/

namespace Rcoder.Lifecycle

open Effect Ledger Operations

variable {act : Act} {L L' : Ledger}

/-- What has this identity among the business operations is over. -/
def Ledger.EndedOne (L : Ledger) (_ : ControlRecord) (id : String) : Prop :=
  ∀ operation, L.operation id = some operation → operation.state.isTerminal = true

variable {control : ControlRecord} {id : String}

theorem Ledger.EndedOne.lasts (h : L.EndedOne control id) (hm : Move act L L') (apart : Apart act L)
    (known : L.Known control id) : L'.EndedOne control id := by
  intro operation ho
  cases hbefore : L.operation id with
  | some before =>
    obtain ⟨later, hl, hlater⟩ := hm.operation_kept hbefore
    obtain rfl := hlater.ended (h before hbefore)
    cases ho.symm.trans hl
    exact h operation hbefore
  | none =>
    -- a new operation cannot take an identity that a control already listed
    have hadmission := hm.operation_new ho hbefore
    obtain ⟨old, hold⟩ | ⟨found, hf, -⟩ := known
    · rw [apart.admission id hadmission] at hold
      cases hold
    · rw [hbefore] at hf
      cases hf

theorem endedOne_lasting : Lasting EndedOne := by
  refine ⟨fun _ _ h => h, fun hm apart _ known h => h.lasts hm apart known, ?_⟩
  intro L control id stored distinct hsettled howed operation ho
  obtain hmem | ⟨-, rfl⟩ := howed
  · obtain ⟨found, hf, -, -, hends, -⟩ | ⟨-, old, hold, -⟩ := hsettled.drained id hmem
    · cases ho.symm.trans hf
      exact hends
    · exact (distinct id operation old ho hold).elim
  · exact (distinct _ operation control ho stored).elim

/-- Every explicit start that finds a stopped head, whose control is no longer live, finds the
business operations that the control interrupted at an end, and no identity is used for both
ledgers. -/
def FreesEnded (s : Store) (op : Op) : Prop :=
  OwnIdentities s op ∧ ReleasesSettled EndedOne s op

/-- An operation that has lost its authority can neither go on nor succeed. -/
structure Revoked (s : Store) (o : String) : Prop where
  advance : ∀ progress : OperationProgress, progress.operationId = o →
    progress.state = .succeeded ∨ progress.state = .waitingRetry ∨
      (progress.state = .running ∧ ∃ before, s.ledger.operation o = some before ∧
        (before.state = .pending ∨ before.state = .waitingRetry)) →
    ∃ e, (store.exec s (.advance progress)).1 = .error e
  commit : ∀ (binding : ResourceBinding) (progress : OperationProgress),
    progress.operationId = o → ∃ e, (store.exec s (.commitResourceBinding binding progress)).1 =
      .error e
  reserve : ∀ snapshot : OperationRecord, snapshot.operationId = o →
    ∃ e, (store.exec s (.reserveCompletedOperation snapshot)).1 = .error e
  bind : ∀ (context : ExecutionContext) (receipt : LeaseReceipt), context.operationId = o →
    ∃ e, (store.exec s (.bindOperationLease context receipt)).1 = .error e

variable {app : LifecycleRecord} {operation : OperationRecord}

theorem Ledger.InSlot.live (h : L.InSlot app operation) (slotted : L.Slotted) :
    operation.state.isTerminal = false := by
  obtain ⟨found, hf, -, -, -, hlive⟩ := (slotted.fits app h.holds).named _ _ h.inSlot
  cases hf.symm.trans h.stored
  exact hlive

/-- The authority check turns down an operation under way that some control interrupted. -/
theorem Ledger.Handed.unauthorized (handed : Handed EndedOne L) (headed : L.Headed)
    (slotted : L.Slotted) (hc : L.control id = some control)
    (hmem : operation.operationId ∈ control.interruptedOperations) (hin : L.InSlot app operation) :
    ¬L.Authorized operation := by
  intro hauth
  have hlive := hin.live slotted
  obtain hended | ⟨head, heir, hh, hlife, hnamed, hheir, hheirs⟩ :=
    handed.owed id control _ hc (.inl hmem)
  · rw [hended operation hin.stored] at hlive
    cases hlive
  · obtain ⟨old, hold⟩ | ⟨found, hf, happ, hflife, hscope⟩ := handed.known id control _ hc hmem
    · exact handed.apart _ operation old hin.stored hold
    · obtain rfl := Option.mem_unique hf hin.stored
      have henv : control.scope ∈ Compute.environments found.scope := by
        obtain ⟨-, hne⟩ := headed.keyed id control hc
        obtain hs | hs := hscope <;> rw [hs] <;> revert hne <;> cases control.scope <;> decide
      rw [← happ] at hh
      exact hauth.heads control.scope henv head heir hh (hlife.trans hflife.symm) hnamed hheir
        hheirs

/-- Once a control has listed an operation as interrupted, the operation stays revoked. -/
theorem revoked_of_interrupted {tr tr' : List (Op × Except StoreError Answer)} {s t : Store}
    (hr : store.Run FreesEnded {} tr s) {id o : String} {control : ControlRecord}
    (hc : s.ledger.control id = some control) (hmem : o ∈ control.interruptedOperations)
    (later : store.Run FreesEnded s tr' t) : Revoked t o := by
  obtain ⟨headed, slotted, handed⟩ := Run.handed endedOne_lasting (fun _ _ h => h.1)
    (fun _ _ h => h.2) (hr.append later)
  obtain ⟨kept, hk, hsame⟩ := (Run.grows later).kept id control hc
  rw [← hsame.interrupted] at hmem
  have hrejects : ∀ app operation, t.ledger.InSlot app operation → operation.operationId = o →
      ¬t.ledger.Authorized operation := by
    intro app operation hin hid
    subst hid
    exact handed.unauthorized headed slotted hk hmem hin
  refine ⟨?_, ?_, ?_, ?_⟩
  · intro progress ho hstate
    cases hexec : (store.exec t (.advance progress)).1 with
    | error e => exact ⟨e, rfl⟩
    | ok =>
      obtain ⟨_, _, ⟨h⟩⟩ := store_answered hexec (gives_respond (gives_advance progress))
      refine (hrejects h.app h.before h.inSlot (h.operationId.trans ho) (h.authorized ?_)).elim
      obtain hs | hs | ⟨hs, before, hb, hwas⟩ := hstate
      · simp [needsAuthority, hs]
      · simp [needsAuthority, hs]
      · have hstored := h.inSlot.stored
        rw [h.operationId, ho, hb] at hstored
        obtain rfl := Option.some.inj hstored
        simpa [needsAuthority, hs] using hwas
  · intro binding progress ho
    cases hexec : (store.exec t (.commitResourceBinding binding progress)).1 with
    | error e => exact ⟨e, rfl⟩
    | ok =>
      obtain ⟨_, _, hs, ⟨h⟩⟩ :=
        store_answered hexec (gives_respond (gives_commitResourceBinding binding progress))
      refine (hrejects h.app h.before h.inSlot (h.operationId.trans ho) (h.authorized ?_)).elim
      simp [needsAuthority, hs]
  · intro snapshot ho
    cases hexec : (store.exec t (.reserveCompletedOperation snapshot)).1 with
    | error e => exact ⟨e, rfl⟩
    | ok =>
      obtain ⟨-, -, ⟨app, hin⟩, hauth, -⟩ := store_answered hexec
        (gives_respond (@Recovery.gives_reserveCompletedOperation t .other snapshot))
      exact (hrejects app snapshot hin ho hauth).elim
  · intro context receipt ho
    cases hexec : (store.exec t (.bindOperationLease context receipt)).1 with
    | error e => exact ⟨e, rfl⟩
    | ok =>
      obtain ⟨_, _, ⟨h⟩⟩ :=
        store_answered hexec (gives_respond (gives_bindOperationLease context receipt))
      exact (hrejects h.app h.operation h.inSlot (h.operationId.trans ho) h.authorized).elim

/-- A stop interrupts a restart under way. -/
def interruptedRestart : List Op :=
  [.admitWithConfiguration (Sample.admission "work" .restart) none none Sample.fresh,
    .advance (Sample.progress "work" 1 .running "restarting" .null),
    .admitControl (Sample.controlRequest "stop" .stop) false 1,
    .claimControl (Sample.executor "stop" 1) 1]

/-- The stop fails while it drains the restart, and an explicit start frees the scope. -/
def freedRestart : List Op :=
  [Sample.failsDraining "stop" 1 2, .checkAccess "app" .prod true]

theorem stop_interrupts_restart :
    ∃ control, (store.after {} interruptedRestart).ledger.control "stop" = some control ∧
      "work" ∈ control.interruptedOperations := by
  have hlists : ((store.after {} interruptedRestart).ledger.control "stop").any
      (fun control => "work" ∈ control.interruptedOperations) = true := by decide +kernel
  obtain ⟨control, hc, hmem⟩ := (Option.any_eq_true _ _).mp hlists
  exact ⟨control, hc, of_decide_eq_true hmem⟩

theorem revoked_of_interrupted_restart :
    Revoked (store.after (store.after {} interruptedRestart) (freedRestart.take 1)) "work" ∧
      ((store.after (store.after {} interruptedRestart) (freedRestart.take 1)).ledger.operation
        "work").any (fun operation => operation.state = .running) = true := by
  have hwork : (store.after {} []).ledger.control "work" = none :=
    Option.isNone_iff_eq_none.mp (by decide +kernel)
  have hstop : (store.after {} (interruptedRestart.take 2)).ledger.operation "stop" = none :=
    Option.isNone_iff_eq_none.mp (by decide +kernel)
  have hfollows : store.Follows FreesEnded {} interruptedRestart :=
    ⟨⟨hwork, trivial⟩, ⟨trivial, trivial⟩, ⟨hstop, trivial⟩, ⟨trivial, trivial⟩, trivial⟩
  obtain ⟨control, hc, hmem⟩ := stop_interrupts_restart
  exact ⟨revoked_of_interrupted (.of_follows hfollows) hc hmem
    (.of_follows ⟨⟨trivial, trivial⟩, trivial⟩), by decide +kernel⟩

/-- After that the interrupted restart reports its success. -/
theorem revoked_restart_succeeds :
    (∃ control, (store.after {} interruptedRestart).ledger.control "stop" = some control ∧
      "work" ∈ control.interruptedOperations) ∧
      ¬Revoked (store.after (store.after {} interruptedRestart) freedRestart) "work" := by
  refine ⟨stop_interrupts_restart, fun hrevoked => ?_⟩
  obtain ⟨e, he⟩ := hrevoked.advance
    (Sample.progress "work" 2 .succeeded "restarted" .null) rfl (.inl rfl)
  have hok : (store.exec (store.after (store.after {} interruptedRestart) freedRestart)
      (.advance (Sample.progress "work" 2 .succeeded "restarted" .null))).1.isOk = true := by
    decide +kernel
  rw [he] at hok
  cases hok

end Rcoder.Lifecycle
