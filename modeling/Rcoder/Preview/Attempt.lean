import Mathlib.Logic.Function.Basic
import Rcoder.Lib.Machine
import Rcoder.Preview.Types

/-!
# A start attempt and those who stop it

The task of one owned start attempt, step by step, beside any number of callers that cancel it and
wait for the end of its execution. The store and the executor answer whatever they like. Accesses
to the shared fields are single steps; the phase is only touched under its lock, the cancellation
flag and the completion are read without it.
-/

namespace Rcoder.Preview.Startup

inductive PreviewCoordinationError
  | unavailable (detail : String)
  | conflict (detail : String)
  | invalid (detail : String)
  | business (code message : String)
  deriving DecidableEq, Repr

def PreviewCoordinationError.display : PreviewCoordinationError → String
  | unavailable detail => "preview coordination unavailable: " ++ detail
  | conflict detail => "preview operation conflict: " ++ detail
  | invalid detail => "invalid preview request: " ++ detail
  | business code message => "preview business rejection (" ++ code ++ "): " ++ message

def storeError : PreviewStoreError → PreviewCoordinationError
  | .unavailable detail => .unavailable ("preview store: " ++ detail)
  | .conflict detail => .conflict detail
  | .invalid detail => .invalid detail

structure PreviewStartEnvelope where
  message : String
  projectId : String
  pid : Int
  port : Nat
  deriving DecidableEq, Repr

inductive StartupResult
  | ready (envelope : PreviewStartEnvelope)
  | error (e : PreviewCoordinationError)
  deriving DecidableEq, Repr

inductive StartupPhase
  | admitting
  | idle
  | running
  | finished
  deriving DecidableEq, Repr

inductive ExecutorStopOutcome
  | stopped
  | notRegistered
  | identityMismatch
  deriving DecidableEq, Repr

inductive Started
  | ready (pid : Int) (port : Nat)
  | portInUse (detail : String)
  | business (code message : String)
  | failed (detail : String)
  deriving DecidableEq, Repr

def startPortAttempts : Nat := 3

def startEnvelope (row : PreviewInstanceRecord) : PreviewStartEnvelope :=
  ⟨"Development server started", row.projectId, row.pid.getD 0, row.port.getD 0⟩

def defaultBase (port : Nat) : String := "/proxy/" ++ toString port ++ "/"

def existingReady (row : PreviewInstanceRecord) (requested : Option String) : StartupResult :=
  if requested.isSome ∧ row.basePath.or (row.port.map defaultBase) ≠ requested then
    .error (.conflict "preview instance already uses a different base path")
  else .ready (startEnvelope row)

def nextCandidate (prev : Nat) : Nat :=
  let next := if previewPortMax ≤ prev then previewPortMin else prev + 1
  if previewPortReservedMin ≤ next ∧ next ≤ previewPortReservedMax then previewPortReservedMax + 1
  else next

/-- The search for a free port: found, back at the port it began with, or out of `fuel`. -/
def searchPort (occupied : List Nat) (previous : Nat) : Nat → Nat → Option (Option Nat)
  | 0, _ => none
  | fuel + 1, port =>
    if port ∈ occupied then
      if nextCandidate port = previous then some none
      else searchPort occupied previous fuel (nextCandidate port)
    else some (some port)

/-- Where the task goes on once the phase is idle again. -/
inductive AfterIdle
  | admitted (attempt : Nat) (record : PreviewInstanceRecord)
  | native (attempt : Nat) (record : PreviewInstanceRecord) (started : Started)
  deriving DecidableEq, Repr

inductive Pc
  | entry
  | accepting
  | admitted (attempt : Nat) (record : PreviewInstanceRecord)
  | idleWait (rest : AfterIdle)
  | idleRead (rest : AfterIdle)
  | idleDone (rest : AfterIdle)
  | head (attempt : Nat) (record : PreviewInstanceRecord)
  | confirm (attempt : Nat) (record : PreviewInstanceRecord)
  | confirming (attempt : Nat) (record : PreviewInstanceRecord)
  | refused (record : PreviewInstanceRecord) (e : PreviewCoordinationError)
  | ticket (attempt : Nat) (record : PreviewInstanceRecord)
  | beginWait (attempt : Nat) (record : PreviewInstanceRecord)
  | beginRead (attempt : Nat) (record : PreviewInstanceRecord)
  | beginDone (attempt : Nat) (record : PreviewInstanceRecord)
  | launching (attempt : Nat) (record : PreviewInstanceRecord)
  | native (attempt : Nat) (record : PreviewInstanceRecord)
  | drained (attempt : Nat) (record : PreviewInstanceRecord) (started : Started)
  | portsCheck (attempt : Nat) (record : PreviewInstanceRecord) (previous : Nat)
  | ports (attempt : Nat) (record : PreviewInstanceRecord) (previous : Nat)
  | moveCheck (attempt : Nat) (record : PreviewInstanceRecord) (input : PreviewStartPortRetry)
  | moving (attempt : Nat) (record : PreviewInstanceRecord) (input : PreviewStartPortRetry)
  | publish (record : PreviewInstanceRecord) (pid : Int) (port : Nat)
  | publishing (record : PreviewInstanceRecord) (pid : Int) (port : Nat)
  | published (record row : PreviewInstanceRecord)
  | superseded (record : PreviewInstanceRecord) (e : PreviewCoordinationError)
  | fail (record : PreviewInstanceRecord) (e : PreviewCoordinationError)
  | marking (record : PreviewInstanceRecord) (e : PreviewCoordinationError)
  | rereading (record : PreviewInstanceRecord) (e : PreviewCoordinationError)
  | cancelled (record : PreviewInstanceRecord)
  | settle (record : PreviewInstanceRecord) (result : StartupResult)
  | settling (record : PreviewInstanceRecord) (result : StartupResult)
  | unknown (record : PreviewInstanceRecord) (e : PreviewCoordinationError)
  | successor (record : PreviewInstanceRecord) (e : PreviewCoordinationError)
  | finishing (result : StartupResult)
  | finished (result : StartupResult)
  /-- The task has returned, or it has ended without a result. -/
  | ended (result : Option StartupResult)
  deriving DecidableEq, Repr

def AfterIdle.next : AfterIdle → Pc
  | admitted attempt record => .head attempt record
  | native attempt record started => .drained attempt record started

/-- Who holds the lock of the phase. -/
inductive Holder
  | free
  | attempt
  | canceller (caller : Nat)
  deriving DecidableEq, Repr

/-- The task that waits for the end of the attempt. -/
inductive Observer
  | waiting
  | closing
  | closed
  deriving DecidableEq, Repr

inductive Stage
  | fresh
  | cancelled
  | waited
  deriving DecidableEq, Repr

structure OwnedStartAttempt where
  cancelled : Bool
  phase : StartupPhase
  admitted : Option PreviewInstanceRecord
  executionDone : Bool
  lock : Holder
  pc : Pc
  observer : Observer
  stage : Nat → Stage

def OwnedStartAttempt.new : OwnedStartAttempt where
  cancelled := false
  phase := .admitting
  admitted := none
  executionDone := false
  lock := .free
  pc := .entry
  observer := .waiting
  stage := fun _ => .fresh

inductive Reply
  | none
  | accepted (r : Except PreviewStoreError AcceptStartOutcome)
  | got (r : Except PreviewStoreError (Option PreviewInstanceRecord))
  | ports (r : Except PreviewStoreError (List Nat))
  | written (r : Except PreviewStoreError PreviewInstanceRecord)
  | started (r : Started)
  | stopped (r : Except String ExecutorStopOutcome)

inductive Event
  | quiet
  /-- `begin_native` lets the task through. -/
  | opened
  /-- `start_local` begins. -/
  | began
  /-- `start_local` is over. -/
  | over
  | cancelReturned (caller : Nat)
  | waitReturned (caller : Nat)
  | exactStop (caller : Nat)
  deriving DecidableEq, Repr

def stillStarting (record current : PreviewInstanceRecord) : Bool :=
  current.instanceId = record.instanceId ∧ current.operationId = record.operationId ∧
    current.revision = record.revision ∧ current.port = record.port ∧
    current.state = .starting ∧ current.pid = none

section Task

variable (input : AcceptStartInput) (s : OwnedStartAttempt)

def acceptedPc : Except PreviewStoreError AcceptStartOutcome → Pc
  | .ok (.admitted row) => .admitted 0 row
  | .ok (.blocked row) =>
    if row.instanceId = input.instanceId ∧ row.operationId = input.operationId ∧
        row.state = .starting then .admitted 0 row
    else .finishing (.error (.conflict ("preview operation in progress: state=" ++ row.state.debug)))
  | .ok (.existingReady row) => .finishing (existingReady row input.basePath)
  | .error (.unavailable _) => .accepting
  | .error e => .finishing (.error (storeError e))

def confirmedPc (attempt : Nat) (record : PreviewInstanceRecord) :
    Except PreviewStoreError (Option PreviewInstanceRecord) → Pc
  | .ok found =>
    if found.any (stillStarting record) then .ticket attempt record
    else .refused record (.conflict "startup authority changed before native execution")
  | .error (.unavailable _) => .confirm attempt record
  | .error e => .refused record (storeError e)

def startedPc (attempt : Nat) (record : PreviewInstanceRecord) : Started → Pc
  | .ready pid port => .publish record pid port
  | .portInUse detail =>
    if attempt + 1 = startPortAttempts then
      .fail record (.unavailable ("preview start exhausted port retry budget: " ++ detail))
    else match record.port with
      | some previous => .portsCheck attempt record previous
      | none => .refused record (.invalid "admitted record lacks port")
  | .business code message => .fail record (.business code message)
  | .failed detail => .unknown record (.unavailable detail)

def portsPc (attempt : Nat) (record : PreviewInstanceRecord) (previous : Nat) :
    Except PreviewStoreError (List Nat) → Option Pc
  | .ok occupied =>
    (searchPort occupied previous 65536 (nextCandidate previous)).map fun
      | some next => .moveCheck attempt record
          ⟨record.previewKey, record.operationId, record.instanceId, record.revision, previous, next⟩
      | none => .refused record (.unavailable "preview port pool exhausted")
  | .error (.unavailable _) => some (.portsCheck attempt record previous)
  | .error e => some (.refused record (storeError e))

def movedPc (attempt : Nat) (record : PreviewInstanceRecord) (input : PreviewStartPortRetry) :
    Except PreviewStoreError PreviewInstanceRecord → Pc
  | .ok next => .admitted (attempt + 1) next
  | .error (.unavailable _) => .moveCheck attempt record input
  | .error e => .refused record (storeError e)

def publishedPc (record : PreviewInstanceRecord) (pid : Int) (port : Nat) :
    Except PreviewStoreError PreviewInstanceRecord → Pc
  | .ok row => .published record row
  | .error (.unavailable _) => .publish record pid port
  | .error e => .superseded record (storeError e)

/-- The stop of a start that was superseded while it was published. -/
def supersededPc (record : PreviewInstanceRecord) (e : PreviewCoordinationError) :
    Except String ExecutorStopOutcome → Pc
  | .ok .stopped | .ok .notRegistered => .settle record (.error e)
  | .ok .identityMismatch => .ended (some (.error e))
  | .error cleanup => .unknown record (.unavailable
      (e.display ++ "; original startup cleanup pending: " ++ cleanup))

def rereadPc (record : PreviewInstanceRecord) (e : PreviewCoordinationError) :
    Except PreviewStoreError (Option PreviewInstanceRecord) → Pc
  | .ok (some row) =>
    if row.instanceId ≠ record.instanceId ∨ row.operationId ≠ record.operationId ∨
        row.revision ≠ record.revision then
      .ended (some (.error (.conflict "startup terminal was superseded by another operation")))
    else match row.state with
      | .failed | .stopped => .ended (some (.error e))
      | .unknown => .settle record (.error e)
      | _ => .fail record e
  | .ok none => .ended (some (.error e))
  | .error _ => .fail record e

def cancelledPc (record : PreviewInstanceRecord) : Except String ExecutorStopOutcome → Pc
  | .ok .stopped | .ok .notRegistered =>
    .settle record (.error (.conflict "preview startup was stopped before completion"))
  | .ok .identityMismatch => .ended (some (.error (.conflict
      "startup registration was superseded; successor was preserved")))
  | .error e => .unknown record (.unavailable ("startup stop cleanup pending: " ++ e))

/-- The read of `settle_no_process`: what is left to be written, if anything. -/
def settlePc (record : PreviewInstanceRecord) (result : StartupResult) :
    Except PreviewStoreError (Option PreviewInstanceRecord) → Pc
  | .ok (some current) =>
    if current.instanceId ≠ record.instanceId then .ended (some result)
    else match current.state with
      | .starting | .ready =>
        if current.operationId ≠ record.operationId ∨ current.revision < record.revision then
          .ended (some result)
        else .settling record result
      | .stopping | .unknown => .settling record result
      | .stopped | .failed => .ended (some result)
  | .ok none => .ended (some result)
  | .error _ => .settle record result

def unknownPc (record : PreviewInstanceRecord) (e : PreviewCoordinationError) :
    Except String ExecutorStopOutcome → Pc
  | .ok .stopped | .ok .notRegistered => .settle record (.error e)
  | .ok .identityMismatch => .successor record e
  | .error _ => .unknown record e

def successorPc (record : PreviewInstanceRecord) (e : PreviewCoordinationError) :
    Except PreviewStoreError (Option PreviewInstanceRecord) → Pc
  | .ok (some current) =>
    if current.instanceId ≠ record.instanceId then .ended (some (.error e)) else .unknown record e
  | _ => .unknown record e

def quietPc : Reply → Option Pc
  | .none => match s.pc with
    | .entry => some (if s.cancelled then
        .finishing (.error (.conflict "preview start was stopped before admission"))
      else .accepting)
    | .head attempt record => some (if attempt < startPortAttempts then
        if s.cancelled then .cancelled record else .confirm attempt record
      else .ended (some (.error (.unavailable "preview start exhausted port retry budget"))))
    | .confirm attempt record => some (if s.cancelled then
        .refused record (.conflict "preview startup was stopped")
      else .confirming attempt record)
    | .refused record e => some (if s.cancelled then .cancelled record else .fail record e)
    | .ticket attempt record => some (if record.port.isNone then
        .fail record (.invalid "admitted record lacks port")
      else .beginWait attempt record)
    | .drained attempt record started =>
      some (if s.cancelled then .cancelled record else startedPc attempt record started)
    | .portsCheck attempt record previous => some (if s.cancelled then
        .refused record (.conflict "preview startup was stopped")
      else .ports attempt record previous)
    | .moveCheck attempt record input => some (if s.cancelled then
        .refused record (.conflict "preview startup was stopped")
      else .moving attempt record input)
    | .publish record pid port =>
      some (if s.cancelled then .cancelled record else .publishing record pid port)
    | .published record row =>
      some (if s.cancelled then .cancelled record else .ended (some (.ready (startEnvelope row))))
    | .fail record e => some (if s.cancelled then .cancelled record else .marking record e)
    | _ => none
  | .accepted r => match s.pc with
    | .accepting => some (acceptedPc input r)
    | _ => none
  | .got r => match s.pc with
    | .confirming attempt record => some (confirmedPc attempt record r)
    | .rereading record e => some (rereadPc record e r)
    | .settle record result => some (settlePc record result r)
    | .successor record e => some (successorPc record e r)
    | _ => none
  | .ports r => match s.pc with
    | .ports attempt record previous => portsPc attempt record previous r
    | _ => none
  | .written r => match s.pc with
    | .moving attempt record input => some (movedPc attempt record input r)
    | .publishing record pid port => some (publishedPc record pid port r)
    | .marking record e => some (match r with
      | .ok _ => .ended (some (.error e))
      | .error _ => .rereading record e)
    | .settling record result => some (match r with
      | .ok _ => .ended (some result)
      | .error _ => .settle record result)
    | _ => none
  | .stopped r => match s.pc with
    | .superseded record e => some (supersededPc record e r)
    | .cancelled record => some (cancelledPc record r)
    | .unknown record e => some (unknownPc record e r)
    | _ => none
  | .started _ => none

/-- A step on the shared fields of the attempt, or a call of the executor that starts. -/
def sharedStep (reply : Reply) : Option (Event × OwnedStartAttempt) :=
  match s.pc, reply with
  | .admitted attempt record, .none => some (.quiet,
      { s with admitted := some record, pc := .idleWait (.admitted attempt record) })
  -- `native_idle`
  | .idleWait rest, .none =>
    if s.lock = .free then
      some (.quiet, { s with lock := .attempt, phase := .idle, pc := .idleRead rest })
    else none
  | .idleRead rest, .none =>
    if s.cancelled then some (.quiet, { s with pc := .idleDone rest })
    else some (.quiet, { s with lock := .free, pc := rest.next })
  | .idleDone rest, .none =>
    some (.quiet, { s with executionDone := true, lock := .free, pc := rest.next })
  -- `begin_native`
  | .beginWait attempt record, .none =>
    if s.lock = .free then
      some (.quiet, { s with lock := .attempt, pc := .beginRead attempt record })
    else none
  | .beginRead attempt record, .none =>
    if s.cancelled then some (.quiet, { s with lock := .free, pc := .cancelled record })
    else some (.quiet, { s with phase := .running, pc := .beginDone attempt record })
  | .beginDone attempt record, .none => some (.opened,
      { s with executionDone := false, lock := .free, pc := .launching attempt record })
  | .launching attempt record, .none => some (.began, { s with pc := .native attempt record })
  | .native attempt record, .started r =>
    some (.over, { s with pc := .idleWait (.native attempt record r) })
  -- `execution_finished`
  | .finishing result, .none =>
    if s.lock = .free then some (.quiet, { s with phase := .finished, pc := .finished result })
    else none
  | .finished result, .none =>
    some (.quiet, { s with executionDone := true, pc := .ended (some result) })
  | _, _ => none

/-- One step of the task; `none` where it waits. -/
def taskStep (reply : Reply) : Option (Event × OwnedStartAttempt) :=
  (sharedStep s reply).or ((quietPc input s reply).map fun pc => (.quiet, { s with pc := pc }))

end Task

inductive Turn
  | task (reply : Reply)
  /-- The task ends without a result, where it does not hold the lock. -/
  | panic
  | observe
  | cancelEnter (caller : Nat)
  | cancelLeave (caller : Nat)
  | wait (caller : Nat)
  | stop (caller : Nat)

def Pc.holds : Pc → Bool
  | idleRead _ | idleDone _ | beginRead _ _ | beginDone _ _ => true
  | _ => false

def Pc.isNative : Pc → Bool
  | native _ _ => true
  | _ => false

def Pc.isEnded : Pc → Bool
  | ended _ => true
  | _ => false

/-- The step of a party, if it can make one. -/
def turn (input : AcceptStartInput) (s : OwnedStartAttempt) :
    Turn → Option (Event × OwnedStartAttempt)
  | .task reply => taskStep input s reply
  | .panic =>
    if s.pc.holds ∨ s.pc.isEnded then none
    else some (if s.pc.isNative then .over else .quiet, { s with pc := .ended none })
  | .observe => match s.observer with
    | .waiting =>
      if s.pc.isEnded ∧ s.lock = .free then
        some (.quiet, { s with phase := .finished, observer := .closing })
      else none
    | .closing => some (.quiet, { s with executionDone := true, observer := .closed })
    | .closed => none
  | .cancelEnter caller =>
    if s.lock = .free then some (.quiet, { s with lock := .canceller caller, cancelled := true })
    else none
  | .cancelLeave caller =>
    if s.lock = .canceller caller then some (.cancelReturned caller,
      { s with
        executionDone := s.executionDone || (s.phase = .idle ∨ s.phase = .finished)
        lock := .free
        stage := Function.update s.stage caller .cancelled })
    else none
  | .wait caller =>
    if s.executionDone then some (.waitReturned caller,
      { s with
        stage := if s.stage caller = .cancelled then Function.update s.stage caller .waited
          else s.stage })
    else none
  | .stop caller =>
    if s.stage caller = .waited then some (.exactStop caller, s) else none

/-- Turns are taken in any order; a party that cannot make a step leaves everything as it is. -/
def machine (input : AcceptStartInput) : Machine OwnedStartAttempt Turn Event where
  exec s t := (turn input s t).getD (.quiet, s)

/-! ## The search for a port -/

/-- The usable ports in a cycle, from the lower end of the pool on. -/
def portAt (i : Nat) : Nat := if i % 50000 < 4000 then 4000 + i % 50000 else 5001 + i % 50000

theorem nextCandidate_portAt (i : Nat) : nextCandidate (portAt i) = portAt (i + 1) := by
  simp only [nextCandidate, portAt, previewPortMin, previewPortMax, previewPortReservedMin,
    previewPortReservedMax]
  split_ifs <;> omega

theorem portAt_eq_iff {i j : Nat} : portAt i = portAt j ↔ i % 50000 = j % 50000 := by
  unfold portAt
  split_ifs <;> omega

theorem isPreviewPort_iff {p : Nat} : isPreviewPort p = true ↔ ∃ i, p = portAt i := by
  rw [isPreviewPort, decide_eq_true_iff]
  simp only [portAt, previewPortMin, previewPortMax, previewPortReservedMin,
    previewPortReservedMax]
  constructor
  · intro h
    by_cases hp : p < 8000
    · exact ⟨p - 4000, by rw [if_pos (by omega)]; omega⟩
    · exact ⟨p - 5001, by rw [if_neg (by omega)]; omega⟩
  · rintro ⟨i, rfl⟩
    split_ifs <;> omega

/-- A port that an attempt can move to. -/
def Usable (occupied : List Nat) (previous p : Nat) : Prop :=
  isPreviewPort p = true ∧ p ≠ previous ∧ p ∉ occupied

/-- From the `k`-th port behind the one it began with, the search looks at all that remain. -/
theorem searchPort_from (occupied : List Nat) (j : Nat) {k fuel : Nat} (hk : 0 < k)
    (hlast : k < 50000) (hfuel : 50000 ≤ k + fuel) :
    (∃ p, searchPort occupied (portAt j) fuel (portAt (j + k)) = some (some p) ∧
      Usable occupied (portAt j) p) ∨
    searchPort occupied (portAt j) fuel (portAt (j + k)) = some none ∧
      ∀ i, k ≤ i → i < 50000 → portAt (j + i) ∈ occupied := by
  induction fuel generalizing k with
  | zero => omega
  | succ fuel ih =>
    rw [searchPort, nextCandidate_portAt]
    by_cases hocc : portAt (j + k) ∈ occupied
    · rw [if_pos hocc]
      by_cases hback : portAt (j + k + 1) = portAt j
      · rw [if_pos hback]
        rw [portAt_eq_iff] at hback
        refine .inr ⟨rfl, fun i hi hi' => ?_⟩
        obtain rfl : i = k := by omega
        exact hocc
      · rw [if_neg hback]
        rw [portAt_eq_iff] at hback
        refine (ih (Nat.succ_pos k) (by omega) (by omega)).imp_right fun h => ?_
        refine ⟨h.1, fun i hi hi' => ?_⟩
        by_cases hik : i = k
        · exact hik ▸ hocc
        · exact h.2 i (by omega) hi'
    · rw [if_neg hocc]
      refine .inl ⟨_, rfl, isPreviewPort_iff.mpr ⟨_, rfl⟩, ?_, hocc⟩
      rw [Ne, portAt_eq_iff]
      omega

/-- The search ends: with a port that can be used, or with the report that there is none. -/
theorem retryPort_exact (attempt : Nat) (record : PreviewInstanceRecord) (occupied : List Nat)
    {previous : Nat} (hprevious : isPreviewPort previous = true) :
    ((∃ p, Usable occupied previous p) →
      ∃ p, Usable occupied previous p ∧ portsPc attempt record previous (.ok occupied) =
        some (.moveCheck attempt record ⟨record.previewKey, record.operationId, record.instanceId,
          record.revision, previous, p⟩)) ∧
    ((¬∃ p, Usable occupied previous p) → portsPc attempt record previous (.ok occupied) =
      some (.refused record (.unavailable "preview port pool exhausted"))) := by
  obtain ⟨j, rfl⟩ := isPreviewPort_iff.mp hprevious
  simp only [portsPc, nextCandidate_portAt]
  obtain ⟨p, hp, husable⟩ | ⟨hnone, hall⟩ :=
    searchPort_from occupied j Nat.one_pos (by omega) (by omega : 50000 ≤ 1 + 65536)
  · rw [hp]
    exact ⟨fun _ => ⟨p, husable, rfl⟩, fun h => absurd ⟨p, husable⟩ h⟩
  · rw [hnone]
    refine ⟨?_, fun _ => rfl⟩
    rintro ⟨p, hpool, hne, hfree⟩
    obtain ⟨i, rfl⟩ := isPreviewPort_iff.mp hpool
    rw [Ne, portAt_eq_iff] at hne
    -- the distance from the port before, once around the pool
    have hlisted := hall ((i + 50000 - j % 50000) % 50000) (by omega) (by omega)
    rw [portAt_eq_iff.mpr (by omega : _ = i % 50000)] at hlisted
    exact absurd hlisted hfree

/-- The next port is taken, and the one behind it is free. -/
theorem retryPort_exact_next :
    let record := (exampleStart "op" "inst").record 1 5000 0
    ∃ p, Usable [5001] 5000 p ∧ portsPc 1 record 5000 (.ok [5001]) = some (.moveCheck 1 record
      ⟨record.previewKey, record.operationId, record.instanceId, record.revision, 5000, p⟩) :=
  (retryPort_exact 1 _ [5001] (by decide)).1 ⟨5002, by decide, by decide, by decide⟩

end Rcoder.Preview.Startup
