import Rcoder.Lib.Effect

/-!
# Generations left behind by other supervisors

A recovering owner goes through the directories of its work, in the order in which they are listed.
The unified owner does the same and passes over the generations of its own session. What the code
finds and does under one directory is left to a `Host`; it reaches no other directory.
-/

namespace Rcoder.Supervisor.Generations

open Effect

structure PhysicalDomain where
  authority : String
  instanceSourceEnv : Option String
  instanceId : String
  volume : String
  deriving DecidableEq

inductive GenerationPhase
  | pending
  | running
  | draining
  | quiescent
  | revoked
  deriving DecidableEq

def GenerationPhase.debug : GenerationPhase → String
  | .pending => "Pending"
  | .running => "Running"
  | .draining => "Draining"
  | .quiescent => "Quiescent"
  | .revoked => "Revoked"

/-- A worker of the generation may be running. -/
def GenerationPhase.live (phase : GenerationPhase) : Bool := phase = .running ∨ phase = .draining

structure Generation where
  id : String
  supervisor : String
  phase : GenerationPhase
  error : Option String
  physicalDomain : Option PhysicalDomain
  processEpoch : Option String
  workerPid : Option Nat

def retireConfirmed (value : Generation) : Generation :=
  { value with
    phase := .quiescent
    error := some (value.error.getD
      "physical runtime confirmed exit; business outcomes remain unchanged") }

def previousContainer (value : Generation) : Option PhysicalDomain → Bool
  | none => false
  | some current => value.physicalDomain.any fun old =>
      old.authority = current.authority ∧ old.volume = current.volume ∧
        old.instanceId ≠ current.instanceId

/-- What the code meets under one directory, whose content is a `δ`, in the process epoch of the
run. -/
structure Host (δ : Type) where
  /-- `generation.json` exists. -/
  tryExists : δ → Except String Bool
  generation : δ → Except String Generation
  /-- What `read_or_recover` does about a record that is not read. -/
  recoverRecord : Option PhysicalDomain → String → EStateM String δ (Option Generation)
  lock : EStateM String δ Unit
  hasConfirmedExit : Generation → EStateM String δ Bool
  localProcessSpaceEnded : Generation → EStateM String δ Bool
  closeGate : EStateM String δ Unit
  confirmPhysicalDomainExit : EStateM String δ Unit
  save : Generation → EStateM String δ Unit
  verifyAbandonedWorker : Generation → Option PhysicalDomain → EStateM String δ Unit
  recover : EStateM String δ Unit
  requireQuiescent : EStateM String δ Unit

variable {δ : Type} (host : Host δ) (current : Option PhysicalDomain)

def readGeneration : EStateM String δ Generation := do
  fromExcept (host.generation (← get))

def readOrRecover : EStateM String δ (Option Generation) := do
  match host.generation (← get) with
  | .ok value => pure (some value)
  | .error e => host.recoverRecord current e

def retire (value : Generation) : EStateM String δ Unit := do
  host.closeGate
  host.confirmPhysicalDomainExit
  host.save (retireConfirmed value)

def reconcilePreviousContainerExit (captured : Generation) : EStateM String δ Unit := do
  if previousContainer captured current ∧ captured.phase.live then
    if ← host.hasConfirmedExit captured then
      host.lock
      let value ← readGeneration host
      ensure (value.id = captured.id ∧ value.supervisor = captured.supervisor ∧
          value.physicalDomain = captured.physicalDomain ∧ previousContainer value current ∧
          value.phase.live)
        "previous container generation identity changed during exit reconciliation"
      ensure (← host.hasConfirmedExit value)
        "previous container platform exit evidence changed during reconciliation"
      retire host value

/-- What both functions do with a generation of this container. A live one is abandoned. -/
def settle : EStateM String δ (Option Generation) := do
  host.lock
  let mut value ← readGeneration host
  if value.phase.live then
    let ended ← if ← host.hasConfirmedExit value then pure true
      else host.localProcessSpaceEnded value
    if ended then
      retire host value
      value := retireConfirmed value
  if value.phase = .pending then
    host.closeGate
    value := { value with phase := .revoked }
    host.save value
  if value.phase.live then
    host.verifyAbandonedWorker value current
    return some value
  ensure (value.phase = .quiescent ∨ value.phase = .revoked)
    ("generation " ++ value.id ++ " cleanup is unconfirmed: " ++ value.phase.debug)
  if value.phase = .revoked then
    host.recover
    host.requireQuiescent
  return none

structure AbandonedGeneration where
  root : String
  value : Generation

/-- One directory in the loop of `reconcile_local`. -/
def inspectLocal (root : String) : EStateM String δ (Option AbandonedGeneration) := do
  if ← fromExcept (host.tryExists (← get)) then
    match ← readOrRecover host current with
    | none => pure none
    | some value =>
      if previousContainer value current then do
        let _ ← attempt (reconcilePreviousContainerExit host current value)
        pure none
      else return (← settle host current).map (⟨root, ·⟩)
  else pure none

/-- One directory in the loop of `reconcile_foreign`. -/
def inspectForeign (instanceId root : String) : EStateM String δ (Option AbandonedGeneration) := do
  if ← fromExcept (host.tryExists (← get)) then
    match ← readOrRecover host current with
    | none => pure none
    | some value =>
      if value.supervisor = instanceId then pure none
      else if previousContainer value current then do
        let _ ← attempt (reconcilePreviousContainerExit host current value)
        pure none
      else return (← settle host current).map (⟨root, ·⟩)
  else pure none

/-- An entry of the directory, as far as `generation_entry_root` gets with it. -/
inductive Entry (δ : Type)
  | failed (error : String)
  | file
  | directory (root : String) (content : δ)

/-- The loop over the entries: an error ends it, and the first abandoned generation is kept. -/
def scan (inspect : String → EStateM String δ (Option AbandonedGeneration)) :
    List (Entry δ) → Option AbandonedGeneration →
      Except String (Option AbandonedGeneration) × List (Entry δ)
  | [], abandoned => (.ok abandoned, [])
  | .failed e :: entries, _ => (.error e, .failed e :: entries)
  | .file :: entries, abandoned =>
    let (result, entries) := scan inspect entries abandoned
    (result, .file :: entries)
  | .directory root content :: entries, abandoned =>
    match inspect root content with
    | .error e content => (.error e, .directory root content :: entries)
    | .ok found content =>
      let (result, entries) := scan inspect entries (abandoned.or found)
      (result, .directory root content :: entries)

/-- A work directory whose records can be read; a missing one has no entries. -/
structure Work (host : Host δ) where
  entries : List (Entry δ)
  readable : ∀ root content, .directory root content ∈ entries →
    host.tryExists content = .ok true → ∃ value, host.generation content = .ok value

def reconcileLocal (entries : List (Entry δ)) := scan (inspectLocal host current) entries none

def reconcileForeign (instanceId : String) (entries : List (Entry δ)) :=
  scan (inspectForeign host current instanceId) entries none

/-- The entry is a generation of the given supervisor. -/
def Entry.own (instanceId : String) : Entry δ → Bool
  | .directory _ content => host.tryExists content matches .ok true ∧
      (host.generation content).toOption.any (·.supervisor = instanceId)
  | _ => false

/-- The entries, with `others` in the place of those that are not `own`. -/
def weave (own : Entry δ → Bool) : List (Entry δ) → List (Entry δ) → List (Entry δ)
  | [], _ => []
  | entry :: entries, others =>
    if own entry then entry :: weave own entries others
    else others.take 1 ++ weave own entries (others.drop 1)

variable {host current} {instanceId root : String} {content : δ}

theorem inspectForeign_run
    (h : host.tryExists content = .ok true → ∃ value, host.generation content = .ok value) :
    inspectForeign host current instanceId root content =
      if (Entry.directory root content).own host instanceId then .ok none content
      else inspectLocal host current root content := by
  have hget {α : Type} (k : δ → EStateM String δ α) : (get >>= k) content = k content content := rfl
  unfold inspectForeign inspectLocal Entry.own
  simp only [hget]
  cases hexists : host.tryExists content with
  | error e => rfl
  | ok found =>
    cases found with
    | false => rfl
    | true =>
      obtain ⟨value, hvalue⟩ := h hexists
      have hread : readOrRecover host current content = .ok (some value) content := by
        rw [readOrRecover, hget, hvalue]
        rfl
      by_cases hown : value.supervisor = instanceId <;>
        simp [fromExcept, bind, EStateM.bind, pure, EStateM.pure, hread, hown, hvalue,
          Except.toOption]

theorem weave_filter (own : Entry δ → Bool) (entries : List (Entry δ)) :
    weave own entries (entries.filter (!own ·)) = entries := by
  induction entries with
  | nil => rfl
  | cons entry entries ih => by_cases hown : own entry = true <;> simp [weave, hown, ih]

/-- The loops agree, as far as the inspections do. -/
theorem scan_eq {own : Entry δ → Bool}
    {f g : String → EStateM String δ (Option AbandonedGeneration)}
    (hfailed : ∀ e, own (.failed e) = false) (hfile : own .file = false) {entries : List (Entry δ)}
    (h : ∀ root content, .directory root content ∈ entries → f root content =
      if own (.directory root content) then .ok none content else g root content)
    (abandoned : Option AbandonedGeneration) :
    scan f entries abandoned = ((scan g (entries.filter (!own ·)) abandoned).1,
      weave own entries (scan g (entries.filter (!own ·)) abandoned).2) := by
  induction entries generalizing abandoned with
  | nil => rfl
  | cons entry entries ih =>
    have ih := ih fun root content hmem => h root content (List.mem_cons_of_mem _ hmem)
    cases entry with
    | failed e => simp [scan, weave, hfailed, weave_filter]
    | file => simp [scan, weave, hfile, ih]
    | directory root content =>
      have hhead := h root content List.mem_cons_self
      by_cases hown : own (.directory root content) = true
      · simp [scan, weave, hown, hhead, ih]
      · cases hg : g root content <;> simp [scan, weave, hown, hhead, hg, ih, weave_filter]

/-- `reconcile_foreign` is `reconcile_local` without the generations of the supervisor: the result
is the same, the others are left as `reconcile_local` leaves them, and its own are not touched. -/
theorem reconcileForeign_eq (host : Host δ) (current : Option PhysicalDomain) (instanceId : String)
    (work : Work host) :
    let own := Entry.own host instanceId
    let others := reconcileLocal host current (work.entries.filter (!own ·))
    reconcileForeign host current instanceId work.entries =
      (others.1, weave own work.entries others.2) :=
  scan_eq (fun _ => rfl) rfl
    (fun root content hmem => inspectForeign_run (work.readable root content hmem)) none

/-- A directory that holds a record, and whether its lock was taken. -/
structure SampleDirectory where
  record : Generation
  locked : Bool

def sampleHost : Host SampleDirectory where
  tryExists _ := .ok true
  generation content := .ok content.record
  recoverRecord _ := throw
  lock := modify fun content => { content with locked := true }
  hasConfirmedExit _ := pure false
  localProcessSpaceEnded _ := pure false
  closeGate := pure ()
  confirmPhysicalDomainExit := pure ()
  save value := modify fun content => { content with record := value }
  verifyAbandonedWorker _ _ := pure ()
  recover := pure ()
  requireQuiescent := pure ()

def sampleGeneration (id supervisor : String) (phase : GenerationPhase) : Generation :=
  ⟨id, supervisor, phase, none, none, none, none⟩

/-- A generation of the supervisor itself, then one that never ran and one that was left behind. -/
def sampleWork : Work sampleHost where
  entries :=
    [.directory "a" ⟨sampleGeneration "a" "own" .running, false⟩, .file,
      .directory "b" ⟨sampleGeneration "b" "other" .pending, false⟩,
      .directory "c" ⟨sampleGeneration "c" "other" .running, false⟩]
  readable _ content _ _ := ⟨content.record, rfl⟩

theorem reconcileForeign_sampleWork :
    reconcileForeign sampleHost none "own" sampleWork.entries =
      (.ok (some ⟨"c", sampleGeneration "c" "other" .running⟩),
        [.directory "a" ⟨sampleGeneration "a" "own" .running, false⟩, .file,
          .directory "b" ⟨sampleGeneration "b" "other" .revoked, true⟩,
          .directory "c" ⟨sampleGeneration "c" "other" .running, true⟩]) :=
  reconcileForeign_eq sampleHost none "own" sampleWork

end Rcoder.Supervisor.Generations
