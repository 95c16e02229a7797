import Rcoder.Lib.Machine

/-!
# Readiness of a business session

The owner session launches a business, which reports its management readiness from a task of its
own, also between the two halves of a request: the owner reads its snapshot and commits the request
later. A Stop or Recover request first has the business prepare for it; a preparation that fails
puts the remembered snapshot back. Requests that are refused or answered from the record change
nothing.
-/

namespace Rcoder.Supervisor.Readiness

inductive Phase
  | reconciling
  | starting
  | ready
  | stopping
  | cleanupPending
  | recoveryRequired
  | stopped
  deriving DecidableEq

inductive Intent
  | run
  | stopped
  | shutdown
  deriving DecidableEq

structure Snapshot where
  generation : Option Nat := none
  phase : Phase := .reconciling
  intent : Intent := .run
  operationId : Option String := none

structure ActiveBusiness where
  generation : Nat
  /-- The factory has returned the business. -/
  running : Bool := false
  stopping : Bool := false
  deriving DecidableEq

structure PreparingStop where
  previous : Snapshot
  intent : Intent

inductive Action
  | recover
  | stopWork
  | shutdown
  deriving DecidableEq

/-- A request that was let in, with the snapshot it was judged by, and is not committed yet. -/
structure Handling where
  requestId : String
  action : Action
  snapshot : Snapshot

structure Session where
  snapshot : Snapshot := {}
  business : Option ActiveBusiness := none
  handling : Option Handling := none
  preparing : Option PreparingStop := none
  launches : Nat := 0
  /-- The generations whose `mark_ready` has returned, while they were current. -/
  reported : List Nat := []

def Action.intent (current : Intent) : Action → Intent
  | .recover => current
  | .stopWork => .stopped
  | .shutdown => .shutdown

/-- How a preparation ends; a timeout is uncertain. -/
inductive Prepared
  | confirmed
  | refused
  | uncertain
  deriving DecidableEq

namespace Session

@[grind]
def markReady (s : Session) (generation : Nat) : Session :=
  if s.snapshot.generation = some generation then
    { s with
      snapshot := if s.snapshot.phase = .starting then
        { s.snapshot with phase := .ready, operationId := none } else s.snapshot
      reported := generation :: s.reported }
  else s

@[grind]
def abandonPreparation (s : Session) : Session :=
  if s.preparing = none then s
  else { s with
    preparing := none
    snapshot := { s.snapshot with phase := .recoveryRequired, operationId := none } }

@[grind]
def beginStop (s : Session) (intent : Intent) : Session :=
  let s := if intent = .shutdown then s.abandonPreparation else s
  { s with
    snapshot := { s.snapshot with intent := intent, phase := .stopping }
    business := s.business.map ({ · with stopping := true }) }

@[grind]
def pollPreparation (s : Session) (result : Prepared) : Session :=
  match s.preparing with
  | none => s
  | some slot =>
    let s := { s with preparing := none }
    if result = .confirmed ∧ s.snapshot.generation = slot.previous.generation then
      s.beginStop slot.intent
    else { s with
      snapshot := { s.snapshot with
        phase := if result = .uncertain then .recoveryRequired else slot.previous.phase
        intent := slot.previous.intent
        operationId := none } }

/-- `handle_request`, up to its check for another operation. -/
@[grind]
def readRequest (s : Session) (requestId : String) (action : Action) : Session :=
  if s.snapshot.operationId.isSome ∧
      (s.snapshot.phase ≠ .recoveryRequired ∨ s.business.isSome) then s
  else { s with handling := some ⟨requestId, action, s.snapshot⟩ }

@[grind]
def prepares (s : Session) (action : Action) : Bool :=
  action ≠ .shutdown ∧ s.business.any (!·.stopping)

/-- The rest of `handle_request`, which changes the snapshot as it is by now. -/
@[grind]
def commitRequest (s : Session) (request : Handling) : Session :=
  let intent := request.action.intent request.snapshot.intent
  if s.prepares request.action then
    { s with
      snapshot := { s.snapshot with operationId := some request.requestId, phase := .stopping }
      handling := none
      preparing := some ⟨request.snapshot, intent⟩ }
  else beginStop { s with
    snapshot := { s.snapshot with
      operationId := some request.requestId, intent := intent, phase := .stopping }
    handling := none } intent

@[grind]
def launch (s : Session) : Session :=
  { s with
    snapshot := { s.snapshot with generation := some s.launches, phase := .starting }
    business := some { generation := s.launches }
    launches := s.launches + 1 }

@[grind]
def launchFailed (s : Session) : Session :=
  { s with
    business := none
    snapshot := { s.snapshot with generation := none, phase := .recoveryRequired } }

@[grind]
def businessEnded (s : Session) : Session :=
  let s := s.abandonPreparation
  { s with business := none, snapshot := { s.snapshot with phase := .cleanupPending } }

end Session

inductive Act
  | markReady (generation : Nat)
  | launch
  | launched
  | launchFailed
  | readRequest (requestId : String) (action : Action)
  | commitRequest
  | pollPreparation (result : Prepared)
  | shutdownToken
  | stopDeadline
  | businessEnded
  /-- What the idle loop publishes about cleanups and fences. -/
  | idle (snapshot : Snapshot)

/-- What the owner does between two requests; it is busy while it launches. -/
def Session.own (s : Session) (act : Act) : Session :=
  match act, s.business with
  | .launched, some b => { s with business := some { b with running := true } }
  | .launchFailed, some b => if b.running = false then s.launchFailed else s
  | .launch, none => s.launch
  | .idle snapshot, none =>
    if snapshot.phase ≠ .starting ∧ snapshot.generation ∈ [none, s.snapshot.generation] then
      { s with snapshot := snapshot } else s
  | .readRequest requestId action, none => s.readRequest requestId action
  | .readRequest requestId action, some b =>
    if b.running then s.readRequest requestId action else s
  | .pollPreparation result, some b => if b.running then s.pollPreparation result else s
  | .shutdownToken, some b =>
    if b.running ∧ s.snapshot.intent ≠ .shutdown then s.beginStop .shutdown else s
  | .stopDeadline, some b => if b.stopping then
      { s with snapshot := { s.snapshot with phase := .cleanupPending } } else s
  | .businessEnded, some b => if b.running then s.businessEnded else s
  | _, _ => s

/-- Readiness is reported at any time; the rest is one task. -/
def Session.step (s : Session) (act : Act) : Session :=
  match act, s.handling with
  | .markReady generation, _ => s.markReady generation
  | .commitRequest, some request => s.commitRequest request
  | act, none => s.own act
  | _, some _ => s

def machine : Machine Session Act Unit := ⟨fun s act => ((), s.step act)⟩

/-- The snapshot to which a refusal would go back, if the request under way prepares a Stop. -/
@[grind]
def Session.remembered (s : Session) : Option Snapshot :=
  match s.preparing, s.handling with
  | some slot, _ => some slot.previous
  | none, some request => if s.prepares request.action then some request.snapshot else none
  | none, none => none

/-- No report comes in while a Stop is under way that was asked for before it. -/
def Timely (s : Session) : Act → Prop
  | .markReady generation => s.snapshot.generation = some generation →
      ∀ snapshot ∈ s.remembered, snapshot.phase ≠ .starting
  | _ => True

/-- What every session keeps to; where every report is `timely`, the session is not in the start of
a business that has reported, nor will it be put back there. -/
@[grind cases]
structure Inv (timely : Prop) (s : Session) : Prop where
  current : ∀ b, s.business = some b → s.snapshot.generation = some b.generation
  launched : ∀ g, s.snapshot.generation = some g ∨ g ∈ s.reported → g < s.launches
  handles : ∀ request b, s.handling = some request → s.business = some b → b.running = true
  prepares : ∀ slot, s.preparing = some slot → s.handling = none ∧
    s.snapshot.operationId.isSome = true ∧ s.snapshot.phase ≠ .starting ∧
    ∃ b, s.business = some b ∧ b.running = true
  phase : timely → ∀ b, s.business = some b → b.generation ∈ s.reported →
    s.snapshot.phase ≠ .starting
  remembered : timely → ∀ b snapshot, s.business = some b → b.generation ∈ s.reported →
    s.remembered = some snapshot → snapshot.phase ≠ .starting

namespace Inv

variable {timely : Prop} {s : Session} {b : ActiveBusiness}

theorem empty : Inv timely {} := by constructor <;> simp

theorem markReady (h : Inv timely s) {generation : Nat}
    (hact : timely → Timely s (.markReady generation)) : Inv timely (s.markReady generation) := by
  simp only [Timely] at hact
  constructor <;> grind

theorem launch (h : Inv timely s) (hb : s.business = none) (hidle : s.handling = none) :
    Inv timely s.launch := by
  constructor <;> grind

theorem launchFailed (h : Inv timely s) (hb : s.business = some b) (hrunning : b.running = false) :
    Inv timely s.launchFailed := by
  constructor <;> grind

theorem readRequest (h : Inv timely s) (hb : ∀ b, s.business = some b → b.running = true)
    (requestId : String) (action : Action) : Inv timely (s.readRequest requestId action) := by
  constructor <;> grind

theorem beginStop (h : Inv timely s) {intent : Intent}
    (hnone : intent = .shutdown ∨ s.preparing = none) : Inv timely (s.beginStop intent) := by
  cases hb : s.business with
  | none => constructor <;> grind
  | some b => constructor <;> grind

theorem commitRequest (h : Inv timely s) {request : Handling} (hr : s.handling = some request) :
    Inv timely (s.commitRequest request) := by
  have hnone : s.preparing = none := by
    cases hp : s.preparing with
    | none => rfl
    | some slot => cases (h.prepares slot hp).1.symm.trans hr
  unfold Session.commitRequest
  split_ifs with hp
  · -- the report that came in behind the reading is not in the snapshot that is remembered
    cases hb : s.business with
    | none => simp [Session.prepares, hb] at hp
    | some b => constructor <;> grind
  · exact beginStop (by constructor <;> grind) (.inr hnone)

theorem pollPreparation (h : Inv timely s) (result : Prepared) :
    Inv timely (s.pollPreparation result) := by
  unfold Session.pollPreparation
  cases hp : s.preparing with
  | none => constructor <;> grind
  | some slot =>
    dsimp only
    split_ifs
    · exact beginStop (by constructor <;> grind) (.inr rfl)
    · constructor <;> grind
    · constructor <;> grind

theorem businessEnded (h : Inv timely s) : Inv timely s.businessEnded := by
  constructor <;> grind

theorem guarded {t : Session} {c : Prop} [Decidable c] (h : Inv timely s)
    (hc : c → Inv timely t) : Inv timely (if c then t else s) := by
  split_ifs with hif
  · exact hc hif
  · exact h

theorem own (h : Inv timely s) (hidle : s.handling = none) (act : Act) :
    Inv timely (s.own act) := by
  unfold Session.own
  cases hb : s.business with
  | none =>
    cases act with
    | launch => exact h.launch hb hidle
    | readRequest requestId action => exact h.readRequest (by simp [hb]) requestId action
    | idle snapshot => exact h.guarded fun hsnapshot => by constructor <;> grind
    | _ => exact h
  | some b =>
    cases act with
    | launched => constructor <;> grind
    | launchFailed => exact h.guarded fun hrunning => h.launchFailed hb hrunning
    | readRequest requestId action =>
      exact h.guarded fun hrunning => h.readRequest (by simp [hb, hrunning]) requestId action
    | pollPreparation result => exact h.guarded fun _ => h.pollPreparation result
    | shutdownToken => exact h.guarded fun _ => h.beginStop (.inl rfl)
    | stopDeadline => exact h.guarded fun _ => by constructor <;> grind
    | businessEnded => exact h.guarded fun _ => h.businessEnded
    | _ => exact h

theorem step (h : Inv timely s) {act : Act} (hact : timely → Timely s act) :
    Inv timely (s.step act) := by
  unfold Session.step
  split
  · exact h.markReady hact
  · exact h.commitRequest ‹_›
  · exact h.own ‹_› _
  · exact h

end Inv

/-- A readiness report is not lost in runs in which no report comes in while a snapshot of the start
is remembered. From every state that remembers a snapshot, a report and then a refusal lead to the
phase of that snapshot. -/
theorem readiness_reported (acts : List Act) :
    let s := machine.after {} acts
    (machine.Follows Timely {} acts → ∀ b, s.business = some b → b.generation ∈ s.reported →
      s.snapshot.phase ≠ .starting) ∧
    ∀ b snapshot, s.business = some b → s.remembered = some snapshot →
      let t := machine.after s
        [.markReady b.generation, .commitRequest, .pollPreparation .refused]
      t.business = some b ∧ b.generation ∈ t.reported ∧ t.remembered = none ∧
        t.snapshot.phase = snapshot.phase := by
  intro s
  refine ⟨fun hfollows => ?_, fun b snapshot hb hsnapshot => ?_⟩
  · have hinv : Inv True s := (Machine.Run.of_follows hfollows).invariant .empty
      fun _ _ hact h => h.step fun _ => hact
    exact hinv.phase trivial
  · have hinv : Inv False s := Machine.after_invariant .empty
      (fun _ _ h => h.step False.elim) acts
    have hcurrent := hinv.current b hb
    cases hslot : s.preparing with
    | some slot =>
      obtain ⟨hidle, -, hphase, b', hb', hrunning⟩ := hinv.prepares slot hslot
      cases hb.symm.trans hb'
      simp_all [Machine.after, machine, Session.step, Session.own, Session.markReady,
        Session.pollPreparation, Session.remembered]
    | none =>
      cases hr : s.handling with
      | none => simp [Session.remembered, hslot, hr] at hsnapshot
      | some request =>
        have hrunning := hinv.handles request b hr hb
        simp only [Session.remembered, hslot, hr, Option.ite_none_right_eq_some,
          Option.some.injEq] at hsnapshot
        obtain ⟨hprepares, rfl⟩ := hsnapshot
        simp_all [Machine.after, machine, Session.step, Session.own, Session.markReady,
          Session.commitRequest, Session.prepares, Session.pollPreparation, Session.remembered]

/-- A Stop that was asked for behind the report is refused. -/
def refusedStop : List Act :=
  [.launch, .launched, .markReady 0, .readRequest "stop" .stopWork, .markReady 0, .commitRequest,
    .pollPreparation .refused]

theorem readiness_reported_refusedStop :
    let s := machine.after {} refusedStop
    s.business = some ⟨0, true, false⟩ ∧ s.preparing = none ∧ s.snapshot.phase ≠ .starting := by
  have hfollows : machine.Follows Timely {} refusedStop := by
    refine ⟨trivial, trivial, ?_, trivial, ?_, trivial, trivial, trivial⟩
    · intro _ snapshot hnone
      cases hnone
    · intro _ snapshot hready
      cases hready
      decide
  exact ⟨by decide, by decide, (readiness_reported refusedStop).1 hfollows _ rfl (by decide)⟩

/-- A Stop comes before the report and its preparation is refused: the session is back in its
start. -/
theorem report_lost :
    let s := machine.after {} [.launch, .launched, .readRequest "stop" .stopWork, .commitRequest,
      .markReady 0, .pollPreparation .refused]
    s.business = some ⟨0, true, false⟩ ∧ s.preparing = none ∧ 0 ∈ s.reported ∧
      s.snapshot.phase = .starting := by
  decide

end Rcoder.Supervisor.Readiness
