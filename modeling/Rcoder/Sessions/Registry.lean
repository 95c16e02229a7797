import Mathlib.Logic.Function.Basic
import Rcoder.Lib.Machine

/-!
# The registry of agent sessions

Projects and sessions are mapped to each other by two concurrent maps. A call goes through them in
several steps, each one access to one map, and any number of calls is under way at a time: a call is
kept as what it has still to do, with what it has seen so far.
-/

namespace Rcoder.Sessions.Registry

inductive SessionHint
  | absent
  | legacyPending
  | established (sessionId : String)
  deriving DecidableEq

def SessionHint.classify : Option String → SessionHint
  | none => .absent
  | some value =>
    if value = "" then .absent
    else if value = "pending" then .legacyPending
    else .established value

def SessionHint.asSessionId : SessionHint → Option String
  | .absent | .legacyPending => none
  | .established sessionId => some sessionId

/-- The part of an agent's record that the registry reads. -/
structure ProjectAndAgentInfo where
  sessionId : String
  cancelTx : Nat
  deriving DecidableEq

structure AgentSessionRegistry where
  agentInfoMap : String → Option ProjectAndAgentInfo
  projectToSession : String → Option String
  sessionToProject : String → Option String

inductive Call
  | register (projectId sessionId : String) (agentInfo : ProjectAndAgentInfo)
  | updateSession (projectId newSessionId : String)
  | removeByProject (projectId : String)
  | removeMatchingExecution (projectId expectedSessionId : String) (expectedCancelTx : Option Nat)
  | removeBySession (sessionId : String)
  deriving DecidableEq

inductive Reply
  | unit
  | session (old : Option String)
  | info (removed : Option ProjectAndAgentInfo)
  deriving DecidableEq

inductive Frame
  | done (reply : Reply)
  -- `register` with a state label in place of a session
  | labelInfo (project : String) (info : ProjectAndAgentInfo)
  | labelProject (project : String)
  -- `register`, which has the agent's record, and `update_session`, which has none
  | swapProject (project session : String) (info : Option ProjectAndAgentInfo)
  | swapSession (project session : String) (old : Option String)
      (info : Option ProjectAndAgentInfo)
  | putInfo (project session : String) (old oldProject : Option String)
      (info : ProjectAndAgentInfo)
  | dropOld (project session : String) (old oldProject : Option String) (reply : Reply)
  | dropStale (session : String) (oldProject : Option String) (reply : Reply)
  -- `remove_by_project`
  | removeProject (project : String)
  /-- The way back from a session that was taken from its project; then the agent's record. -/
  | removeReverse (project session : String) (record : Bool)
  | removeInfo (project : String)
  -- `remove_matching_execution`
  | matchInfo (project session : String) (cancelTx : Option Nat)
  | matchProject (project session : String) (removed : ProjectAndAgentInfo)
  | matchSession (project session : String) (removed : ProjectAndAgentInfo)
  -- `remove_by_session`
  | takeSession (session : String)
  | dropProject (project session : String)
  deriving DecidableEq

def Call.begin : Call → Frame
  | register project session info =>
    if (SessionHint.classify (some session)).asSessionId.isNone then .labelInfo project info
    else .swapProject project session (some info)
  | updateSession project session =>
    if (SessionHint.classify (some session)).asSessionId.isNone then .done (.session none)
    else .swapProject project session none
  | removeByProject project => .removeProject project
  | removeMatchingExecution project session cancelTx => .matchInfo project session cancelTx
  | removeBySession session => .takeSession session

namespace AgentSessionRegistry

variable (m : AgentSessionRegistry)

def setProject (project : String) (session : Option String) : AgentSessionRegistry :=
  { m with projectToSession := Function.update m.projectToSession project session }

def setSession (session : String) (project : Option String) : AgentSessionRegistry :=
  { m with sessionToProject := Function.update m.sessionToProject session project }

def setInfo (project : String) (info : Option ProjectAndAgentInfo) : AgentSessionRegistry :=
  { m with agentInfoMap := Function.update m.agentInfoMap project info }

/-- An entry is removed if it still leads where it is expected to. -/
def removeProjectIf (project session : String) : AgentSessionRegistry :=
  if m.projectToSession project = some session then m.setProject project none else m

def removeSessionIf (session project : String) : AgentSessionRegistry :=
  if m.sessionToProject session = some project then m.setSession session none else m

end AgentSessionRegistry

/-- One access to the maps. -/
def Frame.step (m : AgentSessionRegistry) : Frame → Frame × AgentSessionRegistry
  | done reply => (.done reply, m)
  | labelInfo project info => (.labelProject project, m.setInfo project (some info))
  | labelProject project =>
    match m.projectToSession project with
    | some previous => (.removeReverse project previous false, m.setProject project none)
    | none => (.done .unit, m)
  | swapProject project session info =>
    if info = none ∧ m.projectToSession project = some session then
      (.done (.session (some session)), m)
    else (.swapSession project session (m.projectToSession project) info,
      m.setProject project (some session))
  | swapSession project session old info =>
    let oldProject := (m.sessionToProject session).filter (· ≠ project)
    (match info with
      | some info => .putInfo project session old oldProject info
      | none => .dropOld project session old oldProject (.session old),
      m.setSession session (some project))
  | putInfo project session old oldProject info =>
    (.dropOld project session old oldProject .unit, m.setInfo project (some info))
  | dropOld _ session old oldProject reply =>
    (.dropStale session oldProject reply,
      match old with
      | some old => if old ≠ session then m.setSession old none else m
      | none => m)
  | dropStale session oldProject reply =>
    (.done reply,
      match oldProject with
      | some oldProject => m.removeProjectIf oldProject session
      | none => m)
  | removeProject project =>
    match m.projectToSession project with
    | some session => (.removeReverse project session true, m.setProject project none)
    | none => (.removeInfo project, m)
  | removeReverse project session record =>
    (if record then .removeInfo project else .done .unit, m.removeSessionIf session project)
  | removeInfo project => (.done (.info (m.agentInfoMap project)), m.setInfo project none)
  | matchInfo project session cancelTx =>
    match m.agentInfoMap project with
    | some info =>
      if info.sessionId ≠ session ∨ cancelTx.any (· ≠ info.cancelTx) then (.done (.info none), m)
      else (.matchProject project session info, m.setInfo project none)
    | none => (.done (.info none), m)
  | matchProject project session removed =>
    (.matchSession project session removed, m.removeProjectIf project session)
  | matchSession project session removed =>
    (.done (.info (some removed)), m.removeSessionIf session project)
  | takeSession session =>
    match m.sessionToProject session with
    | some project => (.dropProject project session, m.setSession session none)
    | none => (.done (.info none), m)
  | dropProject project _ => (.removeInfo project, m.setProject project none)

structure State where
  registry : AgentSessionRegistry
  calls : List Frame

inductive Turn
  | call (c : Call)
  /-- The call at this place goes on by one access, or returns. -/
  | step (i : Nat)
  deriving DecidableEq

inductive Event
  | quiet
  | returned (reply : Reply)
  deriving DecidableEq

def turn (st : State) : Turn → Event × State
  | .call c => (.quiet, { st with calls := st.calls ++ [c.begin] })
  | .step i =>
    match st.calls[i]? with
    | some (.done reply) => (.returned reply, { st with calls := st.calls.eraseIdx i })
    | some f => (.quiet, ⟨(f.step st.registry).2, st.calls.set i (f.step st.registry).1⟩)
    | none => (.quiet, st)

def machine : Machine State Turn Event where
  exec := turn

/-- The two maps are inverse partial injections. -/
def AgentSessionRegistry.Inverse (m : AgentSessionRegistry) : Prop :=
  ∀ project session,
    m.projectToSession project = some session ↔ m.sessionToProject session = some project

/-- The projects a call has still to bring in line. -/
def Frame.projects : Frame → List String
  | labelInfo p _ | labelProject p | swapProject p _ _ | swapSession p _ _ _ | removeProject p
  | removeReverse p _ _ | matchInfo p _ _ | matchProject p _ _ | matchSession p _ _
  | dropProject p _ => [p]
  | putInfo p _ _ oldProject _ | dropOld p _ _ oldProject _ => p :: oldProject.toList
  | dropStale _ oldProject _ => oldProject.toList
  | done _ | removeInfo _ | takeSession _ => []

/-- The sessions a call has still to bring in line. -/
def Frame.sessions : Frame → List String
  | swapProject _ s _ | removeReverse _ s _ | matchInfo _ s _ | matchProject _ s _
  | matchSession _ s _ | takeSession s | dropProject _ s | dropStale s _ _ => [s]
  | swapSession _ s old _ | putInfo _ s old _ _ | dropOld _ s old _ _ => s :: old.toList
  | done _ | labelInfo _ _ | labelProject _ | removeProject _ | removeInfo _ => []

/-- Two calls have nothing in common to bring in line. -/
def Frame.Apart (f g : Frame) : Prop :=
  (∀ p ∈ f.projects, p ∉ g.projects) ∧ ∀ s ∈ f.sessions, s ∉ g.sessions

instance (f g : Frame) : Decidable (f.Apart g) := inferInstanceAs (Decidable (_ ∧ _))

end Rcoder.Sessions.Registry
