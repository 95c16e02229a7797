import Mathlib.Logic.Function.Basic
import Rcoder.Identifier
import Rcoder.Lib.Json

/-!
# Permission requests

How a permission request of an agent is answered: by a saved rule, by the approval rules of the
session, by the decision just made for the same tool call, by the mode of the agent, or by the
user, who is asked over the session's event stream. A decision is turned into one of the options
that the agent offers, whichever those are.
-/

namespace Rcoder.Permission

inductive PermissionOptionKind
  | allowOnce
  | allowAlways
  | rejectOnce
  | rejectAlways
  deriving DecidableEq, Repr

structure PermissionOption where
  optionId : String
  kind : PermissionOptionKind
  deriving DecidableEq, Repr

inductive ToolKind
  | read
  | edit
  | delete
  | move
  | search
  | execute
  | think
  | fetch
  | switchMode
  | other
  deriving DecidableEq, Repr

def ToolKind.name : ToolKind → String
  | read => "Read"
  | edit => "Edit"
  | delete => "Delete"
  | move => "Move"
  | search => "Search"
  | execute => "Execute"
  | think => "Think"
  | fetch => "Fetch"
  | switchMode => "SwitchMode"
  | other => "Other"

structure RequestPermissionRequest where
  sessionId : String
  toolCallId : String
  kind : Option ToolKind
  title : Option String
  rawInput : Option Json
  options : List PermissionOption
  deriving DecidableEq

inductive AgentMode
  | yolo
  | ask
  deriving DecidableEq, Repr

inductive ToolApprovalAction
  | ask
  | allow
  | deny
  deriving DecidableEq, Repr

structure ToolApprovalRule where
  patterns : List String
  action : ToolApprovalAction
  toolKind : Option String
  deriving DecidableEq, Repr

structure PermissionRequestContext where
  projectId : String
  userId : Option String
  agentMode : AgentMode
  toolApprovalRules : Option (List ToolApprovalRule)
  deriving DecidableEq, Repr

inductive RuleDecision
  | allow
  | deny
  deriving DecidableEq, Repr

/-- A saved rule; the regular expression is the set of commands it matches. -/
structure PermissionRule where
  decision : RuleDecision
  compiled : Option (String → Bool)

structure SessionPermissionState where
  agentMode : AgentMode
  toolApprovalRules : Option (List ToolApprovalRule)
  deriving DecidableEq, Repr

/-- A request that waits for the user; `responder` is the reply channel of the agent. -/
structure PendingPermission where
  request : RequestPermissionRequest
  responder : Nat
  context : PermissionRequestContext

structure PermissionManager where
  pending : String × String → Option PendingPermission
  rules : String × String × String → Option (List PermissionRule)
  sessionState : String → Option SessionPermissionState
  recentResolutions : String × String → Option PermissionOptionKind

inductive RequestPermissionOutcome
  | selected (option : PermissionOption)
  | cancelled
  deriving DecidableEq, Repr

/-- What a responder is given. -/
structure Reply where
  responder : Nat
  outcome : RequestPermissionOutcome
  deriving DecidableEq, Repr

section Extractors

def trim (s : String) : String :=
  String.ofList ((s.toList.dropWhile isWhitespace).reverse.dropWhile isWhitespace).reverse

def pushNonempty (values : List String) (s : String) : List String :=
  if trim s = "" then values else values ++ [trim s]

def commandKeys : List String := ["command", "cmd", "script"]

def toolNameKeys : List String := ["tool", "tool_name", "toolName"]

def isCommandLikeKind (kindLower : String) : Bool :=
  kindLower ∈ ["execute", "bash", "terminal", "shell", "command"]

/-- The text fields of an object under the given keys. -/
def pushFields (raw : Json) (keys : List String) (values : List String) : List String :=
  keys.foldl (fun values key => match (raw.get key).bind Json.asStr with
    | some s => pushNonempty values s
    | none => values) values

def extractCommandValues (request : RequestPermissionRequest) : List String :=
  match request.rawInput with
  | none => []
  | some raw =>
    let values := match raw.asStr with
      | some s => pushNonempty [] s
      | none => []
    pushFields raw commandKeys values

def firstWord (s : String) : Option String :=
  match (s.toList.dropWhile isWhitespace).takeWhile fun c => !isWhitespace c with
  | [] => none
  | word => some (String.ofList word)

def extractToolNameValues (request : RequestPermissionRequest) : List String :=
  let values := match request.rawInput with
    | none => []
    | some raw => pushFields raw toolNameKeys []
  match request.title.bind firstWord with
  | some first => pushNonempty values first
  | none => values

def extractAllTargets (request : RequestPermissionRequest) : List String :=
  let targets := extractCommandValues request ++ extractToolNameValues request
  match request.title with
  | some title => pushNonempty targets title
  | none => targets

def extractToolName (request : RequestPermissionRequest) : String :=
  (extractToolNameValues request).head?.getD "tool"

def extractCommand (request : RequestPermissionRequest) : Option String :=
  (extractCommandValues request).head?

def extractTargetByKind (request : RequestPermissionRequest) (ruleKind : String) : String :=
  if isCommandLikeKind ruleKind.toLower then (extractCommandValues request).head?.getD ""
  else extractToolName request

def dedupPreserveOrder (values : List String) : List String := values.eraseDups

end Extractors

section Rules

/-- The approval rule applies to the request; `glob` is the matcher of the patterns. -/
def ruleMatches (glob : String → String → Bool) (request : RequestPermissionRequest)
    (rule : ToolApprovalRule) : Bool :=
  let kind := (request.kind.getD .other).name
  let targets := dedupPreserveOrder <| match rule.toolKind with
    | none => extractAllTargets request
    | some ruleKind => [extractTargetByKind request ruleKind]
  rule.toolKind.all (fun ruleKind => kind.toLower = ruleKind.toLower) &&
    rule.patterns.any fun pattern => trim pattern ≠ "" ∧ targets.any (glob (trim pattern))

def matchToolApprovalRules (glob : String → String → Bool) (context : PermissionRequestContext)
    (request : RequestPermissionRequest) : Option ToolApprovalAction :=
  (context.toolApprovalRules.bind (·.find? (ruleMatches glob request))).map (·.action)

def commandMatchesPattern (command : String) (rule : PermissionRule) : Bool :=
  rule.compiled.any (· command)

/-- The saved rules of the user, then those of everybody: a matching denial decides at once. -/
def PermissionManager.ruleDecision (m : PermissionManager) (context : PermissionRequestContext)
    (toolName : String) (command : Option String) : Option RuleDecision :=
  command.bind fun command =>
    let keys := [(context.projectId, context.userId.getD "", toolName),
      (context.projectId, "", toolName)]
    let matching := (keys.flatMap fun key => (m.rules key).getD []).filter
      (commandMatchesPattern command)
    if matching.any (·.decision = .deny) then some .deny
    else if matching.isEmpty then none
    else some .allow

/-- The state of the session replaces what the context was started with. -/
def PermissionManager.effectiveContextFor (m : PermissionManager) (sessionId : String)
    (context : PermissionRequestContext) : PermissionRequestContext :=
  match m.sessionState sessionId with
  | some state =>
    { context with agentMode := state.agentMode, toolApprovalRules := state.toolApprovalRules }
  | none => context

end Rules

section Handler

/-- The first offered option of the first preferred kind that is offered at all. -/
def selectOption (options : List PermissionOption) :
    List PermissionOptionKind → Option PermissionOption
  | [] => none
  | kind :: preferred =>
    match options.find? (·.kind = kind) with
    | some option => some option
    | none => selectOption options preferred

/-- The answer for the preferred kinds; where none of them is offered, the first option. -/
def preferredOutcome (request : RequestPermissionRequest) (preferred : List PermissionOptionKind) :
    RequestPermissionOutcome :=
  match (selectOption request.options preferred).or request.options.head? with
  | some option => .selected option
  | none => .cancelled

/-- The request waits for the user; an earlier one of the same tool call is given up. -/
def PermissionManager.storePending (m : PermissionManager) (key : String × String)
    (pending : PendingPermission) : List Reply × PermissionManager :=
  ((m.pending key).toList.map fun replaced => ⟨replaced.responder, .cancelled⟩,
    { m with pending := Function.update m.pending key (some pending) })

/-- Ask the user. Where the event cannot be delivered, `delivered = false`, the request is given up. -/
def PermissionManager.pushPermissionToFrontend (m : PermissionManager)
    (context : PermissionRequestContext) (request : RequestPermissionRequest) (responder : Nat)
    (delivered : Bool) : List Reply × PermissionManager :=
  let key := (request.sessionId, request.toolCallId)
  let (replies, m) := m.storePending key ⟨request, responder, context⟩
  if delivered then (replies, m)
  else
    (replies ++ (m.pending key).toList.map fun pending => ⟨pending.responder, .cancelled⟩,
      { m with pending := Function.update m.pending key none })

def PermissionManager.handlePermissionRequest (m : PermissionManager)
    (glob : String → String → Bool) (context : PermissionRequestContext)
    (request : RequestPermissionRequest) (responder : Nat) (delivered : Bool) :
    List Reply × PermissionManager :=
  let context := m.effectiveContextFor request.sessionId context
  match m.ruleDecision context (extractToolName request) (extractCommand request) with
  | some .allow => ([⟨responder, preferredOutcome request [.allowAlways, .allowOnce]⟩], m)
  | some .deny => ([⟨responder, preferredOutcome request [.rejectAlways, .rejectOnce]⟩], m)
  | none =>
    match matchToolApprovalRules glob context request with
    | some .allow => ([⟨responder, preferredOutcome request [.allowAlways, .allowOnce]⟩], m)
    | some .deny => ([⟨responder, preferredOutcome request [.rejectAlways, .rejectOnce]⟩], m)
    | some .ask => m.pushPermissionToFrontend context request responder delivered
    | none =>
      match m.recentResolutions (request.sessionId, request.toolCallId) with
      | some kind => ([⟨responder, preferredOutcome request [kind]⟩], m)
      | none =>
        match context.agentMode with
        | .yolo => ([⟨responder, preferredOutcome request [.allowOnce]⟩], m)
        | .ask => m.pushPermissionToFrontend context request responder delivered

end Handler

section Denials

variable {m : PermissionManager} {glob : String → String → Bool}
  {context : PermissionRequestContext} {request : RequestPermissionRequest}
  {options : List PermissionOption} {option : PermissionOption}
  {preferred : List PermissionOptionKind} {responder : Nat} {delivered : Bool}

def PermissionOptionKind.isAllow : PermissionOptionKind → Bool
  | allowOnce | allowAlways => true
  | rejectOnce | rejectAlways => false

/-- The three layers at which a request is denied, each with the kinds it asks for. -/
inductive PermissionManager.Denies (m : PermissionManager) (glob : String → String → Bool)
    (context : PermissionRequestContext) (request : RequestPermissionRequest) :
    List PermissionOptionKind → Prop
  | rule
      (decided : m.ruleDecision (m.effectiveContextFor request.sessionId context)
        (extractToolName request) (extractCommand request) = some .deny) :
      Denies m glob context request [.rejectAlways, .rejectOnce]
  | approval
      (undecided : m.ruleDecision (m.effectiveContextFor request.sessionId context)
        (extractToolName request) (extractCommand request) = none)
      (matched : matchToolApprovalRules glob (m.effectiveContextFor request.sessionId context)
        request = some .deny) :
      Denies m glob context request [.rejectAlways, .rejectOnce]
  | recent {kind : PermissionOptionKind}
      (undecided : m.ruleDecision (m.effectiveContextFor request.sessionId context)
        (extractToolName request) (extractCommand request) = none)
      (unmatched : matchToolApprovalRules glob (m.effectiveContextFor request.sessionId context)
        request = none)
      (followed : m.recentResolutions (request.sessionId, request.toolCallId) = some kind)
      (rejected : kind = .rejectOnce ∨ kind = .rejectAlways) :
      Denies m glob context request [kind]

/-- The responder is given an option that allows the call. -/
def Approves (responder : Nat) (replies : List Reply) : Prop :=
  ∃ option, ⟨responder, .selected option⟩ ∈ replies ∧ option.kind.isAllow = true

theorem selectOption_some (h : selectOption options preferred = some option) :
    option ∈ options ∧ option.kind ∈ preferred := by
  induction preferred with
  | nil => cases h
  | cons kind preferred ih =>
    unfold selectOption at h
    cases hfind : options.find? (·.kind = kind) with
    | some =>
      simp only [hfind, Option.some.injEq] at h
      subst h
      have hkind := List.find?_some hfind
      simp only [decide_eq_true_eq] at hkind
      exact ⟨List.mem_of_find?_eq_some hfind, by simp [hkind]⟩
    | none =>
      simp only [hfind] at h
      exact ⟨(ih h).1, List.mem_cons_of_mem _ (ih h).2⟩

theorem selectOption_eq_none_iff :
    selectOption options preferred = none ↔ ∀ o ∈ options, o.kind ∉ preferred := by
  induction preferred with
  | nil => simp [selectOption]
  | cons kind preferred ih =>
    unfold selectOption
    cases hfind : options.find? (·.kind = kind) with
    | some found =>
      have hkind := List.find?_some hfind
      simp only [decide_eq_true_eq] at hkind
      simp only [reduceCtorEq, false_iff, not_forall]
      exact ⟨found, List.mem_of_find?_eq_some hfind, by simp [hkind]⟩
    | none =>
      simp only [ih, List.mem_cons, not_or]
      simp only [List.find?_eq_none, decide_eq_true_eq] at hfind
      exact ⟨fun h o ho => ⟨hfind o ho, h o ho⟩, fun h o ho => (h o ho).2⟩

/-- Every kind that a denial asks for rejects. -/
theorem PermissionManager.Denies.rejects (h : m.Denies glob context request preferred) :
    ∀ kind ∈ preferred, kind.isAllow = false := by
  cases h with
  | rule | approval => decide
  | recent _ _ _ rejected =>
    intro kind hkind
    simp only [List.mem_singleton] at hkind
    subst hkind
    rcases rejected with rfl | rfl <;> rfl

/-- A denied request is answered at once, with the kinds of its denial. -/
theorem PermissionManager.Denies.handled (h : m.Denies glob context request preferred) :
    m.handlePermissionRequest glob context request responder delivered =
      ([⟨responder, preferredOutcome request preferred⟩], m) := by
  unfold PermissionManager.handlePermissionRequest
  cases h with
  | rule decided => simp only [decided]
  | approval undecided matched => simp only [undecided, matched]
  | recent undecided unmatched followed => simp only [undecided, unmatched, followed]

theorem approves_preferredOutcome :
    Approves responder [⟨responder, preferredOutcome request preferred⟩] ↔
      ∃ o ∈ (selectOption request.options preferred).or request.options.head?,
        o.kind.isAllow = true := by
  unfold Approves preferredOutcome
  cases (selectOption request.options preferred).or request.options.head? <;> simp

/-- A denied request is not answered with an approval exactly if a rejection it asks for is offered,
or the first option is no approval. -/
theorem denied_not_approved_iff (h : m.Denies glob context request preferred) :
    ¬Approves responder
        (m.handlePermissionRequest glob context request responder delivered).1 ↔
      (∃ o ∈ request.options, o.kind ∈ preferred) ∨
        ∀ o ∈ request.options.head?, o.kind.isAllow = false := by
  rw [h.handled, approves_preferredOutcome]
  cases hselect : selectOption request.options preferred with
  | some o =>
    obtain ⟨hmem, hkind⟩ := selectOption_some hselect
    have hrejects := h.rejects o.kind hkind
    have hoffered : ∃ o ∈ request.options, o.kind ∈ preferred := ⟨o, hmem, hkind⟩
    simp [hrejects, hoffered]
  | none =>
    have hmissing := selectOption_eq_none_iff.mp hselect
    have hunoffered : ¬∃ o ∈ request.options, o.kind ∈ preferred := by
      rintro ⟨o, ho, hkind⟩
      exact hmissing o ho hkind
    simp [hunoffered]

def exampleRequest (options : List PermissionOption) : RequestPermissionRequest where
  sessionId := "s"
  toolCallId := "call"
  kind := some .execute
  title := some "rm"
  rawInput := none
  options := options

/-- A session whose approval rules deny everything. -/
def exampleContext : PermissionRequestContext :=
  ⟨"project", none, .yolo, some [⟨["*"], .deny, none⟩]⟩

def PermissionManager.new : PermissionManager :=
  ⟨fun _ => none, fun _ => none, fun _ => none, fun _ => none⟩

theorem denied_not_approved_offered :
    ¬Approves 0 (PermissionManager.new.handlePermissionRequest (fun _ _ => true) exampleContext
      (exampleRequest [⟨"yes", .allowOnce⟩, ⟨"no", .rejectOnce⟩]) 0 true).1 :=
  (denied_not_approved_iff (.approval rfl (by decide +kernel))).mpr (.inl (by decide))

/-- The rules deny, the agent offers no rejection, and the request is approved. -/
theorem denial_approved :
    PermissionManager.new.Denies (fun _ _ => true) exampleContext
        (exampleRequest [⟨"yes", .allowOnce⟩]) [.rejectAlways, .rejectOnce] ∧
      Approves 0 (PermissionManager.new.handlePermissionRequest (fun _ _ => true) exampleContext
        (exampleRequest [⟨"yes", .allowOnce⟩]) 0 true).1 :=
  ⟨.approval rfl (by decide +kernel), ⟨"yes", .allowOnce⟩, by decide +kernel, rfl⟩

end Denials

end Rcoder.Permission
