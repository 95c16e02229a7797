import Mathlib.Data.List.Basic
import Rcoder.Lib.Effect
import Rcoder.Lib.Machine

/-!
# Deployment of artifacts

A deployment prepares an artifact in a directory of its own and then exchanges it for the
workspace of the volume. Every step on the file system may fail, and may be the last one of its
process: the state a crash leaves at a step is the state of the volume at that moment.
-/

namespace Rcoder.Deploy

open Effect

abbrev Archive := List UInt8

/-- The files of a directory. -/
abbrev Content := List (String × List UInt8)

/-- What is computed of an archive and of the files it unpacks to. -/
structure Env where
  sha256 : Archive → String
  verifyZipMagic : Archive → Bool
  extract : Archive → Option Content
  readReleaseLock : Content → Option String
  preflightStartup : Content → Bool

structure DeployState where
  releaseId : String
  sha256 : String
  deriving DecidableEq

/-- A directory of the volume, with the archive it was extracted from. The number tells
directories apart that hold the same. -/
structure Dir where
  number : Nat
  archive : Archive
  content : Content
  deriving DecidableEq

/-- How a step ends. A removal or an extraction that is cut short leaves something behind. -/
inductive Outcome
  | done
  | failed (left : Content)
  | crashed (left : Content)

inductive Halt
  | failed (context : String)
  | crashed
  deriving DecidableEq

structure PreparedDeploy where
  staging : String
  state : DeployState
  deriving DecidableEq

/-- The volume and the outcomes of its next steps. `made`, `passed`, `promoted` and `activated`
are history: how many directories were extracted, which of them passed preparation, what was
promoted under which release id, latest first, and whether an activation has succeeded. -/
structure Volume where
  workspace : Option Dir := none
  previous : Option Dir := none
  marker : Option DeployState := none
  incoming : List String := []
  staging : List (String × Dir) := []
  lease : Bool := false
  plan : List Outcome := []
  made : Nat := 0
  passed : List Dir := []
  promoted : List (String × Dir) := []
  activated : Bool := false

variable {α : Type}

abbrev Fs := EStateM Halt Volume

/-- One step: it is done, or the volume is left as `broken` says. -/
def step (context : String) (done : Volume → Volume) (broken : Content → Volume → Volume) :
    Fs Unit := fun v =>
  match v.plan with
  | [] => .ok () (done v)
  | .done :: plan => .ok () (done { v with plan := plan })
  | .failed left :: plan => .error (.failed context) (broken left { v with plan := plan })
  | .crashed left :: plan => .error .crashed (broken left { v with plan := plan })

def look (context : String) : Fs Unit := step context id fun _ v => v

def Outcome.isDone : Outcome → Bool
  | .done => true
  | _ => false

/-- The next `n` steps are done. -/
def Volume.letsThrough (v : Volume) (n : Nat) : Bool := (v.plan.take n).all Outcome.isDone

/-- A failure becomes a value; behind a crash nothing goes on. -/
def caught (m : Fs α) : Fs (Except String α) := fun v =>
  match m v with
  | .ok a v' => .ok (.ok a) v'
  | .error (.failed context) v' => .ok (.error context) v'
  | .error .crashed v' => .error .crashed v'

/-- What is dropped on the way out of a failure. -/
def onFailure (drop : Volume → Volume) (m : Fs α) : Fs α := fun v =>
  match m v with
  | .error (.failed context) v' => .error (.failed context) (drop v')
  | r => r

def Volume.dropStaging (name : String) (v : Volume) : Volume :=
  { v with staging := v.staging.filter (·.1 ≠ name) }

def Volume.unlock (v : Volume) : Volume := { v with lease := false }

/-! ## Preparation -/

def eqIgnoreAsciiCase (a b : String) : Bool := a.map Char.toLower = b.map Char.toLower

def validateReleaseIdFsSafe (releaseId : String) : Bool :=
  releaseId ≠ "" && !releaseId.startsWith "." &&
    releaseId.toList.all fun c => c.isAlphanum || c = '-' || c = '_' || c = '.'

structure Request where
  releaseId : String
  url : String
  /-- Whether the registered artifact is found at first, and what is read of it later. -/
  localSource : Option (Bool × Option Archive) := none
  download : Option Archive := none
  expectedSha : Option String := none
  /-- The random parts of temporary names. -/
  part : String
  temp : String

/-- `inPlace` is `Ok(None)` because of the marker, `kept` because of the artifact's own lock. -/
inductive Preparation
  | inPlace
  | kept
  | prepared (p : PreparedDeploy)
  deriving DecidableEq

def readState : Fs (Option DeployState) := do
  match ← caught (look "read deployment marker") with
  | .error _ => pure none
  | .ok _ => return (← get).marker

def markerMatches (state : Option DeployState) (r : Request) : Bool :=
  state.any fun state =>
    state.releaseId = r.releaseId && r.expectedSha.any (eqIgnoreAsciiCase · state.sha256)

def markedInPlace (r : Request) : Fs Bool := do
  let state ← readState
  if markerMatches state r then do
    look "inspect release.lock.toml"
    return (← get).workspace.any (·.content.any (·.1 = "release.lock.toml"))
  else pure false

def registeredInPlace (env : Env) (r : Request) : Fs Bool := do
  match r.localSource with
  | none => pure false
  | some (found, _) => do
    look "inspect local artifact"
    match found, r.url.dropPrefix? "artifact://" with
    | false, some id => do
      match ← caught (look "read release.lock.toml") with
      | .error _ => pure false
      | .ok _ => return (← get).workspace.any (env.readReleaseLock ·.content = some id.toString)
    | _, _ => pure false

def preflight (env : Env) (dir : Option Dir) : Fs Unit := do
  look "preflight startup"
  ensure (dir.any (env.preflightStartup ·.content) = true) (.failed "startup contract")

def preflightWorkspace (env : Env) : Fs Unit := do preflight env (← get).workspace

def tryLock (context : String) : Fs Unit := do
  look "open preparation lease"
  ensure ((← get).lease = false) (.failed context)
  modify fun v => { v with lease := true }

/-- Entries of other owners are left alone. -/
def cleanOwnedTemporary (remove : String → Fs Unit) : List String → Fs Unit
  | [] => pure ()
  | name :: names => do
    onlyIf (name.startsWith "deploy-" = true) (remove name)
    cleanOwnedTemporary remove names

def removeIncoming (name : String) : Fs Unit :=
  step "remove file" (fun v => { v with incoming := v.incoming.filter (· ≠ name) }) fun _ v => v

def removeStaging (name : String) : Fs Unit :=
  step "remove directory" (·.dropStaging name) fun left v =>
    { v with staging := v.staging.map fun e =>
        if e.1 = name then (name, { e.2 with content := left }) else e }

def cleanTemporaries : Fs Unit := do
  look "read incoming directory"
  cleanOwnedTemporary removeIncoming (← get).incoming
  look "read staging directory"
  cleanOwnedTemporary removeStaging ((← get).staging.map (·.1))

def fetch (r : Request) : Fs Archive := do
  match r.localSource with
  | some (_, found) => do
    let archive ← require found
      (.failed "registered local artifact is missing on the shared volume")
    look "read local artifact"
    look "stage local artifact into incoming"
    pure archive
  | none => do
    look "download artifact"
    require r.download (.failed "download artifact")

def extractZipSync (env : Env) (archive : Archive) (name : String) : Fs Dir := do
  let content ← require (env.extract archive) (.failed "extract artifact")
  let dir : Dir := ⟨(← get).made, archive, content⟩
  step "extract artifact"
    (fun v => { v with staging := (name, dir) :: v.staging, made := v.made + 1 })
    fun left v => { v with
      staging := (name, { dir with content := left }) :: v.staging, made := v.made + 1 }
  pure dir

/-- The work under the lease, in the temporary files `part` and `name`. -/
def stage (env : Env) (r : Request) (part name : String) : Fs Preparation := do
  look "create incoming directory"
  look "create staging directory"
  cleanTemporaries
  step "create temporary file" (fun v => { v with incoming := part :: v.incoming }) fun _ v => v
  let archive ← fetch r
  ensure (r.expectedSha.all (eqIgnoreAsciiCase · (env.sha256 archive)) = true)
    (.failed ("artifact sha256 mismatch: expected " ++ r.expectedSha.getD "" ++ ", downloaded " ++
      env.sha256 archive))
  look "read zip magic"
  ensure (env.verifyZipMagic archive = true) (.failed "not a zip archive")
  let dir ← extractZipSync env archive name
  ensure ((env.readReleaseLock dir.content).isSome = true)
    (.failed "staged package has no parsable release.lock.toml")
  modify fun v => { v with incoming := v.incoming.filter (· ≠ part) }
  preflight env (some dir)
  modify fun v => { v with passed := dir :: v.passed }
  pure (.prepared ⟨name, r.releaseId, env.sha256 archive⟩)

def prepareFresh (env : Env) (r : Request) : Fs Preparation := do
  let part := "deploy-" ++ r.part ++ ".part"
  let name := "deploy-" ++ r.temp
  look "create volume root"
  tryLock "another artifact preparation owns this volume"
  onFailure (fun v => ({ v with incoming := v.incoming.filter (· ≠ part) }.dropStaging name).unlock)
    (stage env r part name)

def prepareWithLocal (env : Env) (r : Request) : Fs Preparation := do
  ensure (validateReleaseIdFsSafe r.releaseId = true)
    (.failed ("APP_RELEASE_ID must be [A-Za-z0-9._-]+ (no leading dot), got '" ++ r.releaseId ++
      "'"))
  if ← markedInPlace r then do
    preflightWorkspace env
    pure .inPlace
  else do
    if ← registeredInPlace env r then do
      preflightWorkspace env
      pure .kept
    else prepareFresh env r

/-! ## Exchange -/

def promote (p : PreparedDeploy) : Fs Unit := do
  let dir ← require ((← get).staging.lookup p.staging) (.failed "promote prepared generation")
  step "promote prepared generation"
    (fun v => { v.dropStaging p.staging with
      workspace := some dir, promoted := (p.state.releaseId, dir) :: v.promoted })
    fun _ v => v

def removePrevious : Fs Unit :=
  step "clean previous generation" (fun v => { v with previous := none }) fun left v =>
    { v with previous := v.previous.map fun dir => { dir with content := left } }

def restore (context : String) : Fs Unit :=
  step context (fun v => { v with workspace := v.previous, previous := none }) fun _ v => v

def exchange (hadPrevious : Bool) (p : PreparedDeploy) : Fs Unit := do
  onlyIf (hadPrevious = true) (step "preserve previous generation"
    (fun v => { v with previous := v.workspace, workspace := none }) fun _ v => v)
  match ← caught (promote p) with
  | .error context => do
    onlyIf (hadPrevious = true) (restore "restore previous after failed promotion")
    throw (.failed context)
  | .ok _ => do
    look "create marker"
    look "write marker"
    step "commit deployment marker" (fun v => { v with marker := some p.state }) fun _ v => v
    modify fun v => { v with activated := true }

def activate (p : PreparedDeploy) : Fs Unit := do
  look "inspect previous generation"
  onlyIf ((← get).previous.isSome = true) removePrevious
  look "inspect workspace"
  exchange (← get).workspace.isSome p

/-- The lease of a synchronous call ends with it. -/
def leased (context : String) (m : Fs Unit) : Fs Unit := do
  tryLock context
  onFailure (·.unlock) m
  modify (·.unlock)

def restorePreviousGeneration (env : Env) (expected : String) : Fs Unit :=
  leased "preparation is active during directory recovery" do
    look "inspect recovery destination"
    ensure ((← get).workspace.isNone = true) (.failed "recovery destination already exists")
    look "inspect previous generation"
    let previous ← require (← get).previous (.failed "inspect previous generation")
    ensure (env.readReleaseLock previous.content = some expected)
      (.failed "previous generation artifact mismatch")
    restore "restore previous generation without replacement"
    look "synchronize volume root"
    ensure ((← get).workspace.any (env.readReleaseLock ·.content = some expected) = true)
      (.failed "restored generation artifact mismatch")

def cleanupStartup : Fs Unit := do
  look "create volume root"
  leased "active preparation prevents startup cleanup" cleanTemporaries

/-! ## Sequences of calls -/

/-- The volume, and what the caller of `prepare_with_local` holds. -/
structure World where
  volume : Volume := {}
  held : Option PreparedDeploy := none

inductive Call
  | prepareWithLocal (request : Request) (plan : List Outcome)
  | activate (plan : List Outcome)
  | discard
  | restorePreviousGeneration (expected : String) (plan : List Outcome)
  | cleanupStartup (plan : List Outcome)

inductive Answer
  | prepared (p : Preparation)
  | done
  | failed (context : String)
  | crashed
  deriving DecidableEq

namespace World

variable (w : World)

def planned (plan : List Outcome) : Volume :=
  { w.volume with plan := plan }

/-- The prepared files and their lease are dropped. -/
def release (p : PreparedDeploy) (v : Volume) : World :=
  ⟨(v.dropStaging p.staging).unlock, none⟩

/-- The end of a process takes its leases with it. -/
def crash (v : Volume) : World := ⟨v.unlock, none⟩

def respond : EStateM.Result Halt Volume Unit → Answer × World
  | .ok _ v => (.done, { w with volume := v })
  | .error (.failed context) v => (.failed context, { w with volume := v })
  | .error .crashed v => (.crashed, crash v)

end World

def exec (env : Env) (w : World) : Call → Answer × World
  | .prepareWithLocal r plan =>
    match prepareWithLocal env r (w.planned plan) with
    | .ok (.prepared p) v => (.prepared (.prepared p), ⟨v, some p⟩)
    | .ok a v => (.prepared a, { w with volume := v })
    | .error (.failed context) v => (.failed context, { w with volume := v })
    | .error .crashed v => (.crashed, World.crash v)
  | .activate plan =>
    match w.held with
    | none => (.done, w)
    | some p =>
      match activate p (w.planned plan) with
      | .ok _ v => (.done, World.release p v)
      | .error (.failed context) v => (.failed context, World.release p v)
      | .error .crashed v => (.crashed, World.crash v)
  | .discard => (.done, w.held.elim w (World.release · w.volume))
  | .restorePreviousGeneration expected plan =>
    w.respond (restorePreviousGeneration env expected (w.planned plan))
  | .cleanupStartup plan => w.respond (cleanupStartup (w.planned plan))

def machine (env : Env) : Machine World Call Answer := ⟨exec env⟩

end Rcoder.Deploy
