import Rcoder.Lifecycle.Control

/-!
# Observations of the physical state

What recovery learns about a write it did not issue itself: evidence that is written back into
a checkpoint, the physical target of a submitted stop, the archives a restart is restored from,
and the proofs that close a superseded executor. None of them grants authority for a write.
-/

namespace Rcoder.Lifecycle

open Json

def textOrNull (value : Option String) : Json := (value.map .str).getD .null

/-- A field that is left out where it has no value. -/
def present (name : String) (value : Option Json) : List (String × Json) :=
  (value.map fun v => (name, v)).toList

/-! ### Evidence of business operations -/

def RuntimeConfigurationTarget.encode (target : RuntimeConfigurationTarget) : Json :=
  object [("physical_uid", .str target.physicalUid),
    ("deployment_generation", .str target.deploymentGeneration)]

def MutationTarget.encode (target : MutationTarget) : Json :=
  object [("context", target.context.encode), ("resource", target.resource.encode)]

def DatabasePasswordTarget.encode : DatabasePasswordTarget → Json
  | .dev target => object [("scope", .str "dev"), ("target", target.encode)]
  | .prod target => object [("scope", .str "prod"), ("target", target.encode)]

def receiptProtocolField (protocol : Option Nat) : List (String × Json) :=
  present "receipt_protocol" (protocol.map fun n => .num n)

def DatabasePasswordEvidence.encode (evidence : DatabasePasswordEvidence) : Json :=
  object (receiptProtocolField evidence.receiptProtocol ++
    [("context", evidence.context.encode), ("username", .str evidence.username),
      ("target", evidence.target.encode), ("stage", .str evidence.stage.name)])

def ExplicitDeploymentPasswordEvidence.encode (evidence : ExplicitDeploymentPasswordEvidence) :
    Json :=
  object (receiptProtocolField evidence.receiptProtocol ++
    [("context", evidence.context.encode), ("username", .str evidence.username),
      ("explicit_pg_target", evidence.explicitPgTarget.encode),
      ("stage", .str evidence.stage.name)])

def DatabasePreparationStage.name : DatabasePreparationStage → String
  | .captured => "captured"
  | .startSubmitted => "start_submitted"
  | .managementReady => "management_ready"

def DatabasePreparationEvidence.encode (evidence : DatabasePreparationEvidence) : Json :=
  object [("target", evidence.target.encode),
    ("deployment_generation", .str evidence.deploymentGeneration),
    ("stage", .str evidence.stage.name),
    ("management", (evidence.management.map (·.encode)).getD .null)]

def ContainerBasicInfo.encode (container : ContainerBasicInfo) : Json :=
  object ([("container_id", .str container.containerId),
    ("container_name", .str container.containerName),
    ("container_ip", .str container.containerIp),
    ("internal_port", .num container.internalPort),
    ("external_port", .num container.externalPort),
    ("project_id", .str container.projectId), ("status", .str container.status),
    ("created_at", .str container.createdAt), ("service_url", .str container.serviceUrl)] ++
    present "workload_uid" (container.workloadUid.map .str))

def BuilderCreationPredecessor.encode (predecessor : BuilderCreationPredecessor) : Json :=
  object [("target", predecessor.target.encode),
    ("volumes", array (predecessor.volumes.map (·.encode)))]

def BuilderCreationEvidence.encode (evidence : BuilderCreationEvidence) : Json :=
  object ([("creation_lease_released", .bool evidence.creationLeaseReleased),
    ("target", evidence.target.encode), ("container", evidence.container.encode)] ++
    present "registration_predecessor" (evidence.registrationPredecessor.map (·.encode)))

inductive DeployPhase
  | idle
  | deploying
  | orchestrating
  | running
  | failed
  deriving DecidableEq

/-- The owner's report on a hot deployment; `document` is the report as it is stored. -/
structure HotDeploymentFailureEvidence where
  target : RuntimeConfigurationTarget
  protocolVersion : Nat
  serverPhase : DeployPhase
  operationId : String
  deploymentGenerationId : String
  persisted : Bool
  requestReleaseId : String
  recoveryStatus : Option String
  phase : DeployPhase
  error : Option String
  document : Json

namespace HotDeploymentFailureEvidence

def unifiedDeployProtocol : Nat := 4

def confirms (evidence : HotDeploymentFailureEvidence) (operation : OperationRecord) (hot : Json)
    (context : ExecutionContext) (target : RuntimeConfigurationTarget) : Bool :=
  (hot.get "receipt_protocol").bind asU64 = some 1 &&
    (hot.get "phase").bind asStr = some "submit" &&
    (hot.get "release_id").bind asStr = some evidence.requestReleaseId &&
    operation.scope = .prod && context.appId = operation.appId && context.Executes operation &&
    target = evidence.target && target.physicalUid ≠ "" && target.deploymentGeneration ≠ "" &&
    evidence.protocolVersion = unifiedDeployProtocol &&
    evidence.operationId = operation.operationId &&
    evidence.deploymentGenerationId = target.deploymentGeneration &&
    evidence.phase = .failed && evidence.persisted &&
    (evidence.serverPhase = .failed || evidence.serverPhase = .running) &&
    evidence.recoveryStatus.all fun status => status = "restored" || status = "failed"

def validate (evidence : HotDeploymentFailureEvidence) (operation : OperationRecord) :
    Except String Unit := do
  let hot ← demand (operation.checkpoint.get "hot_execution") "Hot deployment checkpoint missing"
  let document ← demand (hot.get "context") "Hot execution context missing"
  let context ← demand (ExecutionContext.read document) "Invalid hot execution context"
  let document ← demand (hot.get "target") "Hot physical target missing"
  let target ← demand (RuntimeConfigurationTarget.read document) "Invalid hot physical target"
  failIf (evidence.confirms operation hot context target = false)
    "Hot deployment evidence does not confirm the original write"

end HotDeploymentFailureEvidence

structure RuntimeRequestRejection where
  status : Nat
  message : String

namespace RuntimeRequestRejection

/-- Timeouts and closed connections are no refusal. -/
def isDefinite (rejection : RuntimeRequestRejection) : Bool :=
  400 ≤ rejection.status && rejection.status < 500 && rejection.status ≠ 408 &&
    rejection.status ≠ 499

def text (rejection : RuntimeRequestRejection) : String :=
  rejection.message ++ " (HTTP " ++ toString rejection.status ++ ")"

end RuntimeRequestRejection

/-! ### Targets of compute controls -/

structure BuilderOrphanStopTarget where
  resourceBinding : Option ResourceBinding
  context : ExecutionContext
  orphanPod : BuilderPodIdentity
  controllerName : String
  controllerUid : String

def BuilderOrphanStopTarget.validate (target : BuilderOrphanStopTarget) : Except String Unit := do
  target.context.validateIdentity target.context.appId
  match target.resourceBinding with
  | some binding => binding.validate target.context target.controllerUid
  | none => pure ()
  failIf (target.controllerName = "" ∨ target.controllerUid = "" ∨ target.orphanPod.incomplete)
    "Orphan builder physical identity missing"

inductive ComputeStopObservation
  | absent (context : ExecutionContext)
  | orphan (target : BuilderOrphanStopTarget)
  | builder (target : BuilderControlTarget)
  | application (target : MutationTarget)

namespace ComputeStopObservation

/-- The physical shapes that a checkpoint shows. -/
structure Shape where
  computeAbsent : Option Bool
  orphanPod : Option BuilderPodIdentity
  workload : Option ResourceIdentity
  pod : Option BuilderPodIdentity
  resource : Option ResourceIdentity

def Shape.read : Reader Shape :=
  record (Shape.mk <$> optionalField "compute_absent" boolean <*>
    optionalField "orphan_pod" BuilderPodIdentity.read <*>
    optionalField "workload" ResourceIdentity.read <*>
    optionalField "pod" BuilderPodIdentity.read <*>
    optionalField "resource" ResourceIdentity.read)

def readAbsent : Reader ComputeStopObservation :=
  record ((fun context (_ : Bool) => .absent context) <$>
    field "context" ExecutionContext.read <*> field "compute_absent" boolean)

def readOrphan : Reader ComputeStopObservation :=
  record ((fun binding context pod name uid => .orphan ⟨binding, context, pod, name, uid⟩) <$>
    optionalField "resource_binding" ResourceBinding.read <*>
    field "context" ExecutionContext.read <*> field "orphan_pod" BuilderPodIdentity.read <*>
    field "controller_name" string <*> field "controller_uid" string)

def fromCheckpoint (checkpoint : Json) (scope : OperationScope) :
    Option ComputeStopObservation :=
  (Shape.read checkpoint).bind fun shape =>
    match decide (shape.computeAbsent = some true), shape.orphanPod.isSome,
        shape.workload.isSome || shape.pod.isSome, shape.resource.isSome, scope with
    | true, false, false, false, .dev | true, false, false, false, .prod => readAbsent checkpoint
    | false, true, false, false, .dev => readOrphan checkpoint
    | false, false, true, false, .dev =>
      (BuilderControlTarget.fromObservationCheckpoint checkpoint).map .builder
    | false, false, false, true, .prod => (MutationTarget.read checkpoint).map .application
    | _, _, _, _, _ => none

def context : ComputeStopObservation → ExecutionContext
  | .absent context => context
  | .orphan target => target.context
  | .builder target => target.context
  | .application target => target.context

end ComputeStopObservation

/-- The witness of a conditional start, read from an object only. -/
structure ComputeStartTarget where
  target : MutationTarget
  computeStartSingleWrite : Bool
  volumes : List ResourceIdentity
  restartImage : Option String

def ComputeStartTarget.read : Reader ComputeStartTarget
  | .obj fields => record (ComputeStartTarget.mk <$> MutationTarget.fields <*>
      defaulted "compute_start_single_write" boolean false <*>
      defaulted "volumes" (list ResourceIdentity.read) [] <*> maybe "restart_image" string)
      (.obj fields)
  | _ => none

/-- The archive an application's compute is restored from. -/
structure AppRestartTemplate where
  source : MutationTarget
  archive : ResourceIdentity
  volumes : List ResourceIdentity

def AppRestartTemplate.read : Reader AppRestartTemplate :=
  record (AppRestartTemplate.mk <$> field "source" MutationTarget.read <*>
    field "archive" ResourceIdentity.read <*> field "volumes" (list ResourceIdentity.read))

structure BuilderRestartTemplate where
  source : BuilderControlTarget
  archive : ResourceIdentity
  volumes : List ResourceIdentity
  deriving DecidableEq

namespace BuilderRestartTemplate

def read : Reader BuilderRestartTemplate :=
  strict (BuilderRestartTemplate.mk <$> field "source" BuilderControlTarget.read <*>
    field "archive" ResourceIdentity.read <*> field "volumes" (list ResourceIdentity.read))

def encode (template : BuilderRestartTemplate) : Json :=
  object [("source", template.source.encode), ("archive", template.archive.encode),
    ("volumes", array (template.volumes.map (·.encode)))]

def archives (template : BuilderRestartTemplate) (source : BuilderControlTarget)
    (volumes : List ResourceIdentity) : Bool :=
  template.source = source && template.volumes = volumes && template.archive.kind = .file &&
    template.archive.name ≠ "" && template.archive.uid ≠ ""

end BuilderRestartTemplate

/-! ### The stop boundary of a restart -/

inductive BuilderRestartStopKind
  | stopReceiptAcknowledged
  | capturedContainerAbsent
  deriving DecidableEq

def BuilderRestartStopKind.name : BuilderRestartStopKind → String
  | .stopReceiptAcknowledged => "stop_receipt_acknowledged"
  | .capturedContainerAbsent => "captured_container_absent"

structure BuilderRestartStopObservation where
  target : BuilderControlTarget
  volumes : List ResourceIdentity
  kind : BuilderRestartStopKind

namespace BuilderRestartStopObservation

def isLowerHexdigit (byte : UInt8) : Bool :=
  (48 ≤ byte && byte ≤ 57) || (97 ≤ byte && byte ≤ 102)

def validate (observation : BuilderRestartStopObservation) : Except String Unit := do
  observation.target.validate
  let workload ← demand observation.target.workload
    "Restart stop observation has no captured Docker Container"
  failIf (workload.kind ≠ .container ∨ workload.uid.utf8ByteSize ≠ 64 ∨
      workload.uid.toUTF8.data.toList.all isLowerHexdigit = false ∨
      observation.target.pod ≠ none ∨ observation.volumes = [])
    "Restart stop observation requires its exact full Docker ID and retained mounts"
  failIf ((observation.volumes.any fun volume =>
      volume.kind ≠ .hostPath ∨ volume.name = "" ∨ volume.uid = "") ∨
      ¬(observation.volumes.map (·.name)).Nodup)
    "Restart stop observation has invalid retained Docker mounts"

def encode (observation : BuilderRestartStopObservation) : Json :=
  object [("target", observation.target.encode),
    ("volumes", array (observation.volumes.map (·.encode))),
    ("kind", .str observation.kind.name)]

end BuilderRestartStopObservation

inductive UnrebuildableReason
  | missingArchive
  | unreadableArchive
  | archiveUnavailable
  deriving DecidableEq

def UnrebuildableReason.name : UnrebuildableReason → String
  | .missingArchive => "missing_archive"
  | .unreadableArchive => "unreadable_archive"
  | .archiveUnavailable => "archive_unavailable"

structure BuilderRestartArchiveUnavailable where
  template : BuilderRestartTemplate

def BuilderRestartArchiveUnavailable.encode (witness : BuilderRestartArchiveUnavailable) : Json :=
  object [("template", witness.template.encode), ("kind", .str "positive_unavailable")]

def unrebuildableEvidence (reason : UnrebuildableReason)
    (observation : BuilderRestartStopObservation)
    (unavailable : Option BuilderRestartArchiveUnavailable) : Json :=
  object ([("reason", .str reason.name), ("observation", observation.encode)] ++
    present "archive_unavailable" (unavailable.map (·.encode)))

def builderRestartStopObservationKey : String := "builder_restart_stop_observation"

def restartStopRecoveryEvidence (snapshot : ControlRecord)
    (observation : BuilderRestartStopObservation) (unrebuildable : Option Json) : Json :=
  object ([("observation", observation.encode), ("original_state", .str snapshot.state.name),
    ("original_error_code", textOrNull snapshot.errorCode),
    ("original_error_message", textOrNull snapshot.errorMessage)] ++
    present "original_restart_template" (snapshot.checkpoint.get "builder_restart_template") ++
    present "unrebuildable" unrebuildable ++
    present "previous_observation"
      (snapshot.checkpoint.get builderRestartStopObservationKey))

inductive KubernetesRestartStopEvidence
  | stopReceiptAcknowledged
  | observedStopped

def KubernetesRestartStopEvidence.name : KubernetesRestartStopEvidence → String
  | .stopReceiptAcknowledged => "stop_receipt_acknowledged"
  | .observedStopped => "observed_stopped"

def kubernetesRestartStopConfirmationKey : String := "kubernetes_restart_stop_confirmation"

def kubernetesStopConfirmation (snapshot : ControlRecord)
    (evidence : KubernetesRestartStopEvidence) : Json :=
  object ([("evidence", .str evidence.name), ("original_state", .str snapshot.state.name),
    ("original_error_code", textOrNull snapshot.errorCode),
    ("original_error_message", textOrNull snapshot.errorMessage)] ++
    present "previous_confirmation"
      (snapshot.checkpoint.get kubernetesRestartStopConfirmationKey))

/-! ### Closing a superseded executor -/

inductive DrainEvidence
  | noMutationSubmitted
  | persistedRuntimeAcknowledgement (checkpoint : Json)
  | conditionalStartupFenced (checkpoint : Json)
  | conditionalStopFenced (checkpoint : Json)
  | persistedMutationBoundary (checkpoint : Json)
  | mutationCompleted (checkpoint : Json)

def DrainEvidence.encode : DrainEvidence → Json
  | .noMutationSubmitted => object [("outcome", .str "no_mutation_submitted")]
  | .persistedRuntimeAcknowledgement checkpoint =>
    object [("outcome", .str "persisted_runtime_acknowledgement"), ("checkpoint", checkpoint)]
  | .conditionalStartupFenced checkpoint =>
    object [("outcome", .str "conditional_startup_fenced"), ("checkpoint", checkpoint)]
  | .conditionalStopFenced checkpoint =>
    object [("outcome", .str "conditional_stop_fenced"), ("checkpoint", checkpoint)]
  | .persistedMutationBoundary checkpoint =>
    object [("outcome", .str "persisted_mutation_boundary"), ("checkpoint", checkpoint)]
  | .mutationCompleted checkpoint =>
    object [("outcome", .str "mutation_completed"), ("checkpoint", checkpoint)]

namespace ControlRecord

variable (control : ControlRecord)

def executes (context : ExecutionContext) : Bool := control.executionContext = .ok context

def hasDockerComputeTarget : Bool :=
  match control.scope with
  | .dev => (BuilderControlTarget.read control.checkpoint).any fun target =>
      control.executes target.context && target.validate = .ok () &&
        target.workload.any (·.kind = .container)
  | .prod => (MutationTarget.read control.checkpoint).any fun target =>
      control.executes target.context && target.resource.kind = .container &&
        target.resource.uid ≠ "" && target.resource.name ≠ ""
  | .application => false

def hasConditionalComputeWrite : Bool :=
  match control.scope with
  | .dev => (control.checkpoint.get "builder_compute_single_write").bind asBool = some true
  | .prod => (control.checkpoint.get "compute_start_single_write").bind asBool = some true
  | .application => false

def retainedBuilderVolumes : Option (List ResourceIdentity) :=
  (control.checkpoint.get "builder_volumes").bind (list ResourceIdentity.read)

def holdsKubernetesBuilderLease : Bool :=
  match control.lease with
  | some (.kubernetes .userappBuilder ..) => true
  | _ => false

def retainedBuilderVolumeEvidence : Bool :=
  control.retainedBuilderVolumes.any fun volumes =>
    control.action = .restart && control.scope = .dev && control.holdsKubernetesBuilderLease &&
      volumes ≠ [] && (volumes.all fun volume => volume.kind = .persistentVolumeClaim &&
        volume.name ≠ "" && volume.uid ≠ "") &&
      (volumes.map (·.name)).Nodup && (volumes.map (·.uid)).Nodup

def retainedBuilderCreation : Bool :=
  (BuilderControlTarget.read control.checkpoint).any fun target =>
    control.retainedBuilderVolumeEvidence && control.executes target.context &&
      target.validate = .ok () && target.workload.isNone && target.pod.isNone &&
      target.resourceBinding.isNone

def stoppedBuilderAbsence (next : BuilderControlTarget) : Bool :=
  (BuilderControlTarget.read control.checkpoint).any fun old =>
    control.stage = "stopped" && control.retainedBuilderVolumeEvidence && old.validate = .ok () &&
      next.validate = .ok () && control.executes old.context && control.executes next.context &&
      old.workload.any (·.kind = .statefulSet) && next.workload.isNone && next.pod.isNone &&
      next.resourceBinding.isNone && old.restartImage = next.restartImage &&
      old.builderStartupMode = next.builderStartupMode &&
      (old.restartRuntimeWorkspace.all fun root => root = "/home/user/" ++ control.appId) &&
      next.restartRuntimeWorkspace.isNone

end ControlRecord

end Rcoder.Lifecycle
