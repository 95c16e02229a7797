import Rcoder.Lifecycle.Evidence

/-!
# Evidence that an operation has done its work

The creation evidence of a builder, the predicates that read a stored record as proof of its
completed effects, and the checkpoint that closes future writes of a deployment.
-/

namespace Rcoder.Lifecycle

open Json

/-- The opaque input of an operation: its digest and the document it encodes, if it is one. -/
structure ExecutionInput where
  digest : String
  document : Option Json := none
  deriving DecidableEq

structure StartPgCredential where
  username : String
  password : String
  deriving DecidableEq

def StartPgCredential.read : Reader StartPgCredential :=
  record (StartPgCredential.mk <$> field "username" string <*> field "password" string)

structure ContainerBasicInfo where
  containerId : String
  containerName : String
  containerIp : String
  internalPort : Nat
  externalPort : Nat
  projectId : String
  status : String
  createdAt : String
  serviceUrl : String
  workloadUid : Option String
  deriving DecidableEq

def ContainerBasicInfo.read : Reader ContainerBasicInfo :=
  record (ContainerBasicInfo.mk <$> field "container_id" string <*>
    field "container_name" string <*> field "container_ip" string <*>
    field "internal_port" (unsigned 16) <*> field "external_port" (unsigned 16) <*>
    field "project_id" string <*> field "status" string <*> field "created_at" string <*>
    field "service_url" string <*> maybe "workload_uid" string)

structure BuilderCreationPredecessor where
  target : BuilderControlTarget
  volumes : List ResourceIdentity
  deriving DecidableEq

namespace BuilderCreationPredecessor

def read : Reader BuilderCreationPredecessor :=
  strict (BuilderCreationPredecessor.mk <$> field "target" BuilderControlTarget.read <*>
    field "volumes" (list ResourceIdentity.read))

def validateOperation (predecessor : BuilderCreationPredecessor) (operation : OperationRecord) :
    Except String Unit := do
  predecessor.target.validate
  let context := predecessor.target.context
  failIf (¬(operation.kind = .ensureBuilder ∧ context.appId = operation.appId ∧
      context.Executes operation ∧
      predecessor.target.workload.any (·.kind = .statefulSet) ∧ predecessor.volumes ≠ [] ∧
      predecessor.volumes.all fun volume =>
        volume.kind = .persistentVolumeClaim ∧ volume.name ≠ "" ∧ volume.uid ≠ ""))
    "Builder predecessor operation or volume identity differs"

end BuilderCreationPredecessor

structure BuilderCreationEvidence where
  creationLeaseReleased : Bool
  target : BuilderControlTarget
  container : ContainerBasicInfo
  registrationPredecessor : Option BuilderCreationPredecessor
  deriving DecidableEq

namespace BuilderCreationEvidence

def read : Reader BuilderCreationEvidence :=
  strict (BuilderCreationEvidence.mk <$> field "creation_lease_released" boolean <*>
    field "target" BuilderControlTarget.read <*> field "container" ContainerBasicInfo.read <*>
    maybe "registration_predecessor" BuilderCreationPredecessor.read)

def validatePredecessor (evidence : BuilderCreationEvidence) (operation : OperationRecord)
    (workload : ResourceIdentity) : Except String Unit :=
  match evidence.registrationPredecessor with
  | none => pure ()
  | some predecessor => do
    predecessor.validateOperation operation
    failIf (predecessor.target.workload.any (·.uid = workload.uid))
      "Builder replacement did not change workload identity"

def validateOperation (evidence : BuilderCreationEvidence) (operation : OperationRecord) :
    Except String Unit := do
  evidence.target.validate
  let context := evidence.target.context
  failIf (¬(evidence.creationLeaseReleased = true ∧ operation.kind = .ensureBuilder ∧
      operation.scope = .dev ∧
      (∀ binding ∈ evidence.target.resourceBinding, binding.serviceType = .userappBuilder) ∧
      context.appId = operation.appId ∧ context.Executes operation))
    "Builder completion operation identity mismatch"
  let workload ← demand evidence.target.workload "Builder completion workload missing"
  failIf (workload.kind = .statefulSet ∧ (evidence.target.pod = none ∨
      evidence.container.workloadUid.any (· ≠ workload.uid)))
    "Builder completion pod or workload identity missing"
  let physical := (evidence.target.pod.map (·.uid)).getD workload.uid
  failIf (evidence.container.containerId = "" ∨ physical ≠ evidence.container.containerId)
    "Builder completion physical identity mismatch"
  evidence.validatePredecessor operation workload

end BuilderCreationEvidence

namespace OperationRecord

variable (operation : OperationRecord)

def checkpointText (path : List String) : Option String :=
  (operation.checkpoint.pointer path).bind asStr

def holdsEvidence {α : Type} (read : Reader α) (valid : α → Bool) : Bool :=
  (read operation.checkpoint).any valid

def holdsBuilderCreation : Bool :=
  operation.holdsEvidence BuilderCreationEvidence.read fun evidence =>
    evidence.validateOperation operation = .ok ()

def builderCreationNeedsRuntimeReceipt : Bool :=
  operation.kind = .ensureBuilder &&
    (operation.state = .running || operation.state = .recoveryRequired) &&
    operation.executorId.isSome &&
    (match operation.checkpoint with
      | .null => true
      | .obj (.cons "builder_creation_predecessor" value .nil) =>
        (BuilderCreationPredecessor.read value).any fun source =>
          source.validateOperation operation = .ok ()
      | _ => false) &&
    ["claimed", "creation_source_captured", "creation_confirmation_timed_out",
      "worker_interrupted", "creation_result"].contains operation.step

/-- The evidence of a storage operation names it, whatever its input was. -/
def ownsStorageEvidence (context : ExecutionContext) : Bool :=
  context.operationId = operation.operationId && context.lifecycleId = operation.lifecycleId &&
    context.appId = operation.appId && operation.executorId = some context.executorId

def hasFinalEvidence : Bool :=
  match operation.kind with
  | .ensureBuilder => operation.step = "builder_ready_confirmed" && operation.holdsBuilderCreation
  | .create =>
    operation.step = "runtime_created" &&
      (operation.checkpointText ["resource", "container_id"]).any (· ≠ "")
  | .update =>
    operation.step = "runtime_updated" &&
      (operation.checkpointText ["resource", "container_id"]).any (· ≠ "")
  | .startDeployment | .restartDeployment =>
    operation.step = "deployment_completed" &&
      operation.checkpointText ["operation_id"] = some operation.operationId &&
      operation.checkpointText ["app_id"] = some operation.appId
  | .start | .restart | .stop | .setRecyclePolicy =>
    operation.step = "control_confirmed" &&
      operation.checkpointText ["target", "context", "operation_id"] = some operation.operationId
  | .stopBuilder | .restartBuilder =>
    operation.step = "compute_confirmed" &&
      operation.checkpointText ["target", "context", "operation_id"] =
        some operation.operationId &&
      operation.checkpointText ["result", "operation_id"] = some operation.operationId
  | .deleteCompute | .purgeResources | .deleteApplication =>
    operation.holdsEvidence DeletionCheckpoint.read fun evidence =>
      evidence.validateOperation operation = .ok () &&
        evidence.stage = operation.kind.finalDeletionStage
  | .destroyDevStorage | .destroyProdStorage =>
    operation.step = StorageDestruction.completeStep &&
      operation.holdsEvidence StorageDestruction.read fun evidence =>
        evidence.validate = .ok () && operation.ownsStorageEvidence evidence.context
  | .clearDevStorage | .clearProdStorage =>
    operation.step = StorageClear.completeStep &&
      operation.holdsEvidence StorageClear.read fun evidence =>
        evidence.validate = .ok () && operation.ownsStorageEvidence evidence.context
  | .prepareProdDatabase =>
    operation.holdsEvidence DatabasePreparationEvidence.read fun evidence =>
      evidence.stage = .managementReady && evidence.validateOperation operation = .ok ()
  | .resetDevDatabasePassword | .resetProdDatabasePassword =>
    operation.holdsEvidence DatabasePasswordEvidence.read fun evidence =>
      evidence.stage = .verified && evidence.validateOperation operation = .ok ()
  | .adoptBuilder | .adoptApplication | .hotDeploy => false

def hasDrainEvidence : Bool :=
  operation.hasFinalEvidence ||
    (operation.kind = .ensureBuilder && operation.step = "builder_created_observed" &&
      operation.holdsBuilderCreation)

def isUpdatedDeployment (target : MutationTarget) : Bool :=
  target.context.appId = operation.appId &&
    target.context.validateIdentity operation.appId = .ok () &&
    target.context.Executes operation && target.resource.kind = .deployment &&
    target.resource.name ≠ "" && target.resource.uid ≠ "" && target.resource.versioned &&
    operation.checkpointText ["resource", "project_id"] = some operation.appId &&
    operation.checkpointText ["resource", "container_id"] = some target.resource.name

def hasDeploymentUpdateReceipt : Bool :=
  match operation.command with
  | some (.deploy restart inputDigest servingRecovery) =>
    (ControlCommand.deploy restart inputDigest servingRecovery).kind = operation.kind &&
      operation.scope = .prod && operation.step = "runtime_updated" &&
      operation.checkpoint.get "storage_target" = some .null &&
      operation.checkpoint.get "requested_storage_size" = some .null &&
      ((operation.checkpoint.get "target").bind MutationTarget.read).any
        operation.isUpdatedDeployment
  | _ => false

def deploymentUpdatePrecedesCredentials (input : ExecutionInput) : Bool :=
  match operation.command with
  | some (.deploy restart inputDigest _) =>
    operation.hasDeploymentUpdateReceipt && inputDigest = input.digest &&
      input.document.any fun value =>
        (value.get "version").bind asU64 = some 1 &&
          (value.get "restart").bind asBool = some restart &&
          (value.get "params").any isObject && (value.get "previous").any isObject &&
          ((value.pointer ["request", "pg"]).bind StartPgCredential.read).any fun pg =>
            pg.username ≠ "" && pg.password ≠ ""
  | _ => false

end OperationRecord

end Rcoder.Lifecycle
