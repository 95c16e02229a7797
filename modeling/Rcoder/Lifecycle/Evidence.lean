import Rcoder.Lifecycle.Resources

/-!
# Typed evidence in operation checkpoints

What the checkpoint of a business operation has to say before the store lets the operation go
on: the captured resources of a deletion, of a storage destruction or clearing, and the stages
of the database operations. Each document is read strictly and checked against the operation
it is stored under.
-/

namespace Rcoder.Lifecycle

open Json

/-! ### Deletion -/

structure AppDeletionSnapshot where
  appId : String
  operationId : String
  resources : List ResourceIdentity
  directories : Option (List CapturedStorageDirectory)
  deriving DecidableEq

def AppDeletionSnapshot.read : Reader AppDeletionSnapshot :=
  record (AppDeletionSnapshot.mk <$> field "app_id" string <*> field "operation_id" string <*>
    field "resources" (list ResourceIdentity.read) <*>
    maybe "directories" (list CapturedStorageDirectory.read))

structure BuilderDeletionSnapshot where
  resourceBinding : Option ResourceBinding
  appId : String
  operationId : String
  resources : List ResourceIdentity
  dockerBindCleanup : Bool
  deriving DecidableEq

def BuilderDeletionSnapshot.read : Reader BuilderDeletionSnapshot :=
  record (BuilderDeletionSnapshot.mk <$> maybe "resource_binding" ResourceBinding.read <*>
    field "app_id" string <*> field "operation_id" string <*>
    field "resources" (list ResourceIdentity.read) <*> field "docker_bind_cleanup" boolean)

structure BuilderRegistryIdentity where
  generation : String
  containerId : String
  deriving DecidableEq

def BuilderRegistryIdentity.read : Reader BuilderRegistryIdentity :=
  record (BuilderRegistryIdentity.mk <$> field "generation" string <*>
    field "container_id" string)

structure BuilderCollaboratorDeletionReceipt where
  runtime : BuilderDeletionSnapshot
  lease : Option LeaseReceipt
  registry : Option BuilderRegistryIdentity
  deriving DecidableEq

def BuilderCollaboratorDeletionReceipt.read : Reader BuilderCollaboratorDeletionReceipt :=
  record (BuilderCollaboratorDeletionReceipt.mk <$> field "runtime" BuilderDeletionSnapshot.read <*>
    optionalField "lease" LeaseReceipt.read <*>
    optionalField "registry" BuilderRegistryIdentity.read)

structure DevDeletionReceipt where
  runtime : BuilderDeletionSnapshot
  registry : Option BuilderRegistryIdentity
  lease : Option LeaseReceipt
  collaborators : List BuilderCollaboratorDeletionReceipt
  directories : Option (List CapturedStorageDirectory)
  deriving DecidableEq

namespace DevDeletionReceipt

def read : Reader DevDeletionReceipt :=
  record (DevDeletionReceipt.mk <$> field "runtime" BuilderDeletionSnapshot.read <*>
    optionalField "registry" BuilderRegistryIdentity.read <*> maybe "lease" LeaseReceipt.read <*>
    defaulted "collaborators" (list BuilderCollaboratorDeletionReceipt.read) [] <*>
    maybe "directories" (list CapturedStorageDirectory.read))

def registryIncomplete (receipt : DevDeletionReceipt) : Bool :=
  receipt.registry.any (·.containerId = "")

end DevDeletionReceipt

def validateDeletionResources (operationId : String) (resources : List ResourceIdentity) :
    Except String Unit := do
  validateIdentifier operationId "resource_operation_id"
  resources.forM fun resource => do
    failIf (resource.name = "" ∨ resource.uid = "") "Deletion resource identity is incomplete"
    failIf (resource.kind ≠ .container ∧ resource.versioned = false)
      "Kubernetes deletion resource version is missing"

inductive DeletionStage
  | captured
  | computeRemoved
  | productionStorageRemoved
  | developmentRemoved
  deriving DecidableEq

def DeletionStage.ofName : String → Option DeletionStage
  | "captured" => some .captured
  | "compute_removed" => some .computeRemoved
  | "production_storage_removed" => some .productionStorageRemoved
  | "development_removed" => some .developmentRemoved
  | _ => none

structure DeletionCheckpoint where
  stage : DeletionStage
  schemaVersion : Nat
  context : ExecutionContext
  kind : OperationKind
  production : AppDeletionSnapshot
  development : Option DevDeletionReceipt
  deriving DecidableEq

/-- The last stage a deletion of this kind confirms. -/
def OperationKind.finalDeletionStage (kind : OperationKind) : DeletionStage :=
  if kind = .deleteCompute then .computeRemoved else .developmentRemoved

def OperationKind.isDeletion (kind : OperationKind) : Bool :=
  kind = .deleteCompute || kind = .purgeResources || kind = .deleteApplication

namespace DeletionCheckpoint

def fields : Record DeletionCheckpoint :=
  DeletionCheckpoint.mk <$> field "stage" (enumeration DeletionStage.ofName) <*>
    field "schema_version" (unsigned 32) <*> field "context" ExecutionContext.read <*>
    field "kind" (enumeration OperationKind.ofName) <*>
    field "production" AppDeletionSnapshot.read <*>
    optionalField "development" DevDeletionReceipt.read

def read : Reader DeletionCheckpoint := strict fields

def validateDevelopment (checkpoint : DeletionCheckpoint) : Except String Unit :=
  match checkpoint.development with
  | none => pure ()
  | some development => do
    failIf (development.runtime.appId ≠ checkpoint.context.appId)
      "Development deletion checkpoint belongs to another application"
    validateDeletionResources development.runtime.operationId development.runtime.resources
    failIf development.registryIncomplete "Development registry identity is incomplete"

def validate (checkpoint : DeletionCheckpoint) : Except String Unit := do
  failIf (checkpoint.schemaVersion ≠ 1) "Unsupported application deletion checkpoint version"
  checkpoint.context.validateIdentity checkpoint.context.appId
  failIf (checkpoint.kind.isDeletion = false)
    "Operation kind does not support this deletion checkpoint"
  let needsDevelopment := checkpoint.kind ≠ .deleteCompute
  failIf (checkpoint.production.appId ≠ checkpoint.context.appId ∨
      (checkpoint.development.isSome = true ↔ ¬needsDevelopment))
    "Deletion checkpoint application or resource scope mismatch"
  failIf (¬needsDevelopment ∧
      (checkpoint.stage = .productionStorageRemoved ∨ checkpoint.stage = .developmentRemoved))
    "Compute-only deletion cannot complete storage cleanup"
  validateDeletionResources checkpoint.production.operationId checkpoint.production.resources
  checkpoint.validateDevelopment

def validateOperation (checkpoint : DeletionCheckpoint) (operation : OperationRecord) :
    Except String Unit := do
  checkpoint.validate
  failIf (¬(checkpoint.context.appId = operation.appId ∧
      checkpoint.context.Executes operation ∧ checkpoint.kind = operation.kind))
    "Deletion checkpoint does not belong to the stored operation"

end DeletionCheckpoint

/-! ### Storage destruction and clearing -/

structure StorageDestruction where
  context : ExecutionContext
  production : Option AppDeletionSnapshot
  development : DevDeletionReceipt
  deriving DecidableEq

namespace StorageDestruction

def completeStep : String := "development_storage_removed"

def fields : Record StorageDestruction :=
  StorageDestruction.mk <$> field "context" ExecutionContext.read <*>
    optionalField "production" AppDeletionSnapshot.read <*>
    field "development" DevDeletionReceipt.read

def read : Reader StorageDestruction := strict fields

def validateProduction (evidence : StorageDestruction) : Except String Unit :=
  match evidence.production with
  | none => pure ()
  | some production => do
    failIf (production.appId ≠ evidence.context.appId)
      "Storage destruction production ownership mismatch"
    validateDeletionResources production.operationId production.resources

def validate (evidence : StorageDestruction) : Except String Unit := do
  evidence.context.validateIdentity evidence.context.appId
  evidence.validateProduction
  failIf (evidence.development.runtime.appId ≠ evidence.context.appId)
    "Storage destruction development ownership mismatch"
  validateDeletionResources evidence.development.runtime.operationId
    evidence.development.runtime.resources
  failIf evidence.development.registryIncomplete
    "Storage destruction registry identity is incomplete"

end StorageDestruction

structure BuilderWorkspaceEndpoint where
  containerId : String
  address : String
  deriving DecidableEq

namespace BuilderWorkspaceEndpoint

def read : Reader BuilderWorkspaceEndpoint :=
  record (BuilderWorkspaceEndpoint.mk <$> field "container_id" string <*> field "address" string)

def isUnspecified (endpoint : BuilderWorkspaceEndpoint) : Bool :=
  endpoint.address = "0.0.0.0" || endpoint.address = "::"

/-- The address of the file server; an IPv6 address is bracketed. -/
def baseUrl (endpoint : BuilderWorkspaceEndpoint) : String :=
  if endpoint.address.toList.contains ':' then "http://[" ++ endpoint.address ++ "]:60000"
  else "http://" ++ endpoint.address ++ ":60000"

end BuilderWorkspaceEndpoint

inductive StorageClearTarget
  | development (baseUrl instanceId : String) (endpoint : BuilderWorkspaceEndpoint)
      (receipt : DevDeletionReceipt)
  | production (snapshot : AppDeletionSnapshot) (directories : List CapturedStorageDirectory)
  deriving DecidableEq

def StorageClearTarget.variants : String → Option (Reader StorageClearTarget)
  | "development" => some (record (StorageClearTarget.development <$> field "base_url" string <*>
      field "instance_id" string <*> field "endpoint" BuilderWorkspaceEndpoint.read <*>
      field "receipt" DevDeletionReceipt.read))
  | "production" => some (record (StorageClearTarget.production <$>
      field "snapshot" AppDeletionSnapshot.read <*>
      field "directories" (list CapturedStorageDirectory.read)))
  | _ => none

structure StorageClear where
  context : ExecutionContext
  target : StorageClearTarget
  deriving DecidableEq

namespace StorageClear

def completeStep : String := "storage_contents_cleared"

def fields : Record StorageClear :=
  StorageClear.mk <$> field "context" ExecutionContext.read <*>
    field "target" (tagged "type" StorageClearTarget.variants)

def read : Reader StorageClear := strict fields

/-- A Docker target is the one captured container; any other has a StatefulSet. -/
def validateWorkload (endpoint : BuilderWorkspaceEndpoint) (runtime : BuilderDeletionSnapshot) :
    Except String Unit :=
  if runtime.dockerBindCleanup then
    match runtime.resources with
    | [container] =>
      failIf (container.kind ≠ .container ∨ container.uid ≠ endpoint.containerId)
        "Storage clear endpoint differs from captured container"
    | _ => throw "Storage clear Docker target must name one container"
  else
    failIf (runtime.resources.any (·.kind = .statefulSet) = false)
      "Storage clear Kubernetes workload receipt is missing"

def validate (evidence : StorageClear) : Except String Unit := do
  evidence.context.validateIdentity evidence.context.appId
  match evidence.target with
  | .production snapshot directories => do
    failIf (snapshot.appId ≠ evidence.context.appId ∨ directories.all (·.isAbsolute) = false)
      "Storage clear production target mismatch"
    validateDeletionResources snapshot.operationId snapshot.resources
  | .development baseUrl instanceId endpoint receipt => do
    failIf (baseUrl = "" ∨ instanceId = "" ∨ endpoint.containerId = "" ∨
        endpoint.isUnspecified ∨ baseUrl ≠ endpoint.baseUrl ∨
        receipt.runtime.appId ≠ evidence.context.appId)
      "Storage clear development target mismatch"
    validateDeletionResources receipt.runtime.operationId receipt.runtime.resources
    validateWorkload endpoint receipt.runtime
    failIf receipt.registryIncomplete "Storage clear registry identity is incomplete"

end StorageClear

/-! ### Database operations -/

def isPgIdentifierByte (byte : UInt8) : Bool :=
  (48 ≤ byte && byte ≤ 57) || (65 ≤ byte && byte ≤ 90) || (97 ≤ byte && byte ≤ 122) || byte == 95

def isPgIdentifierFirstByte (byte : UInt8) : Bool :=
  (65 ≤ byte && byte ≤ 90) || (97 ≤ byte && byte ≤ 122) || byte == 95

def validatePgIdentifier (name : String) : Except String Unit :=
  match name.toUTF8.data.toList with
  | [] => .error "PG identifier must be 1..=63 bytes, got 0"
  | first :: rest =>
    if rest.length + 1 > 63 then
      .error ("PG identifier must be 1..=63 bytes, got " ++ toString (rest.length + 1))
    else if isPgIdentifierFirstByte first = false then
      .error "PG identifier must start with letter or '_'"
    else if rest.all isPgIdentifierByte then .ok ()
    else .error "PG identifier: only [a-zA-Z0-9_] allowed after the first char"

inductive DatabasePasswordStage
  | captured
  | writeSubmitted
  | verified
  | cancelled
  deriving DecidableEq

def DatabasePasswordStage.ofName : String → Option DatabasePasswordStage
  | "captured" => some .captured
  | "write_submitted" => some .writeSubmitted
  | "verified" => some .verified
  | "cancelled" => some .cancelled
  | _ => none

def DatabasePasswordStage.name : DatabasePasswordStage → String
  | .captured => "captured"
  | .writeSubmitted => "write_submitted"
  | .verified => "verified"
  | .cancelled => "cancelled"

inductive DatabasePasswordTarget
  | dev (target : BuilderControlTarget)
  | prod (target : RuntimeConfigurationTarget)
  deriving DecidableEq

def DatabasePasswordTarget.variants : String → Option (Reader DatabasePasswordTarget)
  | "dev" => some fun v => (BuilderControlTarget.read v).map .dev
  | "prod" => some fun v => (RuntimeConfigurationTarget.read v).map .prod
  | _ => none

structure DatabasePasswordEvidence where
  receiptProtocol : Option Nat
  context : ExecutionContext
  username : String
  target : DatabasePasswordTarget
  stage : DatabasePasswordStage
  deriving DecidableEq

namespace DatabasePasswordEvidence

def fields : Record DatabasePasswordEvidence :=
  DatabasePasswordEvidence.mk <$> maybe "receipt_protocol" (unsigned 32) <*>
    field "context" ExecutionContext.read <*> field "username" string <*>
    field "target" (adjacent "scope" "target" DatabasePasswordTarget.variants) <*>
    field "stage" (enumeration DatabasePasswordStage.ofName)

def read : Reader DatabasePasswordEvidence := strict fields

def validateTarget (evidence : DatabasePasswordEvidence) (operation : OperationRecord)
    (production : Bool) : Except String Unit :=
  match evidence.target with
  | .dev target => do
    failIf (production = true ∨ operation.scope ≠ .dev)
      "Database password target scope differs from admission"
    target.validate
    failIf (target.context ≠ evidence.context ∨ target.workload = none ∨
        ∃ workload ∈ target.workload, workload.kind = .statefulSet ∧ target.pod = none)
      "Database password target requires a captured builder and physical pod"
  | .prod target => do
    failIf (production = false ∨ operation.scope ≠ .prod)
      "Database password target scope differs from admission"
    failIf (target.physicalUid = "" ∨ target.deploymentGeneration = "")
      "Database password target requires a physical identity and generation"

def validateCommand (evidence : DatabasePasswordEvidence) (operation : OperationRecord) :
    Except String Unit :=
  match operation.command with
  | some (.resetDatabasePassword production username) => do
    validatePgIdentifier evidence.username
    failIf (username ≠ evidence.username ∨
        operation.kind ≠ (ControlCommand.resetDatabasePassword production username).kind)
      "Database password target account differs from admission"
    evidence.validateTarget operation production
  | _ => throw "Database password evidence requires its original command"

def validateOperation (evidence : DatabasePasswordEvidence) (operation : OperationRecord) :
    Except String Unit := do
  evidence.context.validateIdentity operation.appId
  failIf (evidence.receiptProtocol.any (· ≠ 1)) "Unknown database password receipt protocol"
  failIf (¬evidence.context.Executes operation)
    "Database password evidence has a different execution identity"
  evidence.validateCommand operation

end DatabasePasswordEvidence

structure ExplicitDeploymentPasswordEvidence where
  receiptProtocol : Option Nat
  context : ExecutionContext
  username : String
  explicitPgTarget : RuntimeConfigurationTarget
  stage : DatabasePasswordStage
  deriving DecidableEq

namespace ExplicitDeploymentPasswordEvidence

def fields : Record ExplicitDeploymentPasswordEvidence :=
  ExplicitDeploymentPasswordEvidence.mk <$> maybe "receipt_protocol" (unsigned 32) <*>
    field "context" ExecutionContext.read <*> field "username" string <*>
    field "explicit_pg_target" RuntimeConfigurationTarget.read <*>
    field "stage" (enumeration DatabasePasswordStage.ofName)

def read : Reader ExplicitDeploymentPasswordEvidence := strict fields

def isDeployment (operation : OperationRecord) : Bool :=
  (operation.kind = .startDeployment || operation.kind = .restartDeployment) &&
    operation.command.map ControlCommand.kind = some operation.kind && operation.scope = .prod

def validateOperation (evidence : ExplicitDeploymentPasswordEvidence)
    (operation : OperationRecord) : Except String Unit := do
  evidence.context.validateIdentity operation.appId
  failIf (evidence.receiptProtocol.any (· ≠ 1)) "Unknown deployment password receipt protocol"
  failIf (¬evidence.context.Executes operation)
    "Deployment password evidence has a different execution identity"
  validatePgIdentifier evidence.username
  match operation.command with
  | some (.deploy ..) => do
    failIf (isDeployment operation = false) "Deployment password evidence differs from admission"
    failIf (evidence.explicitPgTarget.physicalUid = "" ∨
        evidence.explicitPgTarget.deploymentGeneration = "")
      "Deployment password target requires a physical identity and generation"
  | _ => throw "Deployment password evidence requires its original command"

end ExplicitDeploymentPasswordEvidence

inductive DatabasePreparationStage
  | captured
  | startSubmitted
  | managementReady
  deriving DecidableEq

def DatabasePreparationStage.ofName : String → Option DatabasePreparationStage
  | "captured" => some .captured
  | "start_submitted" => some .startSubmitted
  | "management_ready" => some .managementReady
  | _ => none

structure DatabasePreparationEvidence where
  target : MutationTarget
  deploymentGeneration : String
  stage : DatabasePreparationStage
  management : Option RuntimeConfigurationTarget
  deriving DecidableEq

namespace DatabasePreparationEvidence

def fields : Record DatabasePreparationEvidence :=
  DatabasePreparationEvidence.mk <$> field "target" MutationTarget.read <*>
    field "deployment_generation" string <*>
    field "stage" (enumeration DatabasePreparationStage.ofName) <*>
    optionalField "management" RuntimeConfigurationTarget.read

def read : Reader DatabasePreparationEvidence := strict fields

def managementMatches (evidence : DatabasePreparationEvidence) : Bool :=
  match evidence.stage, evidence.management with
  | .managementReady, some management =>
    management.physicalUid ≠ "" && management.deploymentGeneration = evidence.deploymentGeneration &&
      (evidence.target.resource.kind ≠ .container ||
        management.physicalUid = evidence.target.resource.uid)
  | .captured, none | .startSubmitted, none => true
  | _, _ => false

def validateOperation (evidence : DatabasePreparationEvidence) (operation : OperationRecord) :
    Except String Unit := do
  let context := evidence.target.context
  context.validateIdentity operation.appId
  failIf (¬(operation.kind = .prepareProdDatabase ∧
      operation.command = some .prepareProdDatabase ∧ operation.scope = .prod ∧
      context.Executes operation))
    "Database preparation execution identity mismatch"
  let resource := evidence.target.resource
  failIf (resource.uid = "" ∨ resource.name = "" ∨ evidence.deploymentGeneration = "" ∨
      (resource.kind ≠ .container ∧ resource.kind ≠ .deployment) ∨
      (resource.kind = .deployment ∧ resource.versioned = false))
    "Database preparation requires a captured physical workload"
  failIf (evidence.managementMatches = false)
    "Database preparation management evidence is incomplete"

end DatabasePreparationEvidence

end Rcoder.Lifecycle
