import Rcoder.Lifecycle.Types

/-!
# Physical identities

The identities of containers, workloads, volumes and leases that checkpoints carry, with the
readers of their documents and the checks made on them. Paths and addresses are kept as their
text.
-/

namespace Rcoder.Lifecycle

open Json

def ExecutionContext.fields : Record ExecutionContext :=
  ExecutionContext.mk <$> field "app_id" string <*> field "lifecycle_id" string <*>
    field "operation_id" string <*> field "executor_id" string <*>
    field "request_fingerprint" string

def ExecutionContext.read : Reader ExecutionContext := record fields

def ExecutionContext.encode (context : ExecutionContext) : Json :=
  object [("app_id", .str context.appId), ("lifecycle_id", .str context.lifecycleId),
    ("operation_id", .str context.operationId), ("executor_id", .str context.executorId),
    ("request_fingerprint", .str context.requestFingerprint)]

def ExecutionContext.Executes (context : ExecutionContext) (operation : OperationRecord) : Prop :=
  context.lifecycleId = operation.lifecycleId ∧ context.operationId = operation.operationId ∧
    context.requestFingerprint = operation.requestFingerprint ∧
      operation.executorId = some context.executorId

instance (context : ExecutionContext) (operation : OperationRecord) :
    Decidable (context.Executes operation) :=
  inferInstanceAs (Decidable (_ ∧ _))

inductive ResourceKind
  | container
  | deployment
  | statefulSet
  | service
  | configMap
  | secret
  | httpRoute
  | persistentVolumeClaim
  | hostPath
  | file
  deriving DecidableEq

def ResourceKind.ofName : String → Option ResourceKind
  | "Container" => some .container
  | "Deployment" => some .deployment
  | "StatefulSet" => some .statefulSet
  | "Service" => some .service
  | "ConfigMap" => some .configMap
  | "Secret" => some .secret
  | "HttpRoute" => some .httpRoute
  | "PersistentVolumeClaim" => some .persistentVolumeClaim
  | "HostPath" => some .hostPath
  | "File" => some .file
  | _ => none

def ResourceKind.name : ResourceKind → String
  | .container => "Container"
  | .deployment => "Deployment"
  | .statefulSet => "StatefulSet"
  | .service => "Service"
  | .configMap => "ConfigMap"
  | .secret => "Secret"
  | .httpRoute => "HttpRoute"
  | .persistentVolumeClaim => "PersistentVolumeClaim"
  | .hostPath => "HostPath"
  | .file => "File"

structure ResourceIdentity where
  kind : ResourceKind
  name : String
  uid : String
  resourceVersion : Option String
  deriving DecidableEq

namespace ResourceIdentity

def read : Reader ResourceIdentity :=
  record (ResourceIdentity.mk <$> field "kind" (enumeration ResourceKind.ofName) <*>
    field "name" string <*> field "uid" string <*> optionalField "resource_version" string)

def encode (resource : ResourceIdentity) : Json :=
  object [("kind", .str resource.kind.name), ("name", .str resource.name),
    ("uid", .str resource.uid), ("resource_version", (resource.resourceVersion.map .str).getD .null)]

def versioned (resource : ResourceIdentity) : Bool :=
  resource.resourceVersion.any (· ≠ "")

end ResourceIdentity

inductive ServiceType
  | webAgentRunner
  | computerAgentRunner
  | computerNormalProject
  | userapp
  | userappBuilder
  deriving DecidableEq

namespace ServiceType

def name : ServiceType → String
  | .webAgentRunner => "web-agent-runner"
  | .computerAgentRunner => "computer-agent-runner"
  | .computerNormalProject => "computer-normal-project"
  | .userapp => "user-app"
  | .userappBuilder => "user-app-builder"

/-- `FromStr`, with the spellings kept for older documents. -/
def ofName : String → Option ServiceType
  | "userapp" | "user-app" | "UserApp" | "Userapp" | "application" | "app" => some .userapp
  | "userapp-builder" | "user-app-builder" | "UserAppBuilder" | "UserappBuilder" =>
    some .userappBuilder
  | "web-agent-runner" | "WebAgentRunner" | "RCoder" | "rcoder" => some .webAgentRunner
  | "computer-agent-runner" | "ComputerAgentRunner" => some .computerAgentRunner
  | "computer-normal-project" | "normalProject" | "ComputerNormalProject" =>
    some .computerNormalProject
  | _ => none

def read : Reader ServiceType := fun v => (string v).bind ofName

end ServiceType

inductive LeaseReceipt
  | docker (serviceType : ServiceType) (device inode : Nat) (token : String)
  | kubernetes (serviceType : ServiceType)
      (leaseNamespace name uid resourceVersion token : String)
  deriving DecidableEq

namespace LeaseReceipt

def serviceType : LeaseReceipt → ServiceType
  | .docker serviceType .. => serviceType
  | .kubernetes serviceType .. => serviceType

/-- The token of a receipt with all its parts. -/
def completeToken : LeaseReceipt → Option String
  | .docker _ _ inode token => if inode ≠ 0 then some token else none
  | .kubernetes _ leaseNamespace name uid resourceVersion token =>
    if leaseNamespace ≠ "" ∧ name ≠ "" ∧ uid ≠ "" ∧ resourceVersion ≠ "" then some token else none

def validate (receipt : LeaseReceipt) : Except String Unit := do
  failIf (receipt.serviceType ≠ .userapp ∧ receipt.serviceType ≠ .userappBuilder)
    "Invalid operation lease family"
  let token ← demand receipt.completeToken "Incomplete operation lease receipt"
  failIf (validateIdentifier token "lease token" ≠ .ok ()) "Invalid operation lease token"

def variants : String → Option (Reader LeaseReceipt)
  | "docker" => some (strict (LeaseReceipt.docker <$> field "service_type" ServiceType.read <*>
      field "device" (unsigned 64) <*> field "inode" (unsigned 64) <*> field "token" string))
  | "kubernetes" => some (strict (LeaseReceipt.kubernetes <$>
      field "service_type" ServiceType.read <*> field "namespace" string <*> field "name" string <*>
      field "uid" string <*> field "resource_version" string <*> field "token" string))
  | _ => none

def read : Reader LeaseReceipt := tagged "runtime" variants

end LeaseReceipt

structure LeaseBinding where
  context : ExecutionContext
  receipt : LeaseReceipt
  deriving DecidableEq

structure ResourceBinding where
  appId : String
  lifecycleId : String
  serviceType : ServiceType
  physicalUid : String
  adoptedByOperation : String
  deriving DecidableEq

namespace ResourceBinding

/-- The retired `user_id` is tolerated, and nothing else is. -/
def read : Reader ResourceBinding :=
  strict ((fun appId (_ : Option String) lifecycleId serviceType physicalUid adoptedByOperation =>
      ResourceBinding.mk appId lifecycleId serviceType physicalUid adoptedByOperation) <$>
    field "app_id" string <*> maybe "user_id" string <*> field "lifecycle_id" string <*>
    field "service_type" ServiceType.read <*> field "physical_uid" string <*>
    field "adopted_by_operation" string)

def encode (binding : ResourceBinding) : Json :=
  object [("app_id", .str binding.appId), ("lifecycle_id", .str binding.lifecycleId),
    ("service_type", .str binding.serviceType.name), ("physical_uid", .str binding.physicalUid),
    ("adopted_by_operation", .str binding.adoptedByOperation)]

def validate (binding : ResourceBinding) (context : ExecutionContext) (physicalUid : String) :
    Except String Unit := do
  context.validateIdentity binding.appId
  failIf (binding.lifecycleId ≠ context.lifecycleId ∨
      (binding.serviceType ≠ .userappBuilder ∧ binding.serviceType ≠ .userapp) ∨
      binding.physicalUid = "" ∨ binding.physicalUid ≠ physicalUid ∨
      binding.adoptedByOperation = "")
    "Physical resource binding does not match the current lifecycle"

end ResourceBinding

structure StorageDirectoryIdentity where
  device : Nat
  inode : Nat
  deriving DecidableEq

structure CapturedStorageDirectory where
  path : String
  identity : Option StorageDirectoryIdentity
  deriving DecidableEq

def CapturedStorageDirectory.read : Reader CapturedStorageDirectory :=
  strict (CapturedStorageDirectory.mk <$> field "path" string <*>
    optionalField "identity" (strict (StorageDirectoryIdentity.mk <$>
      field "device" (unsigned 64) <*> field "inode" (unsigned 64))))

def CapturedStorageDirectory.isAbsolute (directory : CapturedStorageDirectory) : Bool :=
  directory.path.toList.head? = some '/'

structure MutationTarget where
  context : ExecutionContext
  resource : ResourceIdentity
  deriving DecidableEq

def MutationTarget.fields : Record MutationTarget :=
  MutationTarget.mk <$> field "context" ExecutionContext.read <*>
    field "resource" ResourceIdentity.read

def MutationTarget.read : Reader MutationTarget := record fields

structure RuntimeConfigurationTarget where
  physicalUid : String
  deploymentGeneration : String
  deriving DecidableEq

def RuntimeConfigurationTarget.read : Reader RuntimeConfigurationTarget :=
  record (RuntimeConfigurationTarget.mk <$> field "physical_uid" string <*>
    field "deployment_generation" string)

structure BuilderPodIdentity where
  name : String
  uid : String
  resourceVersion : String
  deriving DecidableEq

namespace BuilderPodIdentity

def read : Reader BuilderPodIdentity :=
  record (BuilderPodIdentity.mk <$> field "name" string <*> field "uid" string <*>
    field "resource_version" string)

def encode (pod : BuilderPodIdentity) : Json :=
  object [("name", .str pod.name), ("uid", .str pod.uid),
    ("resource_version", .str pod.resourceVersion)]

def incomplete (pod : BuilderPodIdentity) : Bool :=
  pod.name = "" || pod.uid = "" || pod.resourceVersion = ""

end BuilderPodIdentity

inductive BuilderStartupMode
  | preserveBusinessIntent
  | managementOnly
  deriving DecidableEq

def BuilderStartupMode.ofName : String → Option BuilderStartupMode
  | "preserve_business_intent" => some .preserveBusinessIntent
  | "management_only" => some .managementOnly
  | _ => none

structure BuilderControlTarget where
  resourceBinding : Option ResourceBinding
  context : ExecutionContext
  workload : Option ResourceIdentity
  pod : Option BuilderPodIdentity
  restartImage : Option String
  restartRuntimeWorkspace : Option String
  builderStartupMode : BuilderStartupMode
  deriving DecidableEq

namespace BuilderControlTarget

def fields : Record BuilderControlTarget :=
  BuilderControlTarget.mk <$> maybe "resource_binding" ResourceBinding.read <*>
    field "context" ExecutionContext.read <*> optionalField "workload" ResourceIdentity.read <*>
    optionalField "pod" BuilderPodIdentity.read <*> maybe "restart_image" string <*>
    maybe "restart_runtime_workspace" string <*>
    defaulted "builder_startup_mode" (enumeration BuilderStartupMode.ofName)
      .preserveBusinessIntent

def witnesses : Record Unit :=
  (fun (_ : Bool) (_ : List ResourceIdentity) (_ : Option Json) (_ : List Json) (_ : Option Json)
      (_ : Option Json) => ()) <$>
    defaulted "builder_compute_single_write" boolean false <*>
    defaulted "builder_volumes" (list ResourceIdentity.read) [] <*>
    maybe "builder_restart_template" anything <*>
    defaulted "builder_restart_template_history" (list anything) [] <*>
    maybe "builder_restart_stop_observation" anything <*>
    maybe "kubernetes_restart_stop_confirmation" anything

def read : Reader BuilderControlTarget :=
  strict ((fun target () => target) <$> fields <*> witnesses)

/-- `from_observation_checkpoint`: the target alone, whatever stands beside it. -/
def fromObservationCheckpoint : Reader BuilderControlTarget := record fields

def encode (target : BuilderControlTarget) : Json :=
  object ((target.resourceBinding.map fun b => ("resource_binding", b.encode)).toList ++
    [("context", target.context.encode),
      ("workload", (target.workload.map ResourceIdentity.encode).getD .null),
      ("pod", (target.pod.map BuilderPodIdentity.encode).getD .null)] ++
    (target.restartImage.map fun i => ("restart_image", .str i)).toList ++
    (target.restartRuntimeWorkspace.map fun w => ("restart_runtime_workspace", .str w)).toList ++
    if target.builderStartupMode = .managementOnly then
      [("builder_startup_mode", .str "management_only")] else [])

def validateWorkload (target : BuilderControlTarget) : Except String Unit :=
  match target.workload with
  | some workload => do
    failIf (workload.name = "" ∨ workload.uid = "") "Builder compute identity is missing"
    match target.resourceBinding with
    | some binding => binding.validate target.context workload.uid
    | none => pure ()
    failIf (¬((workload.kind = .container ∧ target.pod = none) ∨
        (workload.kind = .statefulSet ∧ workload.versioned)))
      "Builder control requires a compute-only resource identity"
  | none =>
    failIf (target.pod ≠ none ∨ target.resourceBinding ≠ none)
      "Builder pod has no captured workload"

def validate (target : BuilderControlTarget) : Except String Unit := do
  target.context.validateIdentity target.context.appId
  failIf (target.restartImage.any isBlank) "Builder restart image is empty"
  failIf (target.restartRuntimeWorkspace.any fun root =>
      root ≠ "/home/user/" ++ target.context.appId ∨
        ¬target.workload.any fun workload => workload.kind = .statefulSet)
    "Builder restart workspace requires the captured dev StatefulSet source root"
  target.validateWorkload
  failIf (target.pod.any (·.incomplete)) "Builder pod identity is incomplete"

end BuilderControlTarget

end Rcoder.Lifecycle
