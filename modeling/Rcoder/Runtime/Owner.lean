import Rcoder.Runtime.Run

/-!
# Owners of a state directory

One state directory outlives its owners. An owner that exits loses its slots, its marks and the
actions it dispatched; its successor starts on what was stored. Between the calls of the kernel
the orchestration of an operation appends its own events, without the admission lock.
-/

namespace Rcoder.Runtime

open Effect Kernel

inductive OwnerInput
  | call (step : Step)
  | orchestration (id stage : String) (service : Option String) (eventName : String)
      (payload : Option Json) (faults : List Fault)
  | restart (identity : RuntimeIdentityView)
  deriving DecidableEq

def ownerMachine (env : KernelEnv) : Machine Kernel OwnerInput Answer where
  exec k
    | .call step => (kernelMachine env).exec k step
    | .orchestration id stage service eventName payload faults =>
      let (answer, k') := respond .flag
        (appendOrchestrationEvent env id stage service eventName payload) (k.withFaults faults)
      (answer, k'.withFaults [])
    | .restart identity => (.done, Kernel.new k.disk.store identity)

variable {env : KernelEnv} {k k' : Kernel} {id : String} {P : Kernel → Prop}

theorem appendOrchestrationEvent_rule (hP : Steady P) (stage : String) (service : Option String)
    (eventName : String) (payload : Option Json) :
    Keeps P (appendOrchestrationEvent env id stage service eventName payload) := by
  refine Triple.bind (R := fun _ => P) (Triple.attempt ((loadOperation_kernel hP).post
    (fun _ _ h => h.1) fun _ _ h => h.1)) fun loaded => ?_
  cases loaded with
  | error => exact .pure fun _ h => h
  | ok found =>
    cases found with
    | none => exact .pure fun _ h => h
    | some => exact emitWithPayload_rule hP stage service (some eventName) payload

/-- An orchestration event changes nothing that the kernel decides on. -/
theorem orchestration_quietly (env : KernelEnv) (k : Kernel) (id stage : String)
    (service : Option String) (eventName : String)
    (payload : Option Json) (faults : List Fault) :
    ∃ k', Quietly (k.withFaults faults) k' ∧ ((ownerMachine env).exec k
      (.orchestration id stage service eventName payload faults)).2 = k'.withFaults [] := by
  have h : Triple (· = k.withFaults faults)
      (appendOrchestrationEvent env id stage service eventName payload)
      (fun _ => Quietly (k.withFaults faults)) fun _ => Quietly (k.withFaults faults) :=
    (appendOrchestrationEvent_rule steady_quietly stage service eventName payload).pre
      fun _ hk => hk ▸ Quietly.refl _
  refine ⟨_, ?_, rfl⟩
  cases hm : appendOrchestrationEvent env id stage service eventName payload
    (k.withFaults faults) with
  | ok => exact h.ok rfl hm
  | error => exact h.error rfl hm

end Rcoder.Runtime
