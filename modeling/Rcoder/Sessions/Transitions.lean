import Mathlib.Logic.Function.Basic
import Rcoder.Lib.Machine

/-!
# Execution transitions of a project

The transitions of a project follow each other under a mutex of its own. The map of the mutexes
keeps weak references only: a mutex lives as long as a call waits for it, holds it, or has unlocked
it and not yet dropped its reference. A guard is dropped in three steps, and calls of any project
may come between them.
-/

namespace Rcoder.Sessions.Transitions

open Function

inductive Stage
  | waiting
  | holding
  /-- The guard has unlocked the mutex and still refers to it. -/
  | unlocked
  | released
  | gone
  deriving DecidableEq

/-- The call has a reference to its mutex. -/
@[grind]
def Stage.refers : Stage → Bool
  | .waiting | .holding | .unlocked => true
  | .released | .gone => false

/-- A call of `lock_execution_transition`, later its guard. -/
structure Call where
  project : String
  mutex : Nat
  stage : Stage
  deriving DecidableEq

structure State where
  transitions : String → Option Nat
  calls : List Call

def State.new : State := ⟨fun _ => none, []⟩

/-- The `i`-th call. -/
abbrev State.At (s : State) (i : Nat) (c : Call) : Prop := s.calls[i]? = some c

/-- `strong_count` of the mutex is not zero. -/
def State.strong (s : State) (mutex : Nat) : Bool :=
  s.calls.any fun c => c.mutex = mutex ∧ c.stage.refers

def State.locked (s : State) (mutex : Nat) : Bool :=
  s.calls.any fun c => c.mutex = mutex ∧ c.stage = .holding

/-- The part of `lock_execution_transition` before its wait. A new mutex is named after the call. -/
def State.lockExecutionTransition (s : State) (project : String) : State :=
  match (s.transitions project).filter s.strong with
  | some mutex => { s with calls := s.calls ++ [⟨project, mutex, .waiting⟩] }
  | none =>
    { transitions := update s.transitions project (some s.calls.length)
      calls := s.calls ++ [⟨project, s.calls.length, .waiting⟩] }

/-- The call goes from one stage to the next. -/
def State.moves (s : State) (i : Nat) (stage stage' : Stage) : State :=
  { s with
    calls := s.calls.modify i fun c => if c.stage = stage then { c with stage := stage' } else c }

/-- `remove_if(project, strong_count() == 0)`, the end of a guard's drop. -/
def State.removeIf (s : State) (project : String) : State :=
  { s with transitions := update s.transitions project ((s.transitions project).filter s.strong) }

inductive Act
  | lock (project : String)
  | acquire (i : Nat)
  | cancel (i : Nat)
  | unlock (i : Nat)
  | release (i : Nat)
  | cleanup (i : Nat)

def State.step (s : State) : Act → State
  | .lock project => s.lockExecutionTransition project
  | .acquire i => if s.calls[i]?.any (s.locked ·.mutex) then s else s.moves i .waiting .holding
  | .cancel i => s.moves i .waiting .gone
  | .unlock i => s.moves i .holding .unlocked
  | .release i => s.moves i .unlocked .released
  | .cleanup i =>
    match s.calls[i]? with
    | some c => if c.stage = .released then (s.removeIf c.project).moves i .released .gone else s
    | none => s

def machine : Machine State Act Unit := ⟨fun s act => ((), s.step act)⟩

variable {s : State} {i j : Nat} {c c' : Call} {project q : String} {mutex : Nat}
  {stage stage' : Stage}

theorem strong_iff :
    s.strong mutex = true ↔ ∃ i c, s.At i c ∧ c.mutex = mutex ∧ c.stage.refers := by
  simp only [State.strong, List.any_eq_true, List.mem_iff_getElem?, decide_eq_true_eq]
  grind

theorem locked_iff :
    s.locked mutex = true ↔ ∃ i c, s.At i c ∧ c.mutex = mutex ∧ c.stage = .holding := by
  simp only [State.locked, List.any_eq_true, List.mem_iff_getElem?, decide_eq_true_eq]
  grind

/-- Whoever refers to a mutex finds it in the map, the map gives a mutex to one project, and a mutex
is held once. -/
structure Inv (s : State) : Prop where
  found : ∀ i c, s.At i c → c.stage.refers → s.transitions c.project = some c.mutex
  owner : ∀ project mutex, s.transitions project = some mutex → mutex < s.calls.length ∧
    ∀ i c, s.At i c → c.mutex = mutex → c.project = project
  named : ∀ i c, s.At i c → c.mutex < s.calls.length
  single : ∀ i j c c', s.At i c → s.At j c' → c.stage = .holding → c'.stage = .holding →
    c.mutex = c'.mutex → i = j

theorem Inv.new : Inv .new := by
  constructor <;> simp [State.At, State.new]

theorem Inv.lock (h : Inv s) : Inv (s.lockExecutionTransition project) := by
  obtain ⟨hfound, howner, hnamed, hsingle⟩ := h
  unfold State.lockExecutionTransition
  split <;> constructor <;> grind [strong_iff, Option.filter_eq_some_iff, Option.filter_eq_none_iff]

theorem moves_at : (s.moves i stage stage').At j c' ↔ ∃ c, s.At j c ∧
    c' = if j = i ∧ c.stage = stage then { c with stage := stage' } else c := by
  unfold State.At State.moves
  grind

theorem Inv.moves (h : Inv s) (hrefers : stage'.refers → stage.refers)
    (hfree : stage' = .holding → ∀ c, s.At i c → s.locked c.mutex = false) :
    Inv (s.moves i stage stage') := by
  obtain ⟨hfound, howner, hnamed, hsingle⟩ := h
  have hlength : (s.moves i stage stage').calls.length = s.calls.length := List.length_modify ..
  have hentries : (s.moves i stage stage').transitions = s.transitions := rfl
  have hother : stage' = .holding → ∀ c, s.At i c → ∀ k d, s.At k d → d.mutex = c.mutex →
      d.stage ≠ .holding := by
    grind [locked_iff]
  constructor <;> simp only [moves_at, hlength, hentries] <;> grind

theorem Inv.removeIf (h : Inv s) : Inv (s.removeIf project) := by
  obtain ⟨hfound, howner, hnamed, hsingle⟩ := h
  unfold State.removeIf
  constructor <;> grind [strong_iff, Option.filter_eq_some_iff]

theorem Inv.step (h : Inv s) (act : Act) : Inv (s.step act) := by
  cases act with
  | lock => exact h.lock
  | acquire =>
    simp only [State.step]
    split_ifs with hlocked
    · exact h
    · refine h.moves (fun _ => rfl) fun _ c hc => ?_
      simpa [hc] using hlocked
  | cancel | unlock | release => exact h.moves (by decide) (by rintro ⟨⟩)
  | cleanup =>
    simp only [State.step]
    split
    · split_ifs
      · exact h.removeIf.moves (by decide) (by rintro ⟨⟩)
      · exact h
    · exact h

/-! ### The entry of a project that nobody waits for -/

/-- A call of the project is left, or the map has nothing of it. -/
def Attended (project : String) (s : State) : Prop :=
  s.transitions project = none ∨ ∃ i c, s.At i c ∧ c.project = project ∧ c.stage ≠ .gone

/-- The project whose wait is cancelled. -/
def Act.cancels (act : Act) (s : State) : Option String :=
  match act with
  | .cancel i => s.calls[i]?.map Call.project
  | _ => none

theorem Attended.moves (h : Attended project s)
    (hleft : stage' = .gone → ∀ c, s.At i c → c.project ≠ project) :
    Attended project (s.moves i stage stage') := by
  obtain hnone | ⟨k, c, hc, hproject, hstage⟩ := h
  · exact .inl hnone
  · refine .inr ⟨k, _, moves_at.mpr ⟨c, hc, rfl⟩, ?_⟩
    grind

theorem Attended.lock (h : Attended project s) :
    Attended project (s.lockExecutionTransition q) := by
  unfold State.lockExecutionTransition
  by_cases hq : q = project
  · subst hq
    split <;> exact .inr ⟨_, _, List.getElem?_concat_length, rfl, by rintro ⟨⟩⟩
  obtain hnone | ⟨i, c, hc, hleft⟩ := h
  · split
    · exact .inl hnone
    · exact .inl ((update_of_ne (Ne.symm hq) ..).trans hnone)
  · have hlt : i < s.calls.length := (List.getElem?_eq_some_iff.mp hc).1
    split <;> exact .inr ⟨i, c, (List.getElem?_append_left hlt).trans hc, hleft⟩

theorem Attended.cleanup (hinv : Inv s) (h : Attended project s) (hi : s.At i c)
    (hc : c.stage = .released) :
    Attended project ((s.removeIf c.project).moves i .released .gone) := by
  by_cases hproject : c.project = project
  · -- if the entry stays, somebody refers to the mutex: another call of the project
    subst hproject
    cases hentry : (s.removeIf c.project).transitions c.project with
    | none => exact .inl hentry
    | some mutex =>
      obtain ⟨hentry, hstrong⟩ : s.transitions c.project = some mutex ∧ s.strong mutex = true := by
        simpa [State.removeIf, Option.filter_eq_some_iff] using hentry
      obtain ⟨k, d, hd, hm, hr⟩ := strong_iff.mp hstrong
      have howner := (hinv.owner _ _ hentry).2 k d hd hm
      refine .inr ⟨k, _, moves_at.mpr ⟨d, hd, rfl⟩, ?_⟩
      grind
  · refine Attended.moves (h.imp_left fun hnone => ?_) fun _ c' hc' => ?_
    · exact (update_of_ne (Ne.symm hproject) ..).trans hnone
    · cases hi.symm.trans hc'
      exact hproject

theorem Attended.step {act : Act} (hinv : Inv s) (h : Attended project s)
    (hact : act.cancels s ≠ some project) : Attended project (s.step act) := by
  cases act with
  | lock => exact h.lock
  | acquire =>
    simp only [State.step]
    split_ifs
    · exact h
    · exact h.moves (by rintro ⟨⟩)
  | cancel =>
    refine h.moves fun _ c hc hproject => hact ?_
    simp [Act.cancels, hc, hproject]
  | unlock | release => exact h.moves (by rintro ⟨⟩)
  | cleanup =>
    simp only [State.step]
    split
    · split_ifs with hc
      · exact .cleanup hinv h ‹_› hc
      · exact h
    · exact h

/-- A project has one guard at a time, nobody waits for the mutex of another project, and when all
calls of a project are over its entry is gone, provided that a guard was dropped after the last wait
that was cancelled. -/
theorem execution_transitions (acts : List Act) :
    let s := machine.after .new acts
    (∀ i j c c', s.At i c → s.At j c' → c.stage = .holding → c'.stage = .holding →
      c.project = c'.project → i = j) ∧
    (∀ i j c c', s.At i c → s.At j c' → c.stage = .waiting → c'.stage = .holding →
      c.mutex = c'.mutex → c.project = c'.project) ∧
    ∀ i c more, s.At i c → c.stage = .holding →
      machine.Follows (fun t act => act.cancels t ≠ some c.project) s (.unlock i :: more) →
      let t := machine.after s (.unlock i :: more)
      (∀ j c', t.At j c' → c'.project = c.project → c'.stage = .gone) →
      t.transitions c.project = none := by
  intro s
  have h : Inv s := Machine.after_invariant Inv.new (fun _ act h => h.step act) acts
  refine ⟨fun i j c c' hc hc' hs hs' hproject => ?_, fun i j c c' hc hc' hs hs' hm => ?_,
    fun i c more hc hstage hfollows => ?_⟩
  · have hmutex := h.found i c hc (by rw [hs]; rfl)
    rw [hproject, h.found j c' hc' (by rw [hs']; rfl)] at hmutex
    exact h.single i j c c' hc hc' hs hs' (Option.some.inj hmutex).symm
  · have hmutex := h.found j c' hc' (by rw [hs']; rfl)
    exact (h.owner _ _ hmutex).2 i c hc hm
  · intro t hover
    have hrun : Inv t ∧ Attended c.project t :=
      (Machine.Run.of_follows hfollows).invariant (I := fun t => Inv t ∧ Attended c.project t)
        ⟨h, .inr ⟨i, c, hc, rfl, by rw [hstage]; rintro ⟨⟩⟩⟩
        fun t act hact ht => ⟨ht.1.step act, ht.2.step ht.1 hact⟩
    obtain hnone | ⟨j, c', hc', hproject, hleft⟩ := hrun.2
    · exact hnone
    · exact absurd (hover j c' hc' hproject) hleft

/-- A second call of `p` waits while the guard of the first is dropped, takes the mutex over and is
dropped in its turn; a call of `q` holds its guard all the while, and another gives up its wait. -/
theorem execution_transitions_taken_over :
    let s := machine.after .new [.lock "p", .lock "q", .acquire 0, .acquire 1, .lock "p", .lock "q"]
    let t := machine.after s [.unlock 0, .acquire 2, .release 0, .cancel 3, .cleanup 0, .unlock 2,
      .release 2, .cleanup 2]
    s.calls = [⟨"p", 0, .holding⟩, ⟨"q", 1, .holding⟩, ⟨"p", 0, .waiting⟩, ⟨"q", 1, .waiting⟩] ∧
      t.calls = [⟨"p", 0, .gone⟩, ⟨"q", 1, .holding⟩, ⟨"p", 0, .gone⟩, ⟨"q", 1, .gone⟩] ∧
      t.transitions "q" = some 1 ∧ t.transitions "p" = none := by
  intro s t
  have hs : s.calls = [⟨"p", 0, .holding⟩, ⟨"q", 1, .holding⟩, ⟨"p", 0, .waiting⟩,
      ⟨"q", 1, .waiting⟩] := by decide
  have ht : t.calls = [⟨"p", 0, .gone⟩, ⟨"q", 1, .holding⟩, ⟨"p", 0, .gone⟩, ⟨"q", 1, .gone⟩] := by
    decide
  refine ⟨hs, ht, by decide, ?_⟩
  obtain ⟨-, -, hgone⟩ := execution_transitions
    [.lock "p", .lock "q", .acquire 0, .acquire 1, .lock "p", .lock "q"]
  refine hgone 0 ⟨"p", 0, .holding⟩ _ (congrArg (·[0]?) hs) rfl
    ⟨by decide, by decide, by decide, by decide, by decide, by decide, by decide, by decide,
      trivial⟩ fun j c hc hproject => ?_
  have hmem : c ∈ t.calls := List.mem_of_getElem? hc
  rw [ht] at hmem
  simp only [List.mem_cons, List.not_mem_nil, or_false] at hmem
  obtain rfl | rfl | rfl | rfl := hmem
  · rfl
  · simp at hproject
  · rfl
  · rfl

end Rcoder.Sessions.Transitions
