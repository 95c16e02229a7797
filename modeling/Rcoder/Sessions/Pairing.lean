import Mathlib.Data.List.Perm.Basic
import Rcoder.Lib.Inverse
import Rcoder.Sessions.Registry

/-!
# Projects and sessions stay paired

Between two steps of a call the maps are inverse up to a few entries, which the rest of the call
accounts for. Calls that are at work on different projects and sessions do not disturb each other;
two registrations of one project do.
-/

namespace Rcoder.Sessions.Registry

open List

section Frames

/-- Entries of a project that the session does not answer yet, or no longer. -/
def Frame.aheads : Frame → List (String × String)
  | swapSession p s _ _ | dropProject p s => [(p, s)]
  | putInfo _ s _ oldProject _ | dropOld _ s _ oldProject _ | dropStale s oldProject _ =>
    oldProject.toList.map fun q => (q, s)
  | done _ | labelInfo _ _ | labelProject _ | swapProject _ _ _ | removeProject _
  | removeReverse _ _ _ | removeInfo _ | matchInfo _ _ _ | matchProject _ _ _
  | matchSession _ _ _ | takeSession _ => []

/-- Entries of a session that the project does not answer any more. -/
def Frame.behinds : Frame → List (String × String)
  | swapSession p _ old _ | putInfo p _ old _ _ | dropOld p _ old _ _ =>
    old.toList.map fun o => (p, o)
  | removeReverse p s _ | matchSession p s _ => [(p, s)]
  | done _ | labelInfo _ _ | labelProject _ | swapProject _ _ _ | dropStale _ _ _
  | removeProject _ | removeInfo _ | matchInfo _ _ _ | matchProject _ _ _ | takeSession _
  | dropProject _ _ => []

/-- What a call can rely on between its steps. -/
def Frame.Holds (m : AgentSessionRegistry) : Frame → Prop
  | swapSession p s old _ =>
    m.projectToSession p = some s ∧ ∀ o ∈ old, m.sessionToProject o = some p
  | putInfo p s old oldProject _ | dropOld p s old oldProject _ =>
    m.projectToSession p = some s ∧ m.sessionToProject s = some p ∧
      (∀ o ∈ old, m.sessionToProject o = some p) ∧ ∀ q ∈ oldProject, q ≠ p
  | dropStale s oldProject _ => ∀ q ∈ oldProject, m.sessionToProject s ≠ some q
  | removeReverse p s _ | matchSession p s _ => m.projectToSession p ≠ some s
  | dropProject p s => m.projectToSession p = some s ∧ m.sessionToProject s ≠ some p
  | done _ | labelInfo _ _ | labelProject _ | swapProject _ _ _ | removeProject _
  | removeInfo _ | matchInfo _ _ _ | matchProject _ _ _ | takeSession _ => True

variable {m : AgentSessionRegistry} {f g : Frame} {A B : String → String → Prop}

/-- The maps are inverse up to what the call `f` and, by `A` and `B`, the others account for. -/
structure Between (m : AgentSessionRegistry) (A B : String → String → Prop) (f : Frame) : Prop where
  maps : InverseUpto m.projectToSession m.sessionToProject
    (fun p s => (p, s) ∈ f.aheads ∨ A p s) (fun p s => (p, s) ∈ f.behinds ∨ B p s)
  holds : f.Holds m

/-- Others account for nothing that the call is at work on. -/
def Foreign (A : String → String → Prop) (f : Frame) : Prop :=
  ∀ p s, A p s → p ∉ f.projects ∧ s ∉ f.sessions

attribute [grind] Frame.aheads Frame.behinds Frame.Holds Frame.projects Frame.sessions
  AgentSessionRegistry.removeProjectIf AgentSessionRegistry.removeSessionIf

@[grind =]
theorem AgentSessionRegistry.setProject_project (p q : String) (s : Option String) :
    (m.setProject p s).projectToSession q = if q = p then s else m.projectToSession q :=
  Function.update_apply ..

@[grind =]
theorem AgentSessionRegistry.setProject_session (p q : String) (s : Option String) :
    (m.setProject p s).sessionToProject q = m.sessionToProject q := rfl

@[grind =]
theorem AgentSessionRegistry.setSession_session (s q : String) (p : Option String) :
    (m.setSession s p).sessionToProject q = if q = s then p else m.sessionToProject q :=
  Function.update_apply ..

@[grind =]
theorem AgentSessionRegistry.setSession_project (s q : String) (p : Option String) :
    (m.setSession s p).projectToSession q = m.projectToSession q := rfl

@[grind =]
theorem AgentSessionRegistry.setInfo_project (p q : String) (i : Option ProjectAndAgentInfo) :
    (m.setInfo p i).projectToSession q = m.projectToSession q := rfl

@[grind =]
theorem AgentSessionRegistry.setInfo_session (p q : String) (i : Option ProjectAndAgentInfo) :
    (m.setInfo p i).sessionToProject q = m.sessionToProject q := rfl

/-- One access of a call, among others that are at work on other projects and sessions. -/
theorem Between.step (h : Between m A B f) (hA : Foreign A f) (hB : Foreign B f) :
    Between (f.step m).2 A B (f.step m).1 := by
  obtain ⟨⟨hforward, hbackward⟩, hholds⟩ := h
  unfold Foreign at hA hB
  -- each access writes one entry; what it leaves unanswered is what the next frame accounts for
  cases f with
  | swapSession p s old info =>
    cases old <;> cases info <;> refine ⟨⟨?_, ?_⟩, ?_⟩ <;> grind [Frame.step]
  | putInfo => exact ⟨⟨hforward, hbackward⟩, hholds⟩
  | dropOld p s old oldProject =>
    cases old <;> cases oldProject <;>
      simp only [Frame.behinds, Frame.step, Option.toList_some, map_cons, map_nil] at * <;>
      refine ⟨⟨?_, ?_⟩, ?_⟩ <;> grind
  | dropStale s oldProject =>
    cases oldProject <;> refine ⟨⟨?_, ?_⟩, ?_⟩ <;> grind [Frame.step]
  | swapProject p =>
    cases hp : m.projectToSession p <;> refine ⟨⟨?_, ?_⟩, ?_⟩ <;> grind [Frame.step]
  | _ => refine ⟨⟨?_, ?_⟩, ?_⟩ <;> grind [Frame.step]

end Frames

section Calls

variable {m m' : AgentSessionRegistry} {f g : Frame} {p s : String} {l l' : List Frame}

theorem Frame.mem_of_aheads (h : (p, s) ∈ f.aheads) : p ∈ f.projects ∧ s ∈ f.sessions := by
  cases f <;> grind

theorem Frame.mem_of_behinds (h : (p, s) ∈ f.behinds) : p ∈ f.projects ∧ s ∈ f.sessions := by
  cases f <;> grind

theorem Frame.step_others :
    (p ∉ f.projects → (f.step m).2.projectToSession p = m.projectToSession p) ∧
      (s ∉ f.sessions → (f.step m).2.sessionToProject s = m.sessionToProject s) := by
  cases f with
  | dropOld p s old => cases old <;> grind [step]
  | dropStale s oldProject => cases oldProject <;> grind [step]
  | swapSession p s old info => cases info <;> grind [step]
  | _ => grind [step]

/-- What a call relies on is about its own projects and sessions. -/
theorem Frame.Holds.congr (h : f.Holds m)
    (hp : ∀ p ∈ f.projects, m'.projectToSession p = m.projectToSession p)
    (hs : ∀ s ∈ f.sessions, m'.sessionToProject s = m.sessionToProject s) : f.Holds m' := by
  cases f with
  | swapSession p s old | putInfo p s old | dropOld p s old =>
    simp_all [Holds, projects, sessions]
  | _ => grind

theorem Frame.Apart.symm (h : f.Apart g) : g.Apart f :=
  ⟨fun p hp hp' => h.1 p hp' hp, fun s hs hs' => h.2 s hs' hs⟩

/-- The maps are inverse up to what the calls under way account for. -/
structure Coherent (m : AgentSessionRegistry) (l : List Frame) : Prop where
  maps : InverseUpto m.projectToSession m.sessionToProject
    (fun p s => ∃ f ∈ l, (p, s) ∈ f.aheads) (fun p s => ∃ f ∈ l, (p, s) ∈ f.behinds)
  holds : ∀ f ∈ l, f.Holds m

theorem Coherent.perm (h : Coherent m l) (hl : l.Perm l') : Coherent m l' := by
  constructor
  · apply h.maps.mono
    · rintro p s ⟨f, hf, hex⟩
      exact ⟨f, hl.subset hf, hex⟩
    · rintro p s ⟨f, hf, hex⟩
      exact ⟨f, hl.subset hf, hex⟩
  · intro f hf
    exact h.holds f (hl.symm.subset hf)

theorem Coherent.step (h : Coherent m (f :: l)) (hl : (f :: l).Pairwise Frame.Apart) :
    Coherent (f.step m).2 ((f.step m).1 :: l) := by
  obtain ⟨hapart, -⟩ := pairwise_cons.mp hl
  let A p s := ∃ g ∈ l, (p, s) ∈ g.aheads
  let B p s := ∃ g ∈ l, (p, s) ∈ g.behinds
  have hA : Foreign A f := by
    rintro p s ⟨g, hg, hex⟩
    obtain ⟨hp, hs⟩ := Frame.mem_of_aheads hex
    exact ⟨fun hpf => (hapart g hg).1 p hpf hp, fun hsf => (hapart g hg).2 s hsf hs⟩
  have hB : Foreign B f := by
    rintro p s ⟨g, hg, hex⟩
    obtain ⟨hp, hs⟩ := Frame.mem_of_behinds hex
    exact ⟨fun hpf => (hapart g hg).1 p hpf hp, fun hsf => (hapart g hg).2 s hsf hs⟩
  have hbetween : Between m A B f := by
    refine ⟨h.maps.mono ?_ ?_, h.holds f mem_cons_self⟩
    · simp [A]
    · simp [B]
  have hnext := hbetween.step hA hB
  constructor
  · apply hnext.maps.mono
    · simp [A]
    · simp [B]
  · intro g hg
    rcases mem_cons.mp hg with rfl | hold
    · exact hnext.holds
    · apply (h.holds g (mem_cons_of_mem _ hold)).congr
      · intro p hp
        exact (Frame.step_others (s := "")).1 fun hpf => (hapart g hold).1 p hpf hp
      · intro s hs
        exact (Frame.step_others (p := "")).2 fun hsf => (hapart g hold).2 s hsf hs

/-- A call that is done accounts for nothing. -/
theorem Coherent.returned {reply : Reply} (h : Coherent m (.done reply :: l)) : Coherent m l := by
  refine ⟨h.maps.mono ?_ ?_, fun f hf => h.holds f (mem_cons_of_mem _ hf)⟩
  · simp [Frame.aheads]
  · simp [Frame.behinds]

theorem Call.begin_spec (c : Call) : c.begin.aheads = [] ∧ c.begin.behinds = [] ∧
    c.begin.Holds m := by
  cases c with
  | register | updateSession =>
    simp only [begin]
    split_ifs <;> exact ⟨rfl, rfl, trivial⟩
  | _ => exact ⟨rfl, rfl, trivial⟩

theorem Coherent.call (h : Coherent m l) (c : Call) : Coherent m (l ++ [c.begin]) := by
  obtain ⟨haheads, hbehinds, hholds⟩ := c.begin_spec
  constructor
  · apply h.maps.mono
    · rintro p s ⟨f, hf, hex⟩
      exact ⟨f, mem_append_left _ hf, hex⟩
    · rintro p s ⟨f, hf, hex⟩
      exact ⟨f, mem_append_left _ hf, hex⟩
  · intro f hf
    rcases mem_append.mp hf with hold | hnew
    · exact h.holds f hold
    · rw [mem_singleton.mp hnew]
      exact hholds

/-- The calls under way are at work on different projects and sessions. -/
def Disjoint (st : State) (_ : Turn) : Prop :=
  st.calls.Pairwise Frame.Apart

instance (st : State) (t : Turn) : Decidable (Disjoint st t) :=
  inferInstanceAs (Decidable (List.Pairwise _ _))

theorem Coherent.turn {st : State} {t : Turn} (h : Coherent st.registry st.calls)
    (hd : Disjoint st t) : Coherent (machine.exec st t).2.registry (machine.exec st t).2.calls := by
  simp only [machine]
  cases t with
  | call c => exact h.call c
  | step i =>
    simp only [Registry.turn]
    cases hi : st.calls[i]? with
    | none => exact h
    | some f =>
      obtain ⟨hlt, rfl⟩ := List.getElem?_eq_some_iff.mp hi
      have hperm := List.getElem_cons_eraseIdx_perm hlt
      have hcons := h.perm hperm.symm
      have hapart := (hperm.pairwise_iff fun hfg => hfg.symm).mpr hd
      generalize st.calls[i] = f at hcons hapart
      split
      case h_1 reply heq =>
        cases heq
        exact hcons.returned
      case h_2 f' heq =>
        cases heq
        exact (hcons.step hapart).perm (set_perm_cons_eraseIdx hlt _).symm
      case h_3 heq => cases heq

variable {tr : List (Turn × Event)} {u : State}

/-- As long as the calls under way are at work on different projects and sessions, the two maps are
inverse whenever none is under way. -/
theorem inverse_at_rest (hm : m.Inverse) (hr : machine.Run Disjoint ⟨m, []⟩ tr u)
    (hrest : u.calls = []) : u.registry.Inverse := by
  have hcoherent : Coherent u.registry u.calls := by
    refine hr.invariant (I := fun u => Coherent u.registry u.calls) ?_ fun st t hd h => h.turn hd
    refine ⟨⟨?_, ?_⟩, by simp⟩
    · intro p s hp
      exact .inl ((hm p s).mp hp)
    · intro p s hs
      exact .inl ((hm p s).mpr hs)
  rw [hrest] at hcoherent
  apply (hcoherent.maps.mono _ _).inverse
  · simp
  · simp

def exampleInfo (sessionId : String) : ProjectAndAgentInfo := ⟨sessionId, 0⟩

def emptyRegistry : AgentSessionRegistry := ⟨fun _ => none, fun _ => none, fun _ => none⟩

theorem emptyRegistry_inverse : emptyRegistry.Inverse := by
  simp [AgentSessionRegistry.Inverse, emptyRegistry]

/-- Two projects are registered side by side, then the first is moved to another session. -/
def exampleTurns : List Turn :=
  [.call (.register "p" "a" (exampleInfo "a")), .call (.register "q" "b" (exampleInfo "b")),
    .step 0, .step 1, .step 0, .step 1, .step 0, .step 0, .step 0, .step 0,
    .step 0, .step 0, .step 0, .step 0,
    .call (.updateSession "p" "c"), .step 0, .step 0, .step 0, .step 0, .step 0]

theorem inverse_at_rest_example :
    let u := machine.after ⟨emptyRegistry, []⟩ exampleTurns
    u.calls = [] ∧ u.registry.projectToSession "p" = some "c" ∧ u.registry.Inverse := by
  have hfollows : machine.Follows Disjoint ⟨emptyRegistry, []⟩ exampleTurns := by decide +kernel
  have hrest : (machine.after ⟨emptyRegistry, []⟩ exampleTurns).calls = [] := by decide +kernel
  exact ⟨hrest, by decide +kernel,
    inverse_at_rest emptyRegistry_inverse (.of_follows hfollows) hrest⟩

/-- A project is registered twice at a time; the one overtaken still writes the way back. -/
def overtaken : List Turn :=
  [.call (.register "p" "a" (exampleInfo "a")), .call (.register "p" "b" (exampleInfo "b")),
    .step 0, .step 1, .step 1, .step 1, .step 1, .step 1, .step 1,
    .step 0, .step 0, .step 0, .step 0, .step 0]

theorem overtaken_not_inverse : ∃ tr u,
    machine.Run (fun _ _ => True) ⟨emptyRegistry, []⟩ tr u ∧ emptyRegistry.Inverse ∧
      u.calls = [] ∧ ¬ u.registry.Inverse := by
  refine ⟨_, machine.after ⟨emptyRegistry, []⟩ overtaken,
    .of_follows (Machine.follows_of_forall fun _ _ _ => trivial), emptyRegistry_inverse,
    by decide +kernel, ?_⟩
  intro h
  have hback : (machine.after ⟨emptyRegistry, []⟩ overtaken).registry.sessionToProject "a" =
      some "p" := by decide +kernel
  have hforth : (machine.after ⟨emptyRegistry, []⟩ overtaken).registry.projectToSession "p" =
      some "b" := by decide +kernel
  have heq := ((h "p" "a").mpr hback).symm.trans hforth
  exact absurd heq (by decide)

end Calls

end Rcoder.Sessions.Registry
