import Mathlib.Data.List.Basic
import Rcoder.Lib.Machine

/-!
# One creation of a session at a time

Calls for a project share one creation. The first of them leads; its guard publishes the outcome on
a watch channel, drops the entry of the project, and may be dropped at any moment. The others take
the handle of the channel from the entry and subscribe to it in a later step. A channel does not
keep what is sent to it while nobody is subscribed.
-/

namespace Rcoder.Sessions.SingleFlight

variable {E : Type}

abbrev SessionCreateOutcome (E : Type) := Except String (E × Bool)

def sessionCreateLeaderAborted : String := "session create leader aborted"

inductive Guard
  | alive
  /-- The outcome has been sent and the entry not yet been looked at. -/
  | sent
  | dropped
  deriving DecidableEq

/-- A handle with the value of its channel, and the guard of its leader. -/
structure Flight (E : Type) where
  value : Option (SessionCreateOutcome E) := none
  outcome : Option (SessionCreateOutcome E) := none
  guard : Guard := .alive

inductive Phase
  | joined
  | subscribed
  | left
  deriving DecidableEq

/-- A call that has taken the handle of a flight. -/
structure Follower where
  flight : Nat
  phase : Phase := .joined
  deriving DecidableEq

structure State (E : Type) where
  inFlight : Option Nat
  flights : List (Flight E)
  followers : List Follower

def State.new : State E := ⟨none, [], []⟩

def State.receiverCount (s : State E) (f : Nat) : Nat :=
  s.followers.countP fun x => x.flight = f ∧ x.phase = .subscribed

inductive Act (E : Type)
  | arrive
  | finish (f : Nat) (outcome : SessionCreateOutcome E)
  | send (f : Nat)
  | remove (f : Nat)
  | subscribe (i : Nat)
  | leave (i : Nat)

/-- `watch::Sender::send`, which changes nothing where no receiver is left. -/
def State.send (s : State E) (F : Flight E) (f : Nat) : Flight E :=
  { F with
    guard := .sent
    value := if s.receiverCount f = 0 then F.value
      else some (F.outcome.getD (.error sessionCreateLeaderAborted)) }

def State.onFlight (s : State E) (f : Nat) (guard : Guard) (g : Flight E → Flight E) : State E :=
  { s with flights := s.flights.modify f fun F => if F.guard = guard then g F else F }

def State.step (s : State E) : Act E → State E
  | .arrive =>
    match s.inFlight with
    | some f => { s with followers := s.followers ++ [{ flight := f }] }
    | none => { s with inFlight := some s.flights.length, flights := s.flights ++ [{}] }
  | .finish f outcome => s.onFlight f .alive fun F => { F with outcome := some outcome }
  | .send f => s.onFlight f .alive fun F => s.send F f
  | .remove f =>
    match s.flights[f]? with
    | some F => if F.guard = .sent then
        { s.onFlight f .sent fun F => { F with guard := .dropped } with
          inFlight := if s.inFlight = some f then none else s.inFlight }
      else s
    | none => s
  | .subscribe i =>
    { s with followers := s.followers.modify i fun x =>
        if x.phase = .joined then { x with phase := .subscribed } else x }
  | .leave i => { s with followers := s.followers.modify i fun x => { x with phase := .left } }

def machine : Machine (State E) (Act E) Unit := ⟨fun s act => ((), s.step act)⟩

/-- What a receiver of the flight borrows. -/
def State.borrow (s : State E) (f : Nat) : Option (SessionCreateOutcome E) :=
  s.flights[f]?.bind Flight.value

/-- The `f`-th flight. -/
abbrev State.At (s : State E) (f : Nat) (F : Flight E) : Prop := s.flights[f]? = some F

variable {s : State E} {f : Nat} {F : Flight E}

/-- The entry is that of the one leader whose guard has not been dropped, and nothing is published
before the guard sends. -/
structure Inv (s : State E) : Prop where
  led : ∀ f F, s.At f F → (F.guard ≠ .dropped ↔ s.inFlight = some f)
  entry : ∀ f, s.inFlight = some f → f < s.flights.length
  unsent : ∀ f F, s.At f F → F.guard = .alive → F.value = none

theorem Inv.new : Inv (State.new : State E) where
  led f F h := by cases h
  entry f h := by cases h
  unsent f F h := by cases h

section

variable {guard : Guard} {g : Flight E → Flight E} {i : Nat}

theorem onFlight_at : (s.onFlight f guard g).flights[i]? =
    s.flights[i]?.map fun G => if i = f ∧ G.guard = guard then g G else G := by
  by_cases hf : f = i
  · simp [State.onFlight, hf]
  · simp [State.onFlight, hf, Ne.symm hf]

theorem at_onFlight (h : (s.onFlight f guard g).At i F) :
    ∃ G, s.At i G ∧ F = if i = f ∧ G.guard = guard then g G else G := by
  rw [State.At, onFlight_at] at h
  obtain ⟨G, hG, hF⟩ := Option.map_eq_some_iff.mp h
  exact ⟨G, hG, hF.symm⟩

theorem At.onFlight (h : s.At i F) (hguard : F.guard ≠ guard) : (s.onFlight f guard g).At i F := by
  rw [State.At, onFlight_at, h, Option.map_some, if_neg fun hc => hguard hc.2]

/-- A guard that acts on its flight while it is alive leaves the entry to its leader. -/
theorem Inv.onFlight (h : Inv s) (hguard : ∀ F, F.guard = .alive → (g F).guard ≠ .dropped)
    (hvalue : ∀ F, (g F).guard = .alive → (g F).value = F.value) :
    Inv (s.onFlight f .alive g) where
  led i F hF := by
    obtain ⟨G, hG, rfl⟩ := at_onFlight hF
    rw [show (s.onFlight f .alive g).inFlight = s.inFlight from rfl, ← h.led i G hG]
    split_ifs with hc
    · exact iff_of_true (hguard G hc.2) (by simp [hc.2])
    · rfl
  entry f hf := by
    rw [show (s.onFlight _ .alive g).flights.length = s.flights.length from
      List.length_modify ..]
    exact h.entry f hf
  unsent i F hF halive := by
    obtain ⟨G, hG, rfl⟩ := at_onFlight hF
    split_ifs at halive ⊢ with hc
    · rw [hvalue G halive]
      exact h.unsent i G hG hc.2
    · exact h.unsent i G hG halive

end

theorem Inv.lead (h : Inv s) (hnone : s.inFlight = none) :
    Inv { s with inFlight := some s.flights.length, flights := s.flights ++ [{}] } := by
  have hat (i : Nat) (F : Flight E) (hF : (s.flights ++ [({} : Flight E)])[i]? = some F) :
      s.At i F ∨ i = s.flights.length ∧ F = ({} : Flight E) := by
    by_cases hi : i < s.flights.length
    · rw [List.getElem?_append_left hi] at hF
      exact .inl hF
    · rw [List.getElem?_append_right (by omega), List.getElem?_singleton] at hF
      split_ifs at hF with hi'
      exact .inr ⟨by omega, (Option.some.inj hF).symm⟩
  refine ⟨fun i F hF => ?_, fun i hi => ?_, fun i F hF halive => ?_⟩
  · obtain hold | ⟨rfl, rfl⟩ := hat i F hF
    · have hi : i < s.flights.length := (List.getElem?_eq_some_iff.mp hold).1
      -- no entry means that every earlier guard has been dropped
      have hdropped := h.led i F hold
      rw [hnone] at hdropped
      refine iff_of_false (fun hF => nomatch hdropped.mp hF) fun heq => ?_
      exact Nat.ne_of_gt hi (Option.some.inj heq)
    · exact iff_of_true (by rintro ⟨⟩) rfl
  · rw [← Option.some.inj hi]
    simp
  · obtain hold | ⟨-, rfl⟩ := hat i F hF
    · exact h.unsent i F hold halive
    · rfl

theorem Inv.remove (h : Inv s) (hF : s.At f F) (hsent : F.guard = .sent)
    (hentry : s.inFlight = some f) :
    Inv { s.onFlight f .sent fun F => { F with guard := .dropped } with inFlight := none } := by
  refine ⟨fun i G hG => ?_, fun i hi => ?_, fun i G hG halive => ?_⟩
  · obtain ⟨G', hG', rfl⟩ := at_onFlight hG
    refine iff_of_false (fun hG => hG ?_) (by rintro ⟨⟩)
    by_cases hi : i = f
    · obtain rfl : F = G' := Option.some.inj (hF.symm.trans (hi ▸ hG'))
      rw [if_pos ⟨hi, hsent⟩]
    · rw [if_neg fun hc => hi hc.1]
      by_contra hlive
      exact hi (Option.some.inj (((h.led i G' hG').mp hlive).symm.trans hentry))
  · cases hi
  · obtain ⟨G', hG', rfl⟩ := at_onFlight hG
    split_ifs at halive ⊢
    exact h.unsent i G' hG' halive

theorem Inv.step (h : Inv s) (act : Act E) : Inv (s.step act) := by
  cases act with
  | arrive =>
    cases hentry : s.inFlight with
    | none =>
      simp only [State.step, hentry]
      exact h.lead hentry
    | some f =>
      simp only [State.step, hentry]
      exact ⟨fun i F hF => hentry ▸ h.led i F hF, fun i hi => h.entry i (hentry.trans hi),
        h.unsent⟩
  | finish f outcome => exact h.onFlight (fun F hF => by simp [hF]) fun F hF => rfl
  | send f => exact h.onFlight (fun F hF => by rintro ⟨⟩) fun F hF => by cases hF
  | remove f =>
    cases hF : s.flights[f]? with
    | none =>
      simp only [State.step, hF]
      exact h
    | some F =>
      by_cases hsent : F.guard = .sent
      · have hentry : s.inFlight = some f := (h.led f F hF).mp (by simp [hsent])
        simp only [State.step, hF, hsent, hentry, if_true]
        exact h.remove hF hsent hentry
      · simp only [State.step, hF, hsent, if_false]
        exact h
  | subscribe i => exact ⟨h.led, h.entry, h.unsent⟩
  | leave i => exact ⟨h.led, h.entry, h.unsent⟩

/-- The flight's guard has sent, and this is what its channel holds. -/
def State.Sent (s : State E) (f : Nat) (value : Option (SessionCreateOutcome E)) : Prop :=
  ∃ F, s.At f F ∧ F.guard ≠ .alive ∧ F.value = value

variable {value : Option (SessionCreateOutcome E)}

theorem Sent.drop (h : s.Sent f value) (f' : Nat) :
    (s.onFlight f' .sent fun F => { F with guard := .dropped }).Sent f value := by
  obtain ⟨F, hF, hsent, hvalue⟩ := h
  by_cases hc : f = f' ∧ F.guard = .sent
  · refine ⟨{ F with guard := .dropped }, ?_, by rintro ⟨⟩, hvalue⟩
    rw [State.At, onFlight_at, hF, Option.map_some, if_pos hc]
  · refine ⟨F, ?_, hsent, hvalue⟩
    rw [State.At, onFlight_at, hF, Option.map_some, if_neg hc]

/-- A guard that has sent does not come back to life, and the value of its flight stays. -/
theorem Sent.step (h : s.Sent f value) (act : Act E) : (s.step act).Sent f value := by
  have hdrop := Sent.drop h
  obtain ⟨F, hF, hsent, hvalue⟩ := h
  cases act with
  | arrive =>
    cases hentry : s.inFlight with
    | none =>
      simp only [State.step, hentry]
      have hf : f < s.flights.length := (List.getElem?_eq_some_iff.mp hF).1
      exact ⟨F, (List.getElem?_append_left hf).trans hF, hsent, hvalue⟩
    | some =>
      simp only [State.step, hentry]
      exact ⟨F, hF, hsent, hvalue⟩
  | finish => exact ⟨F, At.onFlight hF hsent, hsent, hvalue⟩
  | send => exact ⟨F, At.onFlight hF hsent, hsent, hvalue⟩
  | remove f' =>
    cases hF' : s.flights[f']? with
    | none =>
      simp only [State.step, hF']
      exact ⟨F, hF, hsent, hvalue⟩
    | some F' =>
      by_cases hguard : F'.guard = .sent
      · simp only [State.step, hF', hguard, if_true]
        exact hdrop f'
      · simp only [State.step, hF', hguard, if_false]
        exact ⟨F, hF, hsent, hvalue⟩
  | subscribe => exact ⟨F, hF, hsent, hvalue⟩
  | leave => exact ⟨F, hF, hsent, hvalue⟩

theorem borrow_after (hF : s.At f F) (hsent : F.guard ≠ .alive)
    (acts : List (Act E)) : (machine.after s acts).borrow f = F.value := by
  have hkept : (machine.after s acts).Sent f F.value :=
    Machine.after_invariant (I := fun t : State E => t.Sent f F.value) ⟨F, hF, hsent, rfl⟩
      (fun _ act ht => Sent.step ht act) acts
  obtain ⟨G, hG, -, hvalue⟩ := hkept
  rw [State.borrow, hG, ← hvalue]
  rfl

/-- Every follower that waits on the flight's channel reads the outcome. -/
def State.Informs (s : State E) (f : Nat) (outcome : SessionCreateOutcome E) : Prop :=
  ∀ x ∈ s.followers, x.flight = f ∧ x.phase = .subscribed → s.borrow f = some outcome

theorem informs_iff {outcome : SessionCreateOutcome E} :
    s.Informs f outcome ↔ s.borrow f = some outcome ∨ s.receiverCount f = 0 := by
  simp only [State.receiverCount, List.countP_eq_zero, decide_eq_true_iff]
  constructor
  · intro h
    by_cases hread : s.borrow f = some outcome
    · exact .inl hread
    · exact .inr fun x hx hsub => hread (h x hx hsub)
  · rintro (hread | hnone) x hx hsub
    · exact hread
    · exact absurd hsub (hnone x hx)

/-- A leader has the entry until its own guard is dropped. The followers read its outcome exactly
if one of them is subscribed when the guard sends, or none of them subscribes behind it. -/
theorem single_flight (acts : List (Act E)) :
    let s := machine.after .new acts
    (∀ f F, s.At f F → (F.guard ≠ .dropped ↔ s.inFlight = some f)) ∧
    ∀ f F more, s.At f F → F.guard = .alive →
      let t := machine.after s (.send f :: more)
      let outcome := F.outcome.getD (.error sessionCreateLeaderAborted)
      t.borrow f = (if s.receiverCount f = 0 then none else some outcome) ∧
        (t.Informs f outcome ↔ s.receiverCount f ≠ 0 ∨ t.receiverCount f = 0) := by
  intro s
  have h : Inv s := Machine.after_invariant Inv.new (fun _ act h => h.step act) acts
  refine ⟨h.led, fun f F more hF halive => ?_⟩
  intro t outcome
  have hsent : (s.step (.send f)).At f (s.send F f) := by
    simp [State.At, State.step, State.onFlight, hF, halive]
  have hread : t.borrow f = if s.receiverCount f = 0 then none else some outcome := by
    rw [← h.unsent f F hF halive]
    exact borrow_after hsent (by rintro ⟨⟩) more
  refine ⟨hread, ?_⟩
  rw [informs_iff, hread]
  by_cases hc : s.receiverCount f = 0
  · simp [hc]
  · simp [hc]

/-- A follower takes the handle of a creation that succeeds, and subscribes once the guard has been
dropped: it waits for an outcome that never comes. -/
theorem late_follower_waits : let acts : List (Act Nat) :=
      [.arrive, .arrive, .finish 0 (.ok (7, true)), .send 0, .remove 0, .subscribe 0]
    let s := machine.after .new acts
    s.followers = [⟨0, .subscribed⟩] ∧ s.inFlight = none ∧
      ∀ more, (machine.after s more).borrow 0 = none := by
  refine ⟨rfl, rfl, fun more => ?_⟩
  exact borrow_after (F := ⟨none, some (.ok (7, true)), .dropped⟩) rfl (by rintro ⟨⟩) more

end Rcoder.Sessions.SingleFlight
