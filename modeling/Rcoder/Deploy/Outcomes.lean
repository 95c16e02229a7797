import Mathlib.Data.List.Basic
import Rcoder.Deploy.Volume

/-!
# What a deployment leaves

For every call, what it leaves of the volume when it returns, fails or crashes: a preparation leaves
the two places of a generation and the marker alone, an activation goes through a few layouts on its
way, and a recovery puts the saved generation back or changes nothing.
-/

namespace Rcoder.Deploy

open Effect

/-! ## What a preparation leaves -/

variable {α : Type} {P : Volume → Prop} {Q : α → Volume → Prop} {E : Halt → Volume → Prop}
  {v₀ : Volume}
  {env : Env} {r : Request} {m : Fs α} {context : String}

theorem step_triple {done : Volume → Volume} {broken : Content → Volume → Volume}
    {Q : Unit → Volume → Prop} (hplan : ∀ v plan, P v → P { v with plan := plan })
    (hdone : ∀ v, P v → Q () (done v)) (hbroken : ∀ e left v, P v → E e (broken left v)) :
    Triple P (step context done broken) Q E := by
  intro v hv
  cases hp : v.plan with
  | nil =>
    simp only [step, hp]
    exact hdone v hv
  | cons o plan =>
    cases o <;> simp only [step, hp]
    · exact hdone _ (hplan v plan hv)
    · exact hbroken _ _ _ (hplan v plan hv)
    · exact hbroken _ _ _ (hplan v plan hv)

/-- The first `n` steps of a plan are done and behind us. -/
def Behind (v₀ : Volume) (n : Nat) (v : Volume) : Prop :=
  v.plan = v₀.plan.drop n ∧ v₀.letsThrough n = true

theorem step_behind {n : Nat} {done : Volume → Volume} {broken : Content → Volume → Volume}
    {Q : Volume → Prop} (hplan : ∀ v plan, P v → P { v with plan := plan })
    (hkept : ∀ v, (done v).plan = v.plan) (hdone : ∀ v, P v → Q (done v))
    (hbroken : ∀ e left v, P v → v₀.letsThrough (n + 1) = false → E e (broken left v)) :
    Triple (fun v => P v ∧ Behind v₀ n v) (step context done broken)
      (fun _ v => Q v ∧ Behind v₀ (n + 1) v) E := by
  intro v hpre
  obtain ⟨hv, hbehind, hthrough⟩ := hpre
  have htail : v₀.plan.drop (n + 1) = v.plan.tail := by rw [hbehind, List.tail_drop]
  have hnext : v₀.letsThrough (n + 1) = v.plan.head?.all Outcome.isDone := by
    have hhead : v.plan.head? = v₀.plan[n]? := by rw [hbehind, List.head?_drop]
    rw [Volume.letsThrough, List.take_add_one, List.all_append, ← Volume.letsThrough, hthrough,
      hhead]
    cases v₀.plan[n]? <;> simp
  cases hp : v.plan with
  | nil =>
    simp only [step, hp]
    exact ⟨hdone v hv, by rw [hkept, htail, hp]; rfl, by rw [hnext, hp]; rfl⟩
  | cons o plan =>
    cases o with
    | done =>
      simp only [step, hp]
      exact ⟨hdone _ (hplan v plan hv), by rw [hkept, htail, hp]; rfl, by rw [hnext, hp]; rfl⟩
    | failed | crashed =>
      simp only [step, hp]
      exact hbroken _ _ _ (hplan v plan hv) (by rw [hnext, hp]; rfl)

theorem look_behind {n : Nat} (hplan : ∀ v plan, P v → P { v with plan := plan })
    (hbroken : ∀ e v, P v → v₀.letsThrough (n + 1) = false → E e v) :
    Triple (fun v => P v ∧ Behind v₀ n v) (look context)
      (fun _ v => P v ∧ Behind v₀ (n + 1) v) E :=
  step_behind hplan (fun _ => rfl) (fun _ h => h) fun e _ v => hbroken e v

theorem look_keeps (hplan : ∀ v plan, P v → P { v with plan := plan }) : Keeps P (look context) :=
  step_triple hplan (fun _ h => h) fun _ _ _ h => h

theorem caught_triple {R : Except String α → Volume → Prop}
    (h : Triple P m (fun a => R (.ok a)) fun e v => E e v ∧ ∀ c, R (.error c) v) :
    Triple P (caught m) R E := by
  intro v hv
  unfold caught
  cases hm : m v with
  | ok => exact h.ok hv hm
  | error e =>
    cases e with
    | failed c => exact (h.error hv hm).2 c
    | crashed => exact (h.error hv hm).1

theorem onFailure_triple {drop : Volume → Volume} (h : Triple P m Q E)
    (hdrop : ∀ e v, E e v → E e (drop v)) : Triple P (onFailure drop m) Q E := by
  intro v hv
  unfold onFailure
  cases hm : m v with
  | ok => exact h.ok hv hm
  | error e =>
    cases e with
    | failed => exact hdrop _ _ (h.error hv hm)
    | crashed => exact h.error hv hm

/-- The directories are at the places named; beside them nothing but temporary files, and what
has passed preparation, may have changed. -/
def Placed (v₀ : Volume) (workspace previous : Option Dir) (v : Volume) : Prop :=
  v.workspace = workspace ∧ v.previous = previous ∧ v.marker = v₀.marker ∧
    v.promoted = v₀.promoted ∧ v.activated = v₀.activated ∧ ∀ d ∈ v₀.passed, d ∈ v.passed

def Core (v₀ : Volume) : Volume → Prop := Placed v₀ v₀.workspace v₀.previous

def Leased (v₀ v : Volume) : Prop := Core v₀ v ∧ v.lease = true

/-- The prepared files are there, under their lease. -/
def Held (env : Env) (v : Volume) (p : PreparedDeploy) : Prop :=
  v.lease = true ∧ ∃ d ∈ v.passed, v.staging.lookup p.staging = some d ∧
    p.state.sha256 = env.sha256 d.archive

theorem cleanOwnedTemporary_keeps {remove : String → Fs Unit} (h : ∀ name, Keeps P (remove name))
    (names : List String) : Keeps P (cleanOwnedTemporary remove names) := by
  induction names with
  | nil => exact .pure
  | cons name names ih => exact (Keeps.onlyIf fun _ => h name).bind fun _ => ih

theorem look_leased : Keeps (Leased v₀) (look context) := look_keeps fun _ _ h => h

theorem cleanTemporaries_leased : Keeps (Leased v₀) cleanTemporaries := by
  refine look_leased.bind fun _ => .get fun _ => ?_
  refine (cleanOwnedTemporary_keeps (fun _ => ?_) _).bind fun _ => look_leased.bind fun _ =>
    .get fun _ => cleanOwnedTemporary_keeps (fun _ => ?_) _
  · exact step_triple (fun _ _ h => h) (fun _ h => h) fun _ _ _ h => h
  · exact step_triple (fun _ _ h => h) (fun _ h => h) fun _ _ _ h => h

theorem fetch_leased : Keeps (Leased v₀) (fetch r) := by
  unfold fetch
  split
  · exact Keeps.require.bind fun _ => look_leased.bind fun _ => look_leased.bind fun _ => .pure
  · exact look_leased.bind fun _ => .require

theorem preflight_keeps {dir : Option Dir} (hplan : ∀ v plan, P v → P { v with plan := plan }) :
    Keeps P (preflight env dir) :=
  (look_keeps hplan).bind fun _ => .ensure

/-- The directory `d` was extracted from the archive. -/
def Staged (v₀ : Volume) (name : String) (archive : Archive) (d : Dir) (v : Volume) : Prop :=
  Leased v₀ v ∧ v.staging.lookup name = some d ∧ d.archive = archive

theorem extractZipSync_triple {archive : Archive} {name : String} :
    Triple (Leased v₀) (extractZipSync env archive name) (Staged v₀ name archive)
      fun _ => Leased v₀ := by
  refine Triple.bind Keeps.require fun content => .get fun v₁ => ?_
  refine .bind ?_ fun _ => .pure fun _ h => h
  refine .pre ?_ fun v h => h.1 ▸ h.2
  exact step_triple (fun _ _ h => h) (fun v h => ⟨h, List.lookup_cons_self, rfl⟩) fun _ _ _ h => h

theorem stage_triple {part name : String} : Triple (Leased v₀) (stage env r part name)
    (fun a v => Leased v₀ v ∧ ∃ p, a = .prepared p ∧ Held env v p) fun _ => Leased v₀ := by
  refine .bind look_leased fun _ => .bind look_leased fun _ =>
    .bind cleanTemporaries_leased fun _ => ?_
  refine .bind (R := fun _ => Leased v₀)
    (step_triple (fun _ _ h => h) (fun _ h => h) fun _ _ _ h => h) fun _ => ?_
  refine .bind fetch_leased fun archive => .bind Keeps.ensure fun _ =>
    .bind look_leased fun _ => .bind Keeps.ensure fun _ =>
      .bind extractZipSync_triple fun d => ?_
  have hpreflight : Keeps (Staged v₀ name archive d) (preflight env (some d)) :=
    preflight_keeps fun _ _ h => h
  refine .bind
    (.ensure (fun _ _ h => h) fun _ _ h => h.1) fun _ =>
      .bind (.modify fun _ h => h) fun _ =>
        .bind (hpreflight.fails fun _ _ h => h.1) fun _ => ?_
  refine .bind (R := fun _ v => Leased v₀ v ∧
    Held env v ⟨name, r.releaseId, env.sha256 archive⟩) (.modify ?_)
      fun _ => .pure fun v h => ⟨h.1, _, rfl, h.2⟩
  rintro v ⟨⟨⟨hw, hp, hm, hpr, ha, hpassed⟩, hlease⟩, hlookup, rfl⟩
  exact ⟨⟨⟨hw, hp, hm, hpr, ha, fun d hd => List.mem_cons_of_mem _ (hpassed d hd)⟩, hlease⟩,
    hlease, d, List.mem_cons_self, hlookup, rfl⟩

/-- Prepared files of a lease that was there before are left alone. -/
def Owned (v₀ v : Volume) : Prop := v₀.lease = true → v.lease = true ∧ v.staging = v₀.staging

def Frame (v₀ v : Volume) : Prop := Core v₀ v ∧ Owned v₀ v

def Still (v₀ v : Volume) : Prop := Core v₀ v ∧ v.lease = v₀.lease ∧ v.staging = v₀.staging

theorem Still.frame {v : Volume} (h : Still v₀ v) : Frame v₀ v :=
  ⟨h.1, fun hl => ⟨h.2.1.trans hl, h.2.2⟩⟩

theorem look_still : Keeps (Still v₀) (look context) := look_keeps fun _ _ h => h

theorem tryLock_triple : Triple (Still v₀) (tryLock context)
    (fun _ v => Leased v₀ v ∧ v₀.lease = false) fun _ => Still v₀ := by
  refine .bind look_still fun _ => .get fun v₁ => ?_
  refine .bind (R := fun _ v => Still v₀ v ∧ v₀.lease = false) (.ensure ?_ ?_)
    fun _ => .modify fun _ h => ⟨⟨h.1.1, rfl⟩, h.2⟩
  · rintro v hfree ⟨rfl, h⟩
    exact ⟨h, h.2.1 ▸ hfree⟩
  · exact fun v _ h => h.1 ▸ h.2

theorem prepareFresh_triple : Triple (Still v₀) (prepareFresh env r)
    (fun a v => Frame v₀ v ∧ ∃ p, a = .prepared p ∧ Held env v p) fun _ => Frame v₀ := by
  refine .bind (look_still.fails fun _ _ h => h.frame) fun _ =>
    .bind (tryLock_triple.fails fun _ _ h => h.frame) fun _ =>
      .assume fun hfree => ?_
  have hframe : ∀ v, Core v₀ v → Frame v₀ v :=
    fun v h => ⟨h, fun hl => absurd (hfree.symm.trans hl) Bool.false_ne_true⟩
  refine onFailure_triple (stage_triple.post ?_ ?_) ?_
  · exact fun a v h => ⟨hframe v h.1.1, h.2⟩
  · exact fun _ v h => hframe v h.1
  · exact fun _ v h => hframe _ h.1

/-- The marker names the request, and the workspace is there. -/
def Marked (v : Volume) (r : Request) : Prop :=
  ∃ state sha, v.marker = some state ∧ state.releaseId = r.releaseId ∧
    r.expectedSha = some sha ∧ eqIgnoreAsciiCase sha state.sha256 = true ∧ v.workspace ≠ none

theorem readState_triple : Triple (Still v₀) readState
    (fun state v => Still v₀ v ∧ (state = none ∨ state = v₀.marker)) fun _ => Still v₀ := by
  refine .bind (caught_triple (R := fun _ => Still v₀) (look_still.fails
    fun _ _ h => ⟨h, fun _ => h⟩)) fun found => ?_
  cases found with
  | error => exact .pure fun v h => ⟨h, .inl rfl⟩
  | ok =>
    refine .get fun v₁ => .pure ?_
    rintro v ⟨rfl, h⟩
    exact ⟨h, .inr h.1.2.2.1⟩

theorem markedInPlace_triple : Triple (Still v₀) (markedInPlace r)
    (fun b v => Still v₀ v ∧ (b = true → Marked v₀ r)) fun _ => Still v₀ := by
  refine .bind readState_triple fun state => .assume fun hstate => .ite ?_ ?_
  · intro hmatches
    refine .bind look_still fun _ => .get fun v₁ => .pure ?_
    rintro v ⟨rfl, h⟩
    refine ⟨h, fun hlock => ?_⟩
    obtain ⟨st, hst, hmatches⟩ := (Option.any_eq_true _ _).mp hmatches
    obtain ⟨hid, hsha⟩ := Bool.and_eq_true_iff.mp hmatches
    obtain ⟨sha, hsome, hsha⟩ := (Option.any_eq_true _ _).mp hsha
    obtain ⟨d, hd, -⟩ := (Option.any_eq_true _ _).mp hlock
    obtain rfl | rfl := hstate
    · cases hst
    · refine ⟨st, sha, hst, of_decide_eq_true hid, hsome, hsha, ?_⟩
      rw [← h.1.1, hd]
      exact Option.some_ne_none d
  · exact fun _ => .pure fun v h => ⟨h, fun hf => absurd hf Bool.false_ne_true⟩

theorem registeredInPlace_still : Keeps (Still v₀) (registeredInPlace env r) := by
  unfold registeredInPlace
  split
  · exact .pure
  · refine look_still.bind fun _ => ?_
    split
    · refine .bind (caught_triple (look_still.fails
        fun _ _ h => ⟨h, fun _ => h⟩)) fun found => ?_
      cases found with
      | error => exact .pure
      | ok => exact .get fun _ => .pure
    · exact .pure

theorem prepareWithLocal_triple : Triple (Still v₀) (prepareWithLocal env r)
    (fun a v => Frame v₀ v ∧ match a with
      | .inPlace => Marked v₀ r
      | .kept => True
      | .prepared p => Held env v p) fun _ => Frame v₀ := by
  have hpreflight : Keeps (Still v₀) (preflightWorkspace env) :=
    .get fun _ => preflight_keeps fun _ _ h => h
  have hfailed : ∀ (e : Halt) v, Still v₀ v → Frame v₀ v := fun _ _ h => h.frame
  refine .bind (Keeps.ensure.fails hfailed) fun _ =>
    .bind (markedInPlace_triple.fails hfailed) fun marked =>
      .assume fun hmarked => .ite ?_ fun _ => ?_
  · intro hm
    exact .bind (hpreflight.fails hfailed) fun _ =>
      .pure fun v h => ⟨h.frame, hmarked hm⟩
  refine .bind (registeredInPlace_still.fails hfailed) fun registered =>
    .ite (fun _ => ?_) fun _ => ?_
  · exact .bind (hpreflight.fails hfailed) fun _ =>
      .pure fun v h => ⟨h.frame, trivial⟩
  · refine prepareFresh_triple.post ?_ fun _ _ h => h
    rintro a v ⟨hframe, p, rfl, hheld⟩
    exact ⟨hframe, hheld⟩

/-! ## What an activation leaves -/

variable {v : Volume} {p : PreparedDeploy} {d : Dir}

/-- After the promotion. -/
def After (v₀ : Volume) (p : PreparedDeploy) (d : Dir) (v : Volume) : Prop :=
  v.workspace = some d ∧ v.promoted = (p.state.releaseId, d) :: v₀.promoted ∧
    ∀ d ∈ v₀.passed, d ∈ v.passed

/-- How many steps an activation takes up to its promotion: it inspects both places, removes a saved
generation, saves a workspace and promotes. -/
def Volume.toPromotion (v : Volume) : Nat := 3 + v.previous.isSome.toNat + v.workspace.isSome.toNat

/-- The plan lets the promotion through, but not the three steps of the marker behind it. -/
def Volume.cutsMarker (v : Volume) : Bool :=
  v.letsThrough v.toPromotion && !v.letsThrough (v.toPromotion + 3)

theorem cutsMarker_of_stopped {n : Nat} (hthrough : v₀.letsThrough v₀.toPromotion = true)
    (hstopped : v₀.letsThrough n = false) (hn : n ≤ v₀.toPromotion + 3) :
    v₀.cutsMarker = true := by
  have hlater : v₀.letsThrough (v₀.toPromotion + 3) = false := by
    by_contra hall
    simp only [Bool.not_eq_false, Volume.letsThrough, List.all_eq_true] at hall
    simp only [Volume.letsThrough, List.all_eq_false] at hstopped
    obtain ⟨o, ho, hnot⟩ := hstopped
    exact hnot (hall o (List.take_subset_take_left _ hn ho))
  simp [Volume.cutsMarker, hthrough, hlater]

/-- What an activation leaves that did not return: the saved generation may be gone, or the
current one saved, or the exchange has been made without a marker. -/
def Cut (v₀ : Volume) (p : PreparedDeploy) (d : Dir) (v : Volume) : Prop :=
  (∃ previous, Placed v₀ v₀.workspace previous v ∧
      (previous = v₀.previous ∨ v₀.previous.isSome = true)) ∨
    Placed v₀ none v₀.workspace v ∨ (After v₀ p d v ∧ v₀.cutsMarker = true)

variable {ws : Option Dir} {n : Nat}

theorem promote_triple (hd : v₀.staging.lookup p.staging = some d) :
    Triple (fun v => (Placed v₀ none ws v ∧ v.staging = v₀.staging) ∧ Behind v₀ n v) (promote p)
      (fun _ v => After v₀ p d v ∧ Behind v₀ (n + 1) v)
      fun _ v => Placed v₀ none ws v ∧ v.staging = v₀.staging := by
  refine .get fun v₁ => .bind (R := fun dir v => (dir = d ∧ Placed v₀ none ws v ∧
    v.staging = v₀.staging) ∧ Behind v₀ n v) (.require ?_ ?_) fun dir => ?_
  · rintro dir v hdir ⟨rfl, h, hbehind⟩
    rw [h.2, hd] at hdir
    exact ⟨⟨(Option.some.inj hdir).symm, h⟩, hbehind⟩
  · exact fun v _ h => h.1 ▸ h.2.1
  · refine step_behind (fun _ _ h => h) (fun _ => rfl) ?_ fun _ _ _ h _ => h.2
    rintro v ⟨rfl, ⟨-, -, -, hpromoted, -, hpassed⟩, -⟩
    exact ⟨rfl, by rw [hpromoted], hpassed⟩

theorem cut_of_removed (h : Placed v₀ v₀.workspace none v) : Cut v₀ p d v := by
  refine .inl ⟨none, h, ?_⟩
  cases v₀.previous with
  | none => exact .inl rfl
  | some => exact .inr rfl

/-- Without a workspace there is nothing to save and nothing to restore. -/
theorem placed_of_absent (hnone : ¬v₀.workspace.isSome = true) :
    Placed v₀ v₀.workspace none v ↔ Placed v₀ none v₀.workspace v := by
  have hws : v₀.workspace = none := by simpa using hnone
  rw [hws]

theorem exchange_triple (hd : v₀.staging.lookup p.staging = some d)
    (hn : v₀.toPromotion = n + v₀.workspace.isSome.toNat + 1) :
    Triple (fun v => (Placed v₀ v₀.workspace none v ∧ v.staging = v₀.staging) ∧ Behind v₀ n v)
      (exchange v₀.workspace.isSome p) (fun _ v => After v₀ p d v ∧ v.marker = some p.state)
      fun _ => Cut v₀ p d := by
  refine .bind (R := fun _ v => (Placed v₀ none v₀.workspace v ∧ v.staging = v₀.staging) ∧
    Behind v₀ (n + v₀.workspace.isSome.toNat) v) (.onlyIf (fun hsome => ?_) ?_) fun _ => ?_
  · rw [hsome]
    exact step_behind (fun _ _ h => h) (fun _ => rfl) (fun v h => ⟨⟨rfl, h.1.1, h.1.2.2⟩, h.2⟩)
      fun _ _ _ h _ => cut_of_removed h.1
  · intro v hnone h
    rw [Bool.eq_false_iff.mpr hnone]
    exact ⟨⟨(placed_of_absent hnone).mp h.1.1, h.1.2⟩, h.2⟩
  refine .bind (caught_triple (R := fun found v => match found with
    | .ok _ => After v₀ p d v ∧ Behind v₀ v₀.toPromotion v
    | .error _ => Placed v₀ none v₀.workspace v) ((promote_triple hd).post
      (fun _ v h => hn ▸ h) fun _ v h => ⟨.inr (.inl h.1), fun _ => h.1⟩)) fun found => ?_
  cases found with
  | error =>
    refine .bind (.onlyIf (fun _ => ?_) ?_)
      fun _ => .throw fun _ => cut_of_removed
    · exact step_triple (fun _ _ h => h) (fun v h => ⟨h.2.1, rfl, h.2.2⟩)
        fun _ _ _ h => .inr (.inl h)
    · exact fun v hnone => (placed_of_absent hnone).mpr
  | ok =>
    refine .pre (P := fun v => (After v₀ p d v ∧ v₀.letsThrough v₀.toPromotion = true) ∧
      Behind v₀ v₀.toPromotion v) ?_ fun v h => ⟨⟨h.1, h.2.2⟩, h.2⟩
    have hcut {k : Nat} (hk : k ≤ v₀.toPromotion + 3) (v : Volume)
        (h : After v₀ p d v ∧ v₀.letsThrough v₀.toPromotion = true)
        (hstopped : v₀.letsThrough k = false) : Cut v₀ p d v :=
      .inr (.inr ⟨h.1, cutsMarker_of_stopped h.2 hstopped hk⟩)
    refine .bind (look_behind (fun _ _ h => h) fun _ => hcut (by omega)) fun _ =>
      .bind (look_behind (fun _ _ h => h) fun _ => hcut (by omega)) fun _ => ?_
    refine .bind (step_behind (Q := fun v => After v₀ p d v ∧ v.marker = some p.state)
      (fun _ _ h => h) (fun _ => rfl) (fun v h => ⟨h.1, rfl⟩) fun _ _ => hcut (by omega))
      fun _ => ?_
    exact .modify fun v h => h.1

theorem activate_triple (v₀ : Volume) (hd : v₀.staging.lookup p.staging = some d) :
    Triple (fun v => (Core v₀ v ∧ v.staging = v₀.staging) ∧ Behind v₀ 0 v) (activate p)
      (fun _ v => After v₀ p d v ∧ v.marker = some p.state) fun _ => Cut v₀ p d := by
  refine .bind (look_behind (fun _ _ h => h) fun _ _ h _ => .inl ⟨_, h.1, .inl rfl⟩)
    fun _ => .get fun v₁ => ?_
  refine .bind (R := fun _ v => (Placed v₀ v₀.workspace none v ∧ v.staging = v₀.staging) ∧
    Behind v₀ (1 + v₀.previous.isSome.toNat) v) (.onlyIf (fun hsome => ?_) ?_) fun _ =>
      .bind (look_behind (fun _ _ h => h) fun _ _ h _ => cut_of_removed h.1) fun _ =>
        .get fun v₂ => ?_
  · refine .pre (P := fun v => ((Core v₀ v ∧ v.staging = v₀.staging) ∧ Behind v₀ 1 v) ∧
      v₀.previous.isSome = true) (.assume fun hprevious => ?_) ?_
    · rw [hprevious]
      exact step_behind (fun _ _ h => h) (fun _ => rfl)
        (fun v h => ⟨⟨h.1.1, rfl, h.1.2.2⟩, h.2⟩)
        fun _ _ v h _ => .inl ⟨_, ⟨h.1.1, rfl, h.1.2.2⟩, .inr hprevious⟩
    · rintro v ⟨rfl, h⟩
      exact ⟨h, h.1.1.2.1 ▸ hsome⟩
  · rintro v hnone ⟨rfl, h⟩
    rw [h.1.1.2.1] at hnone
    rw [Bool.eq_false_iff.mpr hnone]
    refine ⟨⟨⟨h.1.1.1, ?_, h.1.1.2.2⟩, h.1.2⟩, h.2⟩
    rw [h.1.1.2.1]
    simpa using hnone
  · rintro v ⟨rfl, h⟩
    rw [h.1.1.1]
    exact exchange_triple hd (by rw [Volume.toPromotion]; omega) v h

/-! ## What a recovery leaves -/

/-- The saved generation is back in the workspace. -/
def Moved (v₀ v : Volume) : Prop :=
  v₀.workspace = none ∧ Placed v₀ v₀.previous none v

def Recovered (v₀ v : Volume) : Prop := Core v₀ v ∨ Moved v₀ v

theorem leased_triple {m : Fs Unit} (hunlock : ∀ v, P v → P v.unlock)
    (hstill : ∀ v, Core v₀ v → P v) (hm : Triple (Leased v₀) m (fun _ => P) fun _ => P) :
    Triple (Still v₀) (leased context m) (fun _ v => P v ∧ Owned v₀ v)
      fun _ v => P v ∧ Owned v₀ v := by
  refine .bind (tryLock_triple.fails
    fun _ v h => ⟨hstill v h.1, h.frame.2⟩) fun _ => .assume fun hfree => ?_
  have howned : ∀ v, P v → P v ∧ Owned v₀ v :=
    fun v h => ⟨h, fun hl => absurd (hfree.symm.trans hl) Bool.false_ne_true⟩
  refine .bind (onFailure_triple (hm.fails fun _ v h => howned v h) ?_)
    fun _ => .modify fun v h => howned _ (hunlock v h)
  exact fun _ v h => howned _ (hunlock v h.1)

theorem restorePreviousGeneration_triple (expected : String) :
    Triple (Still v₀) (restorePreviousGeneration env expected)
      (fun _ v => Recovered v₀ v ∧ Owned v₀ v) fun _ v => Recovered v₀ v ∧ Owned v₀ v := by
  have hlook : ∀ {c : String}, Triple (Core v₀) (look c) (fun _ => Core v₀) fun _ => Recovered v₀ :=
    (look_keeps fun _ _ h => h).fails fun _ _ h => .inl h
  have hlookMoved : Triple (Recovered v₀) (look "synchronize volume root")
      (fun _ => Recovered v₀) fun _ => Recovered v₀ := look_keeps fun _ _ h => h
  refine leased_triple (fun _ h => h) (fun _ h => .inl h) (.pre ?_ fun _ h => h.1)
  refine .bind hlook fun _ => .get fun v₁ => ?_
  refine .bind (R := fun _ v => Core v₀ v ∧ v₀.workspace = none) (.ensure ?_ ?_)
    fun _ => .assume fun hnone => ?_
  · rintro v hfree ⟨rfl, h⟩
    exact ⟨h, h.1 ▸ Option.isNone_iff_eq_none.mp hfree⟩
  · exact fun v _ h => .inl (h.1 ▸ h.2)
  refine .bind hlook fun _ => .get fun v₁ => ?_
  refine .bind (.require (fun _ v _ h => h.1 ▸ h.2)
    fun v _ h => .inl (h.1 ▸ h.2)) fun previous => ?_
  refine .bind (R := fun _ => Core v₀) (.ensure (fun _ _ h => h)
    fun _ _ h => .inl h) fun _ => ?_
  exact .bind (step_triple (fun _ _ h => h)
    (fun _ h => .inr ⟨hnone, h.2.1, rfl, h.2.2⟩) fun _ _ _ h => .inl h) fun _ =>
      .bind hlookMoved fun _ => Keeps.get fun _ => Keeps.ensure

theorem cleanupStartup_triple : Triple (Still v₀) cleanupStartup
    (fun _ v => Core v₀ v ∧ Owned v₀ v) fun _ v => Core v₀ v ∧ Owned v₀ v :=
  .bind (look_still.fails fun _ _ h => h.frame) fun _ =>
    leased_triple (fun _ h => h) (fun _ h => h)
      (cleanTemporaries_leased.post (fun _ _ h => h.1) fun _ _ h => h.1)

/-! ## What a call leaves -/

variable {w : World} {call : Call}

/-- The prepared files a caller holds are there, and nothing was promoted that had not passed. -/
structure Sound (env : Env) (w : World) : Prop where
  held : ∀ p, w.held = some p → Held env w.volume p
  promoted : ∀ e ∈ w.volume.promoted, e.2 ∈ w.volume.passed

/-- What a call may do to the volume. -/
inductive Change (env : Env) (w : World) (call : Call) (a : Answer) (v : Volume) : Prop
  | core (h : Core w.volume v)
  | cut (p : PreparedDeploy) (d : Dir) (plan : List Outcome) (hheld : w.held = some p)
      (hcall : call = .activate plan) (h : Cut (w.planned plan) p d v)
  | activated (p : PreparedDeploy) (d : Dir) (hsha : p.state.sha256 = env.sha256 d.archive)
      (hm : v.marker = some p.state) (h : After w.volume p d v)
  | moved (hcall : ∃ expected plan, call = .restorePreviousGeneration expected plan)
      (h : Moved w.volume v)

/-- Whatever has passed is kept, and what is promoted has passed. -/
def Carried (v₀ v : Volume) : Prop :=
  (∀ d ∈ v₀.passed, d ∈ v.passed) ∧ ∀ e ∈ v.promoted, e ∈ v₀.promoted ∨ e.2 ∈ v₀.passed

variable {prev : Option Dir}

theorem Placed.carried (h : Placed v₀ ws prev v) : Carried v₀ v :=
  ⟨h.2.2.2.2.2, fun _ he => .inl (h.2.2.2.1 ▸ he)⟩

theorem After.carried (hd : d ∈ v₀.passed) (h : After v₀ p d v) : Carried v₀ v := by
  refine ⟨h.2.2, fun e he => ?_⟩
  rw [h.2.1] at he
  obtain rfl | he := List.mem_cons.mp he
  · exact .inr hd
  · exact .inl he

theorem Cut.carried (hd : d ∈ v₀.passed) (h : Cut v₀ p d v) : Carried v₀ v := by
  obtain ⟨_, h, -⟩ | h | h := h
  · exact h.carried
  · exact h.carried
  · exact h.1.carried hd

theorem Sound.of_carried (hs : Sound env w) (h : Carried w.volume v) {held : Option PreparedDeploy}
    (hheld : ∀ p, held = some p → Held env v p) : Sound env ⟨v, held⟩ := by
  refine ⟨hheld, fun e he => ?_⟩
  obtain he | he := h.2 e he
  · exact h.1 _ (hs.promoted e he)
  · exact h.1 _ he

theorem Sound.idle (hs : Sound env w) (h : Carried w.volume v) : Sound env ⟨v, none⟩ :=
  hs.of_carried h fun _ hp => absurd hp (Option.some_ne_none _).symm

theorem Sound.keeping (hs : Sound env w) (h : Carried w.volume v) (howned : Owned w.volume v) :
    Sound env { w with volume := v } := by
  refine hs.of_carried h fun p hp => ?_
  obtain ⟨hlease, d, hd, hlookup, hsha⟩ := hs.held p hp
  obtain ⟨hlease, hstaging⟩ := howned hlease
  exact ⟨hlease, d, h.1 d hd, hstaging ▸ hlookup, hsha⟩

theorem still_planned (w : World) (plan : List Outcome) : Still (w.planned plan) (w.planned plan) :=
  ⟨⟨rfl, rfl, rfl, rfl, rfl, fun _ h => h⟩, rfl, rfl⟩

theorem respond_sound {R : Volume → Prop} {m : Fs Unit} (plan : List Outcome) (hs : Sound env w)
    (hm : Triple (Still (w.planned plan)) m (fun _ v => R v ∧ Owned (w.planned plan) v)
      fun _ v => R v ∧ Owned (w.planned plan) v) (hcarried : ∀ v, R v → Carried w.volume v)
    (hunlock : ∀ v, R v → R v.unlock) :
    Sound env (w.respond (m (w.planned plan))).2 ∧
      R (w.respond (m (w.planned plan))).2.volume := by
  cases hr : m (w.planned plan) with
  | ok _ v =>
    obtain ⟨h, howned⟩ := hm.ok (still_planned w plan) hr
    exact ⟨hs.keeping (hcarried v h) howned, h⟩
  | error e v =>
    obtain ⟨h, howned⟩ := hm.error (still_planned w plan) hr
    cases e with
    | failed => exact ⟨hs.keeping (hcarried v h) howned, h⟩
    | crashed => exact ⟨hs.idle (hcarried v h), hunlock v h⟩

theorem prepared_sound (hs : Sound env w) (r : Request) (plan : List Outcome) :
    Sound env (exec env w (.prepareWithLocal r plan)).2 ∧
      Core w.volume (exec env w (.prepareWithLocal r plan)).2.volume ∧
      ((exec env w (.prepareWithLocal r plan)).1 = .prepared .inPlace → Marked w.volume r) := by
  simp only [exec]
  cases hr : prepareWithLocal env r (w.planned plan) with
  | ok a =>
    obtain ⟨⟨h, howned⟩, ha⟩ := prepareWithLocal_triple.ok (still_planned w plan) hr
    cases a with
    | inPlace => exact ⟨hs.keeping h.carried howned, h, fun _ => ha⟩
    | kept => exact ⟨hs.keeping h.carried howned, h, fun ha => by cases ha⟩
    | prepared =>
      refine ⟨hs.of_carried h.carried fun q hq => ?_, h, fun ha => by cases ha⟩
      cases hq
      exact ha
  | error e =>
    obtain ⟨h, howned⟩ := prepareWithLocal_triple.error (still_planned w plan) hr
    cases e with
    | failed => exact ⟨hs.keeping h.carried howned, h, fun ha => by cases ha⟩
    | crashed => exact ⟨hs.idle h.carried, h, fun ha => by cases ha⟩

theorem activated_sound (hs : Sound env w) (plan : List Outcome) :
    Sound env (exec env w (.activate plan)).2 ∧ Change env w (.activate plan)
      (exec env w (.activate plan)).1 (exec env w (.activate plan)).2.volume := by
  simp only [exec]
  cases hheld : w.held with
  | none => exact ⟨hs, .core (still_planned w w.volume.plan).1⟩
  | some p =>
    obtain ⟨-, d, hd, hlookup, hsha⟩ := hs.held p hheld
    have htriple := activate_triple (w.planned plan) hlookup
    have hcore := (still_planned w plan).1
    cases hr : activate p (w.planned plan) with
    | ok =>
      obtain ⟨h, hm⟩ := htriple.ok ⟨⟨hcore, rfl⟩, rfl, rfl⟩ hr
      simp only [hr]
      exact ⟨hs.idle (h.carried hd), .activated p d hsha hm h⟩
    | error e =>
      have h := htriple.error ⟨⟨hcore, rfl⟩, rfl, rfl⟩ hr
      have hcarried := h.carried (show d ∈ (w.planned plan).passed from hd)
      cases e with
      | failed | crashed =>
        simp only [hr]
        exact ⟨hs.idle hcarried, .cut p d plan hheld rfl h⟩

theorem exec_change (hs : Sound env w) (call : Call) : Sound env (exec env w call).2 ∧
    Change env w call (exec env w call).1 (exec env w call).2.volume := by
  cases call with
  | prepareWithLocal r plan =>
    obtain ⟨hsound, h, -⟩ := prepared_sound hs r plan
    exact ⟨hsound, .core h⟩
  | activate plan => exact activated_sound hs plan
  | discard =>
    have hcore := (still_planned w w.volume.plan).1
    cases hheld : w.held with
    | none =>
      simp only [exec, hheld]
      exact ⟨hs, .core hcore⟩
    | some =>
      simp only [exec, hheld]
      exact ⟨hs.idle hcore.carried, .core hcore⟩
  | restorePreviousGeneration expected plan =>
    obtain ⟨hsound, h | h⟩ := respond_sound plan hs (restorePreviousGeneration_triple expected)
      (fun v h => h.elim Placed.carried fun h => h.2.carried) fun _ h => h
    · exact ⟨hsound, .core h⟩
    · exact ⟨hsound, .moved ⟨_, _, rfl⟩ h⟩
  | cleanupStartup plan =>
    obtain ⟨hsound, h⟩ := respond_sound plan hs cleanupStartup_triple (fun _ h => h.carried)
      fun _ h => h
    exact ⟨hsound, .core h⟩

theorem Sound.init : Sound env {} :=
  ⟨fun _ h => absurd h (Option.some_ne_none _).symm, fun _ h => absurd h List.not_mem_nil⟩

end Rcoder.Deploy
