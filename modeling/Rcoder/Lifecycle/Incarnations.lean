import Rcoder.Lifecycle.Journal

/-!
# Incarnations

A recreation gives an application a new lifecycle id, the next epoch and metadata of its own.
Within an epoch every change of the metadata is a new revision. As long as lifecycle ids are
drawn afresh, the id tells the epoch, and no id ever comes back.
-/

namespace Rcoder.Lifecycle

open Effect Ledger LifecycleRecord List

/-- A recreation draws a lifecycle id that no application has had. -/
def DrawsFresh (s : Store) : Op → Prop
  | .recreate _ _ _ fresh =>
    ∀ app ∈ s.history.applications, app.lifecycleId ≠ fresh.lifecycleId
  | _ => True

structure SameMetadata (app app' : LifecycleRecord) : Prop where
  name : app'.name = app.name
  tenantId : app'.tenantId = app.tenantId
  spaceId : app'.spaceId = app.spaceId
  runtimePolicy : app'.runtimePolicy = app.runtimePolicy

structure LaterVersion (app app' : LifecycleRecord) : Prop where
  epoch : app.lifecycleEpoch ≤ app'.lifecycleEpoch
  lifecycleId : app'.lifecycleEpoch = app.lifecycleEpoch → app'.lifecycleId = app.lifecycleId
  revision : app'.lifecycleEpoch = app.lifecycleEpoch →
    app.metadataRevision ≤ app'.metadataRevision
  metadata : app'.lifecycleEpoch = app.lifecycleEpoch →
    app'.metadataRevision = app.metadataRevision → SameMetadata app app'

variable {app app' version : LifecycleRecord}

namespace LaterVersion

theorem refl (app : LifecycleRecord) : LaterVersion app app :=
  ⟨le_rfl, fun _ => rfl, fun _ => le_rfl, fun _ _ => ⟨rfl, rfl, rfl, rfl⟩⟩

theorem trans (a b c : LifecycleRecord) (h : LaterVersion a b) (h' : LaterVersion b c) :
    LaterVersion a c := by
  -- equal epochs at both ends are equal in between, and so are revisions
  have hbetween : c.lifecycleEpoch = a.lifecycleEpoch →
      b.lifecycleEpoch = a.lifecycleEpoch ∧ c.lifecycleEpoch = b.lifecycleEpoch := by
    have hab := h.epoch
    have hbc := h'.epoch
    omega
  refine ⟨h.epoch.trans h'.epoch, fun heq => ?_, fun heq => ?_, fun heq hrevision => ?_⟩
  · obtain ⟨hab, hbc⟩ := hbetween heq
    exact (h'.lifecycleId hbc).trans (h.lifecycleId hab)
  · obtain ⟨hab, hbc⟩ := hbetween heq
    exact (h.revision hab).trans (h'.revision hbc)
  · obtain ⟨hab, hbc⟩ := hbetween heq
    have hrab := h.revision hab
    have hrbc := h'.revision hbc
    obtain ⟨hname, htenant, hspace, hpolicy⟩ := h.metadata hab (by omega)
    obtain ⟨hname', htenant', hspace', hpolicy'⟩ := h'.metadata hbc (by omega)
    exact ⟨hname'.trans hname, htenant'.trans htenant, hspace'.trans hspace, hpolicy'.trans hpolicy⟩

theorem of_same (h : SameIncarnation app app') : LaterVersion app app' := by
  refine ⟨h.epoch.ge, fun _ => h.lifecycleId, fun _ => ?_, fun _ hrevision => ?_⟩
  · obtain hnext | ⟨hkept, -⟩ := h.metadata <;> omega
  · obtain hnext | ⟨-, hname, htenant, hspace, hpolicy⟩ := h.metadata
    · omega
    · exact ⟨hname, htenant, hspace, hpolicy⟩

theorem of_next (h : NextIncarnation app app') : LaterVersion app app' := by
  have hepoch := h.epoch
  refine ⟨?_, fun heq => ?_, fun heq => ?_, fun heq => ?_⟩ <;> omega

theorem of_version (app app' : LifecycleRecord) (h : ApplicationVersion app app') :
    LaterVersion app app' := by
  cases h with
  | same same => exact .of_same same
  | recreated _ following => exact .of_next following
  | rebound _ following => exact .of_next following

theorem of_bare (h : LaterVersion app.bare app'.bare) : LaterVersion app app' := by
  refine ⟨h.epoch, h.lifecycleId, h.revision, fun hepoch hrevision => ?_⟩
  obtain ⟨hname, htenant, hspace, hpolicy⟩ := h.metadata hepoch hrevision
  exact ⟨hname, htenant, hspace, hpolicy⟩

end LaterVersion

theorem LifecycleRecord.epoch_of_bare (h : app'.bare = app.bare) :
    app'.lifecycleEpoch = app.lifecycleEpoch := by
  have hepoch := congrArg lifecycleEpoch h
  exact hepoch

namespace Ledger

variable {act : Act} {L L' : Ledger}

namespace ApplicationsLogged

variable {root : LifecycleRecord}

theorem mem (h : L.ApplicationsLogged) {id : String} (hroot : L.root id = some root) :
    ∃ version ∈ L.history.applications, version.bare = root ∧ version.appId = id := by
  obtain ⟨hmem, hid⟩ := mem_versions.mp (h.versions_of_some hroot).mem
  obtain ⟨version, hv, rfl⟩ := mem_map.mp hmem
  exact ⟨version, hv, rfl, hid⟩

variable (hv : version ∈ L.history.applications)
include hv

theorem mem_versions :
    version.bare ∈ versions appId (L.history.applications.map bare) version.appId :=
  Rcoder.mem_versions.mpr ⟨mem_map_of_mem hv, rfl⟩

variable (h : L.ApplicationsLogged)
include h

theorem later (hroot : L.root version.appId = some root) : LaterVersion version.bare root :=
  (h.versions_of_some hroot).reaches .refl .of_version .trans _ (mem_versions hv)

theorem root_of_mem : ∃ root, L.root version.appId = some root :=
  Logged.row_of_mem (r := version.bare) h (mem_map_of_mem hv)

theorem one_le_epoch : 1 ≤ version.lifecycleEpoch := by
  obtain ⟨root, hroot⟩ := h.root_of_mem hv
  refine (h.versions_of_some hroot).forall_mem
    (fun app start => start.epoch.ge) (fun a b ha hstep => ?_) version.bare (mem_versions hv)
  exact ha.trans (LaterVersion.of_version a b hstep).epoch

end ApplicationsLogged

/-- A lifecycle id stands for one epoch of an application. -/
def Identified (L : Ledger) : Prop :=
  ∀ app ∈ L.history.applications, ∀ app' ∈ L.history.applications, app'.appId = app.appId →
    app'.lifecycleId = app.lifecycleId → app'.lifecycleEpoch = app.lifecycleEpoch

namespace Identified

theorem save (h : L.Identified)
    (hnew : ∀ version ∈ L.history.applications, version.appId = app.appId →
      version.lifecycleId = app.lifecycleId → version.lifecycleEpoch = app.lifecycleEpoch) :
    (L.saveApp app).Identified := by
  intro a ha b hb happ hlife
  obtain ha | ha := mem_append.mp ha <;> obtain hb | hb := mem_append.mp hb
  · exact h a ha b hb happ hlife
  · rw [mem_singleton.mp hb] at happ hlife ⊢
    exact (hnew a ha happ.symm hlife.symm).symm
  · rw [mem_singleton.mp ha] at happ hlife ⊢
    exact hnew b hb happ hlife
  · rw [mem_singleton.mp ha, mem_singleton.mp hb]

theorem same (h : L.Identified) (hlog : L.ApplicationsLogged) (holds : L.Holds app)
    (hsame : SameIncarnation app app') : (L.saveApp app').Identified := by
  refine h.save fun version hv happ hlife => ?_
  obtain ⟨current, hc, hbare, hid⟩ := hlog.mem holds.1
  obtain ⟨-, hclife⟩ := same_of_bare hbare
  rw [hsame.epoch, ← epoch_of_bare hbare]
  refine h current hc version hv ?_ ?_
  · rw [happ, hsame.appId, hid]
  · rw [hlife, hsame.lifecycleId, hclife]

/-- A move keeps lifecycle ids apart, if the one it draws is new. -/
theorem move (h : L.Identified) (hlog : L.ApplicationsLogged) (hm : Move act L L')
    (fresh : ∀ id, act = .recreate id →
      ∀ version ∈ L.history.applications, version.lifecycleId ≠ id) : L'.Identified := by
  cases hm with
  | @openRoot app missing =>
    refine h.save fun version hv happ _ => ?_
    obtain ⟨root, hroot⟩ := hlog.root_of_mem hv
    rw [happ, missing] at hroot
    cases hroot
  | patch holds same => exact h.same hlog holds same
  | accept holds _ accepted => exact h.same hlog holds accepted.same
  | step inSlot _ _ follows => exact h.same hlog inSlot.holds follows.same
  | recreate _ _ _ _ _ _ _ _ _ by_recreate =>
    exact h.save fun version hv _ hlife => absurd hlife (fresh _ by_recreate version hv)
  | @rebind app next holds _ _ epoch following changed =>
    refine h.save fun version hv happ hlife => ?_
    -- in its first epoch an application has had one id only
    have hroot : L.root version.appId = some app.bare := by
      rw [happ, following.appId]
      exact holds.1
    have hlater := hlog.later hv hroot
    have hle : version.lifecycleEpoch ≤ app.lifecycleEpoch := hlater.epoch
    have hfirst := hlog.one_le_epoch hv
    have hsame : app.lifecycleId = version.lifecycleId :=
      hlater.lifecycleId (show app.lifecycleEpoch = version.lifecycleEpoch by omega)
    exact absurd (hsame.trans hlife).symm changed
  | @admitControl _ _ _ old => cases old <;> exact h
  | nameRequest | touch | bindLease | forgetLease | openHead | control | release => exact h

end Identified

theorem Move.applications_mono (hm : Move act L L')
    (hv : version ∈ L.history.applications) : version ∈ L'.history.applications := by
  cases hm with
  | openRoot | patch | accept | step | recreate | rebind =>
    exact mem_append_left _ hv
  | @admitControl _ _ _ old => cases old <;> exact hv
  | nameRequest | touch | bindLease | forgetLease | openHead | control | release => exact hv

end Ledger

variable {ok : Store → Op → Prop} {tr tr' : List (Op × Except StoreError Answer)} {s t : Store}

theorem Run.applications_mono (hr : store.Run ok s tr t)
    (hv : version ∈ s.history.applications) : version ∈ t.history.applications :=
  Run.keeps hr hv fun _ _ _ hm h =>
    hm.applications_mono h

theorem Run.root_kept (hr : store.Run ok s tr t) {id : String}
    (h : s.ledger.root id ≠ none) : t.ledger.root id ≠ none := by
  refine Run.keeps (P := fun L => L.root id ≠ none) hr h fun act L L' hm hL => ?_
  have hput : ∀ app : LifecycleRecord,
      Function.update L.root app.appId (some app.bare) id ≠ none := by
    intro app
    by_cases hid : id = app.appId
    · rw [hid, Function.update_self]
      exact Option.some_ne_none _
    · rw [Function.update_of_ne hid]
      exact hL
  cases hm with
  | openRoot | patch | accept | step | touch | recreate | rebind => exact hput _
  | @admitControl _ _ _ old => cases old <;> exact hL
  | nameRequest | bindLease | forgetLease | openHead | control | release => exact hL

/-- A recreation is one move, or none. -/
theorem store_recreate (s : Store) (appId expected requestId : String) (fresh : Fresh) :
    (store.exec s (.recreate appId expected requestId fresh)).2.ledger = s.ledger ∨
      Move (.recreate fresh.lifecycleId) s.ledger
        (store.exec s (.recreate appId expected requestId fresh)).2.ledger := by
  cases hexec : (store.exec s (.recreate appId expected requestId fresh)).1 with
  | error => exact .inl (congrArg Store.ledger (store_failed hexec))
  | ok =>
    obtain ⟨_, _, app, hholds, -, hrec⟩ :=
      store_answered hexec (gives_respond (gives_recreate appId expected requestId fresh))
    generalize (store.exec s (.recreate appId expected requestId fresh)).2.ledger = L' at hrec
    cases hrec with
    | replay => exact .inl rfl
    | anew unnamed lifecycle deleted empty settled =>
      exact .inr (.recreate hholds deleted empty settled ⟨rfl, rfl, rfl, empty⟩ rfl unnamed rfl rfl
        rfl)

/-- What the moves keep that draw new ids holds along the runs that do. -/
theorem Run.keeps_fresh {P : Ledger → Prop} (hr : store.Run DrawsFresh s tr t) (hs : P s.ledger)
    (step : ∀ act L L', Move act L L' → (∀ id, act = .recreate id →
      ∀ version ∈ L.history.applications, version.lifecycleId ≠ id) → P L → P L') : P t.ledger := by
  refine hr.invariant (I := fun s => P s.ledger) hs fun s op hok h => ?_
  have hother : (∀ id, op.act ≠ .recreate id) → P (store.exec s op).2.ledger := fun hact =>
    (store_moves s op).keeps h fun L L' hm hL =>
      step op.act L L' hm (fun id hid => absurd hid (hact id)) hL
  cases op with
  | recreate appId expected requestId fresh =>
    obtain heq | hm := store_recreate s appId expected requestId fresh
    · rw [heq]
      exact h
    · refine step _ _ _ hm (fun id hid => ?_) h
      cases hid
      exact hok
  | _ => exact hother (fun id hid => by cases hid)

theorem Run.identified (hr : store.Run DrawsFresh {} tr s) : s.ledger.Identified := by
  have h : s.ledger.ApplicationsLogged ∧ s.ledger.Identified := by
    refine Run.keeps_fresh (P := fun L => L.ApplicationsLogged ∧ L.Identified) hr
      ⟨Logged.empty, fun app happ => by cases happ⟩ fun act L L' hm fresh h => ?_
    exact ⟨h.1.move hm, h.2.move h.1 hm fresh⟩
  exact h.2

/-- An application found later in a run is a later version of the one found before, and the same
id means the same epoch. -/
theorem Run.later (hr : store.Run DrawsFresh {} tr s) (hr' : store.Run DrawsFresh s tr' t)
    (hs : s.ledger.Holds app) (ht : t.ledger.Holds app') (happ : app'.appId = app.appId) :
    LaterVersion app app' ∧
      (app'.lifecycleId = app.lifecycleId → app'.lifecycleEpoch = app.lifecycleEpoch) := by
  have hwhole := hr.append hr'
  obtain ⟨before, hb, hbare, hid⟩ := (Run.applicationsLogged hr).mem hs.1
  obtain ⟨after, ha, hbare', hid'⟩ := (Run.applicationsLogged hwhole).mem ht.1
  have hmem := Run.applications_mono hr' hb
  have hroot : t.ledger.root before.appId = some app'.bare := by
    rw [hid, ← happ]
    exact ht.1
  have hlater := (Run.applicationsLogged hwhole).later hmem hroot
  rw [hbare] at hlater
  refine ⟨.of_bare hlater, fun hlife => ?_⟩
  obtain ⟨-, hblife⟩ := same_of_bare hbare
  obtain ⟨-, halife⟩ := same_of_bare hbare'
  rw [← epoch_of_bare hbare, ← epoch_of_bare hbare']
  refine Run.identified hwhole before hmem after ha (hid'.trans (happ.trans hid.symm)) ?_
  rw [halife, hblife]
  exact hlife

/-- Whatever the calls, the versions of an application come in order of epoch, then of revision. -/
theorem application_versions_in_order (ops : List Op) (id : String) :
    (versions LifecycleRecord.appId
      ((store.after {} ops).history.applications.map LifecycleRecord.bare) id).Pairwise
        LaterVersion :=
  (Run.applicationsLogged (run_after ops)).pairwise .of_version .trans

end Rcoder.Lifecycle
