import Rcoder.Lifecycle.Incarnations

/-!
# Metadata revisions

A patch carries the revision it was made against. Patches, admissions with a patch, the policy
of a completed command and the restart of the compute all write metadata; whichever did, the
revision tells whether anything has changed.
-/

namespace Rcoder.Lifecycle

open Effect Ledger

inductive Patches (patch : MetadataPatch) : Op → Except StoreError Answer → Prop
  | alone {app : LifecycleRecord} : Patches patch (.patchMetadata patch) (.ok (.application app))
  | admitted {request : Lifecycle.Admission} {input : Option ExecutionInput}
      {pg : Option StartPgCredential} {fresh : Fresh} {operation : OperationRecord}
      (carried : request.metadata = some patch) :
      Patches patch (.admitWithConfiguration request input pg fresh)
        (.ok (.admission (.accepted operation)))

/-- A patch is applied to the lifecycle and the revision that it names. -/
theorem store_patches {s : Store} {op : Op} {patch : MetadataPatch}
    (h : Patches patch op (store.exec s op).1) (hroot : s.ledger.root patch.appId ≠ none) :
    ∃ app, s.ledger.Holds app ∧ app.appId = patch.appId ∧ app.lifecycleId = patch.lifecycleId ∧
      app.metadataRevision = patch.expectedRevision := by
  generalize hexec : (store.exec s op).1 = result at h
  cases h with
  | alone =>
    obtain ⟨_, _, app, hholds, happ, hlife, hrevision, -⟩ := store_answered hexec
      (gives_respond (@gives_patchMetadata s .other patch))
    exact ⟨app, hholds, happ, hlife, hrevision⟩
  | @admitted request input pg fresh operation carried =>
    obtain ⟨outcome, houtcome, ⟨h⟩⟩ := store_answered hexec
      (gives_respond (gives_admitWithConfiguration request input pg fresh))
    cases houtcome
    obtain ⟨happ, hlife, hrevision⟩ : h.app.appId = patch.appId ∧
        h.app.lifecycleId = patch.lifecycleId ∧ h.app.metadataRevision = patch.expectedRevision := by
      cases h.answers with
      | accept _ accepted => exact accepted.patches patch carried
    refine ⟨h.app, h.holds_of_root ?_, happ, hlife, hrevision⟩
    rw [← h.sameApp, happ]
    exact hroot

/-- Two states of one incarnation, the second one later: its revision is not smaller, and an
equal revision means equal metadata. -/
def KeepsMetadata (s t : Store) : Prop :=
  ∀ app app', s.ledger.Holds app → t.ledger.Holds app' → app'.appId = app.appId →
    app'.lifecycleId = app.lifecycleId → app.metadataRevision ≤ app'.metadataRevision ∧
      (app'.metadataRevision = app.metadataRevision → SameMetadata app app')

/-- A patch made against what was read in `s` finds it unchanged up to `t`, where it is applied. -/
def UnchangedUntilPatched (s between t : Store) : Prop :=
  ∀ app patch op, s.ledger.Holds app → patch.appId = app.appId →
    patch.lifecycleId = app.lifecycleId → patch.expectedRevision = app.metadataRevision →
    Patches patch op (store.exec t op).1 → ∀ app', between.ledger.Holds app' →
      app'.appId = app.appId → app'.lifecycleId = app.lifecycleId ∧ SameMetadata app app'

variable {s between t : Store} {tr tr' tr'' : List (Op × Except StoreError Answer)}

theorem keepsMetadata (hr : store.Run DrawsFresh {} tr s) (hr' : store.Run DrawsFresh s tr' t) :
    KeepsMetadata s t := by
  intro app app' hs ht happ hlife
  obtain ⟨hlater, hepoch⟩ := Run.later hr hr' hs ht happ
  exact ⟨hlater.revision (hepoch hlife), hlater.metadata (hepoch hlife)⟩

theorem metadata_revisions (hr : store.Run DrawsFresh {} tr s)
    (hr' : store.Run DrawsFresh s tr' between) (hr'' : store.Run DrawsFresh between tr'' t) :
    KeepsMetadata s t ∧ UnchangedUntilPatched s between t := by
  refine ⟨keepsMetadata hr (hr'.append hr''), ?_⟩
  intro app patch op hs happ hlife hrevision hpatches app' hb happ'
  have hroot : t.ledger.root patch.appId ≠ none := by
    refine Run.root_kept (hr'.append hr'') ?_
    rw [happ, hs.1]
    exact Option.some_ne_none _
  obtain ⟨current, ht, hid, hclife, hcrevision⟩ := store_patches hpatches hroot
  -- the epoch and the revision of what is patched enclose those of everything in between
  obtain ⟨hfirst, -⟩ := Run.later hr hr' hs hb happ'
  obtain ⟨hsecond, -⟩ := Run.later (hr.append hr') hr'' hb ht (hid.trans (happ.trans happ'.symm))
  obtain ⟨-, hepoch⟩ := Run.later hr (hr'.append hr'') hs ht (hid.trans happ)
  have hepoch := hepoch (hclife.trans hlife)
  have hle := hfirst.epoch
  have hle' := hsecond.epoch
  have hsame : app'.lifecycleEpoch = app.lifecycleEpoch := by omega
  have hrle := hfirst.revision hsame
  have hrle' := hsecond.revision (by omega)
  exact ⟨hfirst.lifecycleId hsame, hfirst.metadata hsame (by omega)⟩

/-- The metadata is patched, and a second patch against the first revision is refused. -/
def stalePatch : List Op :=
  [.ensureIdentity "app" Sample.fresh,
    .patchMetadata
      { appId := "app", lifecycleId := "life", expectedRevision := 1, name := some (some "shop") },
    .patchMetadata
      { appId := "app", lifecycleId := "life", expectedRevision := 1, name := some (some "blog") }]

theorem metadata_revisions_stalePatch :
    KeepsMetadata (store.after {} (stalePatch.take 1)) (store.after {} stalePatch) ∧
      UnchangedUntilPatched (store.after {} (stalePatch.take 1)) (store.after {} (stalePatch.take 2))
        (store.after {} stalePatch) ∧
      ((store.after {} stalePatch).apps.find? "app").any
        (fun row => row.name = some "shop" ∧ row.metadataRevision = 2) = true := by
  have hfollows : ∀ (s : Store) (ops : List Op), (∀ op ∈ ops, op ∈ stalePatch) →
      store.Follows DrawsFresh s ops := by
    intro s ops hops
    refine Machine.follows_of_forall fun t op hop => ?_
    have hmem := hops op hop
    simp only [stalePatch, List.mem_cons, List.not_mem_nil, or_false] at hmem
    obtain rfl | rfl | rfl := hmem <;> trivial
  have hfirst := Machine.Run.of_follows (hfollows {} (stalePatch.take 1) (by simp [stalePatch]))
  have hsecond := Machine.Run.of_follows (hfollows (store.after {} (stalePatch.take 1))
    ((stalePatch.drop 1).take 1) (by simp [stalePatch]))
  have hthird := Machine.Run.of_follows (hfollows (store.after {} (stalePatch.take 2))
    (stalePatch.drop 2) (by simp [stalePatch]))
  obtain ⟨hkeeps, hunchanged⟩ := metadata_revisions hfirst hsecond hthird
  exact ⟨hkeeps, hunchanged, by decide +kernel⟩

end Rcoder.Lifecycle
