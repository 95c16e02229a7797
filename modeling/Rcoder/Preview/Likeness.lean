import Rcoder.Lib.Paired
import Rcoder.Preview.Flush

/-!
# The two stores side by side

Records are compared without the instants of their last update and heartbeat, and their detail is
read through `w`: the stores word it differently where they settle the instances of an earlier
boot. `Mirrors` says that the stores hold the same rows and the same ledger, and what the PostgreSQL
store needs to find in its ledger for its own checks to pass.
-/

namespace Rcoder.Preview

open Effect Function

variable {w : String → String} {r r' : PreviewInstanceRecord} {key : String}

/-- The record without the instants that the stores keep differently. -/
def erase (w : String → String) (r : PreviewInstanceRecord) : PreviewInstanceRecord :=
  { r with
    lastHeartbeatAt := r.lastHeartbeatAt.map fun _ => 0
    detail := r.detail.map w
    updatedAt := 0 }

/-- The record with other instants and another detail. -/
def PreviewInstanceRecord.stamped (r : PreviewInstanceRecord) (beat : Option Nat) (updated : Nat)
    (detail : Option String) : PreviewInstanceRecord :=
  { r with lastHeartbeatAt := beat, updatedAt := updated, detail := detail }

def Alike (w : String → String) (r r' : PreviewInstanceRecord) : Prop := erase w r = erase w r'

section Records

variable {beat : Option Nat} {updated : Nat} {detail : Option String}

theorem alike_stamped (hbeat : beat.isSome = r.lastHeartbeatAt.isSome)
    (hdetail : detail.map w = r.detail.map w) : Alike w r (r.stamped beat updated detail) := by
  have hmap : (r.lastHeartbeatAt.map fun _ => 0) = beat.map fun _ => (0 : Nat) := by
    cases hb : beat <;> cases hr : r.lastHeartbeatAt <;> simp_all
  simp only [Alike, erase, PreviewInstanceRecord.stamped, hmap, hdetail]

theorem Alike.exists_stamped (h : Alike w r r') : ∃ beat updated detail,
    r' = r.stamped beat updated detail ∧ beat.isSome = r.lastHeartbeatAt.isSome ∧
      detail.map w = r.detail.map w := by
  obtain ⟨⟩ := r'
  simp only [Alike, erase, PreviewInstanceRecord.mk.injEq] at h
  obtain ⟨rfl, rfl, rfl, rfl, rfl, rfl, rfl, rfl, rfl, rfl, rfl, rfl, rfl, hbeat, rfl, hdetail,
    -⟩ := h
  refine ⟨_, _, _, rfl, ?_, hdetail.symm⟩
  simpa using (congrArg Option.isSome hbeat).symm

theorem Alike.refl : Alike w r r := rfl

theorem Alike.active (h : Alike w r r') : r'.state.isActive = r.state.isActive := by
  obtain ⟨_, _, _, rfl, -⟩ := h.exists_stamped
  rfl

theorem Alike.port (h : Alike w r r') : r'.port = r.port := by
  obtain ⟨_, _, _, rfl, -⟩ := h.exists_stamped
  rfl

theorem Alike.symm (h : Alike w r r') : Alike w r' r := Eq.symm h

end Records

/-- Errors of one kind: their texts are not compared. -/
def SameKind (e e' : PreviewStoreError) : Prop := e.ctorIdx = e'.ctorIdx

/-- The two stores accept or reject alike, with errors of one kind, and answer with alike records.
The order of a listing is the database's own. -/
inductive Agree (w : String → String) : Answer → Answer → Prop
  | admitted {r r' : PreviewInstanceRecord} (h : Alike w r r') :
      Agree w (.outcome (.admitted r)) (.outcome (.admitted r'))
  | existingReady {r r' : PreviewInstanceRecord} (h : Alike w r r') :
      Agree w (.outcome (.existingReady r)) (.outcome (.existingReady r'))
  | blocked {r r' : PreviewInstanceRecord} (h : Alike w r r') :
      Agree w (.outcome (.blocked r)) (.outcome (.blocked r'))
  | record {r r' : PreviewInstanceRecord} (h : Alike w r r') : Agree w (.record r) (.record r')
  | found {o o' : Option PreviewInstanceRecord} (h : Option.Rel (Alike w) o o') :
      Agree w (.found o) (.found o')
  | count {n : Nat} : Agree w (.count n) (.count n)
  | ports {l l' : List Nat} (h : l.Perm l') : Agree w (.ports l) (.ports l')
  | records {l l' : List PreviewInstanceRecord}
      (h : (l.map (erase w)).Perm (l'.map (erase w))) : Agree w (.records l) (.records l')
  | error {e e' : PreviewStoreError} (h : SameKind e e') : Agree w (.error e) (.error e')

/-- The tables hold alike rows. -/
def SameRows (w : String → String) (T T' : Instances) : Prop :=
  ∀ k, Option.Rel (Alike w) (T k) (T' k)

def SameOperation (o : PreviewOperationRecord) (o' : Postgres.OperationRow) : Prop :=
  o.kind = o'.kind ∧ o.previewKey = o'.previewKey

/-- The start of a row that is still starting can be retried on another port. -/
def OpenStart (kind : PreviewOperationKind) (port : Option Nat) (state : PreviewOperationState)
    (r : PreviewInstanceRecord) : Prop :=
  kind = .start ∧ port = r.port ∧ state.inflight = true

structure Mirrors (w : String → String) (s : InProcess.State) (t : Postgres.Tables) : Prop where
  rows : SameRows w s.table t.table
  ledger : ∀ id, Option.Rel SameOperation (s.operations.find? id) (t.operations.find? id)
  linked : ∀ k r, t.table k = some r →
    ∃ op, t.operations.find? r.operationId = some op ∧ Postgres.Linked op r
  starting : ∀ k r, t.table k = some r → r.state = .starting →
    (∃ op, s.operations.find? r.operationId = some op ∧
      OpenStart op.kind op.allocatedPort op.state r) ∧
    ∃ op, t.operations.find? r.operationId = some op ∧
      OpenStart op.kind op.allocatedPort op.state r

section Effects

variable {s s' : InProcess.State} {t t' : Postgres.Tables} {x x' : PreviewInstanceRecord}

theorem SameRows.cases {T T' : Instances} (h : SameRows w T T') (k : String) :
    (T k = none ∧ T' k = none) ∨ ∃ r beat updated detail, T k = some r ∧
      T' k = some (r.stamped beat updated detail) ∧ beat.isSome = r.lastHeartbeatAt.isSome ∧
      detail.map w = r.detail.map w := by
  obtain hnone | ⟨r, _, hr, hr', halike⟩ := Related.cases h k
  · exact .inl hnone
  · obtain ⟨beat, updated, detail, rfl, hbeat, hdetail⟩ := halike.exists_stamped
    exact .inr ⟨r, beat, updated, detail, hr, hr', hbeat, hdetail⟩

/-- Operations change in their state and port only, and only those of the key `k`. -/
structure Attends (k : String) (s s' : InProcess.State) (t t' : Postgres.Tables) : Prop where
  ledger : ∀ id, Option.Rel SameOperation (s'.operations.find? id) (t'.operations.find? id)
  local_kept : ∀ id op, s.operations.find? id = some op → op.previewKey ≠ k →
    s'.operations.find? id = some op
  stored_kept : ∀ id op, t.operations.find? id = some op → op.previewKey ≠ k →
    t'.operations.find? id = some op

theorem Mirrors.update (h : Mirrors w s t) (hs : s'.table = update s.table key (some x))
    (ht : t'.table = update t.table key (some x')) (hx : Alike w x x')
    (hops : Attends key s s' t t')
    (hlinked : ∃ op, t'.operations.find? x'.operationId = some op ∧ Postgres.Linked op x')
    (hstarting : x'.state = .starting →
      (∃ op, s'.operations.find? x'.operationId = some op ∧
        OpenStart op.kind op.allocatedPort op.state x') ∧
      ∃ op, t'.operations.find? x'.operationId = some op ∧
        OpenStart op.kind op.allocatedPort op.state x') : Mirrors w s' t' := by
  -- the operation of a row of another key is of that key, and is left alone
  have other : ∀ k r, k ≠ key → t.table k = some r → ∃ op o,
      t.operations.find? r.operationId = some op ∧ Postgres.Linked op r ∧
      t'.operations.find? r.operationId = some op ∧ s.operations.find? r.operationId = some o ∧
      s'.operations.find? r.operationId = some o := by
    intro k r hk hr
    obtain ⟨op, hop, hl⟩ := h.linked k r hr
    have hkey : op.previewKey ≠ key := by
      rw [hl.key, Postgres.table_key hr]
      exact hk
    obtain ⟨o, hso, hsame⟩ := Related.of_right h.ledger hop
    refine ⟨op, o, hop, hl, hops.stored_kept _ _ hop hkey, hso, ?_⟩
    exact hops.local_kept _ _ hso (hsame.2 ▸ hkey)
  refine ⟨?_, hops.ledger, fun k r hr => ?_, fun k r hr hstate => ?_⟩
  · rw [hs, ht]
    exact Related.update h.rows (.some hx)
  · rcases update_eq_some.mp (ht ▸ hr) with ⟨rfl, rfl⟩ | ⟨hk, hr⟩
    · exact hlinked
    · obtain ⟨op, -, -, hl, hop', -⟩ := other k r hk hr
      exact ⟨op, hop', hl⟩
  · rcases update_eq_some.mp (ht ▸ hr) with ⟨rfl, rfl⟩ | ⟨hk, hr⟩
    · exact hstarting hstate
    · obtain ⟨op, o, hop, -, hop', hso, hso'⟩ := other k r hk hr
      obtain ⟨⟨o₁, ho₁, hopen₁⟩, op₁, hop₁, hopen⟩ := h.starting k r hr hstate
      cases hso.symm.trans ho₁
      cases hop.symm.trans hop₁
      exact ⟨⟨o, hso', hopen₁⟩, op, hop', hopen⟩

theorem Mirrors.restamp (h : Mirrors w s t) (hrows : SameRows w s'.table t'.table)
    (hs : s'.operations = s.operations) (ht : t'.operations = t.operations)
    (hkept : ∀ k r', t'.table k = some r' → ∃ r, t.table k = some r ∧ Kept r r' ∧
      r'.state = r.state) : Mirrors w s' t' := by
  refine ⟨hrows, ?_, fun k r' hr' => ?_, fun k r' hr' hstate => ?_⟩
  · rw [hs, ht]
    exact h.ledger
  · obtain ⟨r, hr, hk, -⟩ := hkept k r' hr'
    obtain ⟨op, hop, hl⟩ := h.linked k r hr
    rw [ht, hk.operation]
    exact ⟨op, hop, hl.key.trans hk.key.symm, hl.inst.trans hk.inst.symm, hl.payload⟩
  · obtain ⟨r, hr, hk, hst⟩ := hkept k r' hr'
    have hopen := h.starting k r hr (hst ▸ hstate)
    rw [hs, ht, hk.operation]
    unfold OpenStart at hopen ⊢
    rw [hk.port]
    exact hopen

end Effects

end Rcoder.Preview
