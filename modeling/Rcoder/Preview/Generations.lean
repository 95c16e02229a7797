import Rcoder.Preview.Flush

/-!
# Callbacks of a replaced generation

A generation of a preview key is known by the instance, the operation and the revision of its row.
Each callback names some of them, and as long as starts and stops come with ids of their own none
of these names is shared with a later generation: revisions grow along every run, and the ids of a
row are ids that some call has brought in before.
-/

namespace Rcoder.Preview

open Function List

open Lifecycle (checkedSucc checkedSucc_lt)

variable {T T' : Instances} {request : Request} {a : Answer} {r r' r'' : PreviewInstanceRecord}
  {key : String} {call : Call} {now : Nat} {l l' : List Request}

def Request.operationIds (request : Request) : List String :=
  match request.call with
  | .acceptStart input => [input.operationId]
  | .acceptStop _ operationId => [operationId]
  | _ => []

def Request.instanceIds (request : Request) : List String :=
  match request.call with
  | .acceptStart input => [input.instanceId]
  | _ => []

def operationIds (l : List Request) : List String := l.flatMap (·.operationIds)

def instanceIds (l : List Request) : List String := l.flatMap (·.instanceIds)

/-- No id is brought in twice. -/
def Fresh (l : List Request) : Prop := (operationIds l).Nodup ∧ (instanceIds l).Nodup

instance (l : List Request) : Decidable (Fresh l) := inferInstanceAs (Decidable (_ ∧ _))

/-- The process of the row is not, or no longer, on its way up. -/
def Settled (r : PreviewInstanceRecord) : Prop := r.state ≠ .starting ∧ r.state ≠ .ready

structure Descends (l : List Request) (r r' : PreviewInstanceRecord) : Prop where
  revision : r.revision ≤ r'.revision
  operation : r'.operationId = r.operationId ∨ r'.operationId ∈ operationIds l
  inst : r'.instanceId = r.instanceId ∨ r'.instanceId ∈ instanceIds l
  settled : Settled r → Settled r' ∨ r'.instanceId ∈ instanceIds l

section Descent

theorem Descends.refl : Descends l r r := ⟨le_rfl, .inl rfl, .inl rfl, .inl⟩

theorem operationIds_append : operationIds (l ++ l') = operationIds l ++ operationIds l' :=
  flatMap_append

theorem instanceIds_append : instanceIds (l ++ l') = instanceIds l ++ instanceIds l' :=
  flatMap_append

theorem Descends.trans (h : Descends l r r') (h' : Descends l' r' r'') :
    Descends (l ++ l') r r'' := by
  -- an id that was brought in stays until another one is
  have later {ids ids' : List String} {x x' x'' : String} (hx : x' = x ∨ x' ∈ ids)
      (hx' : x'' = x' ∨ x'' ∈ ids') : x'' = x ∨ x'' ∈ ids ++ ids' := by
    rcases hx' with rfl | hx'
    · exact hx.imp_right (mem_append_left _)
    · exact .inr (mem_append_right _ hx')
  refine ⟨h.revision.trans h'.revision, ?_, ?_, fun hs => ?_⟩
  · rw [operationIds_append]
    exact later h.operation h'.operation
  · rw [instanceIds_append]
    exact later h.inst h'.inst
  · rw [instanceIds_append]
    rcases h.settled hs with hs' | hnew
    · exact (h'.settled hs').imp_right (mem_append_right _)
    · rcases h'.inst with hsame | hnew'
      · exact .inr (mem_append_left _ (hsame ▸ hnew))
      · exact .inr (mem_append_right _ hnew')

theorem Touch.settled (h : Touch request r r') (hs : Settled r) : Settled r' := by
  cases h with
  | publish applied =>
    obtain ⟨-, -, -, -, hstate, -⟩ := applyRunningPublication_ok applied
    exact absurd hstate (not_or.mpr ⟨hs.1, fun h => hs.2 h.1⟩)
  | failed _ _ live => exact absurd live (not_or.mpr hs)
  | heartbeat | activity => exact hs
  | stopped | unknown | resolved | reboot => exact ⟨by rintro ⟨⟩, by rintro ⟨⟩⟩

/-- A row that is stored stays, and descends from what it was. -/
theorem Change.descends (hc : Change request a T T') (hr : T key = some r) :
    ∃ r', T' key = some r' ∧ Descends [request] r r' := by
  -- the row of one key is replaced
  have replaced {k : String} {x : PreviewInstanceRecord} (hx : k = key → Descends [request] r x) :
      ∃ r', update T k (some x) key = some r' ∧ Descends [request] r r' := by
    by_cases hk : key = k
    · subst hk
      exact ⟨x, update_self .., hx rfl⟩
    · exact ⟨r, (update_of_ne hk ..).trans hr, .refl⟩
  have atop {k : String} {y x : PreviewInstanceRecord} (hy : T k = some y)
      (hx : Descends [request] y x) :
      ∃ r', update T k (some x) key = some r' ∧ Descends [request] r r' := by
    refine replaced fun hk => ?_
    subst hk
    cases hr.symm.trans hy
    exact hx
  cases hc with
  | admission idle revised =>
    refine replaced fun hk => ?_
    subst hk
    rw [hr] at revised
    have brought (x : String) : x ∈ [x] := mem_singleton_self x
    exact ⟨(checkedSucc_lt revised).le, .inr (brought _), .inr (brought _), fun _ => .inr (brought _)⟩
  | retry stored applied =>
    obtain ⟨-, -, -, -, -, -, hstarting, ⟨hfalse, -⟩ | ⟨-, -, -, next, hnext, rfl⟩⟩ :=
      applyStartPortRetry_ok applied
    · cases hfalse
    exact atop stored ⟨(checkedSucc_lt hnext).le, .inl rfl, .inl rfl, fun hs => absurd hstarting hs.1⟩
  | stop stored _ revised =>
    exact atop stored ⟨(checkedSucc_lt revised).le, .inr (mem_singleton_self _), .inl rfl,
      fun _ => .inl ⟨by rintro ⟨⟩, by rintro ⟨⟩⟩⟩
  | exhausted stored =>
    exact atop stored ⟨le_rfl, .inr (mem_singleton_self _), .inl rfl,
      fun _ => .inl ⟨by rintro ⟨⟩, by rintro ⟨⟩⟩⟩
  | touch _ touched =>
    rcases touched key with hsame | ⟨r₀, r', hr₀, hr', ht⟩
    · exact ⟨r, hsame.trans hr, .refl⟩
    · cases hr.symm.trans hr₀
      have hkept := ht.kept
      exact ⟨r', hr', hkept.revision.ge, .inl hkept.operation, .inl hkept.inst,
        fun hs => .inl (ht.settled hs)⟩

/-- A new row comes from the request that brings its ids in. -/
theorem Change.created (hc : Change request a T T') (hr : T key = none) (hr' : T' key = some r') :
    r'.operationId ∈ operationIds [request] ∧ r'.instanceId ∈ instanceIds [request] := by
  -- a row that is written over is there already
  have stored {k : String} {x y : PreviewInstanceRecord} (hx : T k = some x)
      (hy : update T k (some y) key = some r') : False := by
    obtain ⟨rfl, -⟩ | ⟨-, hy⟩ := update_eq_some.mp hy
    · cases hr.symm.trans hx
    · cases hr.symm.trans hy
  cases hc with
  | admission =>
    obtain ⟨rfl, rfl⟩ | ⟨-, hr'⟩ := update_eq_some.mp hr'
    · exact ⟨mem_singleton_self _, mem_singleton_self _⟩
    · cases hr.symm.trans hr'
  | retry hx | stop hx | exhausted hx => exact (stored hx hr').elim
  | touch _ touched =>
    obtain ⟨r, hr₀, -⟩ := touched.origin hr'
    cases hr.symm.trans hr₀

end Descent

section Callbacks

/-- The call names an id or the revision of the row's generation. -/
def Carries (call : Call) (key : String) (r : PreviewInstanceRecord) : Prop :=
  match call with
  | .publishRunning k operationId revision _ _ _ =>
    k = key ∧ (operationId = r.operationId ∨ revision = r.revision)
  | .retryStartPort input =>
    input.previewKey = key ∧ (input.operationId = r.operationId ∨
      input.instanceId = r.instanceId ∨ input.revision = r.revision)
  | .markStopped k operationId revision =>
    k = key ∧ (operationId = r.operationId ∨ revision = r.revision)
  | .markFailed k instanceId revision _ =>
    k = key ∧ (instanceId = r.instanceId ∨ revision = r.revision)
  | .markUnknown k instanceId _ | .resolveUnknownStopped k instanceId _
  | .refreshHeartbeat k instanceId => k = key ∧ instanceId = r.instanceId
  | .flushActivity entries => ∀ e ∈ entries, e.previewKey = key ∧ e.instanceId = r.instanceId
  | _ => False

/-- The calls that a stop leaves without effect. -/
def NeedsStart : Call → Prop
  | .publishRunning .. | .retryStartPort _ | .markFailed .. => True
  | _ => False

/-- The generation of `r` has been stopped, and another one may have begun. -/
structure Overtaken (r r' : PreviewInstanceRecord) : Prop where
  operation : r'.operationId ≠ r.operationId
  revision : r.revision < r'.revision
  settled : Settled r' ∨ r'.instanceId ≠ r.instanceId

variable (hkeys : ∀ k r, T k = some r → r.previewKey = k)
include hkeys

theorem Touched.eq_of_key (key : String) (ht : Touched request T T')
    (hkey : ∀ r r', Touch request r r' → r.previewKey = key ∧ T key ≠ some r) : T' = T := by
  funext k
  rcases ht k with hsame | ⟨x, x', hx, hx', htouch⟩
  · exact hsame
  · obtain ⟨hxk, hx₀⟩ := hkey x x' htouch
    have hk := (hkeys k x hx).symm.trans hxk
    subst hk
    exact absurd hx hx₀

variable (hc : Change ⟨call, now⟩ a T T')
include hc

/-- A callback changes nothing if the row it is meant for is not there. -/
theorem Change.stale (hcarries : Carries call key r)
    (hstale : ∀ x : PreviewInstanceRecord, x.operationId = r.operationId ∨
      x.instanceId = r.instanceId ∨ x.revision = r.revision →
      (NeedsStart call → x.state = .starting ∨ x.state = .ready) → T key ≠ some x) : T' = T := by
  cases hc with
  | admission | stop | exhausted => exact hcarries.elim
  | retry stored applied =>
    obtain ⟨hkey, hnames⟩ := hcarries
    obtain ⟨-, -, -, hop, hinst, -, hstarting, ⟨hfalse, -⟩ | ⟨-, hrev, -⟩⟩ :=
      applyStartPortRetry_ok applied
    · cases hfalse
    refine absurd (hkey ▸ stored) (hstale _ ?_ fun _ => .inl hstarting)
    exact hnames.imp hop.trans (Or.imp hinst.trans hrev.trans)
  | touch _ touched =>
    refine touched.eq_of_key hkeys key fun x x' ht => ?_
    cases ht with
    | publish applied =>
      obtain ⟨hop, hrev, -, -, hstate, -⟩ := applyRunningPublication_ok applied
      refine ⟨hcarries.1, hstale x ?_ fun _ => hstate.imp_right And.left⟩
      exact hcarries.2.imp hop.trans fun h => .inr (hrev.trans h)
    | stopped hop hrev =>
      refine ⟨hcarries.1, hstale x ?_ False.elim⟩
      exact hcarries.2.imp hop.trans fun h => .inr (hrev.trans h)
    | failed hinst hrev live =>
      exact ⟨hcarries.1, hstale x (.inr (hcarries.2.imp hinst.trans hrev.trans)) fun _ => live⟩
    | unknown hinst | resolved hinst | heartbeat _ _ hinst =>
      exact ⟨hcarries.1, hstale x (.inr (.inl (hinst.trans hcarries.2))) False.elim⟩
    | activity _ listed =>
      obtain ⟨e, he, hkey, hinst⟩ := listed
      obtain ⟨hekey, heinst⟩ := hcarries e he
      exact ⟨hkey.symm.trans hekey, hstale x (.inr (.inl (hinst.symm.trans heinst))) False.elim⟩
    | reboot => exact hcarries.elim

/-- A report of a start changes nothing behind the stop of its generation. -/
theorem Change.overtaken (hr : T key = some r') (ho : Overtaken r r')
    (hcarries : Carries call key r) (hstart : NeedsStart call) : T' = T := by
  refine hc.stale hkeys hcarries fun x h hlive hx => ?_
  cases hr.symm.trans hx
  -- the row is neither starting nor ready, or it is of another instance
  rcases h with h | h | h
  · exact ho.operation h
  · rcases ho.settled with hs | hinst
    · exact (hlive hstart).elim hs.1 hs.2
    · exact hinst h
  · exact ho.revision.ne' h

end Callbacks

section Registries

variable {σ : Type} {m : Machine σ Request Answer} {s₀ : σ} {table : σ → Instances}

/-- What both stores are, as far as generations are concerned. -/
structure Registry (m : Machine σ Request Answer) (s₀ : σ) (table : σ → Instances) : Prop where
  empty : ∀ k, table s₀ k = none
  keys : ∀ s k r, table s k = some r → r.previewKey = k
  change : ∀ s request, Change request (m.exec s request).1 (table s) (table (m.exec s request).2)
  flush : ∀ requests entries now,
    table (m.exec (m.after s₀ requests) ⟨.flushActivity entries, now⟩).2 =
      (flushRows entries (table (m.after s₀ requests))).2

theorem mem_append_of_same {id id' : String} {ids ids' : List String} (h : id ∈ ids)
    (hsame : id' = id ∨ id' ∈ ids') : id' ∈ ids ++ ids' := by
  obtain rfl | hnew := hsame
  · exact mem_append_left _ h
  · exact mem_append_right _ hnew

/-- The ids of the stored rows have been brought in by the calls so far. -/
theorem Registry.known (h : Registry m s₀ table) (l : List Request)
    (hr : table (m.after s₀ l) key = some r) :
    r.operationId ∈ operationIds l ∧ r.instanceId ∈ instanceIds l := by
  induction l using reverseRecOn generalizing r with
  | nil => cases (h.empty key).symm.trans hr
  | append_singleton l request ih =>
    rw [Machine.after_concat] at hr
    rw [operationIds_append, instanceIds_append]
    have hc := h.change (m.after s₀ l) request
    cases hold : table (m.after s₀ l) key with
    | none =>
      have hnew := hc.created hold hr
      exact hnew.imp (mem_append_right _) (mem_append_right _)
    | some =>
      obtain ⟨r', hr', hd⟩ := hc.descends hold
      cases hr'.symm.trans hr
      obtain ⟨hop, hinst⟩ := ih hold
      exact ⟨mem_append_of_same hop hd.operation, mem_append_of_same hinst hd.inst⟩

/-- Along a run the row of a key descends from what it was. -/
theorem Registry.descends (h : Registry m s₀ table) {s : σ} (hr : table s key = some r)
    (l : List Request) : ∃ r', table (m.after s l) key = some r' ∧ Descends l r r' := by
  induction l using reverseRecOn with
  | nil => exact ⟨r, hr, .refl⟩
  | append_singleton l request ih =>
    obtain ⟨r₁, hr₁, hd₁⟩ := ih
    obtain ⟨r₂, hr₂, hd₂⟩ := (h.change (m.after s l) request).descends hr₁
    rw [Machine.after_concat]
    exact ⟨r₂, hr₂, hd₁.trans hd₂⟩

/-- The row was stored under the key at some point of the run. -/
def Stored (m : Machine σ Request Answer) (s₀ : σ) (table : σ → Instances) (l : List Request)
    (key : String) (r : PreviewInstanceRecord) : Prop :=
  ∃ l₁ l₂, l = l₁ ++ l₂ ∧ table (m.after s₀ l₁) key = some r

theorem Registry.stored (h : Registry m s₀ table) (hr : Stored m s₀ table l key r) :
    r.operationId ∈ operationIds l ∧ r.instanceId ∈ instanceIds l ∧
      ∃ r₁, table (m.after s₀ l) key = some r₁ ∧ r.revision ≤ r₁.revision := by
  obtain ⟨l₁, l₂, rfl, hr⟩ := hr
  obtain ⟨hop, hinst⟩ := h.known l₁ hr
  obtain ⟨r₁, hr₁, hd⟩ := h.descends hr l₂
  rw [operationIds_append, instanceIds_append, Machine.after_append]
  exact ⟨mem_append_left _ hop, mem_append_left _ hinst, r₁, hr₁, hd.revision⟩

/-- Ids from before a request are not among those of the request and of what follows. -/
theorem Fresh.apart (h : Fresh (l ++ request :: l')) :
    (∀ x ∈ operationIds l, x ∉ operationIds [request] ++ operationIds l') ∧
      ∀ x ∈ instanceIds l, x ∉ instanceIds [request] ++ instanceIds l' := by
  have hsplit : l ++ request :: l' = l ++ ([request] ++ l') := rfl
  obtain ⟨hops, hinsts⟩ := h
  rw [hsplit, operationIds_append, operationIds_append] at hops
  rw [hsplit, instanceIds_append, instanceIds_append] at hinsts
  exact ⟨disjoint_of_nodup_append hops, disjoint_of_nodup_append hinsts⟩

variable {x : PreviewInstanceRecord} {input : AcceptStartInput}

theorem Change.admitted (hc : Change ⟨.acceptStart input, now⟩ (.outcome (.admitted x)) T T') :
    T' input.previewKey = some x ∧ x.operationId = input.operationId ∧
      x.instanceId = input.instanceId ∧
      ∀ r, T input.previewKey = some r → r.revision < x.revision := by
  cases hc with
  | admission idle revised =>
    refine ⟨update_self .., rfl, rfl, fun r hr => ?_⟩
    rw [hr] at revised
    exact checkedSucc_lt revised
  | touch unadmitted => exact absurd rfl (unadmitted x)

variable {operationId : String}

/-- A stop that changes the row of its key takes it over. -/
theorem Change.stopped (hc : Change ⟨.acceptStop key operationId, now⟩ (.record x) T T')
    (hne : T' key ≠ T key) :
    T' key = some x ∧ Settled x ∧
      ∃ r, T key = some r ∧ x.instanceId = r.instanceId ∧ r.revision < x.revision := by
  cases hc with
  | stop stored _ revised =>
    exact ⟨update_self .., ⟨by rintro ⟨⟩, by rintro ⟨⟩⟩, _, stored, rfl, checkedSucc_lt revised⟩
  | touch _ touched =>
    rcases touched key with hsame | ⟨_, _, _, _, ht⟩
    · exact absurd hsame hne
    · cases ht

/-- After an accepted stop a generation is overtaken. -/
theorem Registry.overtaken (h : Registry m s₀ table)
    (hfresh : Fresh (l ++ ⟨.acceptStop key operationId, now⟩ :: l'))
    (hstop : (m.exec (m.after s₀ l) ⟨.acceptStop key operationId, now⟩).1 = .record x)
    (hx : table (m.exec (m.after s₀ l) ⟨.acceptStop key operationId, now⟩).2 key = some x)
    (hxop : x.operationId = operationId) (hr : Stored m s₀ table l key r) :
    ∃ r', table (m.after s₀ (l ++ ⟨.acceptStop key operationId, now⟩ :: l')) key = some r' ∧
      Overtaken r r' := by
  obtain ⟨hop, hinst, r₁, hr₁, hrev₁⟩ := h.stored hr
  obtain ⟨hops, hinsts⟩ := hfresh.apart
  have hc := h.change (m.after s₀ l) ⟨.acceptStop key operationId, now⟩
  rw [hstop] at hc
  have hne : table (m.exec (m.after s₀ l) ⟨.acceptStop key operationId, now⟩).2 key ≠
      table (m.after s₀ l) key := by
    intro hsame
    have hold := (h.known l (hsame ▸ hx)).1
    exact hops _ hold (mem_append_left _ (by rw [hxop]; exact mem_singleton_self _))
  obtain ⟨-, hsettled, r₂, hr₂, -, hrev⟩ := hc.stopped hne
  cases hr₁.symm.trans hr₂
  obtain ⟨r', hr', hd⟩ := h.descends hx l'
  refine ⟨r', by rw [Machine.after_append]; exact hr', fun heq => hops _ hop ?_, ?_, ?_⟩
  · exact heq ▸ mem_append_of_same (by rw [hxop]; exact mem_singleton_self _)
      hd.operation
  · exact (hrev₁.trans_lt hrev).trans_le hd.revision
  · exact (hd.settled hsettled).imp_right fun hnew heq =>
      hinsts _ hinst (mem_append_right _ (heq ▸ hnew))

end Registries

theorem InProcess.registry : Registry InProcess.machine .new InProcess.State.table where
  empty _ := rfl
  keys _ _ _ := InProcess.table_key
  change := InProcess.exec_change
  flush requests entries now := by
    obtain ⟨s', hrun, htable, -⟩ :=
      InProcess.flushActivity_run entries (InProcess.machine.after .new requests)
    change InProcess.State.table (InProcess.respond .count (InProcess.flushActivity entries) _).2 = _
    rw [InProcess.respond, hrun]
    exact htable

theorem Postgres.registry (env : Postgres.Env) :
    Registry (Postgres.machine env) .new Postgres.Tables.table where
  empty _ := rfl
  keys _ _ _ := Postgres.table_key
  change := Postgres.exec_change env
  flush requests entries now := by
    obtain ⟨t', hrun, htable, -⟩ :=
      Postgres.flushActivity_run entries (Postgres.lawful_after env requests)
    change Postgres.Tables.table (Postgres.respond .count (Postgres.flushActivity entries) _).2 = _
    rw [Postgres.respond, Effect.transact, hrun]
    exact htable

end Rcoder.Preview
