import Rcoder.Deploy.Outcomes

/-!
# Skipped deployments

A preparation is skipped when the marker names the release that is asked for. The marker is
committed behind the promotion, so it speaks of the workspace as long as no activation ends between
the two.
-/

namespace Rcoder.Deploy

variable {v₀ v : Volume} {env : Env} {ws prev : Option Dir} {w : World} {call : Call}

/-- No generation is put back, and where the plan of an activation lets the promotion through, the
steps of the marker behind it are done. -/
def settles (w : World) : Call → Bool
  | .restorePreviousGeneration _ _ => false
  | .activate plan => w.held = none || !(w.planned plan).cutsMarker
  | _ => true

/-- The marker speaks of the last promotion, and no other directory is in the workspace. -/
def Matched (env : Env) (v : Volume) : Prop :=
  ∀ state, v.marker = some state → ∃ d rest, v.promoted = (state.releaseId, d) :: rest ∧
    state.sha256 = env.sha256 d.archive ∧ (v.workspace = some d ∨ v.workspace = none)

theorem Matched.placed (hm : Matched env v₀) (h : Placed v₀ ws prev v)
    (hws : ws = v₀.workspace ∨ ws = none) : Matched env v := by
  intro state hstate
  obtain ⟨hw, -, hmarker, hpromoted, -⟩ := h
  obtain ⟨d, rest, hlast, hsha, hwd⟩ := hm state (hmarker ▸ hstate)
  refine ⟨d, rest, hpromoted ▸ hlast, hsha, ?_⟩
  obtain rfl | rfl := hws
  · rwa [hw]
  · exact .inr hw

theorem Matched.exec (hs : Sound env w) (hok : settles w call = true)
    (hm : Matched env w.volume) : Matched env (exec env w call).2.volume := by
  obtain ⟨h⟩ | ⟨p, d, plan, hheld, rfl, h⟩ | ⟨p, d, hsha, hmarker, h⟩ |
    ⟨⟨_, _, rfl⟩, -⟩ := (exec_change hs call).2
  · exact hm.placed h (.inl rfl)
  · obtain ⟨_, h, -⟩ | h | ⟨-, hcuts⟩ := h
    · exact hm.placed h (.inl rfl)
    · exact hm.placed h (.inr rfl)
    · simp [settles, hheld, hcuts] at hok
  · intro state hstate
    cases hmarker.symm.trans hstate
    exact ⟨d, _, h.2.1, hsha, .inl h.1⟩
  · exact absurd hok Bool.false_ne_true

/-- The workspace is the directory promoted last, under the release id of the request and from an
archive with its sha256. -/
def InPlace (env : Env) (r : Request) (v : Volume) : Prop :=
  ∃ d rest sha, v.workspace = some d ∧ v.promoted = (r.releaseId, d) :: rest ∧
    r.expectedSha = some sha ∧ eqIgnoreAsciiCase sha (env.sha256 d.archive) = true

theorem skipped_deployment_in_place (env : Env) {tr : List (Call × Answer)} {w : World}
    (hr : (machine env).Run (fun w call => settles w call = true) {} tr w) (r : Request)
    (plan : List Outcome)
    (hskip : (exec env w (.prepareWithLocal r plan)).1 = .prepared .inPlace) :
    InPlace env r (exec env w (.prepareWithLocal r plan)).2.volume := by
  have hinv : Sound env w ∧ Matched env w.volume :=
    hr.invariant (I := fun w => Sound env w ∧ Matched env w.volume)
      ⟨.init, fun _ h => absurd h (Option.some_ne_none _).symm⟩
      fun w call hok h => ⟨(exec_change h.1 call).1, h.2.exec h.1 hok⟩
  obtain ⟨-, ⟨hw, -, -, hpromoted, -⟩, hmarked⟩ := prepared_sound hinv.1 r plan
  obtain ⟨state, sha, hstate, hid, hexpected, hsha, hsome⟩ := hmarked hskip
  obtain ⟨d, rest, hlast, hd, hwd⟩ := hinv.2 state hstate
  refine ⟨d, rest, sha, ?_, ?_, hexpected, hd ▸ hsha⟩
  · rw [hw]
    exact hwd.resolve_right hsome
  · rw [hpromoted, hlast, hid]

/-- An environment in which every archive unpacks to one file that holds it. -/
def sampleEnv : Env where
  sha256 archive := if archive = [1] then "a" else "b"
  verifyZipMagic _ := true
  extract archive := some [("release.lock.toml", archive)]
  readReleaseLock _ := some "app"
  preflightStartup _ := true

def sampleRequest (releaseId sha temp : String) (archive : Archive) : Request where
  releaseId := releaseId
  url := "https"
  download := some archive
  expectedSha := some sha
  part := temp
  temp := temp

/-- What a sequence of calls leaves of an empty volume. -/
def left (calls : List Call) : World := (machine sampleEnv).after {} calls

def firstDeployed : List Call :=
  [.prepareWithLocal (sampleRequest "r1" "a" "x" [1]) [], .activate []]

def firstAgain : Call := .prepareWithLocal (sampleRequest "r1" "a" "z" [1]) []

/-- The second release is cut short once before its promotion, deployed, and taken back. -/
def switchedBack : List Call :=
  firstDeployed ++ [.prepareWithLocal (sampleRequest "r2" "b" "y" [2]) [],
    .activate [.done, .done, .crashed []],
    .prepareWithLocal (sampleRequest "r2" "b" "y" [2]) [], .activate [],
    .prepareWithLocal (sampleRequest "r1" "a" "x" [1]) [], .activate []]

theorem skipped_deployment_in_place_example :
    InPlace sampleEnv (sampleRequest "r1" "a" "z" [1])
      (exec sampleEnv (left switchedBack) firstAgain).2.volume :=
  skipped_deployment_in_place sampleEnv
    (.of_follows (by decide +kernel : (machine sampleEnv).Follows
      (fun w call => settles w call = true) {} switchedBack)) _ [] (by decide +kernel)

/-- The second activation ends right behind its promotion. -/
def secondCut : List Call :=
  firstDeployed ++ [.prepareWithLocal (sampleRequest "r2" "b" "y" [2]) [],
    .activate [.done, .done, .done, .done, .crashed []]]

/-- The marker is still the first one, but the workspace is the second archive. -/
theorem skipped_behind_cut :
    (exec sampleEnv (left secondCut) firstAgain).1 = .prepared .inPlace ∧
      (exec sampleEnv (left secondCut) firstAgain).2.volume.workspace =
        some ⟨1, [2], [("release.lock.toml", [2])]⟩ ∧
      (left secondCut).volume.promoted.map (·.1) = ["r2", "r1"] ∧ sampleEnv.sha256 [2] = "b" := by
  decide +kernel

end Rcoder.Deploy
