import Rcoder.Deploy.Skipped

/-!
# The saved generation

An activation saves the current generation before it promotes the prepared one. A promoted
generation is in one of the two places, unless an activation removes a saved one while the workspace
is absent.
-/

namespace Rcoder.Deploy

variable {v₀ v : Volume} {env : Env} {ws prev : Option Dir} {w : World} {call : Call}
  {p : PreparedDeploy} {d : Dir}

/-- A saved generation is not removed while it is the only one. -/
def exchangeable (w : World) : Call → Bool
  | .activate _ => w.volume.workspace.isSome || w.volume.previous.isNone
  | _ => true

/-- Nothing was promoted yet, or a promoted generation is in the workspace, or saved while the
workspace is absent. -/
def Layout (v : Volume) : Prop :=
  (v.workspace = none ∧ v.previous = none ∧ v.activated = false) ∨
    ∃ e ∈ v.promoted, v.workspace = some e.2 ∨ (v.workspace = none ∧ v.previous = some e.2)

theorem Layout.placed (hl : Layout v₀) (h : Placed v₀ ws prev v)
    (hnone : v₀.workspace = none → v₀.previous = none → ws = none ∧ prev = none)
    (hsome : ∀ d, v₀.workspace = some d ∨ (v₀.workspace = none ∧ v₀.previous = some d) →
      ws = some d ∨ (ws = none ∧ prev = some d)) : Layout v := by
  obtain ⟨rfl, rfl, -, hpromoted, hactivated, -⟩ := h
  obtain ⟨hw, hp, hidle⟩ | ⟨e, he, hd⟩ := hl
  · obtain ⟨hw', hp'⟩ := hnone hw hp
    exact .inl ⟨hw', hp', hactivated.trans hidle⟩
  · exact .inr ⟨e, hpromoted ▸ he, hsome e.2 hd⟩

theorem Layout.cut (hl : Layout v₀) (hok : v₀.workspace = none → v₀.previous = none)
    (h : Cut v₀ p d v) : Layout v := by
  -- The saved generation is not the only one.
  have hthere : ∀ e, v₀.workspace = some e ∨ (v₀.workspace = none ∧ v₀.previous = some e) →
      v₀.workspace = some e := by
    rintro e (he | ⟨hw, hp⟩)
    · exact he
    · exact absurd ((hok hw).symm.trans hp) (Option.some_ne_none e).symm
  obtain ⟨previous, h, hprev⟩ | h | h := h
  · refine hl.placed h (fun hw hp => ⟨hw, ?_⟩) fun e he => .inl (hthere e he)
    obtain rfl | hprev := hprev
    · exact hp
    · rw [hp] at hprev
      exact absurd hprev Bool.false_ne_true
  · exact hl.placed h (fun hw _ => ⟨rfl, hw⟩) fun e he => .inr ⟨rfl, hthere e he⟩
  · exact .inr ⟨_, h.1.2.1 ▸ List.mem_cons_self, .inl h.1.1⟩

theorem Layout.exec (hs : Sound env w) (hok : exchangeable w call = true)
    (hl : Layout w.volume) : Layout (exec env w call).2.volume := by
  obtain ⟨h⟩ | ⟨p, d, plan, -, rfl, h⟩ | ⟨p, d, -, -, h⟩ | ⟨-, hw, h⟩ :=
    (exec_change hs call).2
  · exact hl.placed h (fun hw hp => ⟨hw, hp⟩) fun _ h => h
  · have hl : Layout (w.planned plan) := hl
    refine hl.cut (fun hw => ?_) h
    have hw : w.volume.workspace = none := hw
    have hprevious : w.volume.previous = none := by simpa [exchangeable, hw] using hok
    exact hprevious
  · exact .inr ⟨_, h.2.1 ▸ List.mem_cons_self, .inl h.1⟩
  · refine hl.placed h (fun _ hp => ⟨hp, rfl⟩) fun e he => .inl ?_
    obtain he | ⟨-, he⟩ := he
    · exact absurd (hw.symm.trans he) (Option.some_ne_none e).symm
    · exact he

/-- An activated generation is there, and the workspace holds nothing that was not prepared. -/
def GenerationKept (v : Volume) : Prop :=
  (v.activated = true → ∃ e ∈ v.promoted, v.workspace = some e.2 ∨ v.previous = some e.2) ∧
    ∀ d, v.workspace = some d → d ∈ v.passed

theorem activated_generation_kept (env : Env) {tr : List (Call × Answer)} {w : World}
    (hr : (machine env).Run (fun w call => exchangeable w call = true) {} tr w) :
    GenerationKept w.volume := by
  have hinv : Sound env w ∧ Layout w.volume :=
    hr.invariant (I := fun w => Sound env w ∧ Layout w.volume) ⟨.init, .inl ⟨rfl, rfl, rfl⟩⟩
      fun w call hok h => ⟨(exec_change h.1 call).1, h.2.exec h.1 hok⟩
  obtain ⟨hs, ⟨hw, -, hidle⟩ | ⟨e, he, hw⟩⟩ := hinv
  · refine ⟨fun h => absurd (hidle.symm.trans h) Bool.false_ne_true, fun _ h => ?_⟩
    cases hw.symm.trans h
  · refine ⟨fun _ => ⟨e, he, hw.imp_right (·.2)⟩, fun d hd => ?_⟩
    obtain hw | hw := hw
    · cases hw.symm.trans hd
      exact hs.promoted e he
    · cases hw.1.symm.trans hd

theorem activated_generation_kept_example : GenerationKept (left secondCut).volume :=
  activated_generation_kept sampleEnv (.of_follows (by decide +kernel :
    (machine sampleEnv).Follows (fun w call => exchangeable w call = true) {} secondCut))

/-- The second activation ends behind saving the first generation; the third one removes it. -/
def savedRemoved : List Call :=
  firstDeployed ++ [.prepareWithLocal (sampleRequest "r2" "b" "y" [2]) [],
    .activate [.done, .done, .done, .crashed []],
    .prepareWithLocal (sampleRequest "r3" "b" "z" [3]) [], .activate [.done, .done, .crashed []]]

theorem activated_generation_lost : (left savedRemoved).volume.activated = true ∧
    (left savedRemoved).volume.workspace = none ∧ (left savedRemoved).volume.previous = none := by
  decide +kernel

end Rcoder.Deploy
