import Rollout.Proofs.Orchestrator.Wait
import Rollout.Proofs.Upgrade.Arrival

/-!
# Rollout.Proofs.Upgrade.Grown — when an upgrade is said to have grown

After the order for more units the application is looked at until it and all units that it lists are active.  The look
that finds this is the last thing done before the growth is noted.  How many units the application has, or lists, is
not looked at, so a look that comes before the orchestrator has begun to obey finds the old units and is taken for the
end of the growth.

* `DatabaseUpgrade.Orders`: a run has ordered more units; `DatabaseUpgrade.HasSettled`: it has just read that the
  application has settled.
* `DatabaseUpgrade.GrowthNoted`, `growth_noted`: when the growth is noted, and when it is not.
* `grown_in_name`: it is noted of an application that is as large as it was.
-/

namespace Rollout

namespace DatabaseUpgrade

variable {σ : Type} [Host σ] (u : DatabaseUpgrade)

/-- The line that is published before an application grows. -/
def growing (o : Nat) : String :=
  "Preparing " ++ u.app ++ " for upgrade, scaling to " ++ toString (Upgrade.targetScale o) ++ " units"

/-- How long an application that grows is waited for. -/
def growthWait : Wait := u.wait u.settings.scaleTimeout

/-- A run that started in `w` comes to the phase in which it grows with `b` found at the start, and its order for more
units is accepted, which ends in `w₂`. -/
inductive Orders (w : World σ) (b : Baseline) (w₂ : World σ) : Prop
  | intro {o : Nat} {w₁ : World σ} (hscale : b.scale = some o)
    (hcomes : u.Comes w .scaledUp (u.stage .baselineRecorded b) w₁)
    (horder : u.orchestrator.ask (.scale u.app (Upgrade.targetScale o)) (w₁.note (.status (u.growing o))) = (.ok (), w₂))

/-- When a run that started in `w` has done `t`, it has just read the application, waiting for it to grow. -/
inductive HasSettled (w : World σ) (t : List Event) (b : Baseline) (app : Application) : Prop
  | intro {i : Nat} {w₂ w₃ : World σ} (horders : u.Orders w b w₂)
    (hread : u.orchestrator.ask (.application u.app)
      ((Wait.lookAt u.orchestrator u.app accepted).turn u.growthWait.delay w₂ i) = (.ok (some app), w₃))
    (ht : w.Leads t w₃)

/-- A thing done after `t` that notes the growth satisfies `C`. -/
def WhereGrown (C : List Event → Baseline → Prop) (t : List Event) (e : Event) : Prop :=
  ∀ b date who, e = .access (.put u.settings.stateKey (record b .scaledUp date who)) true → C t b

/-- When a run that started in `w` has done `t`, it has just read that the application and all units that it lists are
active, waiting for it to grow. -/
def SeesActive (w : World σ) (t : List Event) (b : Baseline) : Prop :=
  ∃ app, u.HasSettled w t b app ∧ app.status ∈ accepted ∧ app.units.All fun x => x.workload ∈ accepted

/-- When the growth of an application is noted, in a run that starts in `w`. -/
structure GrowthNoted (w : World σ) : Prop where
  /-- The last thing done before was to read the application, and it and all units that it lists were active. -/
  sound : u.upgrade.Heeds w (u.WhereGrown (u.SeesActive w))
  /-- As soon as the wait ends with an application, the growth is noted and the run comes to the check that follows,
  unless the registry refuses. -/
  complete : ∀ b w₂ app w₃, u.Orders w b w₂ →
    u.growthWait.settled u.orchestrator u.app accepted w₂ = (.ok app, w₃) →
    (Host.refuse (.put u.settings.stateKey (record b .scaledUp w₃.date w₃.holder)) w₃.host).1 = none →
    ∃ w₄, w₃.Leads [.access (.put u.settings.stateKey (record b .scaledUp w₃.date w₃.holder)) true] w₄ ∧
      u.Comes w .precheckDone (u.stage .scaledUp b) w₄
  /-- The wait ends as soon as the application and all units that it lists are active, however many there are. -/
  regardless : ∀ (w₂ w₃ : World σ) app, u.orchestrator.ask (.application u.app) w₂ = (.ok (some app), w₃) →
    app.status ∈ accepted → (app.units.All fun x => x.workload ∈ accepted) →
    u.growthWait.settled u.orchestrator u.app accepted w₂ = (.ok app, w₃)

variable {u} {endpoint : Option String} {p k : DatabasePhase} {b : Baseline} {w w₁ : World σ}
  {C : List Event → Baseline → Prop} {t : List Event} {e : Event}

omit [Host σ] in
theorem whereGrown_of_mem {t' : List Event} (he : e ∈ t')
    (h : ∀ b date who, Event.access (.put u.settings.stateKey (record b .scaledUp date who)) true ∉ Event.changesOf t') :
    u.WhereGrown C t e := by
  rintro b date who rfl
  exact absurd (List.mem_filter.mpr ⟨he, rfl⟩) (h b date who)

theorem scaleAndWait_eq_ok_iff {n : Nat} {w' : World σ} : u.scaleAndWait n w = (.ok (), w') ↔
    ∃ w₁ app, u.orchestrator.ask (.scale u.app n) w = (.ok (), w₁) ∧
      u.growthWait.settled u.orchestrator u.app accepted w₁ = (.ok app, w') := by
  constructor
  · intro h
    obtain ⟨_, w₁, horder, hrest⟩ := Act.bind_eq_ok h
    obtain ⟨app, w₂, hwait, hend⟩ := Act.bind_eq_ok hrest
    obtain ⟨-, rfl⟩ := Prod.mk.inj hend
    exact ⟨w₁, app, horder, hwait⟩
  · rintro ⟨w₁, app, horder, hwait⟩
    exact (Act.bind_of_ok horder _).trans (Act.bind_of_ok hwait _)

section Phases

variable (hreg : u.registry = .shared endpoint) (hr : DatabasePhase.ranks? = some u.ranks)
include hreg hr

/-- The growth is noted in no other phase than that in which the application grows. -/
theorem phase_not_grown (hk : k ≠ .scaledUp) (h : k.place ≤ p.place ∨ p.place + 1 = k.place) (w₁ : World σ)
    (C : List Event → Baseline → Prop) : (u.phase k (u.stage p b)).Heeds w₁ (u.WhereGrown C) := by
  refine Act.heeds_of_mem (phase_leaves hreg hr h w₁) fun r t w' hleaves _ e he => whereGrown_of_mem he ?_
  intro b₁ date who hput
  obtain ⟨b', ms, -, hms, hf, -⟩ := hleaves
  have hstored : record b₁ .scaledUp date who ∈ (Event.changesOf t).filterMap (Event.stored? u.settings.stateKey) :=
    List.mem_filterMap.mpr ⟨_, hput, if_pos rfl⟩
  obtain ⟨j, hj, date', who', -, hrecord⟩ := hf.exists_note hstored
  have hown : j ∈ k.ownMoves.filterMap Move.noted? := (hms.filterMap _).subset hj
  have hnoted : k.ownMoves.filterMap Move.noted? = [k] := by simpa using DatabasePhase.noted_flatMap [k]
  rw [hnoted, List.mem_singleton] at hown
  exact hk (hown.symm.trans (record_inj hrecord).2.symm)

/-- To note the growth takes one access, and nothing comes before it. -/
theorem advance_grown (h : C [] b) (w : World σ) : ((u.stage p b).advance .scaledUp).Heeds w (u.WhereGrown C) := by
  refine (advance_step hreg hr w).mono ?_
  rintro r t w' - hstep t₁ e t₂ heq b' date who rfl
  have honly (granted : Bool) (x : Json) (ht : t = [.access (.put u.settings.stateKey x) granted]) :
      t₁ = [] ∧ record b' .scaledUp date who = x := by
    rcases List.append_eq_singleton_iff.mp (heq.symm.trans ht) with ⟨hbefore, hput⟩ | ⟨-, hput⟩
    · cases hput
      exact ⟨hbefore, rfl⟩
    · cases hput
  obtain ⟨rfl, hrecord⟩ : t₁ = [] ∧ record b' .scaledUp date who = record b .scaledUp w.date w.holder := by
    rcases hstep with ⟨-, ht⟩ | ⟨f, -, ⟨rfl, -⟩ | ⟨ht, -⟩⟩
    · exact honly true _ ht
    · simp at heq
    · exact honly false _ ht
  rw [(record_inj hrecord).1]
  exact h

omit hreg in
/-- The phase in which the application grows. -/
theorem scaleUp_eq {o : Nat} (hb : b.scale = some o) :
    (u.scaleUp (u.stage .baselineRecorded b) : Act σ Stage) = (do
      Act.publish (u.growing o)
      match ← (u.scaleAndWait (Upgrade.targetScale o)).attempt with
      | .ok _ => (u.stage .baselineRecorded b).advance .scaledUp
      | .error e =>
        let reason :=
          if e.isTimeout then "timed out waiting for " ++ u.app ++ " to become active after scaling to " ++
            toString (Upgrade.targetScale o) ++ " units: "
          else "failed to scale " ++ u.app ++ " to " ++ toString (Upgrade.targetScale o) ++ " units: "
        Act.fail (failure .scaledUp (reason ++ e.message) retryHint)) := by
  have hscale : (u.stage .baselineRecorded b).baseline.scale = some o := hb
  unfold scaleUp
  rw [through_of_not_reached hr (by decide), hscale]
  rfl

/-- In the phase in which the application grows, the growth is noted when it was just read that all are active. -/
theorem scaleUp_grown (hcomes : u.Comes w .scaledUp (u.stage .baselineRecorded b) w₁) (hl : w.Leads t w₁) :
    (u.scaleUp (u.stage .baselineRecorded b)).Heeds w₁ (u.WhereGrown fun t' => u.SeesActive w (t ++ t')) := by
  cases hb : b.scale with
  | none =>
    have hscale : (u.stage .baselineRecorded b).baseline.scale = none := hb
    unfold scaleUp
    rw [through_of_not_reached hr (by decide), hscale]
    exact Act.heeds_fail _
  | some o =>
    rw [scaleUp_eq hr hb]
    refine (Act.heeds_publish (fun _ _ _ h => nomatch h)).bind fun _ w₂ line hline hl₂ => ?_
    obtain ⟨-, rfl⟩ := Prod.mk.inj hline
    refine Act.Heeds.bind (Act.Heeds.attempt ?_) fun r w₃ t' hrun hl₃ => ?_
    · refine Act.heeds_of_mem (scaleAndWait_ends _ _) fun r t' w' ht _ e he => whereGrown_of_mem he ?_
      rw [ht]
      simp
    · cases r with
      | error f => exact Act.heeds_fail _
      | ok _ =>
        obtain ⟨w₄, app, horder, hwait⟩ := scaleAndWait_eq_ok_iff.mp (Act.attempt_eq_iff.mp hrun)
        obtain ⟨i, hread, hactive⟩ := Wait.read_of_settled hwait
        refine advance_grown hreg hr (C := fun t'' => u.SeesActive w (t ++ (line ++ (t' ++ t'')))) ?_ w₃
        rw [List.append_nil]
        exact ⟨app, .intro (.intro hb hcomes horder) hread (hl.trans (hl₂.trans hl₃)), hactive⟩

/-- In every phase the growth is noted only when it was just read that all are active. -/
theorem phase_grown {s : Stage} (hcomes : u.Comes w k s w₁) (hl : w.Leads t w₁) :
    (u.phase k s).Heeds w₁ (u.WhereGrown fun t' => u.SeesActive w (t ++ t')) := by
  obtain ⟨t₀, p, b, harrival⟩ := hcomes.arrival hreg hr
  obtain rfl := harrival.stage
  by_cases hk : k = .scaledUp
  · subst hk
    by_cases hle : DatabasePhase.scaledUp.place ≤ p.place
    · rw [phase_of_reached hr hle]
      exact Act.heeds_pure _
    · obtain rfl : p = .baselineRecorded :=
        DatabasePhase.place_injective (Nat.succ.inj (harrival.near.resolve_left hle))
      exact scaleUp_grown hreg hr hcomes hl
  · exact phase_not_grown hreg hr hk harrival.near w₁ _

/-- A run notes the growth only when it has just read that all are active. -/
theorem upgrade_grown (w : World σ) : u.upgrade.Heeds w (u.WhereGrown (u.SeesActive w)) := by
  refine heeds_upgrade hreg hr (fun t e hrest b date who he => ?_) fun k s w₁ t hcomes hl =>
    phase_grown hreg hr hcomes hl
  subst he
  cases hrest rfl

/-- When the wait has ended with an application, the growth is noted. -/
theorem Orders.comes {w₂ w₃ : World σ} {app : Application} (h : u.Orders w b w₂)
    (hwait : u.growthWait.settled u.orchestrator u.app accepted w₂ = (.ok app, w₃))
    (hgranted : (Host.refuse (.put u.settings.stateKey (record b .scaledUp w₃.date w₃.holder)) w₃.host).1 = none) :
    ∃ w₄, w₃.Leads [.access (.put u.settings.stateKey (record b .scaledUp w₃.date w₃.holder)) true] w₄ ∧
      u.Comes w .precheckDone (u.stage .scaledUp b) w₄ := by
  obtain ⟨hb, hcomes, horder⟩ := h
  rename_i o w₁
  obtain ⟨t, hl, hnoted, rfl⟩ := advance_granted (p := .baselineRecorded) (k := .scaledUp) hreg hr (by decide) hgranted
  have hscaled : (u.scaleAndWait (Upgrade.targetScale o)).attempt (w₁.note (.status (u.growing o))) = (.ok (.ok ()), w₃) :=
    Act.attempt_eq_iff.mpr (scaleAndWait_eq_ok_iff.mpr ⟨w₂, app, horder, hwait⟩)
  have hphase : u.phase .scaledUp (u.stage .baselineRecorded b) w₁ =
      (u.stage .baselineRecorded b).advance .scaledUp w₃ := by
    show u.scaleUp (u.stage .baselineRecorded b) w₁ = _
    rw [scaleUp_eq hr hb]
    exact (Act.bind_of_ok rfl _).trans (Act.bind_of_ok hscaled _)
  exact ⟨_, hl, hcomes.next (hphase.trans (Prod.ext hnoted rfl)) rfl⟩

/-- The growth is noted if and only if the order was accepted and a look found all active; no number of units counts. -/
theorem growth_noted (w : World σ) : u.GrowthNoted w where
  sound := upgrade_grown hreg hr w
  complete _ _ _ _ horders hwait hgranted := horders.comes hreg hr hwait hgranted
  regardless _ _ _ hread hstatus hunits := Wait.settled_of_read hread hstatus hunits

end Phases

/-- The world of a host whose orchestrator accepts orders for units and does not obey them. -/
def stagnant : World Wayward := Wayward.world "mysql" (fun _ => false) fun c => c matches .scale ..

theorem growth_noted_stagnant : standard.registry = .shared none ∧ DatabasePhase.ranks? = some standard.ranks ∧
    (standard.upgrade stagnant).1.isOk = true ∧ standard.GrowthNoted stagnant :=
  ⟨rfl, ranks_standard, by decide +kernel, growth_noted rfl ranks_standard stagnant⟩

/-- One unit is there where three were ordered; the growth is noted all the same, and the check that follows is run. -/
theorem grown_in_name : ∃ b w₂ w₃ w₄ app, standard.Orders stagnant b w₂ ∧ b.scale = some 1 ∧
    standard.orchestrator.ask (.application standard.app) w₂ = (.ok (some app), w₃) ∧
    w₃.Leads [.access (.put standard.settings.stateKey (record b .scaledUp w₃.date w₃.holder)) true] w₄ ∧
    standard.Comes stagnant .precheckDone (standard.stage .scaledUp b) w₄ ∧
    app.scale = 1 ∧ app.units.size = 1 ∧ Upgrade.targetScale 1 = 3 ∧
    .action "mysql/0" "pre-upgrade-check" Table.empty ∈
      (standard.upgrade stagnant).2.log.filterMap Event.changingCall? := by
  obtain ⟨w₂, w₃, horders, hread⟩ : ∃ w₂ w₃, standard.Orders stagnant (Obliging.single "mysql").baseline w₂ ∧
      standard.orchestrator.ask (.application standard.app) w₂ = (.ok (some (Obliging.single "mysql")), w₃) :=
    ⟨_, _, .intro rfl (.next (.load rfl) rfl rfl) rfl, rfl⟩
  have hunits : (Obliging.single "mysql").units.All fun x => x.workload ∈ accepted :=
    Table.all_iff_entries.mpr (by decide)
  obtain ⟨w₄, hnoted, hcomes⟩ := horders.comes rfl ranks_standard
    (Wait.settled_of_read hread (List.mem_singleton.mpr rfl) hunits) rfl
  exact ⟨_, w₂, w₃, w₄, _, horders, rfl, hread, hnoted, hcomes, rfl, rfl, rfl, by decide +kernel⟩

end DatabaseUpgrade

end Rollout
