import Rollout.Proofs.Orchestrator.Ordinal
import Rollout.Proofs.Orchestrator.Wait
import Rollout.Proofs.Upgrade.Resume

/-!
# Rollout.Proofs.Upgrade.Primary — the unit that is waited for

When an application is refreshed, one unit is upgraded first, the one with the greatest number, and the upgrade waits
for it.  Which one that is was read before the refresh.

* `DatabaseUpgrade.Refreshes`: the phase has read the application and its order to refresh was accepted.
* `DatabaseUpgrade.Awaits`, `Refreshes.awaits`: from there on the phase is the wait for one unit.
* `highest_awaited`: the unit waited for is the one with the greatest number, in whatever order the names are.
-/

namespace Rollout

namespace DatabaseUpgrade

variable {σ : Type} [Host σ] (u : DatabaseUpgrade)

/-- The line that is published before an application is refreshed. -/
def refreshing (unit : String) : String :=
  "Refreshing " ++ u.app ++ ", waiting for " ++ unit ++ " to complete upgrade"

/-- How long the unit that is upgraded first is waited for. -/
def primaryWait : Wait := u.wait u.settings.primaryUnitTimeout

/-- What the phase fails with when the wait for a unit does. -/
def awaitFailure (unit : String) (e : Fault) : Fault :=
  let reason :=
    if e.isTimeout then "timed out waiting for " ++ unit ++ " to complete upgrade: "
    else "waiting for " ++ unit ++ " failed: "
  failure .primaryUnitUpgraded (reason ++ e.message) retryHint

/-- How the phase goes on after the wait for a unit. -/
def afterWait (s : Stage) (unit : String) : Except Fault Unit → Act σ Stage
  | .ok _ => s.advance .primaryUnitUpgraded
  | .error e => Act.fail (awaitFailure unit e)

/-- In the phase of the first unit, which was not reached before, the application `a` is read, and the order to refresh
it is accepted, which ends in `w₂`. -/
inductive Refreshes (s : Stage) (a : Application) (unit : String) (w w₂ : World σ) : Prop
  | intro {w₁ : World σ} (hnew : s.tracker.reached .primaryUnitUpgraded = false)
    (hread : u.orchestrator.ask (.application u.app) w = (.ok (some a), w₁))
    (horder : u.orchestrator.ask (.refresh u.app) (w₁.note (.status (u.refreshing unit))) = (.ok (), w₂))

/-- The phase of the first unit, started in `w` and with the order to refresh accepted in `w₂`, waits for one unit. -/
structure Awaits (s : Stage) (unit : String) (w w₂ : World σ) : Prop where
  /-- When the wait ends well, the phase is noted. -/
  passed : ∀ w₃, u.primaryWait.upgraded u.orchestrator u.app unit w₂ = (.ok (), w₃) →
    u.upgradePrimaryUnit s w = s.advance .primaryUnitUpgraded w₃
  /-- It was just read that the unit reports the end of its upgrade. -/
  seen : ∀ w₃, u.primaryWait.upgraded u.orchestrator u.app unit w₂ = (.ok (), w₃) → ∃ i app x,
    u.orchestrator.ask (.application u.app) ((Wait.lookAtUnit u.orchestrator u.app unit).turn u.primaryWait.delay w₂ i) =
      (.ok (some app), w₃) ∧ app.units.get? unit = some x ∧ x.upgraded = true
  /-- When the wait fails, the phase does, and tells of the unit. -/
  failed : ∀ e w₃, u.primaryWait.upgraded u.orchestrator u.app unit w₂ = (.error e, w₃) →
    u.upgradePrimaryUnit s w = (.error (awaitFailure unit e), w₃)

variable {u} {s : Stage} {a : Application} {unit : String} {w w₂ : World σ}

/-- Once the order to refresh is accepted, the phase is the wait for the highest unit that was read. -/
theorem Refreshes.awaits (h : u.Refreshes s a unit w w₂) (hhighest : a.highest? = some unit) :
    u.Awaits s unit w w₂ := by
  obtain ⟨hnew, hread, horder⟩ := h
  have hphase : u.upgradePrimaryUnit s w =
      ((u.primaryWait.upgraded u.orchestrator u.app unit).attempt >>= afterWait s unit) w₂ := by
    have hguard : ¬ s.tracker.reached .primaryUnitUpgraded = true := by simp [hnew]
    have hordered := Act.attempt_eq_iff.mpr horder
    unfold upgradePrimaryUnit Stage.through
    rw [if_neg hguard, Act.bind_of_ok hread, Option.bind_some, hhighest]
    exact (Act.bind_of_ok rfl _).trans (Act.bind_of_ok hordered _)
  constructor
  case passed =>
    intro w₃ hwait
    exact hphase.trans (Act.bind_of_ok (Act.attempt_eq_iff.mpr hwait) _)
  case seen => exact fun w₃ hwait => Wait.read_of_upgraded hwait
  case failed =>
    intro e w₃ hwait
    exact hphase.trans (Act.bind_of_ok (Act.attempt_eq_iff.mpr hwait) _)

/-- Where all units are named for their numbers, each number is read from its name, the highest unit is the one with the
greatest, and the upgrade waits for this one. -/
theorem highest_awaited {application : String} {a : Application} (h : a.Numbered application) :
    (∀ n < UInt64.size, Application.ordinal (Application.unitName application n) = n) ∧
      ∃ n, IsGreatest {m | Application.unitName application m ∈ a.units.keys} n ∧
        a.highest? = some (Application.unitName application n) ∧
        ∀ (σ : Type) [Host σ] (u : DatabaseUpgrade) (s : Stage) (w w₂ : World σ),
          u.Refreshes s a (Application.unitName application n) w w₂ →
            u.Awaits s (Application.unitName application n) w w₂ := by
  obtain ⟨n, hgreatest, hhighest⟩ := h.exists_greatest
  exact ⟨fun _ => Application.ordinal_unitName application, n, hgreatest, hhighest,
    fun _ _ _ _ _ _ hrefreshes => hrefreshes.awaits hhighest⟩

/-- An application of three units, whose names rise in another order than their numbers. -/
def threeUnits : Application :=
  { Obliging.single "mysql" with
    scale := 3
    units := Table.ofList [("mysql/10", Obliging.active), ("mysql/2", Obliging.active), ("mysql/0", Obliging.active)] }

/-- The world of a host that runs these units. -/
def ofThreeUnits : World Obliging := .start ⟨threeUnits⟩ "" FileTree.empty

/-- The stage of an upgrade after its check. -/
def checkedStage : Stage := standard.stage .precheckDone .unknown

/-- The upgrade waits for the unit of number ten, whose name stands before that of number two. -/
theorem highest_awaited_ten : threeUnits.Numbered "mysql" ∧ threeUnits.units.keys = ["mysql/0", "mysql/10", "mysql/2"] ∧
    ∃ w₂, standard.Refreshes checkedStage threeUnits "mysql/10" ofThreeUnits w₂ ∧
      standard.Awaits checkedStage "mysql/10" ofThreeUnits w₂ := by
  have hkeys : threeUnits.units.keys = ["mysql/0", "mysql/10", "mysql/2"] := by decide +kernel
  have hnumbered : threeUnits.Numbered "mysql" := by
    constructor
    · rw [hkeys]
      exact List.cons_ne_nil _ _
    · rw [hkeys]
      refine List.forall_mem_cons.mpr ⟨⟨0, by decide, by decide +kernel⟩, ?_⟩
      refine List.forall_mem_cons.mpr ⟨⟨10, by decide, by decide +kernel⟩, ?_⟩
      exact List.forall_mem_singleton.mpr ⟨2, by decide, by decide +kernel⟩
  obtain ⟨-, n, -, hhighest, hawaits⟩ := highest_awaited hnumbered
  have hten : Application.unitName "mysql" n = "mysql/10" := by
    have hchosen : threeUnits.highest? = some "mysql/10" := by decide +kernel
    exact Option.some.inj (hhighest.symm.trans hchosen)
  rw [hten] at hawaits
  obtain ⟨w₂, hrefreshes⟩ : ∃ w₂, standard.Refreshes checkedStage threeUnits "mysql/10" ofThreeUnits w₂ :=
    ⟨_, .intro (by decide +kernel) rfl rfl⟩
  exact ⟨hnumbered, hkeys, w₂, hrefreshes, hawaits _ _ _ _ _ hrefreshes⟩

end DatabaseUpgrade

end Rollout
