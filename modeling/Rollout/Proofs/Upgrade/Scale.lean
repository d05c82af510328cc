import Mathlib.Algebra.Ring.Parity
import Mathlib.Order.Bounds.Defs
import Rollout.Proofs.Upgrade.Arrival
import Rollout.Proofs.Upgrade.History

/-!
# Rollout.Proofs.Upgrade.Scale — the numbers of units that an upgrade asks for

An upgrade asks for two numbers of units at most.  It grows to the least odd number above the one that was recorded,
before anything else is changed, and it shrinks to the recorded one when the units have settled and the application was
just seen at the size that it had grown to.  The recorded number is that of the document, so however often an upgrade is
interrupted, and whatever number of units is found meanwhile, the numbers asked for stay the same.

* `Upgrade.targetScale_isLeast`: the number of units to grow to.
* `DatabaseUpgrade.Scales`: when a run asks for which number; `upgrade_scales`: it asks for no other.
* `history_scales`: the same of every history, with what one call has to do with the next.
-/

namespace Rollout

/-! ## The number of units to grow to -/

namespace Upgrade

theorem le_targetScale {o : Nat} (h : o < UInt32.size) : o ≤ targetScale o := by
  have hmax : o ≤ maxScale := Nat.le_sub_one_of_lt h
  unfold targetScale
  dsimp only
  split <;> omega

theorem targetScale_isLeast {o : Nat} (h : o < maxScale) : IsLeast {n | o < n ∧ Odd n} (targetScale o) := by
  have hmax : maxScale = 4294967295 := rfl
  constructor
  · show o < targetScale o ∧ Odd (targetScale o)
    rw [Nat.odd_iff]
    unfold targetScale
    dsimp only
    split <;> omega
  · rintro n ⟨hlt, hodd⟩
    rw [Nat.odd_iff] at hodd
    unfold targetScale
    dsimp only
    split <;> omega

end Upgrade

namespace DatabaseUpgrade

variable {σ : Type} [Host σ] (u : DatabaseUpgrade)

/-! ## The calls of one run -/

/-- When a run that started in `w` has done `t`, it has just read the application at the beginning of its last phase;
nothing was done since but to publish a line of progress. -/
inductive HasRead (w : World σ) (t : List Event) (app : Application) : Prop
  | intro {s : Stage} {w₁ w₂ : World σ} {line : String} (hcomes : u.Comes w .scaledBack s w₁)
    (hask : u.orchestrator.ask (.application u.app) w₁ = (.ok (some app), w₂))
    (hpublished : w.Leads t (w₂.note (.status line)))

/-- The numbers of units that a run may ask for that started in `w` and has done `t`, while the document tells of `mark`
with `o` units at the start: more units before anything else, or the units of the start when it has just seen that the
application has grown. -/
inductive Scales (w : World σ) (t : List Event) (mark : Mark) (o : Nat) : Nat → Prop
  | grow (hphase : mark.phase = .baselineRecorded) (hfirst : t.filterMap Event.changingCall? = []) :
    Scales w t mark o (Upgrade.targetScale o)
  | shrink {app : Application} (hphase : mark.phase = .unitsSettled) (hread : u.HasRead w t app)
    (hgrown : app.scale = Upgrade.targetScale o) : Scales w t mark o o

/-- A call for a number of units, made when a run that started in `w` has done `t`, is made for the application, and the
number is one of those that the document allows; it is not below that of the start. -/
def ScalesAsTold (w : World σ) (t : List Event) (name : String) (n : Nat) : Prop :=
  name = u.app ∧ ∃ v o, (Store.replay w.store t).get? u.settings.stateKey = some v ∧
    (u.ranks.told v).baseline.scale = some o ∧ o ≤ n ∧ u.Scales w t (u.ranks.told v) o n

variable {u} {endpoint : Option String} {p k : DatabasePhase} {b : Baseline} {w w₁ : World σ}

omit [Host σ] in
/-- What is noted beyond the start is told by a document. -/
theorem exists_document (hr : DatabasePhase.ranks? = some u.ranks) (hnoted : u.noted w = (p, b)) (hp : p ≠ .start) :
    ∃ v, w.store.get? u.settings.stateKey = some v ∧ u.ranks.told v = ⟨p, b⟩ := by
  unfold noted at hnoted
  cases hv : w.store.get? u.settings.stateKey with
  | none =>
    rw [hv] at hnoted
    have hstart : u.ranks.initial = p := congrArg Prod.fst hnoted
    exact absurd (hstart.symm.trans (DatabasePhase.initial_eq hr)) hp
  | some v =>
    rw [hv] at hnoted
    exact ⟨v, rfl, by rw [PhaseRanks.told, hnoted]⟩

/-- The only phases that call for a number of units. -/
theorem Makes.scale {name : String} {n : Nat} (h : u.Makes b k (.scale name n)) :
    name = u.app ∧ ∃ o, b.scale = some o ∧
      (k = .scaledUp ∧ n = Upgrade.targetScale o ∨ k = .scaledBack ∧ n = o) := by
  cases k with
  | scaledUp =>
    obtain ⟨o, ho, hcall⟩ := h
    cases hcall
    exact ⟨rfl, _, ho, .inl ⟨rfl, rfl⟩⟩
  | scaledBack =>
    obtain ⟨o, ho, hcall⟩ := h
    cases hcall
    exact ⟨rfl, _, ho, .inr ⟨rfl, rfl⟩⟩
  | precheckDone =>
    obtain ⟨leader, hcall⟩ := h
    cases hcall
  | upgradeResumed =>
    obtain ⟨leader, hcall⟩ := h
    cases hcall
  | primaryUnitUpgraded => cases h
  | start => exact h.elim
  | baselineRecorded => exact h.elim
  | unitsSettled => exact h.elim

/-- A thing done after `t` that is a call for a number of units satisfies `C`. -/
def WhereScaled (C : List Event → String → Nat → Prop) (t : List Event) (e : Event) : Prop :=
  ∀ name n, e = .call (.scale name n) → C t name n

section Calls

variable {C : List Event → String → Nat → Prop} {t : List Event} {e : Event}

theorem whereScaled_of_not_changes (h : e.changes = false) : WhereScaled C t e := by
  rintro name n rfl
  cases h

theorem whereScaled_call {name : String} {n : Nat} (h : C t name n) : WhereScaled C t (.call (.scale name n)) := by
  rintro name n heq
  cases heq
  exact h

theorem whereScaled_of_mem {t' : List Event} (he : e ∈ t') (h : ∀ c, Event.call c ∉ Event.changesOf t') :
    WhereScaled C t e := by
  rintro name n rfl
  exact absurd (List.mem_filter.mpr ⟨he, rfl⟩) (h _)

end Calls

section Runs

variable (hreg : u.registry = .shared endpoint) (hr : DatabasePhase.ranks? = some u.ranks)
include hreg hr

/-- Nothing is called to note a phase. -/
theorem advance_calls (w : World σ) :
    ((u.stage p b).advance k).Ends w fun _ t _ => ∀ c, Event.call c ∉ Event.changesOf t := by
  refine (advance_ends hreg hr w).mono fun r t w' _ h c hc => ?_
  rcases h with ⟨hnone, -⟩ | ⟨-, hnote⟩
  · rw [hnone] at hc
    cases hc
  · obtain ⟨j, hj, -⟩ := hnote.exists_call hc
    simp at hj

/-- When the last phase calls for a number of units, it has just read that the application has grown. -/
theorem scaleBack_whereScaled (w₁ : World σ) : (u.scaleBack (u.stage .unitsSettled b)).Heeds w₁
    (WhereScaled fun t _ _ => ∃ o app w₂ line, b.scale = some o ∧
      u.orchestrator.ask (.application u.app) w₁ = (.ok (some app), w₂) ∧ app.scale = Upgrade.targetScale o ∧
      w₁.Leads t (w₂.note (.status line))) := by
  unfold scaleBack
  rw [through_of_not_reached hr (by decide)]
  have hscale : (u.stage .unitsSettled b).baseline = b := rfl
  rw [hscale]
  cases hb : b.scale with
  | none => exact (Act.heeds_publish (whereScaled_of_not_changes rfl)).bind fun _ _ _ _ _ => Act.heeds_pure _
  | some o =>
    refine Act.Heeds.bind (u.orchestrator.heeds_ask _ w₁ (whereScaled_of_not_changes rfl) fun t e he =>
      whereScaled_of_not_changes he.not_changes) fun found w₂ asked hask hasked => ?_
    dsimp only
    split
    · exact (Act.heeds_publish (whereScaled_of_not_changes rfl)).bind fun _ _ _ _ _ => Act.heeds_pure _
    · rename_i hcurrent
      obtain ⟨app, rfl, hgrown⟩ := Option.map_eq_some_iff.mp (not_not.mp hcurrent)
      refine (Act.heeds_publish (whereScaled_of_not_changes rfl)).bind fun _ w₃ line hline hl => ?_
      obtain ⟨-, rfl⟩ := Prod.mk.inj hline
      rw [hl.unique (World.leads_note w₂ rfl)]
      refine Act.Heeds.bind (Act.Heeds.attempt ?_) fun r w₄ t' _ _ => ?_
      · unfold scaleAndWait
        refine (u.orchestrator.heeds_ask _ _ (whereScaled_call ?_) fun t e he =>
          whereScaled_of_not_changes he.not_changes).bind fun _ w₄ t' _ _ => ?_
        · exact ⟨o, app, w₂, _, rfl, hask, hgrown, hasked.trans (World.leads_note w₂ rfl)⟩
        · exact ((settled_quiet _ u.app).heeds fun t e he => whereScaled_of_not_changes he).bind fun _ _ _ _ _ =>
            Act.heeds_pure _
      · cases r with
        | error f => exact Act.heeds_pure _
        | ok _ => exact Act.heeds_of_mem (advance_calls hreg hr _) fun _ _ _ h _ _ he => whereScaled_of_mem he h

/-- A call for a number of units is one of the phase in which it is made, and comes before anything else in it that
lasts. -/
theorem phase_scale (h : k.place ≤ p.place ∨ p.place + 1 = k.place) (w₁ : World σ) :
    (u.phase k (u.stage p b)).Heeds w₁ (WhereScaled fun t name n => Event.changesOf t = [] ∧ name = u.app ∧
      ∃ o, b.scale = some o ∧ (k = .scaledUp ∧ n = Upgrade.targetScale o ∨ k = .scaledBack ∧ n = o)) := by
  refine (phase_leaves hreg hr h w₁).mono fun r t w' _ hleaves t₁ e t₂ heq name n he => ?_
  obtain ⟨b', ms, horigin, hms, hf, -⟩ := hleaves
  subst he heq
  obtain ⟨hmakes, hquiet⟩ := hf.call_of_own hms rfl
  obtain ⟨happ, o, ho, hkind⟩ := hmakes.scale
  rcases horigin with rfl | ⟨rfl, -⟩
  · exact ⟨hquiet, happ, o, ho, hkind⟩
  · obtain ⟨hk, -⟩ | ⟨hk, -⟩ := hkind
    · cases hk
    · cases hk

omit hreg hr in
/-- When a run comes to the phase in which it grows, nothing was changed. -/
theorem Arrival.quiet_of_scaledUp {s : Stage} {t : List Event} (h : u.Arrival w .scaledUp s w₁ t p b) :
    t.filterMap Event.changingCall? = [] := by
  refine List.filterMap_eq_nil_iff.mpr fun e he => ?_
  cases e with
  | call c =>
    by_contra hcall
    have hchanges : c.changes = true := by
      by_contra hc
      exact hcall (if_neg hc)
    obtain ⟨j, hj, hmakes⟩ := h.calls c he hchanges
    cases j with
    | start => exact hmakes.elim
    | baselineRecorded => exact hmakes.elim
    | _ => exact absurd hj (by decide)
  | _ => rfl

/-- In each phase that a run comes to, it asks for no number of units but as its document tells. -/
theorem phase_scales {s : Stage} {t : List Event} (hfits : u.FitsAtFirst w)
    (hdates : ∀ i, w.Shows (u.upgrade w).2 i → i.InCalendar) (hcomes : u.Comes w k s w₁) (hl : w.Leads t w₁) :
    (u.phase k s).Heeds w₁ fun t' e => WhereScaled (u.ScalesAsTold w) (t ++ t') e := by
  obtain ⟨t₀, p, b, harrival⟩ := hcomes.arrival hreg hr
  obtain rfl := hl.unique harrival.leads
  obtain rfl := harrival.stage
  by_cases hle : k.place ≤ p.place
  · rw [phase_of_reached hr hle]
    exact Act.heeds_pure _
  have hnext := harrival.near.resolve_left hle
  obtain ⟨tail, htail⟩ := hcomes.leads_after hreg hr
  have hnoted := harrival.noted hfits fun i hi => hdates i (hi.later htail)
  -- Before the call the document is the one that the run came with.
  have hdocument {t' : List Event} (hquiet : Event.changesOf t' = []) (hp : p ≠ .start) :
      ∃ v, (Store.replay w.store (t ++ t')).get? u.settings.stateKey = some v ∧ u.ranks.told v = ⟨p, b⟩ := by
    rw [Store.replay_append, ← hl.store, ← Store.replay_changesOf, hquiet]
    exact exists_document hr hnoted hp
  have hown := phase_scale (b := b) hreg hr harrival.near w₁
  by_cases hlast : k = .scaledBack
  · subst hlast
    obtain rfl : p = .unitsSettled := DatabasePhase.place_injective (Nat.succ.inj hnext)
    refine (hown.and (scaleBack_whereScaled hreg hr w₁)).mono fun t₁ e h name n he => ?_
    obtain ⟨hquiet, happ, o, ho, hkind⟩ := h.1 name n he
    obtain ⟨o', app, w₂, line, ho', hask, hgrown, hread⟩ := h.2 name n he
    obtain rfl : o' = o := Option.some.inj (ho'.symm.trans ho)
    obtain rfl : n = o' := (hkind.resolve_left fun h => nomatch h.1).2
    obtain ⟨v, hv, htold⟩ := hdocument hquiet (fun h => nomatch h)
    refine ⟨happ, v, n, hv, by rw [htold]; exact ho, Nat.le_refl n, ?_⟩
    rw [htold]
    exact .shrink rfl (.intro hcomes hask (hl.trans hread)) hgrown
  · refine hown.mono fun t₁ e h name n he => ?_
    obtain ⟨hquiet, happ, o, ho, hkind⟩ := h name n he
    obtain ⟨rfl, rfl⟩ := hkind.resolve_right fun h => hlast h.1
    obtain rfl : p = .baselineRecorded := DatabasePhase.place_injective (Nat.succ.inj hnext)
    obtain ⟨v, hv, htold⟩ := hdocument hquiet (fun h => nomatch h)
    refine ⟨happ, v, o, hv, by rw [htold]; exact ho, Upgrade.le_targetScale ((harrival.fits hfits).scale o ho), ?_⟩
    rw [htold]
    refine .grow rfl ?_
    rw [List.filterMap_append, harrival.quiet_of_scaledUp, List.nil_append,
      ← Event.filterMap_changesOf fun _ he => Event.changingCall?_eq_none he, hquiet]
    rfl

/-- A run asks for no number of units but as its document tells. -/
theorem upgrade_scales (hfits : u.FitsAtFirst w) (hdates : ∀ i, w.Shows (u.upgrade w).2 i → i.InCalendar) :
    u.upgrade.Heeds w (WhereScaled (u.ScalesAsTold w)) := by
  refine heeds_upgrade hreg hr (fun t e hrest name n he => ?_) fun k s w₁ t hcomes hl =>
    phase_scales hreg hr hfits hdates hcomes hl
  subst he
  cases hrest rfl

end Runs

end DatabaseUpgrade

/-! ## Histories -/

section

variable {σ : Type} [Host σ] {ranks : PhaseRanks DatabasePhase} {key : String} {rs : List (Run σ)}
  {document : Option Json} {m : Option Mark}

theorem Run.Regular.scales {r : Run σ} (h : r.Regular ranks key) (hr : DatabasePhase.ranks? = some ranks)
    {t₁ t₂ : List Event} {name : String} {n : Nat} (ht : r.trace = t₁ ++ .call (.scale name n) :: t₂) :
    r.upgrade.ScalesAsTold r.before t₁ name n := by
  obtain ⟨endpoint, hreg⟩ := h.registry
  obtain ⟨t, hl, hscales⟩ := DatabaseUpgrade.upgrade_scales hreg (h.ranks ▸ hr) h.fits
    fun i hi => h.dates i (r.after_eq ▸ hi)
  rw [← r.after_eq] at hl
  have htrace : r.trace = t := hl.since_eq
  exact hscales t₁ _ t₂ (htrace ▸ ht) name n rfl

/-- What holds of the numbers of units that a row of runs asks for. -/
structure ScaledAsTold (ranks : PhaseRanks DatabasePhase) (key : String) (rs : List (Run σ)) : Prop where
  /-- Each is one of those that the document allows. -/
  calls : ∀ r ∈ rs, ∀ t₁ name n t₂, r.trace = t₁ ++ .call (.scale name n) :: t₂ →
    r.upgrade.ScalesAsTold r.before t₁ name n
  /-- The greater one is the least odd number above that of the start. -/
  target : ∀ o, o < Upgrade.maxScale → IsLeast {n | o < n ∧ Odd n} (Upgrade.targetScale o)
  /-- While the document is not removed, one number is asked for until the units have settled, however many runs there
  are in between; the other is the one for which it was got. -/
  steady : ∀ t₁ name n t₂ name' n' t₃, rs.flatMap Run.trace =
      t₁ ++ .call (.scale name n) :: (t₂ ++ .call (.scale name' n') :: t₃) →
    Event.access (.delete key) true ∉ t₂ →
    n' = n ∨ n = Upgrade.targetScale n' ∧ ∃ v, Event.access (.put key v) true ∈ t₂ ∧
      (ranks.told v).phase = .unitsSettled

/-- A call that a history makes, with what is known of the document when it is made. -/
theorem History.scales (h : History ranks key document rs) (hr : DatabasePhase.ranks? = some ranks)
    (hm : Marks ranks document m) {t₁ t₂ : List Event} {name : String} {n : Nat}
    (ht : rs.flatMap Run.trace = t₁ ++ .call (.scale name n) :: t₂) :
    ∃ r ∈ rs, ∃ t mark o, Course ranks key m t₁ (some mark) ∧ mark.baseline.scale = some o ∧
      r.upgrade.Scales r.before t mark o n := by
  obtain ⟨r, hmem, t, after, m₁, htrace, hcourse, hm₁⟩ := h.at hr hm ht
  obtain ⟨hregular, -⟩ := (h.course hr hm).2 r hmem
  obtain ⟨-, v, o, hv, ho, -, hscales⟩ := hregular.scales hr htrace
  rw [hregular.key] at hv
  rw [hregular.ranks] at ho hscales
  cases m₁ with
  | none => cases hm₁.symm.trans hv
  | some mark =>
    obtain ⟨v', hv', rfl, -⟩ := hm₁
    obtain rfl : v' = v := Option.some.inj (hv'.symm.trans hv)
    exact ⟨r, hmem, t, _, o, hcourse, ho, hscales⟩

/-- Over any number of runs an upgrade asks for no other number of units than its document tells. -/
theorem history_scales (hr : DatabasePhase.ranks? = some ranks) (h : History ranks key document rs)
    (hm : Marks ranks document m) : ScaledAsTold ranks key rs := by
  constructor
  case calls => exact fun r hmem t₁ name n t₂ ht => ((h.course hr hm).2 r hmem).1.scales hr ht
  case target => exact fun o => Upgrade.targetScale_isLeast
  case steady =>
    intro t₁ name n t₂ name' n' t₃ ht hkept
    obtain ⟨r, -, t, mark, o, hcourse, ho, hscales⟩ := h.scales hr hm ht
    rw [← List.cons_append, ← List.append_assoc] at ht
    obtain ⟨r', -, t', mark', o', hcourse', ho', hscales'⟩ := h.scales hr hm ht
    -- Between the calls the document goes on from what the first call found.
    obtain ⟨m₁, hbefore, hbetween⟩ := hcourse'.split
    obtain rfl := hbefore.unique hcourse
    have hkept' : Event.access (.delete key) true ∉ Event.call (.scale name n) :: t₂ := by
      rw [List.mem_cons, not_or]
      exact ⟨(fun h => nomatch h), hkept⟩
    obtain ⟨mark'', hmark, hplace, hbaseline⟩ := hbetween.of_not_removed hkept'
    obtain rfl := Option.some.inj hmark
    obtain rfl : o' = o := Option.some.inj (by rw [← ho', ← ho, hbaseline])
    cases hscales with
    | grow hphase =>
      cases hscales' with
      | grow => exact .inl rfl
      | shrink hphase' =>
        have hne : mark ≠ mark' := by
          rintro rfl
          rw [hphase] at hphase'
          cases hphase'
        obtain ⟨v, hv, htold⟩ := hbetween.exists_stored hkept' hne
        refine .inr ⟨rfl, v, (List.mem_cons.mp hv).resolve_left (fun h => nomatch h), ?_⟩
        rw [htold, hphase']
    | shrink hphase =>
      cases hscales' with
      | grow hphase' =>
        rw [hphase, hphase'] at hplace
        exact absurd hplace (by decide)
      | shrink => exact .inl rfl

/-- A run that is stopped because its first order fails, although it was obeyed, and one that goes on after it. -/
def Wayward.interrupted : List (Run Wayward) :=
  let first : Run Wayward := ⟨.standard, Wayward.world "mysql" (fun c => c matches .scale ..) fun _ => false⟩
  [first, ⟨.standard, { first.after with host := { first.after.host with fails := fun _ => false } }⟩]

theorem history_scales_interrupted : DatabasePhase.ranks? = some DatabaseUpgrade.standard.ranks ∧
    History DatabaseUpgrade.standard.ranks "mysql_k8s_upgrade_state" none Wayward.interrupted ∧
    Marks DatabaseUpgrade.standard.ranks none none ∧
    Wayward.interrupted.map (fun r => (r.upgrade.noted r.before).2.scale) = [none, some 1] ∧
    (Wayward.interrupted.flatMap Run.trace).filterMap Event.changingCall? =
      [.scale "mysql" 3, .scale "mysql" 3, .action "mysql/0" "pre-upgrade-check" Table.empty, .refresh "mysql",
        .action "mysql/0" "resume-upgrade" Table.empty, .scale "mysql" 1] ∧
    ScaledAsTold DatabaseUpgrade.standard.ranks "mysql_k8s_upgrade_state" Wayward.interrupted := by
  have hhistory : History DatabaseUpgrade.standard.ranks "mysql_k8s_upgrade_state" none Wayward.interrupted := by
    refine .cons (Run.regular_standard (by decide +kernel) ?_ (by decide +kernel)) (by decide +kernel)
      (.cons (Run.regular_standard (by decide +kernel) ?_ (by decide +kernel)) rfl (.nil _))
    · exact ⟨by decide +kernel, by decide +kernel, by decide +kernel, by decide +kernel⟩
    · exact ⟨by decide +kernel, by decide +kernel, by decide +kernel, by decide +kernel⟩
  have hnone : Marks DatabaseUpgrade.standard.ranks none none := rfl
  exact ⟨DatabaseUpgrade.ranks_standard, hhistory, hnone, by decide +kernel, by decide +kernel,
    history_scales DatabaseUpgrade.ranks_standard hhistory hnone⟩

end

end Rollout
