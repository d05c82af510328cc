import Rollout.Cli.Run
import Rollout.Proofs.Deploy.Apply
import Rollout.Proofs.Variables.Sources
import Rollout.Proofs.Within

/-!
# Rollout.Proofs.Deploy.Loaded — what is deployed of an installation that was loaded

The rules for the steps that apply variables ask that whatever the variables are computed from lists rising keys.  The
manifest of an installation that was loaded does, and so do overrides that were read, so the rules hold of every
deployment that the command line brings about.

* `Cli.loadDeployment_sorted`: the manifest of an installation that was loaded.
* `Deployment.planApply_sorted`: what is desired of each of its plans.
* `Deployment.bringAbout_ends`: how the step ends that brings a plan about.
-/

namespace Rollout

variable {σ : Type}

/-! ## Manifests that were loaded -/

theorem Decoder.Yields.ofYaml {α : Type} {d : Decoder α} {P : α → Prop} (h : d.Yields P) {text : String} {a : α}
    (ha : d.ofYaml text = .ok a) : P a := by
  unfold Decoder.ofYaml at ha
  split at ha
  · cases ha
  · rename_i doc source _
    unfold Reading.run StateT.run ReaderT.run at ha
    cases hread : d doc ⟨source, Yaml.maxDepth, []⟩ 0 with
    | error fault =>
      rw [hread] at ha
      cases ha
    | ok r =>
      rw [hread] at ha
      cases ha
      exact h doc _ 0 r.1 r.2 hread

theorem Manifest.ofText_sorted {text : String} {source : Path} {m : Manifest}
    (h : Manifest.ofText text source = .ok m) : m.Sorted := by
  unfold Manifest.ofText at h
  cases hread : Manifest.decoder.ofYaml text with
  | error fault =>
    rw [hread] at h
    cases h
  | ok m' =>
    rw [hread] at h
    cases h
    exact Manifest.decoder_yields.ofYaml hread

variable [Host σ]

/-- The manifest that a configuration names is read or is empty. -/
theorem Manifest.load_sorted (base : Option Path) (c : Config) : (Manifest.load base c : Act σ Manifest).Returns
    Manifest.Sorted := by
  unfold Manifest.load
  split
  · exact Act.returns_pure Manifest.sorted_empty
  · refine (Act.returns _).bind fun text _ => ?_
    intro w m hm
    exact Manifest.ofText_sorted hm

theorem Deployment.ofConfig_sorted (base : Option Path) (c : Config) :
    (Deployment.ofConfig base c : Act σ Deployment).Returns (·.manifest.Sorted) := by
  unfold Deployment.ofConfig
  refine (Manifest.load_sorted base c).bind fun m hm => ?_
  refine (Act.returns _).bind fun here _ => (Act.returns _).bind fun registry _ => ?_
  exact Act.returns_pure hm

theorem Cli.loadDeployment_sorted (path : Option Path) :
    (Cli.loadDeployment path : Act σ Deployment).Returns (·.manifest.Sorted) := by
  unfold Cli.loadDeployment
  refine (Act.returns _).bind fun loaded _ => (Act.returns _).bind fun review _ => ?_
  exact Deployment.ofConfig_sorted loaded.1 loaded.2

/-! ## Plans that are brought about -/

namespace Deployment

variable {d : Deployment} {options : DeployOptions} {raw : List String} {path : Option Path} {w₀ w₁ : World σ}
  {endpoint : Option String}

/-- What is desired of a plan lists rising keys if the installation was loaded and the overrides were read. -/
theorem planApply_sorted (hload : Cli.loadDeployment path w₀ = (.ok d, w₁))
    (hraw : Variables.parseOverrides raw = .ok options.overrides) (p : Config.Plan) :
    (d.planApply p options).desired.Sorted := by
  have hmanifest : d.manifest.Sorted := Cli.loadDeployment_sorted path w₀ d (congrArg Prod.fst hload)
  refine Variables.Desired.sorted_of_manifest hmanifest fun o ho => ?_
  cases ho
  exact Variables.parseOverrides_sorted hraw

/-- The step that brings a plan about is one that applies its variables. -/
theorem bringAbout_deploys (d : Deployment) (p : Config.Plan) (options : DeployOptions) :
    (d.planApply p options).Deploys (d.bringAbout p options : Step σ) := by
  unfold bringAbout
  dsimp only
  split
  · rename_i application _
    exact .application ⟨d.planApply p options, d.orchestrator, application, d.config.orchestrator.acceptedStatuses,
      d.wait⟩ rfl _
  · exact .apply _

/-- Whatever fails in bringing a plan about, the provisioner is started with the variables that are due and no others,
and they are persisted only after it has ended well, as they are if the step completes. -/
theorem bringAbout_ends (hload : Cli.loadDeployment path w₀ = (.ok d, w₁))
    (hraw : Variables.parseOverrides raw = .ok options.overrides) (hreg : d.registry = .shared endpoint)
    (p : Config.Plan) (w : World σ) :
    ∃ t, w.Leads t ((d.bringAbout p options).body w).2 ∧ (d.planApply p options).Acts w t ∧
      (((d.bringAbout p options).body w).1.map Outcome.kind = .ok .completed →
        (d.planApply p options).persisted ((d.planApply p options).due w.store) ∈ t) :=
  (bringAbout_deploys d p options).ends hreg (planApply_sorted hload hraw p) w

end Deployment

end Rollout
