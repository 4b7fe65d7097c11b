import Greenlight.Proofs.Discovery.Faults
import Greenlight.Proofs.Plan.Faults
import Greenlight.Proofs.Settings.Faults
import Greenlight.Yaml

/-! # Runs that cannot be set up

A run that cannot be set up asks for nothing and changes nothing. Its fault is reported, unless the setup
stumbled over a misfit. -/

namespace Greenlight

/-! ## Planning -/

namespace Settings

variable {s : Settings} {t : FileTree}

end Settings

namespace Gate

variable {yaml : Yaml.Reader} {o : Options} {env : Environment} {t : FileTree}

/-! ## The setup -/

/-- What the setup of a run stumbles over, with the fault that comes of it. -/
inductive Misfit (yaml : Yaml.Reader) (o : Options) (env : Environment) (t : FileTree) :
    Fault → Prop where
  | settings {fault} (h : Settings.LoadMisfit yaml t env o.configFile o.root fault) :
      Misfit yaml o env t fault
  | discovery {s fault} (hs : o.settings yaml t env = .ok s) (h : Discovery.Misfit t s.root fault) :
      Misfit yaml o env t fault

variable {fault : Fault}

theorem Misfit.not_isReported (h : Misfit yaml o env t fault) : ¬fault.IsReported := by
  cases h with
  | settings h => exact h.not_isReported
  | discovery hs h => exact h.not_isReported

theorem run_of_prepare_error (sur : Surroundings FileTree) (h : prepare yaml o env t = .error fault) :
    run yaml sur o env t = (setupAnswer fault, Campaign.idle t) := by
  unfold run
  rw [h]

theorem title_mem {category : Fault.Category} {title : String} (h : title? category = some title) :
    title ∈ ["Configuration error", "Discovery error", "Expansion error"] := by
  unfold title? at h
  split at h <;> cases h <;> decide

end Gate

end Greenlight
