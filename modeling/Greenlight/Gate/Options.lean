import Greenlight.Settings

/-! # Options of a run

What a run of the gate is given besides the environment and the configuration file. Options win over
settings; names of stages and examples add to them. -/

namespace Greenlight.Gate

/-- The options of one run. -/
structure Options where
  root : Option Path
  configFile : Option Path
  package : Option String
  skippedNames : List String
  featureSets : List String
  deniedExamples : List String
  taskLimit : Option Float
  strictAdvisory : Option Bool
  advisoryFatal : Option Bool
  planOnly : Bool
  reportFile : Option Path
  showOutput : Bool

namespace Options

/-- A run without options. -/
def none : Options := ⟨.none, .none, .none, [], [], [], .none, .none, .none, false, .none, true⟩

/-- Settings as the options change them. -/
def apply (o : Options) (s : Settings) : Settings :=
  { s with
    package := (o.package.map Value.text).orElse fun _ => s.package
    skippedNames := (s.skippedNames ++ o.skippedNames).eraseDups
    featureSets :=
      if o.featureSets.isEmpty then s.featureSets else some (o.featureSets.map Settings.flagSetOfText)
    deniedExamples := (s.deniedExamples ++ o.deniedExamples).eraseDups
    taskLimit := o.taskLimit.getD s.taskLimit
    strictAdvisory := o.strictAdvisory.getD s.strictAdvisory
    advisoryFatal := o.advisoryFatal.getD s.advisoryFatal }

/-- The checked settings of a run. -/
def settings (yaml : Yaml.Reader) (o : Options) (t : FileTree) (env : Environment) :
    Except Fault Settings := do
  let loaded ← Settings.load yaml t env o.configFile o.root
  let s := o.apply loaded
  s.check
  return s

end Options

end Greenlight.Gate
