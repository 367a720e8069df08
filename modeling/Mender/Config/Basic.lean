import Mender.Spectrum.Metric
import Mender.Text.Cut

/-!
# Options

The options of a repair and of fault localization, their bounds, and how they are changed. `build`
makes a configuration from named values. `update` changes one in place: it reports what went wrong
and leaves whatever it had already set. `merge` changes the options of localization.
-/

namespace Mender

/-! ## Localization options -/

/-- The options of fault localization. -/
structure LocalizationConfig where
  metric : Metric := .ochiai
  /-- The least score at which a statement is kept. -/
  threshold : Float := 0.3
  maxStatements : Int := 20
  useStackTrace : Bool := true
  useStaticAnalysis : Bool := true
  /-- The weight of a diagnostic's own suspiciousness when the spectrum knows its line. -/
  staticWeight : Float := 0.6
  /-- The weight of the spectrum score of that line. -/
  spectrumWeight : Float := 0.4
  /-- Lines of source shown on either side of a fault. -/
  snippetContextLines : Int := 3

/-- A change to a localization option. -/
inductive LocalizationChange where
  /-- A metric by name, in any case of letters. -/
  | metric (name : String)
  | threshold (x : Float)
  | maxStatements (n : Int)
  | useStackTrace (b : Bool)
  | useStaticAnalysis (b : Bool)
  | staticWeight (x : Float)
  | spectrumWeight (x : Float)
  | snippetContextLines (n : Int)
  /-- An option that does not exist. -/
  | unknown (name : String)

namespace LocalizationConfig

/-- The failure of changes that name options that do not exist. -/
def unknownOptions (owner : String) (names : List String) : Failure :=
  ⟨.value, s!"Unknown {owner} option(s): " ++ Text.joined ", " (names.mergeSort (· ≤ ·))⟩

/-- The names of options that do not exist. -/
def unknownNames (changes : List LocalizationChange) : List String :=
  changes.filterMap fun
    | .unknown name => some name
    | _ => none

/-- Makes one change. -/
def set (c : LocalizationConfig) : LocalizationChange → Except Failure LocalizationConfig
  | .metric name => do return { c with metric := ← Metric.ofName name }
  | .threshold x => .ok { c with threshold := x }
  | .maxStatements n => .ok { c with maxStatements := n }
  | .useStackTrace b => .ok { c with useStackTrace := b }
  | .useStaticAnalysis b => .ok { c with useStaticAnalysis := b }
  | .staticWeight x => .ok { c with staticWeight := x }
  | .spectrumWeight x => .ok { c with spectrumWeight := x }
  | .snippetContextLines n => .ok { c with snippetContextLines := n }
  | .unknown _ => .ok c

/-- Makes named changes; options that do not exist are refused before any is made. -/
def merge (c : LocalizationConfig) (changes : List LocalizationChange) :
    Except Failure LocalizationConfig :=
  match unknownNames changes with
  | [] => changes.foldlM set c
  | names => .error (unknownOptions "FaultLocalizationConfig" names)

end LocalizationConfig

/-! ## Repair options -/

/-- The options of a repair. -/
structure RepairConfig where
  /-- Make candidates from strategies. -/
  useTemplates : Bool := true
  /-- Make candidates from a language model. -/
  useModel : Bool := true
  /-- The number of candidates for a fault; with both sources, half of it is for strategies. -/
  maxCandidates : Int := 5
  /-- Rounds of validation for a fault. -/
  maxIterations : Int := 3
  validateWithTests : Bool := true
  learningEnabled : Bool := true
  localization : LocalizationConfig := {}
  /-- Seconds before a test run counts as failed; without a bound when missing. -/
  testTimeout : Option Float := some 120.0
  /-- Seconds before a request to the model is given up. -/
  generationTimeout : Option Float := some 60.0
  /-- The least similarity at which a message counts as known. -/
  similarityThreshold : Float := 0.75
  codeContextLines : Int := 10
  learningHistoryCap : Int := 1000
  maxSessions : Int := 50
  maxChatTurns : Int := 5
  maxImplausibleTurns : Int := 3

/-- A change to a repair option. -/
inductive ConfigChange where
  | useTemplates (b : Bool)
  | useModel (b : Bool)
  | maxCandidates (n : Int)
  | maxIterations (n : Int)
  | validateWithTests (b : Bool)
  | learningEnabled (b : Bool)
  /-- Changes to the localization options. -/
  | localization (changes : List LocalizationChange)
  /-- Localization options as a whole. -/
  | localizationConfig (c : LocalizationConfig)
  | testTimeout (seconds : Option Float)
  | generationTimeout (seconds : Option Float)
  | similarityThreshold (x : Float)
  | codeContextLines (n : Int)
  | learningHistoryCap (n : Int)
  | maxSessions (n : Int)
  | maxChatTurns (n : Int)
  | maxImplausibleTurns (n : Int)
  /-- An option that does not exist. -/
  | unknown (name : String)

namespace RepairConfig

/-- The names of options that do not exist. -/
def unknownNames (changes : List ConfigChange) : List String :=
  changes.filterMap fun
    | .unknown name => some name
    | _ => none

/-- Sets an option of its own; localization options are set apart. -/
def set (c : RepairConfig) : ConfigChange → RepairConfig
  | .useTemplates b => { c with useTemplates := b }
  | .useModel b => { c with useModel := b }
  | .maxCandidates n => { c with maxCandidates := n }
  | .maxIterations n => { c with maxIterations := n }
  | .validateWithTests b => { c with validateWithTests := b }
  | .learningEnabled b => { c with learningEnabled := b }
  | .testTimeout x => { c with testTimeout := x }
  | .generationTimeout x => { c with generationTimeout := x }
  | .similarityThreshold x => { c with similarityThreshold := x }
  | .codeContextLines n => { c with codeContextLines := n }
  | .learningHistoryCap n => { c with learningHistoryCap := n }
  | .maxSessions n => { c with maxSessions := n }
  | .maxChatTurns n => { c with maxChatTurns := n }
  | .maxImplausibleTurns n => { c with maxImplausibleTurns := n }
  | .localization _ | .localizationConfig _ | .unknown _ => c

/-- The localization options after a change. -/
def localizationAfter (c : LocalizationConfig) : ConfigChange → Except Failure LocalizationConfig
  | .localization changes => c.merge changes
  | .localizationConfig new => .ok new
  | _ => .ok c

/-- The bounds that options are held to. -/
def check (c : RepairConfig) : Except Failure Unit :=
  if c.maxCandidates < 0 then .error ⟨.value, "max_candidates must be >= 0"⟩
  else if c.maxIterations < 1 then .error ⟨.value, "max_iterations must be >= 1"⟩
  else .ok ()

/-- The configuration that changes lead to, and the failure if they end in one. Options that do not
exist are refused before anything is set; the localization options come after all others, and the
bounds are checked last. -/
def update (c : RepairConfig) (changes : List ConfigChange) : RepairConfig × Except Failure Unit :=
  match unknownNames changes with
  | [] =>
    let set := changes.foldl RepairConfig.set c
    match changes.foldlM localizationAfter set.localization with
    | .error e => (set, .error e)
    | .ok localization =>
      let whole := { set with localization }
      (whole, whole.check)
  | names => (c, .error (LocalizationConfig.unknownOptions "RepairConfig" names))

/-- A configuration with named values in place of the defaults. -/
def build (changes : List ConfigChange) : Except Failure RepairConfig :=
  match update {} changes with
  | (c, .ok ()) => .ok c
  | (_, .error e) => .error e

end RepairConfig

end Mender
