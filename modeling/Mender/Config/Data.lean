import Mender.Config.Basic
import Mender.Json.Basic

/-!
# Options as data

Options may be read from a file: an object whose fields are named as the options are. Any value
counts as a truth value, and numbers are taken for one another as far as they are equal; a value of
another sort is refused here, before any option is set.
-/

namespace Mender

/-- The failure of an option with a value of the wrong sort. -/
def wrongSort (name : String) (v : Json) : Failure :=
  ⟨.wrongType, s!"option {name} cannot be {v.sort}"⟩

/-- A value without content, which counts as false. -/
def Json.isEmpty : Json → Bool
  | .null | .bool false | .int 0 | .string "" | .array [] | .object [] => true
  | .number x => x == 0.0
  | _ => false

/-- An integer. -/
def Json.toInt (name : String) (v : Json) : Except Failure Int :=
  match v.integer? with
  | some n => .ok n
  | none => .error (wrongSort name v)

/-- A number, given as an integer or not. -/
def Json.toFloat (name : String) (v : Json) : Except Failure Float :=
  match v, v.integer? with
  | .number x, _ => .ok x
  | _, some n => liftNumber (Arithmetic.ofInt n)
  | _, none => .error (wrongSort name v)

/-- A number that may be missing. -/
def Json.toFloat? (name : String) : Json → Except Failure (Option Float)
  | .null => .ok none
  | v => do return some (← v.toFloat name)

/-- A change to a localization option from its name and value. -/
def LocalizationChange.ofField (field : String × Json) : Except Failure LocalizationChange :=
  let (name, v) := field
  match name with
  | "metric" =>
    match v with
    | .string s => .ok (.metric s)
    | _ => .error (wrongSort name v)
  | "threshold" => .threshold <$> v.toFloat name
  | "max_statements" => .maxStatements <$> v.toInt name
  | "use_stack_trace" => .ok (.useStackTrace !v.isEmpty)
  | "use_static_analysis" => .ok (.useStaticAnalysis !v.isEmpty)
  | "static_weight" => .staticWeight <$> v.toFloat name
  | "spectrum_weight" => .spectrumWeight <$> v.toFloat name
  | "snippet_context_lines" => .snippetContextLines <$> v.toInt name
  | _ => .ok (.unknown name)

/-- Changes to the localization options from an object. -/
def LocalizationChange.ofJson : Json → Except Failure (List LocalizationChange)
  | .object fields => fields.mapM LocalizationChange.ofField
  | .null => .ok []
  | v => .error (wrongSort "fault_localization" v)

/-- A change to an option from its name and value. -/
def ConfigChange.ofField (field : String × Json) : Except Failure ConfigChange :=
  let (name, v) := field
  match name with
  | "use_templates" => .ok (.useTemplates !v.isEmpty)
  | "use_llm" => .ok (.useModel !v.isEmpty)
  | "max_candidates" => .maxCandidates <$> v.toInt name
  | "max_iterations" => .maxIterations <$> v.toInt name
  | "validate_with_tests" => .ok (.validateWithTests !v.isEmpty)
  | "learning_enabled" => .ok (.learningEnabled !v.isEmpty)
  | "fault_localization" => .localization <$> LocalizationChange.ofJson v
  | "test_timeout" => .testTimeout <$> v.toFloat? name
  | "generation_timeout" => .generationTimeout <$> v.toFloat? name
  | "similarity_threshold" => .similarityThreshold <$> v.toFloat name
  | "code_context_lines" => .codeContextLines <$> v.toInt name
  | "learning_history_cap" => .learningHistoryCap <$> v.toInt name
  | "max_sessions" => .maxSessions <$> v.toInt name
  | "max_chat_turns" => .maxChatTurns <$> v.toInt name
  | "max_implausible_turns" => .maxImplausibleTurns <$> v.toInt name
  | _ => .ok (.unknown name)

/-- Changes to options from an object. -/
def ConfigChange.ofJson : Json → Except Failure (List ConfigChange)
  | .object fields => fields.mapM ConfigChange.ofField
  | v => .error (wrongSort "config" v)

/-- Localization options as data. -/
def LocalizationConfig.toJson (c : LocalizationConfig) : Json :=
  .object [("metric", .string c.metric.name), ("threshold", .number c.threshold),
    ("max_statements", .int c.maxStatements), ("use_stack_trace", .bool c.useStackTrace),
    ("use_static_analysis", .bool c.useStaticAnalysis), ("static_weight", .number c.staticWeight),
    ("spectrum_weight", .number c.spectrumWeight),
    ("snippet_context_lines", .int c.snippetContextLines)]

/-- A number that may be missing, as data. -/
def Json.ofFloat? : Option Float → Json
  | some x => .number x
  | none => .null

/-- Options as data. -/
def RepairConfig.toJson (c : RepairConfig) : Json :=
  .object [("use_templates", .bool c.useTemplates), ("use_llm", .bool c.useModel),
    ("max_candidates", .int c.maxCandidates), ("max_iterations", .int c.maxIterations),
    ("validate_with_tests", .bool c.validateWithTests),
    ("learning_enabled", .bool c.learningEnabled),
    ("fault_localization", c.localization.toJson), ("test_timeout", .ofFloat? c.testTimeout),
    ("generation_timeout", .ofFloat? c.generationTimeout),
    ("similarity_threshold", .number c.similarityThreshold),
    ("code_context_lines", .int c.codeContextLines),
    ("learning_history_cap", .int c.learningHistoryCap), ("max_sessions", .int c.maxSessions),
    ("max_chat_turns", .int c.maxChatTurns), ("max_implausible_turns", .int c.maxImplausibleTurns)]

end Mender
