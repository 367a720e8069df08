import Mender.Config.Basic
import Mender.Diagnostic.Parse
import Mender.Host.Collaborators
import Mender.Spectrum.Ranking
import Mender.Window

/-!
# Fault localization

Faults come from the diagnostics in a tool's output and, when tests were run with coverage, from the
spectrum. A fault whose line the spectrum knows gets a weighted score; a suspicious statement
without a diagnostic becomes a fault of its own. There is one fault for each place, the most
suspicious first.
-/

namespace Mender

namespace Localization

/-- The first fault of each place, leaving out places that were seen. -/
def firstPerPlace : List Place → List Fault → List Fault
  | _, [] => []
  | seen, f :: fs =>
    if seen.contains f.place then firstPerPlace seen fs
    else f :: firstPerPlace (f.place :: seen) fs

/-- The number of related locations that a fault keeps. -/
def maxRelated : Nat := 5

/-- The score from which a statement becomes a fault of its own. -/
def promotionScore : Float := 0.5

/-- The fault with the frames of other places as related locations, if there are any. -/
def withFrames (frames : List Location) (f : Fault) : Fault :=
  match frames.filter fun frame => frame.place ≠ f.place with
  | [] => f
  | related => { f with related := related.take maxRelated }

/-- A fault at the innermost of stack frames. -/
def ofFrames (output : String) (innermost : Location) (others : List Location) : Fault :=
  { kind := .runtimeError, severity := .high, message := "Error detected from stack trace"
    location := innermost, related := others.take (maxRelated - 1), suspiciousness := 0.9
    stackTrace := some output, origin := .stack, spectrumScore := none }

/-- The faults with what stack frames tell: related locations, or a fault when there is none. -/
def addFrames (output : String) (faults : List Fault) : List Location → List Fault
  | [] => faults
  | frame :: frames =>
    match faults with
    | [] => [ofFrames output frame frames]
    | faults => faults.map (withFrames (frame :: frames))

/-- The score of a place in a ranking, held between zero and one. -/
def scoreAt? (statements : List SuspiciousStatement) (p : Place) : Option Float :=
  (statements.find? (·.place = p)).map fun s => clampScore s.suspiciousness

/-- The fault with the weighted sum of its own suspiciousness and the score of its place. -/
def fuse (config : LocalizationConfig) (statements : List SuspiciousStatement) (f : Fault) :
    Fault :=
  match scoreAt? statements f.place with
  | none => f
  | some score =>
    { f with
      suspiciousness := config.staticWeight * f.suspiciousness + config.spectrumWeight * score
      spectrumScore := some score }

/-- The fault of a suspicious statement. -/
def ofStatement (s : SuspiciousStatement) : Fault :=
  { kind := .unknown, severity := .medium
    message := "Suspicious statement from spectrum analysis"
    location := Location.ofLine s.place.file s.place.line, related := []
    suspiciousness := clampScore s.suspiciousness, stackTrace := none
    origin := .spectrum s.metric.name, spectrumScore := none }

/-- The statements that become faults: suspicious ones at places without a fault. -/
def promoted (faults : List Fault) (statements : List SuspiciousStatement) : List Fault :=
  (statements.filter fun s =>
    !decide (s.suspiciousness < promotionScore) && faults.all (·.place ≠ s.place)).map ofStatement

/-- One fault is not less suspicious than another. -/
def rankedBefore (f g : Fault) : Bool :=
  !decide (f.suspiciousness < g.suspiciousness)

/-- All faults in order: diagnosed and promoted ones, one for each place, the most suspicious first;
equally suspicious ones keep their order. -/
def rank (config : LocalizationConfig) (statements : List SuspiciousStatement)
    (faults : List Fault) : List Fault :=
  let fused := faults.map (fuse config statements)
  (firstPerPlace [] (fused ++ promoted fused statements)).mergeSort rankedBefore

/-- The faults that a tool's output shows. -/
def diagnosed (config : LocalizationConfig) (output : String) : Except Failure (List Fault) := do
  let reported ← if config.useStaticAnalysis then Diagnostic.faultsOf output else pure []
  let faults := firstPerPlace [] reported
  if config.useStackTrace then return addFrames output faults (← Diagnostic.framesOf output)
  else return faults

/-- What localization found. -/
structure Found where
  faults : List Fault
  statements : List SuspiciousStatement

/-- The faults and suspicious statements, as many as are wanted of each. -/
def found (config : LocalizationConfig) (output : String) (coverage : Option Coverage) :
    Except Failure Found := do
  let diagnosed ← diagnosed config output
  let statements ← match coverage with
    | some c => c.rank config.metric config.threshold
    | none => pure []
  let faults := rank config statements diagnosed
  return ⟨before config.maxStatements faults, before config.maxStatements statements⟩

/-- The lines of a text around a location. -/
def linesAround (content : String) (l : Location) (context : Int) : String :=
  let lines := Text.splitText ['\n'] content.toList
  let first := max 0 (l.line - 1 - context)
  let last := min (lines.length : Int) (l.endLine + context)
  String.ofList (Text.joinText ['\n'] (window first last lines))

section Snippets

variable {m : Type → Type} [Monad m]

/-- Shows faults in the source text around them, as far as their files can be read. -/
def withSnippets (host : Host m) (context : Int) : List Fault → m (Except Failure (List Fault))
  | [] => return .ok []
  | f :: fs => do
    match ← host.readable f.location.file with
    | .error e => return .error e
    | .ok content =>
      let shown := match content with
        | none => f
        | some content =>
          let snippet := some (linesAround content f.location context)
          { f with location := { f.location with snippet } }
      return (← withSnippets host context fs).map (shown :: ·)

end Snippets

end Localization

/-- Localizes faults from the output of a tool and the coverage of a test run. -/
def localize {m : Type → Type} [Monad m] (config : LocalizationConfig) (host : Host m)
    (output : String) (coverage : Option Coverage) : m (Except Failure Localization.Found) := do
  match Localization.found config output coverage with
  | .error e => return .error e
  | .ok found =>
    return (← Localization.withSnippets host config.snippetContextLines found.faults).map
      fun faults => { found with faults }

/-- The fault that a single line of a tool's output reports. -/
def localizeLine? (line : String) : Except Failure (Option Fault) := do
  return (← Diagnostic.faultsOf (Text.trimmed line)).head?

end Mender
