import Mender.Config.Given
import Mender.Host.Command
import Mender.Repair.Chat
import Mender.Session.Basic

/-!
# The repair engine

An engine keeps what outlives a session: the options, what was learned, and the latest sessions.
Changed options reach localization when the pipeline is put together anew, which a successful change
of options and a change of collaborators both do.
-/

namespace Mender

/-- What a repair engine keeps. -/
structure Engine where
  config : RepairConfig
  /-- The localization options that the pipeline was put together with. -/
  localization : LocalizationConfig
  memory : Memory
  /-- The sessions that are kept, the latest last. -/
  sessions : List Session

namespace Engine

/-- A registry is taken by an engine that it is given to when it holds a strategy. -/
def takesRegistry (r : Registry) : Bool :=
  !r.strategies.isEmpty

/-- A learning store is taken by an engine that it is given to when it knows an error. -/
def takesStore (s : LearningStore) : Bool :=
  !s.strategies.isEmpty

/-- An engine; a registry or store that it does not take is not used, a standard one takes its
place. -/
def create (config : RepairConfig) (registry : Option Registry) (learning : Option LearningStore) :
    Engine where
  config := config
  localization := config.localization
  memory :=
    { registry := (registry.filter takesRegistry).getD .standard
      learning := (learning.filter takesStore).getD
        { cap := config.learningHistoryCap, threshold := config.similarityThreshold } }
  sessions := []

/-- What a registry that was given to an engine holds by now: the engine works on one that it took,
and leaves another alone. -/
def givenRegistry (e : Engine) (r : Registry) : Registry :=
  if takesRegistry r then e.memory.registry else r

/-- What a learning store that was given to an engine holds by now. -/
def givenStore (e : Engine) (s : LearningStore) : LearningStore :=
  if takesStore s then e.memory.learning else s

/-- The engine with its pipeline put together anew. -/
def rebuilt (e : Engine) : Engine :=
  { e with localization := e.config.localization }

/-- Changes options. Those of the learning store follow when the change succeeds. -/
def update (e : Engine) (changes : List ConfigChange) : Engine × Except Failure Unit :=
  match e.config.update changes with
  | (config, .error f) => ({ e with config }, .error f)
  | (config, .ok ()) =>
    let learning := { e.memory.learning with
      cap := config.learningHistoryCap, threshold := config.similarityThreshold }
    (rebuilt { e with config, memory := { e.memory with learning } }, .ok ())

/-- Changes options that are given as data. Values of the wrong sort are set aside, unless they have
to be compared with a bound. -/
def updateGiven (e : Engine) (changes : List (String × Json)) : Engine × Except Failure Unit :=
  match changes.mapM ConfigChange.ofField with
  | .ok changes => e.update changes
  | .error _ =>
    let (given, result) := (GivenConfig.ofConfig e.config).update changes
    ({ e with config := given.config.toOption.getD e.config }, result)

/-- The latest sessions, as many as are kept. -/
def keptSessions (limit : Int) (sessions : List Session) : List Session :=
  if limit < sessions.length then onwards (-limit) sessions else sessions

/-- The engine with one more session. -/
def store (e : Engine) (s : Session) : Engine :=
  { e with sessions := keptSessions e.config.maxSessions (e.sessions ++ [s]) }

/-- Forgets all sessions and what was learned. -/
def clear (e : Engine) : Engine :=
  { e with sessions := [], memory := { e.memory with learning := e.memory.learning.clear } }

/-- The share of successes of each strategy that was tried. -/
def successRates (r : Registry) : List (String × Float) :=
  (r.strategies.filter fun s => (r.tally s.id).attempts ≠ 0).map fun s =>
    (s.id, r.successRate s.id)

/-- The statistics over the sessions that are kept; faults that were left do not count. -/
def statistics (e : Engine) : RepairStatistics :=
  let results := e.sessions.flatMap (·.results)
  { RepairStatistics.ofResults (results.filter (·.reason ≠ some Reason.cancelled)) with
    successRates := successRates e.memory.registry }

section Collaborators

variable {m : Type → Type} [Monad m]

/-- Repairs every fault that an output shows, and keeps the session. -/
def repair (host : Host m) (e : Engine) (output : String) (hint : Option String)
    (coverage : Option Coverage) : m (Engine × Except Failure (List RepairResult)) := do
  let setting : Session.Setting m := ⟨e.config, host, hint⟩
  match ← Session.run setting e.localization e.memory output coverage with
  | (memory, .error f) => return ({ e with memory }, .error f)
  | (memory, .ok session) =>
    return ({ e with memory }.store session, .ok session.results)

/-- Repairs one fault outside any session. -/
def repairFault (host : Host m) (e : Engine) (f : Fault) (hint : Option String) :
    m (Engine × RepairResult) := do
  let (memory, result) ← Session.repairFault ⟨e.config, host, hint⟩ e.memory f
  return ({ e with memory }, result)

/-- Repairs a bug by dialogue. -/
def chat (host : Host m) (e : Engine) (c : Chat.Context) : m (Except Failure Chat.Ended) := do
  match host.model? with
  | none => return .error ⟨.repair, "Conversational repair needs a generation client"⟩
  | some model => return (← Chat.repair e.config host model c).2

/-- Runs a build or lint command and returns all that it printed. -/
def collect (host : Host m) (command : String) : m (Except Failure String) := do
  match host.command? with
  | none => return .error ⟨.repair, "No command executor configured"⟩
  | some run =>
    return (← run command).map (·.text)

end Collaborators

end Engine

end Mender
