import Mender.Dialogue.Transcript
import Mender.Json.Basic

/-!
# A message service

What is asked of a message service, what it answers, and the tokens that were used.
-/

namespace Mender

/-- The options of a client of a message service. -/
structure Service.Options where
  /-- The name of the model; the service is told whatever is given. -/
  model : Json := .string "claude-sonnet-4-20250514"
  maxTokens : Int := 4096
  /-- The temperature when a request asks for none. -/
  temperature : Float := 0.0
  /-- What the system says when the request does not tell. -/
  system : Option String := none

/-- A message for the service. -/
structure Service.Message where
  model : Json
  maxTokens : Int
  temperature : Float
  messages : List Turn
  system : Option String

/-- A part of an answer. -/
structure Service.Block where
  sort : String
  text : String
  deriving DecidableEq, Repr

/-- An answer and the tokens that were read and written for it. -/
structure Service.Answer where
  blocks : List Service.Block
  input : Int
  output : Int
  deriving DecidableEq, Repr

/-- The tokens used so far. -/
structure Service.Usage where
  requests : Nat := 0
  input : Int := 0
  output : Int := 0
  deriving DecidableEq, Repr

namespace Service

/-- The service takes temperatures up to one. -/
def heldTemperature (x : Float) : Float :=
  if x < 1.0 then x else 1.0

/-- What the system says: what the request tells, or else the option, unless it is empty. -/
def systemOf (o : Options) (r : Request) : Option String :=
  match Transcript.system r with
  | "" => o.system.filter fun s => !s.isEmpty
  | told => some told

/-- The message for a request. -/
def messageOf (o : Options) (r : Request) : Message where
  model := o.model
  maxTokens := o.maxTokens
  temperature := heldTemperature (r.temperature.getD o.temperature)
  messages := Transcript.messages r
  system := systemOf o r

/-- The turns of a message as data. -/
def Message.turns (m : Message) : Json :=
  .array (m.messages.map fun t =>
    .object [("role", .string t.role.name), ("content", .string t.content)])

/-- A message as data. What the system says is left out when there is nothing to say. -/
def Message.toJson (m : Message) : Json :=
  .object ([("model", m.model), ("max_tokens", .int m.maxTokens),
    ("temperature", .number m.temperature), ("messages", m.turns)] ++
    (m.system.map fun x => ("system", Json.string x)).toList)

/-- The text of an answer. -/
def Answer.text (a : Answer) : String :=
  String.join ((a.blocks.filter (·.sort = "text")).map (·.text))

/-- The usage after one more answer. -/
def Usage.add (u : Usage) (a : Answer) : Usage :=
  ⟨u.requests + 1, u.input + a.input, u.output + a.output⟩

end Service

end Mender
