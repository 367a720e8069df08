import Mender.Repair.Generate
import Mender.Repair.Validate

/-!
# Repair by dialogue

A dialogue with a language model about one bug. Each reply has to hold code that is plausible before
a test run is spent on it; what the tests say goes into the next request. A dialogue that fails
leaves the file as it found it.
-/

namespace Mender.Chat

variable {m : Type → Type} [Monad m]

/-- Texts that stand for code that was left out. -/
def placeholders : List String := ["TODO", "FIXME", "..."]

/-- What is wrong with code that ends in an opening bracket. -/
def unclosed? : Char → Option String
  | '{' => some "Unclosed brace"
  | '(' => some "Unclosed parenthesis"
  | '[' => some "Unclosed bracket"
  | _ => none

/-- Why code is not worth a test run, given the code that it would replace. -/
def implausible? (code : String) (before : Option String) : Option String :=
  match (Text.trimEnd code.toList).getLast? with
  | none => some "Empty patch"
  | some last =>
    match unclosed? last with
    | some reason => some reason
    | none =>
      if before.any (Text.trimmed code = Text.trimmed ·) then
        some "Patch identical to original code"
      else if placeholders.any (Text.occursIn · code) then some "Patch contains placeholders"
      else none

/-- A bug to talk about. -/
structure Context where
  file : String
  message : String
  /-- The first line of the faulty code; looked up by the snippet when missing. -/
  first : Option Int := none
  last : Option Int := none
  /-- The faulty code; read from the file when missing. -/
  snippet : Option String := none
  stackTrace : Option String := none
  testCode : Option String := none
  deriving DecidableEq, Repr

namespace Context

/-- The bug of a fault. -/
def ofFault (f : Fault) (testCode : Option String) : Context :=
  { file := f.location.file, message := f.message, first := some f.location.line
    last := some f.location.endLine, stackTrace := f.stackTrace, testCode }

/-- What the model is told of the bug. -/
def bug (c : Context) : Prompt.Bug :=
  ⟨c.file, c.message, c.first, c.stackTrace, c.snippet, c.testCode⟩

end Context

/-- The lines of code without the line breaks around it. -/
def snippetLines (snippet : String) : List (List Char) :=
  Text.lines (Text.trimBy (· == '\n') snippet.toList)

/-- The place, counted from `number`, where lines start to agree with wanted ones up to blanks at
their ends. -/
def locateFrom (wanted : List (List Char)) (number : Nat) : List (List Char) → Option Nat
  | [] => none
  | line :: lines =>
    if ((line :: lines).take wanted.length).map Text.trim = wanted then some number
    else locateFrom wanted (number + 1) lines

/-- The line on which a snippet starts in a text, counted from one. -/
def locate (content snippet : String) : Option Nat :=
  match (snippetLines snippet).map Text.trim with
  | [] => none
  | wanted => locateFrom wanted 1 (Text.lines content.toList)

/-- The first line of the faulty code: the one given, or else where the snippet is found. -/
def firstLine? (c : Context) (content : Option String) : Option Int :=
  match c.first, Prompt.present? c.snippet, content with
  | some n, _, _ => some n
  | none, some snippet, some content => (locate content snippet).map fun n => (n : Int)
  | none, _, _ => none

/-- The last line of the faulty code when the snippet tells it. -/
def lastLine (c : Context) (first : Int) : Int :=
  let span := match Prompt.present? c.snippet with
    | some snippet => (snippetLines snippet).length
    | none => 1
  first + (max span 1 : Nat) - 1

/-- Fills in whichever of the range and the snippet is missing. -/
def resolve (c : Context) (content : Option String) : Context :=
  match firstLine? c content with
  | none => c
  | some first =>
    let last := c.last.getD (lastLine c first)
    let snippet := c.snippet.orElse fun _ => content.map fun content =>
      let lines := window (first - 1) last (Text.lines content.toList)
      String.ofList (Text.joinText ['\n'] lines)
    { c with first := some first, last := some last, snippet }

/-- A patch that was tested, and the turn it came on, counted from zero. -/
structure Attempt where
  turn : Nat
  patch : Patch
  outcome : Outcome

/-- What came of a dialogue. -/
structure Ended where
  success : Bool
  conversation : List Turn := []
  attempts : List Attempt := []
  applied : Option Patch := none
  lessons : List String := []
  reason : Option String := none
  duration : Float := 0.0

/-- A dialogue under way. -/
structure State where
  /-- The next request. -/
  prompt : String
  conversation : List Turn
  attempts : List Attempt := []
  lessons : List String := []
  /-- The turns since the last plausible patch. -/
  implausible : Nat := 0
  reason : Option String := none

/-- What the turns share. -/
structure Setting (m : Type → Type) where
  config : RepairConfig
  host : Host m
  model : Request → m (Reply String)
  location : Location
  snippet : Option String

/-- The candidate of a reply. -/
def patchOf (s : Setting m) (code : String) : Patch :=
  { changes := [⟨s.location.file, s.location.line, s.location.endLine, s.snippet.getD "", code⟩]
    strategy := "chat_repair", source := .model, confidence := 0.5
    explanation := "Conversational repair" }

/-- A turn without a plausible patch: what was learned, and the next request. -/
def fruitless (st : State) (lesson prompt : String) : State :=
  { st with implausible := st.implausible + 1, lessons := st.lessons ++ [lesson], prompt }

/-- What a turn leads to. -/
inductive TurnEnd where
  | onwards (st : State)
  | accepted (st : State) (p : Patch)

/-- Tests plausible code. -/
def attempt (s : Setting m) (turn : Nat) (st : State) (code : String) :
    m (Except Failure TurnEnd) := do
  let p := patchOf s code
  match ← Validate.candidate s.config s.host p with
  | .error f => return .error f
  | .ok outcome =>
    let p := p.withOutcome outcome
    let tested : Attempt := ⟨turn, p, outcome⟩
    let st := { st with implausible := 0, attempts := st.attempts ++ [tested] }
    s.host.notify (.chatAttempt (turn + 1) outcome.accepted)
    if outcome.accepted then
      let lessons := st.lessons ++ ["Conversational repair fixed the bug"]
      return .ok (.accepted { st with lessons } p)
    else
      let said : Turn := ⟨.user, Prompt.feedback outcome⟩
      return .ok (.onwards { st with
        conversation := st.conversation ++ [said], prompt := Prompt.followUp outcome })

/-- One turn of a dialogue. -/
def takeTurn (s : Setting m) (turn : Nat) (st : State) : m (Except Failure TurnEnd) := do
  let reply ← Generate.ask s.config s.model st.prompt st.conversation none
  let question : Turn := ⟨.user, st.prompt⟩
  let asked := { st with conversation := st.conversation ++ [question] }
  match reply with
  | none => return .ok (.onwards (fruitless asked "Generation failed" st.prompt))
  | some reply =>
    let answer : Turn := ⟨.assistant, reply⟩
    let answered := { asked with conversation := asked.conversation ++ [answer] }
    match FixReply.chatCode? reply with
    | none =>
      let lesson := "Could not extract valid patch from response"
      return .ok (.onwards (fruitless answered lesson Prompt.noCode))
    | some code =>
      match implausible? code s.snippet with
      | some reason =>
        return .ok (.onwards (fruitless answered s!"Patch rejected: {reason}"
          (Prompt.rejection reason)))
      | none => attempt s turn answered code

/-- Takes turns, `left` of which are left, until a patch is accepted or too many turns in a row were
fruitless. -/
def takeTurns (s : Setting m) : Nat → Nat → State → m (Except Failure TurnEnd)
  | 0, _, st => return .ok (.onwards st)
  | left + 1, turn, st => do
    if s.config.maxImplausibleTurns ≤ st.implausible then
      let reason := s!"No plausible patch in {st.implausible} consecutive turns"
      return .ok (.onwards { st with reason := some reason })
    else
      match ← takeTurn s turn st with
      | .error f => return .error f
      | .ok (.accepted st p) => return .ok (.accepted st p)
      | .ok (.onwards st) => takeTurns s left (turn + 1) st

/-- Puts a file back as a failed dialogue found it. -/
def rollback (host : Host m) (path : String) (before : Option String) :
    m (Except Failure Unit) := do
  match before, host.write? with
  | some text, some write =>
    match ← host.readable path with
    | .error f => return .error f
    | .ok now =>
      if now = some text then return .ok ()
      else
        match ← write path text with
        | .error f => return .error f
        | .ok () => do
          host.notify (.rollback [path])
          return .ok ()
  | _, _ => return .ok ()

/-- Holds a dialogue about a bug whose range is known. -/
def converse (config : RepairConfig) (host : Host m) (model : Request → m (Reply String))
    (c : Context) (first : Int) : m (Except Failure Ended) := do
  let start ← host.clock
  match ← host.readable c.file with
  | .error f => return .error f
  | .ok before =>
    let opening : List Turn := [⟨.system, Prompt.chatSystem c.bug⟩]
    let s : Setting m := ⟨config, host, model, .ofRange c.file first c.last, c.snippet⟩
    host.notify (.chatStart c.file)
    match ← takeTurns s config.maxChatTurns.toNat 0 ⟨Prompt.chatOpening, opening, [], [], 0, none⟩
      with
    | .error f => return .error f
    | .ok (.accepted st p) =>
      return .ok ⟨true, st.conversation, st.attempts, some p, st.lessons, none,
        (← host.clock) - start⟩
    | .ok (.onwards st) =>
      let reason := st.reason.getD s!"No passing patch after {config.maxChatTurns} turns"
      match ← rollback host c.file before with
      | .error f => return .error f
      | .ok () =>
        return .ok ⟨false, st.conversation, st.attempts, none, st.lessons, some reason,
          (← host.clock) - start⟩

/-- Repairs a bug by dialogue. Also returns the context with what was filled in. -/
def repair (config : RepairConfig) (host : Host m) (model : Request → m (Reply String))
    (c : Context) : m (Context × Except Failure Ended) := do
  match ← host.readable c.file with
  | .error f => return (c, .error f)
  | .ok content =>
    let c := resolve c content
    match c.first with
    | none => return (c, .ok { success := false, reason := some Reason.noChatLocation })
    | some first => return (c, ← converse config host model c first)

end Mender.Chat
