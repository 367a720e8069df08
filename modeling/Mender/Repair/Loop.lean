import Mender.Learning.Store
import Mender.Repair.Generate
import Mender.Repair.Validate

/-!
# The validation loop

Candidates are validated in the order of the pool until one is accepted. After a round without
success the model may add a candidate that learns from the failures; the loop ends when a round adds
nothing or the rounds are used up.
-/

namespace Mender

/-- What is carried from one fault to the next. -/
structure Memory where
  registry : Registry
  learning : LearningStore

namespace Loop

variable {m : Type → Type} [Monad m]

/-- Records that a candidate was accepted, with the other candidates that were validated. -/
def recordSuccess (config : RepairConfig) (f : Fault) (codeContext : String) (memory : Memory)
    (p : Patch) (others : List Patch) : Memory :=
  { registry :=
      if p.source = .template then memory.registry.record p.strategy true else memory.registry
    learning :=
      if config.learningEnabled then
        memory.learning.recordSuccess f p (others.filter (·.validated)) codeContext
      else memory.learning }

/-- Records that a candidate was rejected. -/
def recordFailure (config : RepairConfig) (f : Fault) (memory : Memory) (p : Patch) : Memory :=
  { registry :=
      if p.source = .template then memory.registry.record p.strategy false else memory.registry
    learning :=
      if config.learningEnabled then memory.learning.recordFailure f p else memory.learning }

/-- How a round over the pool ends. -/
structure RoundEnd where
  /-- The pool with the outcomes of the round. -/
  pool : List Patch
  /-- The place of the accepted candidate. -/
  accepted : Option Nat
  /-- How many candidates were validated. -/
  tested : Nat

/-- What the rounds share. -/
structure Setting (m : Type → Type) where
  config : RepairConfig
  host : Host m
  fault : Fault
  codeContext : String

/-- Validates the candidates that have not been, until one is accepted. -/
def testPool (s : Setting m) (round : Nat) :
    Memory → List Patch → Nat → List Patch → m (Memory × Except Failure RoundEnd)
  | memory, before, tested, [] => return (memory, .ok ⟨before, none, tested⟩)
  | memory, before, tested, p :: after => do
    if p.validated then
      testPool s round memory (before ++ [p]) tested after
    else
      s.host.notify (.candidate p round)
      match ← Validate.candidate s.config s.host p with
      | .error f => return (memory, .error f)
      | .ok outcome =>
        let p := p.withOutcome outcome
        s.host.notify (.validation p outcome)
        if outcome.accepted then
          let memory := recordSuccess s.config s.fault s.codeContext memory p (before ++ after)
          return (memory, .ok ⟨before ++ p :: after, some before.length, tested + 1⟩)
        else
          let memory := recordFailure s.config s.fault memory p
          testPool s round memory (before ++ [p]) (tested + 1) after

/-- How the rounds end. -/
structure RunEnd where
  pool : List Patch
  accepted : Option Nat
  tested : Nat
  rounds : Nat

/-- Runs rounds, of which `rounds` have been run and `left` are left, and between them asks for a
candidate that learns from the failures. -/
def runRounds (s : Setting m) :
    Nat → Nat → Memory → Nat → List Patch → m (Memory × Except Failure RunEnd)
  | 0, rounds, memory, tested, pool => return (memory, .ok ⟨pool, none, tested, rounds⟩)
  | left + 1, rounds, memory, tested, pool => do
    match ← testPool s rounds memory [] tested pool with
    | (memory, .error f) => return (memory, .error f)
    | (memory, .ok ended) =>
      if ended.accepted.isSome || left = 0 then
        return (memory, .ok ⟨ended.pool, ended.accepted, ended.tested, rounds + 1⟩)
      else
        match ← Generate.refine s.config s.host s.fault s.codeContext
            (ended.pool.filter (·.rejected)) with
        | .error f => return (memory, .error f)
        | .ok refined =>
          let pool := ended.pool ++ refined
          if pool.all (·.validated) then
            return (memory, .ok ⟨pool, none, ended.tested, rounds + 1⟩)
          else
            runRounds s left (rounds + 1) memory ended.tested pool

/-- The result of a run that took a time. -/
def resultOf (f : Fault) (ended : RunEnd) (duration : Float) : RepairResult :=
  { fault := f, success := ended.accepted.isSome, generated := ended.pool.length
    tested := ended.tested, patches := ended.pool, iterations := ended.rounds
    applied := ended.accepted
    reason :=
      if ended.accepted.isSome then none
      else some (if ended.pool.isEmpty then Reason.noCandidates else Reason.exhausted)
    duration, state := if ended.accepted.isSome then .success else .exhausted }

/-- Validates a pool of candidates for a fault. -/
def run (s : Setting m) (memory : Memory) (pool : List Patch) :
    m (Memory × Except Failure RepairResult) := do
  let start ← s.host.clock
  let ended ← if pool.isEmpty then pure (memory, .ok ⟨[], none, 0, 0⟩)
    else runRounds s s.config.maxIterations.toNat 0 memory 0 pool
  match ended with
  | (memory, .error f) => return (memory, .error f)
  | (memory, .ok ended) =>
    let result := resultOf s.fault ended ((← s.host.clock) - start)
    s.host.notify (if result.success then .success result else .failure result)
    return (memory, .ok result)

end Loop

end Mender
