import Mender.Language
import Mender.Learning.Signature
import Mender.Learning.Similarity
import Mender.Patch.Basic
import Mender.Window

/-!
# The learning store

What past repairs taught: which strategy fixed which error, with the successes and failures that led
there. A fault with a known signature, or a similar message, is tried with that strategy first.
Every list is cut to its latest half when it grows past a cap.
-/

namespace Mender

/-- A success that is remembered. -/
structure LearningRecord where
  fault : Fault
  patch : Patch
  /-- The candidates that failed before. -/
  failed : List Patch
  codeContext : String
  fileType : String

/-- An error whose fix is known. -/
structure LearnedEntry where
  signature : String
  /-- The normalized message. -/
  message : String
  strategy : String
  deriving DecidableEq, Repr

/-- Values by the signatures of errors: each signature once, the latest last. -/
abbrev SignatureIndex := List (String × String)

namespace SignatureIndex

/-- The value of a signature. -/
def get? (index : SignatureIndex) (signature : String) : Option String :=
  (index.find? (·.1 = signature)).map (·.2)

/-- The signatures in order. -/
def signatures (index : SignatureIndex) : List String :=
  index.map (·.1)

/-- Enters a value at the end, in place of what its signature had before. -/
def enter (index : SignatureIndex) (signature value : String) : SignatureIndex :=
  index.filter (·.1 ≠ signature) ++ [(signature, value)]

/-- The part of an index that is about some signatures, in their order. -/
def restrict (index : SignatureIndex) (signatures : List String) : SignatureIndex :=
  signatures.filterMap fun signature => index.find? (·.1 = signature)

/-- Keeps of an index what is about the latest half of the signatures, when these have grown past a
limit. -/
def cut (limit : Int) (signatures : List String) (index : SignatureIndex) : SignatureIndex :=
  if limit < signatures.length then index.restrict (onwards (-(limit / 2)) signatures) else index

end SignatureIndex

/-- What past repairs taught. -/
structure LearningStore where
  cap : Int := 1000
  /-- The least similarity at which a message counts as known. -/
  threshold : Float := 0.75
  /-- The strategy that fixed each known error. -/
  strategies : SignatureIndex := []
  /-- The normalized message of each known error. -/
  messages : SignatureIndex := []
  records : List LearningRecord := []
  /-- The failures, by signature and strategy. -/
  failures : List (String × String) := []

namespace LearningStore

/-- What is known of each error, from both indices. -/
def known (s : LearningStore) : List LearnedEntry :=
  s.strategies.map fun e => ⟨e.1, (s.messages.get? e.1).getD "", e.2⟩

/-- Keeps the latest half of a list that has grown past a limit. -/
def capped {α : Type} (limit : Int) (items : List α) : List α :=
  if limit < items.length then onwards (-(limit / 2)) items else items

/-- A text, or another in its place when it is empty. -/
def textOr (s absent : String) : String :=
  if s.isEmpty then absent else s

/-- Remembers that a patch fixed a fault. Both indices are cut by the signatures of the strategies.
-/
def recordSuccess (s : LearningStore) (f : Fault) (p : Patch) (failed : List Patch)
    (codeContext : String) : LearningStore :=
  let signature := Signature.ofMessage f.message
  let strategies := s.strategies.enter signature p.strategy
  let messages := s.messages.enter signature (Signature.normalized f.message)
  let record : LearningRecord :=
    ⟨f, p, failed, textOr codeContext (f.location.snippet.getD ""), fileType f.location.file⟩
  { s with
    strategies := strategies.cut s.cap strategies.signatures
    messages := messages.cut s.cap strategies.signatures
    records := capped s.cap (s.records ++ [record]) }

/-- Remembers that a patch did not fix a fault. -/
def recordFailure (s : LearningStore) (f : Fault) (p : Patch) : LearningStore :=
  { s with
    failures := capped s.cap (s.failures ++ [(Signature.ofMessage f.message, p.strategy)]) }

/-- The signature whose message is most like another, with the similarity; of equals the first. -/
def mostSimilar (messages : SignatureIndex) (message : String) : Option (String × Float) :=
  messages.foldl
    (fun best e =>
      let r := Similarity.ratio message e.2
      if ((best.map (·.2)).getD 0.0) < r then some (e.1, r) else best)
    none

/-- The strategy that fixed an error before: the same one, or one with a similar message. -/
def lookup (s : LearningStore) (message : String) : Option String :=
  match s.strategies.get? (Signature.ofMessage message) with
  | some strategy => some strategy
  | none =>
    match mostSimilar s.messages (Signature.normalized message) with
    | some (signature, r) => if s.threshold ≤ r then s.strategies.get? signature else none
    | none => none

/-- Forgets everything. -/
def clear (s : LearningStore) : LearningStore :=
  { s with strategies := [], messages := [], records := [], failures := [] }

/-- Adds to the successes and failures of a strategy. -/
def addCount (strategy : String) (successes failures : Nat) :
    List (String × Nat × Nat) → List (String × Nat × Nat)
  | [] => [(strategy, successes, failures)]
  | c :: cs =>
    if c.1 = strategy then (strategy, c.2.1 + successes, c.2.2 + failures) :: cs
    else c :: addCount strategy successes failures cs

/-- The successes and failures of each strategy that are remembered. -/
def perStrategy (s : LearningStore) : List (String × Nat × Nat) :=
  let successes := s.records.foldl (fun cs r => addCount r.patch.strategy 1 0 cs) []
  s.failures.foldl (fun cs f => addCount f.2 0 1 cs) successes

end LearningStore

end Mender
