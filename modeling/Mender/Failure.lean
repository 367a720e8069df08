import Mender.Number.Arithmetic

/-!
# Failures

What goes wrong in a repair, in the engine or in one of its collaborators: a kind and a message.
Every failure of the file system, time limits of the host included, is of the file family
(`Failure.Kind.isHost`).
-/

namespace Mender

/-- The kinds of failure. -/
inductive Failure.Kind where
  | host
  | permission
  | notFound
  | isDirectory
  | notDirectory
  | hostTimeout
  | decoding
  | missingKey
  | runtime
  | value
  | wrongType
  | missingIndex
  | overflow
  | zeroDivision
  | missingAttribute
  | patch
  | testTimeout
  | generationTimeout
  | service
  | repair
  | jsonSyntax
  deriving DecidableEq, Repr

/-- The word that stands for a failure without a message. -/
def Failure.Kind.name : Failure.Kind → String
  | .host => "OSError"
  | .permission => "PermissionError"
  | .notFound => "FileNotFoundError"
  | .isDirectory => "IsADirectoryError"
  | .notDirectory => "NotADirectoryError"
  | .hostTimeout => "TimeoutError"
  | .decoding => "UnicodeDecodeError"
  | .missingKey => "KeyError"
  | .runtime => "RuntimeError"
  | .value => "ValueError"
  | .wrongType => "TypeError"
  | .missingIndex => "IndexError"
  | .overflow => "OverflowError"
  | .zeroDivision => "ZeroDivisionError"
  | .missingAttribute => "AttributeError"
  | .patch => "PatchApplyError"
  | .testTimeout => "TestTimeout"
  | .generationTimeout => "GenerationTimeout"
  | .service => "AnthropicError"
  | .repair => "RepairError"
  | .jsonSyntax => "JSONDecodeError"

/-- All kinds. -/
def Failure.Kind.all : List Failure.Kind :=
  [.host, .permission, .notFound, .isDirectory, .notDirectory, .hostTimeout, .decoding, .missingKey,
    .runtime, .value, .wrongType, .missingIndex, .overflow, .zeroDivision, .missingAttribute,
    .patch, .testTimeout, .generationTimeout, .service, .repair, .jsonSyntax]

/-- Failures that the file system and the host's clocks report. -/
def Failure.Kind.isHost : Failure.Kind → Bool
  | .host | .permission | .notFound | .isDirectory | .notDirectory | .hostTimeout => true
  | _ => false

/-- A failure: its kind and its message, which may be empty. -/
structure Failure where
  kind : Failure.Kind
  message : String
  deriving DecidableEq, Repr

/-- The message, or the word for the kind when there is none. -/
def Failure.described (f : Failure) : String :=
  if f.message = "" then f.kind.name else f.message

/-- A computation on numbers that has no answer fails with a fixed text. -/
def NumberFault.failure : NumberFault → Failure
  | .divisionByZero => ⟨.zeroDivision, "division by zero"⟩
  | .zeroToNegativePower => ⟨.zeroDivision, "0.0 cannot be raised to a negative power"⟩
  | .integerTooLarge => ⟨.overflow, "int too large to convert to float"⟩
  | .quotientTooLarge => ⟨.overflow, "integer division result too large for a float"⟩
  | .outsideDomain => ⟨.value, "math domain error"⟩
  | .infinite => ⟨.overflow, "cannot convert float infinity to integer"⟩
  | .undefined => ⟨.value, "cannot convert float NaN to integer"⟩

/-- A computation on numbers inside one that may fail for other causes. -/
def liftNumber {α : Type} : Except NumberFault α → Except Failure α
  | .ok x => .ok x
  | .error e => .error e.failure

end Mender
