import Mender.Shell.Octets

/-!
# Command lines

The words and commands of a command line. A word is a sequence of parts: text as it stands, text
that was quoted, and substitutions. Commands keep the line they started on, for messages.
-/

namespace Mender.Shell

/-- What is done with the value of a parameter. -/
inductive Form where
  | value
  /-- The word in place of a value that is missing. -/
  | orElse
  /-- The word in place of a value that is there. -/
  | ifThere
  /-- A missing value is an error. -/
  | orFail
  /-- A missing value is set to the word. -/
  | orAssign
  /-- The value without what the word matches at its end. -/
  | withoutEnd (longest : Bool)
  /-- The value without what the word matches at its start. -/
  | withoutStart (longest : Bool)
  | length
  /-- No form that is known. -/
  | unknown
  deriving DecidableEq, Repr

/-- What a redirection does with a file. -/
inductive Access where
  | read
  | write
  | append
  /-- Writes even where files are to be kept. -/
  | overwrite
  | both
  deriving DecidableEq, Repr

mutual

/-- A part of a word. -/
inductive Part where
  | plain (text : Octets)
  | quoted (text : Octets)
  /-- The start or the end of something quoted. -/
  | edge
  | parameter (name : Octets) (form : Form) (orNull : Bool) (word : List Part)
  | command (body : Command)
  | arithmetic (word : List Part)

/-- What a redirection makes of a descriptor. -/
inductive Target where
  | file (access : Access) (name : List Part)
  | copy (of : List Part)
  /-- The text of a document further down, by its number. -/
  | document (number : Nat) (expands : Bool)

/-- A redirection. -/
inductive Redirection where
  | of (descriptor : Nat) (target : Target)

/-- A command. -/
inductive Command where
  | nothing
  | simple (line : Nat) (assignments words : List (List Part)) (redirections : List Redirection)
  | redirected (line : Nat) (body : Command) (redirections : List Redirection)
  | subshell (line : Nat) (body : Command) (redirections : List Redirection)
  | background (line : Nat) (body : Command) (redirections : List Redirection)
  | pipeline (background : Bool) (stages : List Command)
  | negated (body : Command)
  | both (first second : Command)
  | either (first second : Command)
  | sequence (commands : List Command)
  | choice (test whenTrue whenFalse : Command)
  | loop (untilTrue : Bool) (test body : Command)
  | each (line : Nat) (name : Octets) (words : List (List Part)) (body : Command)
  | selection (line : Nat) (word : List Part) (cases : List (List (List Part) × Command))
  | definition (line : Nat) (name : Octets) (body : Command)

end

instance : Inhabited Command := ⟨.nothing⟩

/-- A word. -/
abbrev Word := List Part

namespace Word

/-- Adds text to a word that is built from its end. -/
def addPlain (c : Char) : List Part → List Part
  | .plain s :: rest => .plain (s.push c) :: rest
  | rest => .plain (String.singleton c) :: rest

/-- Adds quoted text to a word that is built from its end. -/
def addQuoted (c : Char) : List Part → List Part
  | .quoted s :: rest => .quoted (s.push c) :: rest
  | rest => .quoted (String.singleton c) :: rest

/-- The text of a word that is text as it stands. -/
def plain? : Word → Option Octets
  | [] => some ""
  | [.plain s] => some s
  | _ => none

/-- The text of a word without its quotes. -/
def bare (w : Word) : Octets :=
  String.join (w.map fun
    | .plain s => s
    | .quoted s => s
    | _ => "")

/-- The word starts with a name and an equals sign. -/
def isAssignment : Word → Bool
  | .plain s :: _ =>
    let name := s.toList.takeWhile Octets.inName
    Octets.isName name && (s.toList.drop name.length).head? = some '='
  | _ => false

end Word

end Mender.Shell
