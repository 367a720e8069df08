import Mender.Pattern.Build
import Mender.Strategy.Comparison
import Mender.Text.Cut

/-!
# Line fixes

A strategy offers a fix as text, and the markers in the text say how it changes the faulty line:
wrap the statement, replace the right-hand side of an assignment, invert a comparison, replace the
statement, make member access safe, or append.
-/

namespace Mender.LineFix

open Pattern

/-- Stands for the faulty statement. -/
def statementMark : String := "{original}"

/-- Stands for the right-hand side of an assignment or a return. -/
def valueMark : String := "{rhs}"

/-- Inverts the first comparison. -/
def flipMark : String := "{flip}"

/-- Replaces the statement by what follows. -/
def lineMark : String := "{line}"

/-- Makes member access safe. -/
def chainMark : String := "?."

/-- The blanks at the start of a line. -/
def indentation (line : List Char) : List Char :=
  line.takeWhile Text.isBlank

/-- An assignment, a declaration or a return: what stands before its value, the value, and what ends
the line. -/
def assignment : Pattern :=
  let typeName := many (orIn word (among "<>[]|. ")) 1
  let annotation := many (orIn word (among "[]|. ")) 1
  concat [textStart,
    group 1 (seq blanks (firstOf
      [seq (text "return") gap,
       concat [firstOf [text "const", text "let", text "var"], gap, many nameRest 1,
         opt (concat [blanks, text ":", blanks, typeName]), blanks, text "=", blanks],
       concat [many (orIn word (among "$.[]")) 1, blanks,
         opt (concat [text ":", blanks, annotation]), blanks, text "=", notNext (among "="),
         blanks]])),
    group 2 (few inLine 1),
    group 3 (seq (opt (text ";")) blanks),
    textEnd]

/-- A member of a named object. -/
def member : Pattern :=
  concat [wordEdge, group 1 name, text ".", group 2 name]

/-- Puts the statement into a text of several lines, each with the indentation of the statement. -/
def wrap (line : List Char) (fix : List Char) : List Char :=
  let indent := indentation line
  let body := Text.replaceText statementMark.toList (Text.trim line) fix
  Text.joinText ['\n'] ((Text.splitText ['\n'] body).map fun part =>
    if part.isEmpty then part else indent ++ part)

/-- Puts the value of an assignment into a text and keeps the rest of the line. -/
def replaceValue (line : List Char) (fix : List Char) : Option (List Char) :=
  (assignment.matchStart line).map fun m =>
    let part (i : Nat) : List Char := ((m.group? i).getD "").toList
    part 1 ++ Text.replaceText valueMark.toList (Text.trim (part 2)) fix ++ part 3

/-- Makes the access to a member safe against a missing object. -/
def safeAccess (line : List Char) (language : String) : Option (List Char) :=
  let part (m : Match) (i : Nat) : List Char := ((m.group? i).getD "").toList
  if language = "python" then
    (member.search line).map fun m =>
      line.take m.start ++ "getattr(".toList ++ part m 1 ++ ", \"".toList ++ part m 2 ++
        "\", None)".toList ++ line.drop m.stop
  else if Text.hasText chainMark.toList line then
    none
  else
    some (member.substitute (fun m => part m 1 ++ chainMark.toList ++ part m 2) line)

/-- Texts that are appended without a space. -/
def isTight (fix : List Char) : Bool :=
  fix.head?.any [';', ')', '}', ']', ':', ','].contains

/-- Puts a text at the end of a line. -/
def append (line : List Char) (fix : List Char) : List Char :=
  let kept := Text.trimEnd line
  if isTight fix then kept ++ fix else kept ++ ' ' :: fix

/-- What a fix makes of a line, by its first marker. -/
def changed (line fix : List Char) (language : String) : Option (List Char) :=
  if lineMark.toList.isPrefixOf fix then some (indentation line ++ fix.drop lineMark.length)
  else if Text.hasText statementMark.toList fix then some (wrap line fix)
  else if Text.hasText valueMark.toList fix then replaceValue line fix
  else if fix = flipMark.toList then
    Comparison.replaceFirst Comparison.here? Comparison.inverse line
  else if fix = chainMark.toList then safeAccess line language
  else some (append line fix)

/-- Applies a fix to a line. There is nothing to do for an empty fix or a blank line, and a fix that
changes nothing does not count. -/
def apply (line fix language : String) : Option String :=
  if fix.isEmpty || Text.isBlankText line then none
  else
    match changed line.toList fix.toList language with
    | none => none
    | some new => if new = line.toList then none else some (String.ofList new)

end Mender.LineFix
