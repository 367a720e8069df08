import Mender.Shell.Builtin
import Mender.Tool.Basic

/-!
# Printing and testing as programs

Programs that print their arguments or test a condition, for other programs to run. They know more
escapes than the shell does and put what they complain of into quotes.
-/

namespace Mender

namespace Saying

/-- A hexadecimal digit. -/
def isHexadecimal (c : Char) : Bool :=
  Shell.Numeral.isDigit 16 c

/-- What an escape after a backslash stands for, and what follows it. -/
def readEscape (cs : List Char) : List Char × List Char :=
  match cs with
  | 'e' :: rest => (['\x1b'], rest)
  | 'x' :: rest =>
    let digits := (rest.take 2).takeWhile isHexadecimal
    if digits.isEmpty then (['\\', 'x'], rest)
    else ([Char.ofNat (Shell.Numeral.digitsValue 16 digits)], rest.drop digits.length)
  | '0' :: rest =>
    let digits := (rest.take 3).takeWhile Shell.isOctal
    ([Char.ofNat (Shell.Numeral.digitsValue 8 digits % 256)], rest.drop digits.length)
  | cs =>
    let (c, rest) := Shell.readEscape cs
    ([c], rest)

/-- Resolves escapes; also tells whether printing ends there. -/
def unescape : Nat → List Char → List Char × Bool
  | 0, _ => ([], false)
  | _, [] => ([], false)
  | _ + 1, '\\' :: 'c' :: _ => ([], true)
  | fuel + 1, '\\' :: rest =>
    let (e, rest) := readEscape rest
    let (cs, stops) := unescape fuel rest
    (e ++ cs, stops)
  | fuel + 1, c :: rest =>
    let (cs, stops) := unescape fuel rest
    (c :: cs, stops)

/-- An argument that says how to print. -/
def isEchoOption (a : Octets) : Bool :=
  match a.toList with
  | '-' :: cs => !cs.isEmpty && cs.all fun c => c == 'n' || c == 'e' || c == 'E'
  | _ => false

/-- Prints arguments. -/
def echo : Tool := fun arguments _ =>
  let options := arguments.takeWhile isEchoOption
  let letters := options.flatMap fun a => a.toList.drop 1
  let text := (Text.joined " " (arguments.drop options.length)).toList
  let resolves : Bool := (letters.reverse.find? (· != 'n')) = some 'e'
  let (cs, stops) := if resolves then unescape (text.length + 1) text else (text, false)
  .output (String.ofList (if letters.contains 'n' || stops then cs else cs ++ ['\n']))

/-- What is said of an argument that is no number. -/
def complaintOf : Shell.ArgumentFault → Octets
  | .noNumber a => s!"{Naming.quoted a}: expected a numeric value"
  | .partly a => s!"{Naming.quoted a}: value not completely converted"
  | .outOfRange a => s!"{Naming.quoted a}: Numerical result out of range"

/-- Prints arguments by a format. -/
def printf : Tool := fun arguments _ =>
  match if arguments.head? = some "--" then arguments.tail else arguments with
  | [] => .complaint 1 "printf: missing operand\nTry 'printf --help' for more information."
  | format :: arguments =>
    let out := Shell.printedBy format arguments
    let complaints := out.complaints.reverse.map fun f => "printf: " ++ complaintOf f
    let fault : List Octets := match out.fault with
      | some .missingConversion => ["printf: %: invalid conversion specification"]
      | some (.unknown d) => [s!"printf: {d}: invalid conversion specification"]
      | none =>
        match out.left with
        | a :: _ => ["printf: warning: ignoring excess arguments, starting with " ++
            Naming.quoted a]
        | [] => []
    { printed := [(1, String.ofList out.text.reverse), (2, Octets.lines (complaints ++ fault))]
      status := if complaints.isEmpty && out.fault.isNone then 0 else 1 }

/-- What is said of a condition that cannot be read. -/
def conditionText : Shell.ConditionFault → Octets
  | .noNumber s => s!"invalid integer {Naming.quoted s}"
  | .missingAfter s => s!"missing argument after {Naming.quoted s}"
  | .unclosed => "')' expected"
  | .unexpected s => s!"extra argument {Naming.quoted s}"

/-- Tests a condition for a program of a name. -/
def testAs (name : Octets) : Tool := fun arguments scene =>
  let process : Shell.Process := { toMachine := scene.machine, here := scene.here, view := "" }
  match Shell.conditionHolds process arguments with
  | .ok b => .ended (if b then 0 else 1)
  | .error f => .complaint 2 s!"{name}: {conditionText f}"

/-- Tests a condition. -/
def test : Tool := testAs "test"

/-- Tests a condition in brackets. -/
def bracket : Tool := fun arguments scene =>
  if arguments.getLast? = some "]" then testAs "[" arguments.dropLast scene
  else .complaint 2 "[: missing ']'"

end Saying

end Mender
