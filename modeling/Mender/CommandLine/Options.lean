import Mender.Number.Integer
import Mender.Pattern.Build
import Mender.Spectrum.Metric
import Mender.Text.Cut
import Mender.Text.Digit

/-!
# Options of the command line

The arguments of a call. An option may be shortened as long as it stays unambiguous, and its value
follows it or an equals sign. An output to repair has to be named, in one of two ways.
-/

namespace Mender.CommandLine

/-- The arguments of a call. An option whose value is written as two dashes is given, but without a
value: a text is then empty, and where the difference shows, the value is missing. -/
structure Arguments where
  errorFile : Option String := none
  command : Option (Option String) := none
  testCommand : Option String := none
  directory : Option String := some "."
  maxIterations : Option Int := some 3
  maxCandidates : Option Int := some 5
  metric : Option String := some "ochiai"
  noTemplates : Bool := false
  noModel : Bool := false
  coverage : Option String := none
  failingTests : List (Option String) := []
  hint : Option String := none
  /-- The model that is asked; the default of the service when it is not given. -/
  model : Option (Option String) := none
  testTimeout : Option Float := some 120.0
  output : Option String := none
  logFile : Option String := none
  verbose : Bool := false

/-- Why arguments cannot be used. -/
inductive Misuse where
  | ambiguous (argument : String) (options : List String)
  | missingValue (option : String)
  | unwantedValue (option value : String)
  | notANumber (option sort value : String)
  | notAChoice (option value : String) (choices : List String)
  | exclusive (option other : String)
  | noneOf (options : List String)
  | unrecognized (arguments : List String)
  deriving DecidableEq, Repr

/-- What is said of a misuse. -/
def Misuse.text : Misuse → String
  | .ambiguous argument options =>
    s!"ambiguous option: {argument} could match " ++ Text.joined ", " options
  | .missingValue option => s!"argument {option}: expected one argument"
  | .unwantedValue option value =>
    s!"argument {option}: ignored explicit argument {Text.quoted value}"
  | .notANumber option sort value =>
    s!"argument {option}: invalid {sort} value: {Text.quoted value}"
  | .notAChoice option value choices =>
    let all := Text.joined ", " (choices.map Text.quoted)
    s!"argument {option}: invalid choice: {Text.quoted value} (choose from {all})"
  | .exclusive option other => s!"argument {option}: not allowed with argument {other}"
  | .noneOf options => "one of the arguments " ++ Text.joined " " options ++ " is required"
  | .unrecognized arguments => "unrecognized arguments: " ++ Text.joined " " arguments

/-- What an option does. -/
inductive Action where
  /-- Asks for help, which ends the call. -/
  | help
  | flag (set : Arguments → Arguments)
  | value (set : Option String → Arguments → Except Misuse Arguments)

/-- An option. -/
structure Switch where
  /-- How messages name it. -/
  title : String
  names : List String
  about : String
  action : Action

/-- An option with a text that may be missing. -/
def plainOption (name about : String) (set : Option String → Arguments → Arguments) : Switch :=
  ⟨name, [name], about, .value fun v a => .ok (set v a)⟩

/-- An option with a text. -/
def textOption (name about : String) (set : String → Arguments → Arguments) : Switch :=
  plainOption name about fun v => set (v.getD "")

/-- An option without a value. -/
def flagOption (name about : String) (set : Arguments → Arguments) : Switch :=
  ⟨name, [name], about, .flag set⟩

/-- An option with a value that has to be read. -/
def readOption {α : Type} (name about : String) (read : String → Except Misuse α)
    (set : Option α → Arguments → Arguments) : Switch :=
  ⟨name, [name], about, .value fun v a => do return set (← v.mapM read) a⟩

/-- An option with an integer. -/
def integerOption (name about : String) (set : Option Int → Arguments → Arguments) : Switch :=
  readOption name about
    (fun v => (Integer.read v).mapError fun _ => .notANumber name "int" v) set

/-- The names of the two ways to name an output. -/
def sources : List String := ["--error-file", "--command"]

/-- The other ways to name an output. -/
def taken (a : Arguments) : List String :=
  (if a.errorFile.isSome then ["--error-file"] else []) ++
    if a.command.isSome then ["--command"] else []

/-- An option that names the output to repair. -/
def sourceOption (name about : String) (set : Option String → Arguments → Arguments) : Switch :=
  ⟨name, [name], about, .value fun v a =>
    match (taken a).filter (· ≠ name) with
    | other :: _ => .error (.exclusive name other)
    | [] => .ok (set v a)⟩

/-- All options. -/
def options : List Switch :=
  let metrics := Metric.all.map (·.name)
  [⟨"-h/--help", ["-h", "--help"], "show this help message and exit", .help⟩,
    sourceOption "--error-file" "File containing compiler/test/lint output"
      fun v a => { a with errorFile := some (v.getD "") },
    sourceOption "--command" "Build or lint command whose output is repaired"
      fun v a => { a with command := some v },
    textOption "--test-command" "Command that runs the test suite"
      fun v a => { a with testCommand := some v },
    plainOption "--cwd" "Project root (default: current directory)"
      fun v a => { a with directory := v },
    integerOption "--max-iterations" "Validation rounds per fault"
      fun n a => { a with maxIterations := n },
    integerOption "--max-candidates" "Candidate budget per fault"
      fun n a => { a with maxCandidates := n },
    readOption "--metric" "Suspiciousness metric for coverage spectra"
      (fun v => if metrics.contains v then .ok v else .error (.notAChoice "--metric" v metrics))
      fun v a => { a with metric := v },
    flagOption "--no-templates" "Disable template candidates"
      fun a => { a with noTemplates := true },
    flagOption "--no-llm" "Disable model-generated candidates" fun a => { a with noModel := true },
    textOption "--coverage-json" "coverage.py JSON report (coverage json --show-contexts)"
      fun v a => { a with coverage := some v },
    plainOption "--failing-test"
      "Name of a failing test context in the coverage report (repeatable)"
      fun v a => { a with failingTests := a.failingTests ++ [v] },
    textOption "--context-hint" "Extra context passed to the model"
      fun v a => { a with hint := some v },
    plainOption "--model" "Claude model for candidate generation"
      fun v a => { a with model := some v },
    readOption "--test-timeout" "Seconds per test run"
      (fun v => (Text.readFloat? v).elim (.error (.notANumber "--test-timeout" "float" v)) .ok)
      fun v a => { a with testTimeout := v },
    textOption "--output" "Write a JSON report to this path" fun v a => { a with output := some v },
    textOption "--log-file" "Also write logs to this file" fun v a => { a with logFile := some v },
    flagOption "--verbose" "Enable verbose logging" fun a => { a with verbose := true }]

/-- An option by one of its names. -/
def named? (name : String) : Option Switch :=
  options.find? fun o => o.names.contains name

/-- An argument, as far as it can be told by itself. -/
inductive Reading where
  /-- No option. -/
  | plain (argument : String)
  | option (o : Switch) (name : String) (value : Option String)
  /-- An option of one letter with more letters behind it. -/
  | letters (o : Switch) (more : String)
  /-- It looks like an option and is none. -/
  | unknown (argument : String)

/-- The options that an argument may be short for, with the value inside it. -/
def candidates (argument : String) : List (Switch × String × Option String) :=
  let all := options.flatMap fun o => o.names.map fun name => (o, name)
  if Text.startsWith "--" argument then
    let name := String.ofList (argument.toList.takeWhile (· ≠ '='))
    let value := if name.length = argument.length then none
      else some (String.ofList (argument.toList.drop (name.length + 1)))
    (all.filter fun o => Text.startsWith name o.2).map fun o => (o.1, o.2, value)
  else
    let short := String.ofList (argument.toList.take 2)
    let value := some (String.ofList (argument.toList.drop 2))
    all.filterMap fun o =>
      if o.2 = short then some (o.1, o.2, value)
      else if Text.startsWith argument o.2 then some (o.1, o.2, none)
      else none

/-- An argument that is a negative number; a line feed may follow it. -/
def isNegativeNumber (argument : String) : Bool :=
  let digits : Pattern := .many Text.isDecimal 1
  let fraction : Pattern := .concat [.many Text.isDecimal 0, .text ".", digits]
  ((Pattern.concat [.text "-", .alt (.seq digits .textEnd) (.seq fraction .textEnd)]).matchStart
    argument.toList).isSome

/-- The option that an argument names in full, with the value behind an equals sign. -/
def inFull? (argument : String) : Option Reading :=
  let name := argument.toList.takeWhile (· ≠ '=')
  match argument.toList.drop name.length with
  | [] => (named? argument).map (.option · argument none)
  | _ :: value =>
    (named? (String.ofList name)).map fun o =>
      if name.length = 2 && !value.isEmpty then .letters o (String.ofList value)
      else .option o (String.ofList name) (some (String.ofList value))

/-- Reads an argument by itself. -/
def readArgument (argument : String) : Except Misuse Reading :=
  if !Text.startsWith "-" argument || argument.length = 1 then .ok (.plain argument)
  else
    match inFull? argument, candidates argument with
    | some reading, _ => .ok reading
    | none, [(o, name, some more)] =>
      .ok (if Text.startsWith "--" argument then .option o name (some more) else .letters o more)
    | none, [(o, name, none)] => .ok (.option o name none)
    | none, [] =>
      if isNegativeNumber argument || argument.toList.contains ' ' then .ok (.plain argument)
      else .ok (.unknown argument)
    | none, several => .error (.ambiguous argument (several.map (·.2.1)))

/-- Reads all arguments by themselves; after two dashes there are no more options. -/
def readAll : List String → Except Misuse (List Reading)
  | [] => .ok []
  | "--" :: rest => .ok (.plain "--" :: rest.map .plain)
  | argument :: rest => do
    let reading ← readArgument argument
    return reading :: (← readAll rest)

/-- What a call asks for. -/
inductive Purpose where
  | help
  | call (a : Arguments)

/-- What is left of the letters behind `-h`, which may be repeated. -/
def lettersLeft (more : List Char) : List Char :=
  more.dropWhile (· == 'h')

/-- The value of an option as it is written; two dashes stand for none. -/
def valueOf (v : String) : Option String :=
  if v = "--" then none else some v

/-- Carries out readings in turn; what is no option is collected. -/
def carryOut : List Reading → Arguments → List String →
    Except Misuse (Option (Arguments × List String))
  | [], a, extras => .ok (some (a, extras))
  | .plain x :: rest, a, extras => carryOut rest a (extras ++ [x])
  | .unknown x :: rest, a, extras => carryOut rest a (extras ++ [x])
  | .letters o more :: _, _, _ =>
    match lettersLeft more.toList with
    | [] => .ok none
    | left => .error (.unwantedValue o.title (String.ofList left))
  | .option o _ value :: rest, a, extras =>
    match o.action, value with
    | .help, none => .ok none
    | .flag set, none => carryOut rest (set a) extras
    | .help, some v | .flag _, some v => .error (.unwantedValue o.title v)
    | .value set, some v => do carryOut rest (← set (valueOf v) a) extras
    | .value set, none =>
      match rest with
      | .plain v :: rest =>
        if v = "--" then .error (.missingValue o.title)
        else do carryOut rest (← set (some v) a) extras
      | _ => .error (.missingValue o.title)

/-- Reads the arguments of a call. -/
def read (arguments : List String) : Except Misuse Purpose := do
  match ← carryOut (← readAll arguments) {} [] with
  | none => return .help
  | some (a, extras) =>
    if (taken a).isEmpty then .error (.noneOf sources)
    else if extras.isEmpty then return .call a
    else .error (.unrecognized extras)

/-- The help text. -/
def help : String :=
  let lines := options.map fun o =>
    "  " ++ Text.joined ", " o.names ++ s!"\n      {o.about}\n"
  "usage: mender [options]\n\n" ++
    "Repairs programs from the output of compilers, linters and tests.\n\n" ++ String.join lines

end Mender.CommandLine
