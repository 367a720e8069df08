import Mender.Shell.Expansion
import Mender.Shell.Token
import Mender.Tool.Records.Pattern
import Mender.Tool.Records.Reader
import Mender.Tool.Records.Value

/-!
# Running programs over records

What a program keeps while it runs, and how it is run over its inputs.
-/

namespace Mender.Records

/-!
## The state of a run over records

What a program keeps while it runs: variables and arrays, the current record with its fields, and
what it reads and prints. What is printed waits until other programs are run or the run ends.
-/

/-- A variable of a routine. Its array is there for the case that the name is used as one. -/
structure Local where
  name : Octets
  value : Value
  table : Octets

/-- What output is collected for. -/
structure Output where
  sink : Bool
  /-- The handle of a file. -/
  handle : Option Nat := none
  /-- What was printed and not passed on, in reverse. -/
  waiting : List Octets := []

/-- What is read from a file or a command. -/
structure Source where
  rest : List Char
  /-- How the command ended. -/
  status : Option Nat := none

/-- The state of a run. -/
structure Engine where
  /-- What the program is called. -/
  name : Octets
  bindings : Std.HashMap Octets Value := {}
  tables : Std.HashMap Octets Table := {}
  locals : List Local := []
  nextTable : Nat := 0
  record : Value := .unset
  /-- The fields, once the record has been split. -/
  fields : Option (Array Value) := none
  /-- The record is to be put together from its fields. -/
  stale : Bool := false
  /-- What separates the fields of the record. -/
  separator : Octets := " "
  /-- What was printed and not passed on, in reverse. -/
  waiting : List Octets := []
  outputs : List (Octets × Output) := []
  sources : List (Octets × Source) := []
  /-- The number of the argument that is looked at next. -/
  nextArgument : Nat := 1
  /-- An argument has named an input. -/
  hasInput : Bool := false
  /-- What is left of the current input. -/
  current : Option (List Char) := none
  /-- The ranges that have begun. -/
  active : List Nat := []
  status : Nat := 0
  seed : Nat := 0

/-- How a statement ends early. -/
inductive Jump where
  | next
  | nextFile
  | exit
  | return_ (v : Value)
  | break_
  | continue_
  /-- The run cannot go on. -/
  | fatal (message : Octets)

/-- A step of a run. -/
abbrev Eval := ExceptT Jump (StateT Engine Shell.Act)

/-- How commands are run. -/
structure Commands where
  /-- Runs a command line, perhaps on an input. -/
  run : Octets → Option Octets → Shell.Act Nat
  /-- Runs a command line and returns what it prints. -/
  capture : Octets → Shell.Act (Octets × Nat)

namespace Eval

/-- The state of the run. -/
def engine : Eval Engine := do
  return (← (get : StateT Engine Shell.Act Engine))

/-- Changes the state of the run. -/
def change (f : Engine → Engine) : Eval Unit := do
  (modify f : StateT Engine Shell.Act Unit)

/-- An action on the shell. -/
def outside {α : Type} (act : Shell.Act α) : Eval α :=
  ExceptT.lift (StateT.lift act)

/-! ### Variables -/

/-- The value of a variable that is not special. -/
def valueOf (name : Octets) : Eval Value := do
  let e ← engine
  match e.locals.find? (·.name = name) with
  | some l => return l.value
  | none => return e.bindings.getD name .unset

/-- How numbers are written. -/
def format : Eval Octets := do
  match ← valueOf "CONVFMT" with
  | .text s => return s
  | v => return v.toText "%.6g"

/-- A value as a text. -/
def textOf (v : Value) : Eval Octets := do
  match v with
  | .text s => return s
  | .given s => return s
  | .unset => return ""
  | .number x => return Value.numberText (← format) x

/-- A variable as a text. -/
def variableText (name : Octets) : Eval Octets := do
  textOf (← valueOf name)

/-- Ends the run. -/
def fatal {α : Type} (message : Octets) : Eval α :=
  throw (.fatal message)

/-- Ends the run in the middle of a record. -/
def runTime {α : Type} (message : Octets) : Eval α := do
  let file ← variableText "FILENAME"
  let fnr ← variableText "FNR"
  let nr ← variableText "NR"
  fatal s!"run time error: {message}\n\tFILENAME=\"{file}\" FNR={fnr} NR={nr}"

/-- The separator that a text stands for. -/
def separatorOf (s : Octets) : Eval Separator := do
  match Separator.ofText s with
  | .ok p => return p
  | .error f => runTime s!"regular expression compile failed ({f.text})\n{s}"

/-! ### Fields -/

/-- Sets the record. -/
def setRecord (v : Value) : Eval Unit := do
  let separator ← variableText "FS"
  change fun e => { e with record := v, fields := none, stale := false, separator }

/-- The fields of the record. -/
def fields : Eval (Array Value) := do
  let e ← engine
  match e.fields with
  | some fs => return fs
  | none =>
    let separator ← separatorOf e.separator
    let fs := ((separator.split (← textOf e.record)).map Value.given).toArray
    change fun e => { e with fields := some fs }
    return fs

/-- The record. -/
def record : Eval Value := do
  let e ← engine
  if e.stale then
    let parts ← (e.fields.getD #[]).toList.mapM textOf
    let v := Value.given (Text.joined (← variableText "OFS") parts)
    change fun e => { e with record := v, stale := false }
    return v
  else return e.record

/-- A field by its number. -/
def field (n : Int) : Eval Value := do
  if n < 0 then runTime s!"negative field index ${n}"
  else if n = 0 then record
  else return (← fields).getD (n.toNat - 1) .unset

/-- Fields as many as told. -/
def resized (fs : Array Value) (count : Nat) : Array Value :=
  (fs.toList.take count ++ List.replicate (count - fs.size) (Value.given "")).toArray

/-- The largest number of a field. -/
def mostFields : Nat := 1000000

/-- Sets a field. -/
def setField (n : Int) (v : Value) : Eval Unit := do
  if n < 0 then runTime s!"negative field index ${n}"
  else if n = 0 then setRecord v
  else if mostFields < n.toNat then runTime s!"maximum number of fields exceeded"
  else
    let fs ← fields
    let fs := if fs.size < n.toNat then resized fs n.toNat else fs
    change fun e => { e with fields := some (fs.setIfInBounds (n.toNat - 1) v), stale := true }

/-- The value of a variable. -/
def variable_ (name : Octets) : Eval Value := do
  if name = "NF" then return .ofNat (← fields).size else valueOf name

/-- Sets a variable. -/
def setVariable (name : Octets) (v : Value) : Eval Unit := do
  let e ← engine
  if e.locals.any (·.name = name) then
    let set (l : Local) : Local := if l.name = name then { l with value := v } else l
    change fun e => { e with locals := e.locals.map set }
  else if name = "NF" then
    let fs ← fields
    let n := Value.integer v.toNumber
    if n < 0 then runTime "negative value assigned to NF"
    change fun e => { e with fields := some (resized fs (min n.toNat mostFields)), stale := true }
  else change fun e => { e with bindings := e.bindings.insert name v }

/-! ### Arrays -/

/-- The name under which the array of a name is kept. -/
def tableName (name : Octets) : Eval Octets := do
  match (← engine).locals.find? (·.name = name) with
  | some l => return l.table
  | none => return name

/-- The array of a name. -/
def table (name : Octets) : Eval Table := do
  let key ← tableName name
  return (← engine).tables.getD key {}

/-- Changes the array of a name. -/
def setTable (name : Octets) (t : Table) : Eval Unit := do
  let key ← tableName name
  change fun e => { e with tables := e.tables.insert key t }

/-- The key that some values stand for. -/
def keyOf (vs : List Value) : Eval Table.Key := do
  match vs with
  | [.number x] =>
    let text ← textOf (.number x)
    match Value.whole? x with
    | some n => return ⟨text, some n⟩
    | none => return ⟨text, none⟩
  | [v] => return ⟨← textOf v, none⟩
  | vs =>
    let parts ← vs.mapM textOf
    return ⟨Text.joined (← variableText "SUBSEP") parts, none⟩

/-- An item of an array, which is made if it is not there. -/
def item (name : Octets) (key : Table.Key) : Eval Value := do
  let (v, t) := (← table name).find? key
  match v with
  | some v =>
    if key.index.isNone then setTable name t
    return v
  | none =>
    setTable name (t.set key .unset)
    return .unset

/-! ### Output -/

/-- Prints to the output of the run. -/
def print (s : Octets) : Eval Unit :=
  change fun e => { e with waiting := s :: e.waiting }

/-- Passes on what was printed. -/
def flushOutput : Eval Unit := do
  let e ← engine
  if !e.waiting.isEmpty then
    change fun e => { e with waiting := [] }
    let _ ← outside (Shell.Act.write 1 (String.join e.waiting.reverse))

/-- Passes on what was printed to a file. -/
def flushFile (o : Output) : Eval Output := do
  match o.handle with
  | some h =>
    outside (Shell.Act.machine fun m => m.write h (String.join o.waiting.reverse))
    return { o with waiting := [] }
  | none => return o

/-- Passes on all that was printed to files. -/
def flush : Eval Unit := do
  flushOutput
  let outputs ← (← engine).outputs.mapM fun (name, o) => do
    return (name, ← flushFile o)
  change fun e => { e with outputs }

/-- Opens a file to print to. -/
def openFile (appends : Bool) (name : Octets) : Eval Output := do
  let p ← outside get
  match Shell.openToWrite p (if appends then .append else .write) name with
  | .error f => fatal s!"cannot open \"{name}\" for output ({f.text})"
  | .ok (h, tree) =>
    let (number, m) := { p.toMachine with tree }.opened h
    outside (modify (·.withMachine m))
    return { sink := false, handle := some number }

/-- Prints to what a name stands for. -/
def printTo (isCommand appends : Bool) (name s : Octets) : Eval Unit := do
  if !isCommand && (name = "-" || name = "/dev/stdout") then print s
  else if !isCommand && name = "/dev/stderr" then
    flushOutput
    outside (Shell.Act.tell s)
  else
    let add (o : Output) : Eval Unit :=
      change fun e =>
        { e with outputs := Shell.Process.assign name { o with waiting := s :: o.waiting }
                              e.outputs }
    match Shell.Process.lookup name (← engine).outputs with
    | some o => add o
    | none =>
      if isCommand then
        flush
        add { sink := true }
      else add (← openFile appends name)

/-- Closes what a name stands for; there is none if it was not open. -/
def close (commands : Commands) (name : Octets) : Eval (Option Nat) := do
  let e ← engine
  change fun e => { e with
    outputs := Shell.Process.unassign name e.outputs
    sources := Shell.Process.unassign name e.sources }
  match Shell.Process.lookup name e.outputs with
  | some o =>
    if o.sink then
      let status ← outside (commands.run name (some (String.join o.waiting.reverse)))
      return some status
    else
      let _ ← flushFile o
      return some 0
  | none => return (Shell.Process.lookup name e.sources).map fun s => s.status.getD 0

/-- Closes all commands and files. -/
def closeAll (commands : Commands) : Eval Unit := do
  for (name, _) in (← engine).outputs do
    let _ ← close commands name

/-! ### Input -/

/-- The content of a file. -/
def contentOf (name : Octets) : Eval (Except PathFault (List Char)) := do
  if name = "-" || name = "/dev/stdin" then
    let cs ← outside Shell.Act.unread
    outside (Shell.Act.leaveUnread [])
    return .ok cs
  else
    let p ← outside get
    return (p.toMachine.content p.here name).map String.toList

/-- Adds to a variable that counts. -/
def count (name : Octets) : Eval Unit := do
  setVariable name (.number ((← valueOf name).toNumber + 1.0))

/-- Resolves the escapes in a text that is given to a variable. -/
def unescaped (s : Octets) : Octets :=
  go (s.length + 1) s.toList []
where
  /-- Reads on behind what was taken in reverse. -/
  go : Nat → List Char → List Char → Octets
    | 0, _, taken => String.ofList taken.reverse
    | _, [], taken => String.ofList taken.reverse
    | fuel + 1, '\\' :: c :: rest, taken =>
      if "\"\\abfnrtv".toList.contains c || ('0' ≤ c && c ≤ '7') then
        let (d, rest) := Pattern.readEscape (c :: rest)
        go fuel rest (d :: taken)
      else go fuel rest (c :: '\\' :: taken)
    | fuel + 1, c :: rest, taken => go fuel rest (c :: taken)

/-- The variable and the value of an argument that sets one. -/
def assignment? (a : Octets) : Option (Octets × Octets) :=
  let name := a.toList.takeWhile (· != '=')
  if Octets.isName name && name.length < a.length then
    some (String.ofList name, String.ofList (a.toList.drop (name.length + 1)))
  else none

/-- Opens the next input that the arguments name; tells whether there is one. -/
def openNext : Nat → Eval Bool
  | 0 => return false
  | fuel + 1 => do
    let e ← engine
    let argc := Value.integer (← valueOf "ARGC").toNumber
    if argc ≤ e.nextArgument then
      if e.hasInput then return false
      else
        change fun e => { e with hasInput := true }
        start "-"
    else
      change fun e => { e with nextArgument := e.nextArgument + 1 }
      let n := e.nextArgument
      let (v, _) := (← table "ARGV").find? ⟨toString n, some n⟩
      let a ← textOf (v.getD .unset)
      if a.isEmpty then openNext fuel
      else
        match assignment? a with
        | some (name, value) =>
          setVariable name (.given (unescaped value))
          openNext fuel
        | none =>
          change fun e => { e with hasInput := true }
          start a
where
  /-- Opens an input. -/
  start (name : Octets) : Eval Bool := do
    match ← contentOf name with
    | .ok cs =>
      change fun e => { e with current := some cs }
      setVariable "FILENAME" (.given name)
      setVariable "FNR" (.number 0.0)
      return true
    | .error .isDirectory => fatal "read error (Is a directory)"
    | .error f => fatal s!"cannot open \"{name}\" ({f.text})"

/-- The separator of records. -/
def recordSeparator : Eval Separator := do
  let s ← variableText "RS"
  if s = " " then return .character ' ' else separatorOf s

/-- Takes a record from what is to be read. -/
def takeRecord (cs : List Char) : Eval (Option (Octets × List Char)) := do
  if cs.isEmpty then return none
  else
    return ((← recordSeparator).takeRecord cs).map fun (r, rest) => (String.ofList r, rest)

/-- The next record of the inputs, if there is one. The fuel bounds how many inputs are opened. -/
def nextRecord : Nat → Eval (Option Octets)
  | 0 => return none
  | fuel + 1 => do
    match (← engine).current with
    | none => if ← openNext 100000 then nextRecord fuel else return none
    | some cs =>
      match ← takeRecord cs with
      | some (r, rest) =>
        change fun e => { e with current := some rest }
        count "NR"
        count "FNR"
        return some r
      | none =>
        change fun e => { e with current := none }
        nextRecord fuel

/-- Takes the next line of a source. -/
def nextLine (name : Octets) (s : Source) : Eval (Option Octets) := do
  match ← takeRecord s.rest with
  | some (r, rest) =>
    change fun e => { e with sources := Shell.Process.assign name { s with rest } e.sources }
    return some r
  | none =>
    change fun e =>
      { e with sources := Shell.Process.assign name { s with rest := [] } e.sources }
    return none

/-- The source that a file is; there is none if it cannot be read. -/
def fileSource? (name : Octets) : Eval (Option Source) := do
  match Shell.Process.lookup name (← engine).sources with
  | some s => return some s
  | none =>
    match ← contentOf name with
    | .ok cs => return some { rest := cs }
    | .error .isDirectory => fatal "read error (Is a directory)"
    | .error _ => return none

/-- The source that the output of a command is. -/
def commandSource (commands : Commands) (name : Octets) : Eval Source := do
  match Shell.Process.lookup name (← engine).sources with
  | some s => return s
  | none =>
    flush
    let (text, status) ← outside (commands.capture name)
    return { rest := text.toList, status := some status }

end Eval

/-!
## Running programs over records

Evaluates expressions, runs statements, and runs a program over its inputs. Routines may call one
another no deeper than told.
-/

section

open Eval

/-- An argument of a routine: its value, and the array that its name has. -/
structure Argument where
  value : Value
  table : Option Octets := none

/-- What runs a routine. -/
abbrev Invoke := Octets → List Argument → Eval Value

/-! ### Numbers -/

/-- The remainder of a division, with the sign of what is divided. -/
def remainder (x y : Float) : Float :=
  if Binary64.isNaN x || Binary64.isNaN y || Binary64.isInfinite x || y == 0.0 then 0.0 / 0.0
  else if Binary64.isInfinite y then x
  else
    match Value.whole? x, Value.whole? y with
    | some m, some n => (Binary64.ofInt? (m.tmod n)).getD 0.0
    | _, _ =>
      let q := x / y
      let whole := if q < 0.0 then q.ceil else q.floor
      x - y * whole

/-- What an operation makes of two numbers. -/
def Operation.apply (o : Operation) (x y : Float) : Float :=
  match o with
  | .add => x + y
  | .subtract => x - y
  | .multiply => x * y
  | .divide => x / y
  | .remainder => Records.remainder x y
  | .power => Float.pow x y

/-! ### Texts -/

/-- A stretch of a text; what is before its first character shortens it. -/
def substring (s : Octets) (start : Float) (length : Option Float) : Octets :=
  let first := Value.integer start
  let stop : Int := match length with
    | some n => if Binary64.isNaN n then first else first + Value.integer n
    | none => s.length + 1
  let first := max first 1
  if stop ≤ first then ""
  else String.ofList ((s.toList.drop (first.toNat - 1)).take (stop - first).toNat)

/-- The first position of a text in another one, counted from 1; zero if there is none. -/
def indexOf (part : List Char) : Nat → List Char → Nat
  | i, cs =>
    if part.isPrefixOf cs then i
    else
      match cs with
      | [] => 0
      | _ :: rest => indexOf part (i + 1) rest
termination_by _ cs => cs.length

/-- A replacement with the stretch that it replaces: an ampersand stands for that, and a backslash
before one makes it stand for itself. -/
def replacementOf (stretch : List Char) : List Char → List Char
  | '\\' :: '&' :: cs => '&' :: replacementOf stretch cs
  | '\\' :: '\\' :: '&' :: cs => '\\' :: (stretch ++ replacementOf stretch cs)
  | '&' :: cs => stretch ++ replacementOf stretch cs
  | c :: cs => c :: replacementOf stretch cs
  | [] => []

/-- Replaces stretches from a position on. An empty one directly behind the last does not count.
Returns the new text in reverse and the number of stretches. -/
def replaceFrom (t : Regex.Subject) (r : Regex) (replacement : List Char) (all : Bool) :
    Nat → Nat → Option Nat → List Char → Nat → List Char × Nat
  | 0, i, _, out, count => ((Regex.slice t i t.size).reverse ++ out, count)
  | fuel + 1, i, last, out, count =>
    let wanted (a b : Nat) : Bool := a < b || last != some a
    match Regex.findFrom t r wanted (t.size + 1 - i) i with
    | none => ((Regex.slice t i t.size).reverse ++ out, count)
    | some f =>
      let put := replacementOf (Regex.slice t f.start f.stop) replacement
      let out := put.reverse ++ ((Regex.slice t i f.start).reverse ++ out)
      if all then
        if f.start < f.stop then
          replaceFrom t r replacement all fuel f.stop (some f.stop) out (count + 1)
        else
          match t[f.start]? with
          | some c =>
            replaceFrom t r replacement all fuel (f.start + 1) (some f.start) (c :: out) (count + 1)
          | none => (out, count + 1)
      else ((Regex.slice t f.stop t.size).reverse ++ out, count + 1)

/-- Replaces the first stretch or all, and counts them. -/
def replaced (r : Regex) (replacement : Octets) (all : Bool) (s : Octets) : Octets × Nat :=
  let t := s.toList.toArray
  let (out, count) := replaceFrom t r replacement.toList all (2 * t.size + 2) 0 none [] 0
  (String.ofList out.reverse, count)

/-! ### Expressions -/

/-- The regular expression that a value stands for. -/
def patternOf (v : Value) : Eval Regex := do
  let s ← textOf v
  match Pattern.read s with
  | .ok r => return r
  | .error f => runTime s!"regular expression compile failed ({f.text})\n{s}"

/-- A text matches a regular expression somewhere. -/
def matchesText (r : Regex) (s : Octets) : Bool :=
  Regex.matches_ s.toList.toArray r

/-- Sets a target. -/
inductive Place where
  | variable (name : Octets)
  | item (array : Octets) (key : Table.Key)
  | field (n : Int)
  | none

namespace Place

/-- The value at a place. -/
def get : Place → Eval Value
  | .variable name => variable_ name
  | .item array key => Eval.item array key
  | .field n => Eval.field n
  | .none => return .unset

/-- Sets the value at a place. -/
def set (v : Value) : Place → Eval Unit
  | .variable name => setVariable name v
  | .item array key => do
    setTable array ((← table array).set key v)
  | .field n => setField n v
  | .none => return

end Place

/-- What a printed text is put together from. -/
def printedText (vs : List Value) : Eval Octets := do
  let numbers ← variableText "OFMT"
  let parts := vs.map (·.toText numbers)
  return Text.joined (← variableText "OFS") parts ++ (← variableText "ORS")

/-- Prints by a format. -/
def formattedText (isPrinted : Bool) (name : Octets) (vs : List Value) : Eval Octets := do
  match vs with
  | [] => return ""
  | f :: vs =>
    let form ← textOf f
    let (text, fault) := formatted (← format) form vs
    match fault with
    | Option.none => return text
    | some fault =>
      if isPrinted then print text
      match fault with
      | .tooFew => runTime s!"not enough arguments passed to {name}(\"{form}\")"
      | .improper n => runTime s!"improper conversion(number {n}) in {name}(\"{form}\")"

/-- A number that is read back from the one before. -/
def nextSeed (seed : Nat) : Nat :=
  (seed * 1103515245 + 12345) % 2147483648

/-- What a function of numbers makes of one. -/
def numeric (name : Octets) (x : Float) : Float :=
  match name with
  | "sin" => x.sin
  | "cos" => x.cos
  | "exp" => x.exp
  | "log" => x.log
  | "sqrt" => x.sqrt
  | _ => if x < 0.0 then x.ceil else x.floor

/-- What functions of values return. -/
def plainCall (commands : Commands) (name : Octets) (vs : List Value) : Eval Value := do
  let first : Value := vs.headD .unset
  let second : Value := (vs.drop 1).headD .unset
  match name with
  | "length" => return .ofNat (← textOf first).length
  | "substr" =>
    let s ← textOf first
    let length : Option Float := (vs.drop 2).head?.map (·.toNumber)
    return .text (substring s second.toNumber length)
  | "index" =>
    let s ← textOf first
    let part ← textOf second
    return .ofNat (indexOf part.toList 1 s.toList)
  | "sprintf" => return .text (← formattedText false "sprintf" vs)
  | "tolower" => return .text (String.ofList ((← textOf first).toList.map Char.toLower))
  | "toupper" => return .text (String.ofList ((← textOf first).toList.map Char.toUpper))
  | "atan2" => return .number (Float.atan2 first.toNumber second.toNumber)
  | "system" =>
    let line ← textOf first
    flush
    return .ofNat (← outside (commands.run line Option.none))
  | "close" =>
    match ← close commands (← textOf first) with
    | some status => return .ofNat status
    | Option.none => return .number (-1.0)
  | "fflush" =>
    flush
    return .number 0.0
  | "rand" =>
    let seed := nextSeed (← engine).seed
    change fun e => { e with seed }
    return .number (seed.toFloat / 2147483648.0)
  | "srand" =>
    let before := (← engine).seed
    change fun e => { e with seed := (Value.integer first.toNumber).toNat }
    return .ofNat before
  | name => return .number (numeric name first.toNumber)

mutual

/-- Evaluates an expression. -/
def evaluate (commands : Commands) (invoke : Invoke) : Expr → Eval Value
  | .number x => return .number x
  | .text s => return .text s
  | .regex r => do
    return .ofBool (matchesText r (← textOf (← record)))
  | .variable name => variable_ name
  | .item array keys => do
    let key ← keyOf (← evaluateAll commands invoke keys)
    item array key
  | .field e => do
    let v ← evaluate commands invoke e
    field (Value.integer v.toNumber)
  | .assign target operation value => do
    let place ← placeOf commands invoke target
    let v ← evaluate commands invoke value
    let v ← match operation with
      | some o => do
        let old ← place.get
        pure (.number (o.apply old.toNumber v.toNumber))
      | Option.none => pure v
    place.set v
    return v
  | .choice condition yes no => do
    if (← evaluate commands invoke condition).isTrue then evaluate commands invoke yes
    else evaluate commands invoke no
  | .both a b => do
    if (← evaluate commands invoke a).isTrue then
      return .ofBool (← evaluate commands invoke b).isTrue
    else return .number 0.0
  | .either a b => do
    if (← evaluate commands invoke a).isTrue then return .number 1.0
    else return .ofBool (← evaluate commands invoke b).isTrue
  | .negation e => do
    return .ofBool (!(← evaluate commands invoke e).isTrue)
  | .minus e => do
    return .number (-(← evaluate commands invoke e).toNumber)
  | .plus e => do
    return .number (← evaluate commands invoke e).toNumber
  | .arithmetic o a b => do
    let x ← evaluate commands invoke a
    let y ← evaluate commands invoke b
    return .number (o.apply x.toNumber y.toNumber)
  | .joined a b => do
    let s ← textOf (← evaluate commands invoke a)
    let t ← textOf (← evaluate commands invoke b)
    return .text (s ++ t)
  | .compared r a b => do
    let x ← evaluate commands invoke a
    let y ← evaluate commands invoke b
    return .ofBool (r.holds (Value.compare (← format) x y))
  | .matched negated subject pattern => do
    let s ← textOf (← evaluate commands invoke subject)
    let r ← regexOf commands invoke pattern
    return .ofBool (matchesText r s != negated)
  | .contains keys array => do
    let key ← keyOf (← evaluateAll commands invoke keys)
    return .ofBool ((← table array).find? key).1.isSome
  | .step amount valueBefore target => do
    let place ← placeOf commands invoke target
    let x := (← place.get).toNumber
    place.set (.number (x + amount))
    return .number (if valueBefore then x else x + amount)
  | .call name args => do
    let args ← argumentsOf commands invoke args
    invoke name args
  | .builtin name args => builtin commands invoke name args
  | .read target => do
    match ← nextRecord 100000 with
    | Option.none => return .number 0.0
    | some r =>
      store commands invoke target (.given r)
      return .number 1.0
  | .readFile target name => do
    let file ← textOf (← evaluate commands invoke name)
    match ← fileSource? file with
    | Option.none => return .number (-1.0)
    | some s =>
      match ← nextLine file s with
      | Option.none => return .number 0.0
      | some r =>
        store commands invoke target (.given r)
        return .number 1.0
  | .readCommand target command => do
    let line ← textOf (← evaluate commands invoke command)
    let s ← commandSource commands line
    match ← nextLine line s with
    | Option.none => return .number 0.0
    | some r =>
      store commands invoke target (.given r)
      count "NR"
      return .number 1.0
  | .list es => do
    let vs ← evaluateAll commands invoke es
    match vs with
    | [v] => return v
    | vs => return .text (← keyOf vs).text

/-- Evaluates expressions in their order. -/
def evaluateAll (commands : Commands) (invoke : Invoke) : List Expr → Eval (List Value)
  | [] => return []
  | e :: es => do
    let v ← evaluate commands invoke e
    return v :: (← evaluateAll commands invoke es)

/-- The place that an expression stands for. -/
def placeOf (commands : Commands) (invoke : Invoke) : Expr → Eval Place
  | .variable name => return .variable name
  | .item array keys => do
    return .item array (← keyOf (← evaluateAll commands invoke keys))
  | .field e => do
    return .field (Value.integer (← evaluate commands invoke e).toNumber)
  | _ => return .none

/-- Stores what was read in a target, or as the record. -/
def store (commands : Commands) (invoke : Invoke) (target : Option Expr) (v : Value) : Eval Unit :=
  match target with
  | Option.none => setRecord v
  | some e => do
    (← placeOf commands invoke e).set v

/-- The regular expression that an expression stands for. -/
def regexOf (commands : Commands) (invoke : Invoke) : Expr → Eval Regex
  | .regex r => return r
  | e => do
    patternOf (← evaluate commands invoke e)

/-- The arguments of a routine. -/
def argumentsOf (commands : Commands) (invoke : Invoke) : List Expr → Eval (List Argument)
  | [] => return []
  | .variable name :: es => do
    let value ← variable_ name
    let key ← tableName name
    return { value, table := some key } :: (← argumentsOf commands invoke es)
  | e :: es => do
    let value ← evaluate commands invoke e
    return { value } :: (← argumentsOf commands invoke es)

/-- Calls a function that every program has. -/
def builtin (commands : Commands) (invoke : Invoke) (name : Octets) : List Expr → Eval Value
  | [] => do
    if name = "length" then return .ofNat (← textOf (← record)).length
    else plainCall commands name []
  | .variable v :: [] => do
    if name = "length" then
      let t ← table v
      if t.items.isEmpty then plainCall commands name [← variable_ v]
      else return .ofNat t.items.size
    else plainCall commands name [← variable_ v]
  | [e] => do
    plainCall commands name [← evaluate commands invoke e]
  | e :: f :: es => do
    if name = "split" then
      let s ← textOf (← evaluate commands invoke e)
      let separator ← match es with
        | [] => separatorOf (← variableText "FS")
        | .regex r :: _ => pure (.expression r)
        | g :: _ => do separatorOf (← textOf (← evaluate commands invoke g))
      let pieces := separator.split s
      match f with
      | .variable a => setTable a (Table.ofPieces pieces)
      | _ => pure ()
      return .ofNat pieces.length
    else if name = "match" then
      let s ← textOf (← evaluate commands invoke e)
      let r ← regexOf commands invoke f
      let found := Regex.find s.toList.toArray r 0
      let start : Nat := found.elim 0 (·.start + 1)
      let length : Float := match found with
        | some g => (g.stop - g.start).toFloat
        | Option.none => -1.0
      setVariable "RSTART" (.ofNat start)
      setVariable "RLENGTH" (.number length)
      return .ofNat start
    else if name = "sub" || name = "gsub" then
      let r ← regexOf commands invoke e
      let replacement ← textOf (← evaluate commands invoke f)
      let place ← match es with
        | [] => pure (Place.field 0)
        | g :: _ => placeOf commands invoke g
      let s ← textOf (← place.get)
      let (text, count) := replaced r replacement (name = "gsub") s
      if count ≠ 0 then place.set (.text text)
      return .ofNat count
    else
      let v ← evaluate commands invoke e
      let w ← evaluate commands invoke f
      let vs ← evaluateAll commands invoke es
      plainCall commands name (v :: w :: vs)

end

/-! ### Statements -/

/-- The most rounds of a loop. -/
def maxRounds : Nat := 5000000

/-- A round of a loop; tells whether the loop goes on. -/
def roundOf (body : Eval Unit) : Eval Bool :=
  tryCatch (do
    body
    return true)
    fun j =>
      match j with
      | .break_ => return false
      | .continue_ => return true
      | j => throw j

/-- Goes round as long as a step says so. -/
def rounds (step : Eval Bool) : Eval Unit :=
  Shell.iterate
    (fun (_ : Unit) => do
      if ← step then return .inl () else return .inr ())
    (outside (throw .endless)) maxRounds ()

/-- Prints to where a statement says. -/
def deliver (commands : Commands) (invoke : Invoke) (target : Option (Sink × Expr)) (s : Octets) :
    Eval Unit := do
  match target with
  | Option.none => print s
  | some (sink, e) =>
    let name ← textOf (← evaluate commands invoke e)
    printTo (sink == .command) (sink == .append) name s

mutual

/-- Runs a statement. -/
def execute (commands : Commands) (invoke : Invoke) : Statement → Eval Unit
  | .nothing => return
  | .print [] target => do
    let s ← textOf (← record)
    deliver commands invoke target (s ++ (← variableText "ORS"))
  | .print es target => do
    let vs ← evaluateAll commands invoke es
    deliver commands invoke target (← printedText vs)
  | .printBy es target => do
    let es := match es with
      | [.list es] => es
      | es => es
    let vs ← evaluateAll commands invoke es
    deliver commands invoke target (← formattedText target.isNone "printf" vs)
  | .run e => do
    let _ ← evaluate commands invoke e
  | .branch condition yes no => do
    if (← evaluate commands invoke condition).isTrue then execute commands invoke yes
    else execute commands invoke no
  | .whileTrue condition body =>
    rounds do
      if (← evaluate commands invoke condition).isTrue then
        roundOf (execute commands invoke body)
      else return false
  | .doWhile body condition =>
    rounds do
      if ← roundOf (execute commands invoke body) then
        return (← evaluate commands invoke condition).isTrue
      else return false
  | .loop start condition step body => do
    match start with
    | some e =>
      let _ ← evaluate commands invoke e
    | Option.none => pure ()
    rounds do
      let goesOn ← match condition with
        | some e => do pure (← evaluate commands invoke e).isTrue
        | Option.none => pure true
      if !goesOn then return false
      else if ← roundOf (execute commands invoke body) then
        match step with
        | some e =>
          let _ ← evaluate commands invoke e
          return true
        | Option.none => return true
      else return false
  | .each name array body => do
    let t ← table array
    setTable array t.linked
    let keys := t.keys
    Shell.iterate
      (fun (keys : List Octets) => do
        match keys with
        | [] => return .inr ()
        | k :: keys =>
          setVariable name (.given k)
          if ← roundOf (execute commands invoke body) then return .inl keys else return .inr ())
      (return ()) (keys.length + 1) keys
  | .block statements => executeAll commands invoke statements
  | .next => throw .next
  | .nextFile => throw .nextFile
  | .exit status => do
    match status with
    | some e =>
      let n := Value.integer (← evaluate commands invoke e).toNumber
      change fun e => { e with status := (n % 256).toNat }
    | Option.none => pure ()
    throw .exit
  | .return_ value => do
    match value with
    | some e => throw (.return_ (← evaluate commands invoke e))
    | Option.none => throw (.return_ .unset)
  | .break_ => throw .break_
  | .continue_ => throw .continue_
  | .delete array keys => do
    let key ← keyOf (← evaluateAll commands invoke keys)
    setTable array ((← table array).erase key)
  | .deleteAll array => setTable array {}

/-- Runs statements in their order. -/
def executeAll (commands : Commands) (invoke : Invoke) : List Statement → Eval Unit
  | [] => return
  | s :: ss => do
    execute commands invoke s
    executeAll commands invoke ss

end

/-! ### Routines -/

/-- How deep routines may call one another. -/
def deepestCall : Nat := 1000

/-- Runs a routine, with calls nested no deeper than told. -/
def invokeOf (commands : Commands) (p : Program) : Nat → Invoke
  | 0 => fun _ _ => fatal "function call nesting too deep"
  | depth + 1 => fun name args => do
    match p.routines.find? (·.name = name) with
    | Option.none => fatal s!"function {name} never defined"
    | some r =>
      let before ← engine
      let locals := r.parameters.zipIdx.map fun (parameter, i) =>
        let fresh := s!"#{before.nextTable + i}"
        match args[i]? with
        | some a => { name := parameter, value := a.value, table := a.table.getD fresh : Local }
        | Option.none => { name := parameter, value := .unset, table := fresh }
      change fun e => { e with locals, nextTable := before.nextTable + r.parameters.length }
      let value ← tryCatch
        (do
          execute commands (invokeOf commands p depth) r.body
          return Value.unset)
        fun j =>
          match j with
          | .return_ v => return v
          | j => throw j
      let forget (e : Engine) : Std.HashMap Octets Table :=
        (List.range r.parameters.length).foldl
          (fun ts i => ts.erase s!"#{before.nextTable + i}") e.tables
      change fun e =>
        { e with locals := before.locals, nextTable := before.nextTable, tables := forget e }
      return value

/-! ### Programs -/

/-- A rule selects the record. -/
def selects (commands : Commands) (invoke : Invoke) : Selector → Eval Bool
  | .all => return true
  | .one e => do
    return (← evaluate commands invoke e).isTrue
  | .range number first last => do
    let isActive := (← engine).active.contains number
    let starts ← if isActive then pure true
      else do pure (← evaluate commands invoke first).isTrue
    if starts then
      let ends := (← evaluate commands invoke last).isTrue
      change fun e =>
        let others := e.active.filter (· ≠ number)
        { e with active := if ends then others else number :: others }
    return starts

/-- Runs the rules on the record. -/
def executeRules (commands : Commands) (invoke : Invoke) : List Rule → Eval Unit
  | [] => return
  | r :: rules => do
    if ← selects commands invoke r.selector then execute commands invoke r.body
    executeRules commands invoke rules

/-- Runs the rules on all records. -/
def executeRecords (commands : Commands) (invoke : Invoke) (rules : List Rule) : Eval Unit :=
  rounds do
    match ← nextRecord 100000 with
    | Option.none => return false
    | some r =>
      setRecord (.given r)
      tryCatch (do
        executeRules commands invoke rules
        return true)
        fun j =>
          match j with
          | .next => return true
          | .nextFile => do
            change fun e => { e with current := Option.none }
            return true
          | j => throw j

/-- Runs a program; what it prints at its end comes last. -/
def executeProgram (commands : Commands) (p : Program) : Eval Unit := do
  let invoke := invokeOf commands p deepestCall
  let untilExit (act : Eval Unit) : Eval Bool :=
    tryCatch (do
      act
      return true)
      fun j =>
        match j with
        | .exit => return false
        | j => throw j
  let goesOn ← untilExit (executeAll commands invoke p.starts)
  if goesOn && !(p.rules.isEmpty && p.ends.isEmpty) then
    let _ ← untilExit (executeRecords commands invoke p.rules)
  let _ ← untilExit (executeAll commands invoke p.ends)
  closeAll commands
  flush

/-- The variables that a run starts with. -/
def initialVariables : List (Octets × Value) :=
  [("FS", .text " "), ("OFS", .text " "), ("ORS", .text "\n"), ("RS", .text "\n"),
    ("SUBSEP", .text "\x1c"), ("CONVFMT", .text "%.6g"), ("OFMT", .text "%.6g"),
    ("NR", .number 0.0), ("FNR", .number 0.0), ("RSTART", .number 0.0), ("RLENGTH", .number (-1.0)),
    ("FILENAME", .text "")]

/-- A run that has not started. -/
def Engine.initial (name : Octets) (arguments : List Octets)
    (environment : List (Octets × Octets)) : Engine :=
  let argv := ((name :: arguments).zipIdx).foldl
    (fun (t : Table) (a, i) => t.set ⟨toString i, some i⟩ (.given a)) {}
  let environ := environment.foldl (fun (t : Table) (n, v) => t.set ⟨n, Option.none⟩ (.given v)) {}
  { name
    bindings := Std.HashMap.ofList
      (initialVariables ++ [("ARGC", .ofNat (arguments.length + 1))])
    tables := Std.HashMap.ofList [("ARGV", argv), ("ENVIRON", environ)] }

/-- Runs a program from a state. -/
def runProgram (commands : Commands) (p : Program) (e : Engine) : Shell.Act Nat := do
  let (r, e) ← ((executeProgram commands p).run).run e
  match r with
  | .error (.fatal message) =>
    let finish : Eval Unit := flush
    let _ ← (finish.run).run e
    Shell.Act.tell s!"{e.name}: {message}\n"
    return 2
  | _ => return e.status

end

end Mender.Records
