import Mender.Failure
import Mender.Number.Layout
import Mender.Pattern.Build
import Mender.Text.Printable

/-!
# Log records as text

A record is laid out by a template: a percent sign, the name of a field in parentheses, how it is
laid out, and the conversion. The text is coloured by the level of the record.
-/

namespace Mender.LogText

/-- A log record. -/
structure Record where
  logger : String
  level : Int
  message : String
  deriving DecidableEq, Repr

/-- The levels with their names and colours. -/
def levels : List (Int × String × String) :=
  [(10, "DEBUG", "\x1b[36m"), (20, "INFO", "\x1b[32m"), (30, "WARNING", "\x1b[33m"),
   (40, "ERROR", "\x1b[31m"), (50, "CRITICAL", "\x1b[31;1m")]

/-- What ends a colour. -/
def reset : String := "\x1b[0m"

/-- The name of a level. -/
def levelName (level : Int) : String :=
  match levels.find? (·.1 = level) with
  | some (_, name, _) => name
  | none => if level = 0 then "NOTSET" else s!"Level {level}"

/-- Other names of levels. -/
def otherNames : List (String × Int) :=
  [("WARN", 30), ("FATAL", 50), ("NOTSET", 0)]

/-- The level of a name. -/
def levelOf? (name : String) : Option Int :=
  match levels.find? (·.2.1 = name) with
  | some (level, _) => some level
  | none => (otherNames.find? (·.1 = name)).map (·.2)

/-- The value of a field. -/
inductive Value where
  | text (s : String)
  | number (n : Int)
  /-- A value that can only be shown, with the name of its sort. -/
  | other (shown sort : String)
  deriving DecidableEq, Repr

/-- A field that says nothing. -/
def Value.missing : Value := .other "None" "NoneType"

/-- The name of the sort of a value. -/
def Value.sort : Value → String
  | .text _ => "str"
  | .number _ => "int"
  | .other _ sort => sort

/-- A value as plain text. -/
def Value.plain : Value → String
  | .text s => s
  | .number n => toString n
  | .other shown _ => shown

/-- A value as it is written in code. -/
def Value.written : Value → String
  | .text s => Text.quoted s
  | v => v.plain

/-- The fields of a record. A record knows where it was made only by the name of a file. -/
def Record.fields (r : Record) : List (String × Value) :=
  [("name", .text r.logger), ("msg", .text r.message), ("args", .other "()" "tuple"),
    ("levelname", .text (levelName r.level)), ("levelno", .number r.level),
    ("pathname", .text "p"), ("filename", .text "p"), ("module", .text "p"),
    ("exc_info", .missing), ("exc_text", .missing), ("stack_info", .missing),
    ("lineno", .number 1), ("funcName", .missing), ("threadName", .text "MainThread"),
    ("processName", .text "MainProcess"), ("message", .text r.message)]

/-- All fields together, as the value of a conversion that names none. -/
def whole : Value := .other "" "dict"

/-- A field followed by a layout and a conversion. -/
def fieldShape : Pattern :=
  let number : Pattern := .alt (.one (· == '*')) .digits
  .concat [.text "%(", .wordRun, .text ")", .many (Pattern.among "#0+ -") 0, .opt number,
    .opt (.seq (.text ".") number),
    .one fun c => c == '%' || "diouxefgcrsa".toList.any fun x => Pattern.sameLetter x c]

/-- A template has to show a field. -/
def checked (template : String) : Except Failure Unit :=
  if fieldShape.occursIn template then .ok ()
  else .error ⟨.value, s!"Invalid format '{template}' for '%' style"⟩

/-- Characters outside ASCII are written by their code points. -/
def asciiOnly (s : String) : String :=
  String.ofList (s.toList.flatMap fun c =>
    if c.toNat < 128 then [c]
    else if c.toNat < 256 then '\\' :: 'x' :: Text.hexPadded 2 c.toNat
    else if c.toNat < 65536 then '\\' :: 'u' :: Text.hexPadded 4 c.toNat
    else '\\' :: 'U' :: Text.hexPadded 8 c.toNat)

/-- An integer in a base, which is marked if the layout says so. -/
def integer (l : Layout) (conversion : Char) (n : Int) : List Char :=
  let base := if conversion = 'o' then 8 else if conversion.toLower = 'x' then 16 else 10
  let mark := if l.marked && base ≠ 10 then ['0', conversion] else []
  let digits := Nat.toDigits base n.natAbs
  let digits := if conversion = 'X' then digits.map Char.toUpper else digits
  l.number (l.sign (n < 0)) mark (l.withZeros digits) l.zeros

/-- The failure of a conversion that wants a number. -/
def wantsNumber (conversion : Char) (v : Value) : Failure :=
  let wanted := if conversion = 'o' || conversion.toLower = 'x' then "an integer"
    else "a real number"
  ⟨.wrongType, s!"%{conversion} format: {wanted} is required, not {v.sort}"⟩

/-- A single character from a value. -/
def character (v : Value) : Except Failure Char :=
  match v with
  | .text s =>
    match s.toList with
    | [c] => .ok c
    | _ => .error ⟨.wrongType, "%c requires int or char"⟩
  | .number n =>
    if 0 ≤ n ∧ n < 1114112 then .ok (Char.ofNat n.toNat)
    else .error ⟨.overflow, "%c arg not in range(0x110000)"⟩
  | .other _ _ => .error ⟨.wrongType, "%c requires int or char"⟩

/-- A value in a conversion; `index` is the place of the conversion in the template. -/
def convert (l : Layout) (conversion : Char) (index : Nat) (v : Value) :
    Except Failure (List Char) := do
  if conversion = 's' then return l.text v.plain.toList
  else if conversion = 'r' then return l.text v.written.toList
  else if conversion = 'a' then return l.text (asciiOnly v.written).toList
  else if conversion = 'c' then return { l with precision := none }.text [← character v]
  else if "diouxX".toList.contains conversion then
    match v with
    | .number n => return integer l conversion n
    | v => .error (wantsNumber conversion v)
  else if "eEfFgG".toList.contains conversion then
    match v with
    | .number n => return l.double conversion (← liftNumber (Arithmetic.ofInt n))
    | v => .error ⟨.wrongType, s!"must be real number, not {v.sort}"⟩
  else
    let shown := if 31 ≤ conversion.toNat && conversion.toNat < 126 then conversion else '?'
    let code := String.ofList (Nat.toDigits 16 conversion.toNat)
    .error ⟨.value, s!"unsupported format character '{shown}' (0x{code}) at index {index}"⟩

/-- The template ends inside a field. -/
def incomplete : Failure := ⟨.value, "incomplete format"⟩

/-- Nothing is left to be shown. -/
def exhausted : Failure := ⟨.wrongType, "not enough arguments for format string"⟩

/-- Takes the name of a field up to the parenthesis that closes it; parentheses nest. -/
def takeName : Nat → List Char → List Char → Option (List Char × List Char)
  | _, _, [] => none
  | depth, seen, c :: cs =>
    if c = ')' then
      match depth with
      | 0 => some (seen.reverse, cs)
      | depth + 1 => takeName depth (c :: seen) cs
    else takeName (if c = '(' then depth + 1 else depth) (c :: seen) cs

/-- A number in a layout: its digits, or a star for a value that is still to be shown. -/
def takeNumber (pending : Option Value) (limit : Nat) (tooLong : Failure) (cs : List Char) :
    Except Failure (Option Nat × Option Value × List Char) :=
  match cs with
  | '*' :: rest =>
    match pending with
    | none => .error exhausted
    | some (.number n) => .ok (some n.natAbs, none, rest)
    | some _ => .error ⟨.wrongType, "* wants int"⟩
  | cs =>
    let digits := cs.takeWhile Char.isDigit
    let n := (String.ofList digits).toNat?
    if n.any (limit < ·) then .error tooLong else .ok (n, pending, cs.drop digits.length)

/-- Reads a conversion after its percent sign and shows it. The record is left to be shown until a
conversion takes it; a field that is named takes its place. -/
def showConversion (r : Record) (pending : Option Value) (length : Nat) (cs : List Char) :
    Except Failure (List Char × Option Value × List Char) := do
  let (pending, cs) ← match cs with
    | '(' :: rest =>
      match takeName 0 [] rest with
      | none => .error ⟨.value, "incomplete format key"⟩
      | some (name, rest) =>
        match r.fields.find? (·.1 = String.ofList name) with
        | some (_, v) => .ok (some v, rest)
        | none =>
          let key := Text.quoted (String.ofList name)
          .error ⟨.value, s!"Formatting field not found in record: {key}"⟩
    | cs => .ok (pending, cs)
  let (l, cs) := ({} : Layout).takeFlags cs
  let (width, pending, cs) ←
    takeNumber pending 9223372036854775807 ⟨.value, "width too big"⟩ cs
  let (precision, pending, cs) ← match cs with
    | '.' :: rest => do
      let (n, pending, rest) ← takeNumber pending 2147483647 ⟨.value, "precision too big"⟩ rest
      pure (some (n.getD 0), pending, rest)
    | cs => .ok (none, pending, cs)
  let cs := if cs.head?.any fun c => c == 'h' || c == 'l' || c == 'L' then cs.tail else cs
  match cs with
  | [] => .error incomplete
  | '%' :: rest => return (['%'], pending, rest)
  | conversion :: rest =>
    match pending with
    | none => .error exhausted
    | some v =>
      let l := { l with width := width.getD 0, precision }
      return (← convert l conversion (length - rest.length - 1) v, none, rest)

/-- Lays a record out by a template of a length, in at most `fuel` steps. -/
def layOut (r : Record) (length : Nat) : Nat → Option Value → List Char → Except Failure (List Char)
  | 0, _, _ => .ok []
  | _, _, [] => .ok []
  | fuel + 1, pending, '%' :: cs => do
    let (shown, pending, rest) ← showConversion r pending length cs
    return shown ++ (← layOut r length fuel pending rest)
  | fuel + 1, pending, c :: cs => do
    return c :: (← layOut r length fuel pending cs)

/-- A record in the layout of a template. -/
def plain (template : String) (r : Record) : Except Failure String := do
  let cs := template.toList
  return String.ofList (← layOut r cs.length (cs.length + 1) (some whole) cs)

/-- A record in the layout of a template and in the colour of its level. -/
def coloured (template : String) (r : Record) : Except Failure String := do
  let text ← plain template r
  match levels.find? (·.1 = r.level) with
  | some (_, _, colour) => return colour ++ text ++ reset
  | none => return text

/-- Records in the layout of a template; an empty template shows the messages alone. -/
def colouredAll (template : String) (records : List Record) : Except Failure (List String) := do
  let template := if template.isEmpty then "%(message)s" else template
  checked template
  records.mapM (coloured template)

end Mender.LogText
