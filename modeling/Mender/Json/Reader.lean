import Mender.Json.Basic
import Mender.Number.Integer

/-!
# Reading JSON

A reader of JSON text that says what it expected and where. `Json.read` takes a whole text; every
inner step returns how many characters are left, so positions count from the start of the text.
-/

namespace Mender.Json

/-- Why a text cannot be read. -/
inductive Unexpected where
  /-- Something is missing where so many characters are left. -/
  | missing (message : String) (left : Nat)
  /-- An integer has too many digits. -/
  | tooLong (digits : Nat)

/-- Blanks between the parts of a value. -/
def isSpace (c : Char) : Bool :=
  c == ' ' || c == '\t' || c == '\n' || c == '\r'

/-- Drops blanks. -/
def skipSpace (cs : List Char) : List Char :=
  cs.dropWhile isSpace

/-- Four hexadecimal digits with something behind them, as no text ends with an escape. -/
def hexUnit? (cs : List Char) : Option Nat :=
  let value? (c : Char) : Option Nat :=
    if c.isDigit then some (c.toNat - 48)
    else if 'a' ≤ c ∧ c ≤ 'f' then some (c.toNat - 87)
    else if 'A' ≤ c ∧ c ≤ 'F' then some (c.toNat - 55)
    else none
  if (cs.drop 4).isEmpty then none
  else (cs.take 4).foldlM (fun n c => (value? c).map (16 * n + ·)) 0

/-- The character of a short escape. -/
def shortEscape? : Char → Option Char
  | '"' => some '"'
  | '\\' => some '\\'
  | '/' => some '/'
  | 'b' => some '\x08'
  | 'f' => some '\x0c'
  | 'n' => some '\n'
  | 'r' => some '\r'
  | 't' => some '\t'
  | _ => none

/-- The character of an escape. Half of a surrogate pair stands for none by itself; it is read as
one of the private characters at the end of the last plane, so that different halves stay different.
-/
def escapedChar (unit : Nat) : Char :=
  if 0xD800 ≤ unit && unit < 0xE000 then Char.ofNat (0x10F800 + (unit - 0xD800))
  else Char.ofNat unit

/-- The inside of a string up to the closing quote; `opening` is what was left at the opening one.
The fuel bounds the number of characters and escapes. -/
def readChars (opening : Nat) : Nat → List Char → List Char → Except Unexpected (String × List Char)
  | 0, _, _ => .error (.missing "Unterminated string starting at" opening)
  | fuel + 1, read, cs =>
    match cs with
    | [] => .error (.missing "Unterminated string starting at" opening)
    | '"' :: rest => .ok (String.ofList read.reverse, rest)
    | ['\\'] => .error (.missing "Unterminated string starting at" opening)
    | '\\' :: 'u' :: rest =>
      match hexUnit? rest with
      | none => .error (.missing "Invalid \\uXXXX escape" (rest.length + 1))
      | some unit =>
        let rest := rest.drop 4
        let low? := match rest with
          | '\\' :: 'u' :: after => hexUnit? after
          | _ => none
        match low? with
        | some low =>
          if 0xD800 ≤ unit && unit < 0xDC00 && 0xDC00 ≤ low && low < 0xE000 then
            let code := 0x10000 + (unit - 0xD800) * 1024 + (low - 0xDC00)
            readChars opening fuel (Char.ofNat code :: read) (rest.drop 6)
          else readChars opening fuel (escapedChar unit :: read) rest
        | none => readChars opening fuel (escapedChar unit :: read) rest
    | '\\' :: c :: rest =>
      match shortEscape? c with
      | some e => readChars opening fuel (e :: read) rest
      | none => .error (.missing "Invalid \\escape" (rest.length + 2))
    | c :: rest =>
      if c.toNat < 32 then .error (.missing "Invalid control character at" (rest.length + 1))
      else readChars opening fuel (c :: read) rest

/-- A string, from the character after its opening quote. -/
def readString (cs : List Char) : Except Unexpected (String × List Char) :=
  readChars (cs.length + 1) (cs.length + 1) [] cs

/-- The fraction of a number with its point, if there is one. -/
def splitFraction (cs : List Char) : List Char × List Char :=
  match cs with
  | '.' :: rest => if (rest.takeWhile Char.isDigit).isEmpty then ([], cs)
    else (rest.takeWhile Char.isDigit, rest.dropWhile Char.isDigit)
  | _ => ([], cs)

/-- The exponent of a number, if there is one. -/
def splitExponent (cs : List Char) : Option Int × List Char :=
  let digits (negative : Bool) (rest : List Char) : Option Int × List Char :=
    let ds := rest.takeWhile Char.isDigit
    if ds.isEmpty then (none, cs)
    else
      let n : Nat := ds.foldl (fun n c => 10 * n + (c.toNat - 48)) 0
      (some (if negative then -(n : Int) else n), rest.dropWhile Char.isDigit)
  match cs with
  | e :: '-' :: rest => if e == 'e' || e == 'E' then digits true rest else (none, cs)
  | e :: '+' :: rest => if e == 'e' || e == 'E' then digits false rest else (none, cs)
  | e :: rest => if e == 'e' || e == 'E' then digits false rest else (none, cs)
  | [] => (none, cs)

/-- A number after its sign; nothing if there is no digit. -/
def readNumber? (negative : Bool) (cs : List Char) :
    Option (Except Unexpected (Json × List Char)) :=
  let whole := match cs with
    | '0' :: _ => ['0']
    | _ => cs.takeWhile Char.isDigit
  if whole.isEmpty then none
  else
    let fraction := splitFraction (cs.drop whole.length)
    let power := splitExponent fraction.2
    let value (digits : List Char) : Nat := digits.foldl (fun n c => 10 * n + (c.toNat - 48)) 0
    if fraction.1.isEmpty && power.1.isNone then
      if Integer.maxDigits < whole.length then some (.error (.tooLong whole.length))
      else
        let n : Int := value whole
        some (.ok (.int (if negative then -n else n), power.2))
    else
      let shift := power.1.getD 0 - (fraction.1.length : Int)
      let x := Binary64.ofDecimal negative (value (whole ++ fraction.1)) shift
      some (.ok (.number x, power.2))

/-- A word or a number. -/
def readAtom (cs : List Char) : Except Unexpected (Json × List Char) :=
  let word? (w : String) (v : Json) : Option (Except Unexpected (Json × List Char)) :=
    if w.toList.isPrefixOf cs then some (.ok (v, cs.drop w.length)) else none
  let number? := match cs with
    | '-' :: rest => readNumber? true rest
    | _ => readNumber? false cs
  let found := (word? "null" .null).orElse fun _ => (word? "true" (.bool true)).orElse fun _ =>
    (word? "false" (.bool false)).orElse fun _ =>
    (word? "NaN" (.number (0.0 / 0.0))).orElse fun _ =>
    (word? "Infinity" (.number (Binary64.infinity false))).orElse fun _ =>
    (word? "-Infinity" (.number (Binary64.infinity true))).orElse fun _ => number?
  match found with
  | some step => step
  | none => .error (.missing "Expecting value" cs.length)

mutual
/-- A value. The fuel bounds the number of steps and is never used up by a text of its length. -/
def readValue : Nat → List Char → Except Unexpected (Json × List Char)
  | 0, cs => .error (.missing "Expecting value" cs.length)
  | fuel + 1, cs =>
    match cs with
    | '"' :: rest => do
      let (s, rest) ← readString rest
      return (.string s, rest)
    | '[' :: rest =>
      match skipSpace rest with
      | ']' :: rest => .ok (.array [], rest)
      | rest => readItems fuel [] rest
    | '{' :: rest =>
      match skipSpace rest with
      | '}' :: rest => .ok (.object [], rest)
      | rest => readFields fuel [] rest
    | _ => readAtom cs

/-- The items of an array from the start of one, given those before it in reverse. -/
def readItems : Nat → List Json → List Char → Except Unexpected (Json × List Char)
  | 0, _, cs => .error (.missing "Expecting value" cs.length)
  | fuel + 1, read, cs => do
    let (item, rest) ← readValue fuel cs
    match skipSpace rest with
    | ']' :: rest => return (.array (item :: read).reverse, rest)
    | ',' :: rest => readItems fuel (item :: read) (skipSpace rest)
    | rest => .error (.missing "Expecting ',' delimiter" rest.length)

/-- The fields of an object from the start of one, given those before it. -/
def readFields : Nat → List (String × Json) → List Char → Except Unexpected (Json × List Char)
  | 0, _, cs => .error (.missing "Expecting value" cs.length)
  | fuel + 1, read, cs =>
    match cs with
    | '"' :: rest => do
      let (name, rest) ← readString rest
      match skipSpace rest with
      | ':' :: rest =>
        let (value, rest) ← readValue fuel (skipSpace rest)
        match skipSpace rest with
        | '}' :: rest => return (.object (setField name value read), rest)
        | ',' :: rest => readFields fuel (setField name value read) (skipSpace rest)
        | rest => .error (.missing "Expecting ',' delimiter" rest.length)
      | rest => .error (.missing "Expecting ':' delimiter" rest.length)
    | _ => .error (.missing "Expecting property name enclosed in double quotes" cs.length)
end

/-- A place in a text, by line, column and character. -/
def placeText (cs : List Char) (position : Nat) : String :=
  let before := cs.take position
  let line := before.count '\n' + 1
  let column := (before.reverse.takeWhile (· ≠ '\n')).length + 1
  s!": line {line} column {column} (char {position})"

/-- Reads a text that holds one value. -/
def read (s : String) : Except Failure Json :=
  let cs := s.toList
  let failed (e : Unexpected) : Failure :=
    match e with
    | .missing message left => ⟨.jsonSyntax, message ++ placeText cs (cs.length - left)⟩
    | .tooLong digits => Integer.tooLong digits
  match cs with
  | '\ufeff' :: _ =>
    .error (failed (.missing "Unexpected UTF-8 BOM (decode using utf-8-sig)" cs.length))
  | _ =>
    match readValue (2 * cs.length + 2) (skipSpace cs) with
    | .error e => .error (failed e)
    | .ok (value, rest) =>
      match skipSpace rest with
      | [] => .ok value
      | rest => .error (failed (.missing "Extra data" rest.length))

end Mender.Json
