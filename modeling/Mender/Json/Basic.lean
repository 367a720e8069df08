import Mender.Number.Decimal
import Mender.Text.Printable

/-!
# JSON values

Values of the data format in which coverage is read and reports are written. Integers are kept apart
from other numbers and have any size; the fields of an object keep the order they were first written
in.
-/

namespace Mender

/-- A JSON value. -/
inductive Json where
  | null
  | bool (b : Bool)
  | int (n : Int)
  | number (x : Float)
  | string (s : String)
  | array (items : List Json)
  | object (fields : List (String × Json))
  deriving Inhabited

namespace Json

/-- Sets a field: a new name goes to the end, a known one keeps its place. -/
def setField (name : String) (value : Json) : List (String × Json) → List (String × Json)
  | [] => [(name, value)]
  | field :: fields =>
    if field.1 = name then (name, value) :: fields else field :: setField name value fields

/-- An object without a field. -/
def without (name : String) : Json → Json
  | .object fields => .object (fields.filter (·.1 ≠ name))
  | v => v

/-- An object with a field set. -/
def set (v : Json) (name : String) (value : Json) : Json :=
  match v with
  | .object fields => .object (setField name value fields)
  | v => v

/-- The value of a field of an object. -/
def field? (name : String) : Json → Option Json
  | .object fields => (fields.find? (·.1 = name)).map (·.2)
  | _ => none

/-- The sort of a value, as messages about wrong data name it. -/
def sort : Json → String
  | .null => "NoneType"
  | .bool _ => "bool"
  | .int _ => "int"
  | .number _ => "float"
  | .string _ => "str"
  | .array _ => "list"
  | .object _ => "dict"

/-- The integer that a value is equal to; a truth value counts as one or zero. -/
def integer? : Json → Option Int
  | .int n => some n
  | .bool b => some (if b then 1 else 0)
  | .number x =>
    if Binary64.isNaN x || Binary64.isInfinite x then none
    else
      let whole := Binary64.floor x
      if (Binary64.ofInt? whole).any (· == x) then some whole else none
  | _ => none

/-- A value without parts is equal to another: numbers of different sorts by what they count. -/
def isSame (v w : Json) : Bool :=
  match v.integer?, w.integer? with
  | some m, some n => m == n
  | none, none =>
    match v, w with
    | .null, .null => true
    | .string s, .string t => s == t
    | .number x, .number y => x == y
    | _, _ => false
  | _, _ => false

/-- Values without parts, each once. -/
def eachOnce (vs : List Json) : List Json :=
  vs.foldl (fun kept v => if kept.any (isSame v) then kept else kept ++ [v]) []

/-- Characters outside printable ASCII are written by their UTF-16 units. -/
def escapeUnit (n : Nat) : List Char :=
  '\\' :: 'u' :: Text.hexPadded 4 n

/-- One character inside a JSON string, in ASCII. -/
def escapeChar (c : Char) : List Char :=
  if c == '"' then ['\\', '"']
  else if c == '\\' then ['\\', '\\']
  else if c == '\n' then ['\\', 'n']
  else if c == '\r' then ['\\', 'r']
  else if c == '\t' then ['\\', 't']
  else if c.toNat == 8 then ['\\', 'b']
  else if c.toNat == 12 then ['\\', 'f']
  else if 32 ≤ c.toNat && c.toNat < 127 then [c]
  else if c.toNat < 65536 then escapeUnit c.toNat
  else
    let rest := c.toNat - 65536
    escapeUnit (55296 + rest / 1024) ++ escapeUnit (56320 + rest % 1024)

/-- A string in quotes, in ASCII. -/
def quotedString (s : String) : String :=
  String.ofList ('"' :: s.toList.flatMap escapeChar ++ ['"'])

/-- A number that is not an integer, with names for the values that have no digits. -/
def numberText (x : Float) : String :=
  if Binary64.isNaN x then "NaN"
  else if Binary64.isInfinite x then if Binary64.isNegative x then "-Infinity" else "Infinity"
  else Decimal.text x

/-- A new line with an indentation of two spaces a level. -/
def newLine (depth : Nat) : String :=
  "\n" ++ String.ofList (List.replicate (2 * depth) ' ')

mutual
/-- The text of a value at a depth of nesting: one item a line, indented by two spaces a level. -/
def render (depth : Nat) : Json → String
  | .null => "null"
  | .bool true => "true"
  | .bool false => "false"
  | .int n => toString n
  | .number x => numberText x
  | .string s => quotedString s
  | .array [] => "[]"
  | .array (item :: items) =>
    "[" ++ newLine (depth + 1) ++ render (depth + 1) item ++ renderItems (depth + 1) items ++
      newLine depth ++ "]"
  | .object [] => "{}"
  | .object (field :: fields) =>
    String.singleton '{' ++ newLine (depth + 1) ++ quotedString field.1 ++ ": " ++
      render (depth + 1) field.2 ++ renderFields (depth + 1) fields ++ newLine depth ++
      String.singleton '}'

/-- The further items of an array, each after a comma. -/
def renderItems (depth : Nat) : List Json → String
  | [] => ""
  | item :: items => "," ++ newLine depth ++ render depth item ++ renderItems depth items

/-- The further fields of an object, each after a comma. -/
def renderFields (depth : Nat) : List (String × Json) → String
  | [] => ""
  | field :: fields =>
    "," ++ newLine depth ++ quotedString field.1 ++ ": " ++ render depth field.2 ++
      renderFields depth fields
end

end Json

end Mender
