import Mender.Tool.Basic
import Mender.Tool.Regex

/-!
# Formulas in arguments

Each argument is a sign or an operand. A formula is evaluated while it is read, so that what is
wrong with its start is told before what is wrong with its end; a part whose value does not matter
is read only.
-/

namespace Mender

namespace Formula

/-- A value. -/
inductive Value where
  | number (n : Int)
  | text (s : Octets)
  deriving DecidableEq, Repr

namespace Value

/-- A value as it is printed. -/
def shown : Value → Octets
  | .number n => toString n
  | .text s => s

/-- A text that is a whole number. -/
def digits? (s : Octets) : Option Int :=
  let (negative, cs) := match s.toList with
    | '-' :: cs => (true, cs)
    | cs => (false, cs)
  if cs.isEmpty || !cs.all Char.isDigit then none
  else some (if negative then -(Octets.value cs : Int) else Octets.value cs)

/-- The number that a value is. -/
def number? : Value → Option Int
  | .number n => some n
  | .text s => digits? s

/-- The value is zero or says nothing. -/
def isNull : Value → Bool
  | .number n => n == 0
  | .text s =>
    let cs := s.toList
    let unsigned := if cs.head? = some '-' then cs.tail else cs
    cs.isEmpty || (!unsigned.isEmpty && unsigned.all (· == '0'))

end Value

/-- Where the reader stands: the argument before it and those that follow. -/
structure Place where
  previous : Octets := ""
  rest : List Octets

/-- Why a formula has no value. -/
abbrev Fault := Octets

/-- Reads a part of a formula; the flag says whether its value matters. -/
abbrev Rule := Bool → Place → Except Fault (Value × Place)

/-- Takes the next argument if it is one of some signs. -/
def takeSign (signs : List Octets) (p : Place) : Option (Octets × Place) :=
  match p.rest with
  | a :: rest => if signs.contains a then some (a, ⟨a, rest⟩) else none
  | [] => none

/-- Takes the next argument, which has to be there. -/
def takeArgument (p : Place) : Except Fault (Octets × Place) :=
  match p.rest with
  | a :: rest => .ok (a, ⟨a, rest⟩)
  | [] => .error s!"syntax error: missing argument after {Naming.quoted p.previous}"

/-- Operands between signs, from left to right. The right operand matters where `needs` says so of
the left one. -/
def chain (signs : List Octets) (operand : Rule) (needs : Value → Bool)
    (join : Octets → Bool → Value → Value → Except Fault Value) : Rule := fun matters p => do
  let (v, p) ← operand matters p
  go p.rest.length matters v p
where
  /-- Reads on while there are signs. -/
  go : Nat → Bool → Value → Place → Except Fault (Value × Place)
    | 0, _, v, p => .ok (v, p)
    | fuel + 1, matters, v, p =>
      match takeSign signs p with
      | none => .ok (v, p)
      | some (sign, p) => do
        let (w, p) ← operand (matters && needs v) p
        go fuel matters (← join sign matters v w) p

/-- What a pattern matches at the start of a text: what its first group matched if it has groups,
else how many characters. -/
def matched (text pattern : Value) : Except Fault Value := do
  match Regex.read {} pattern.shown with
  | .error f => .error f.text
  | .ok (r, groups) =>
    let t := text.shown.toList.toArray
    match (Regex.endsFrom t r 0).head? with
    | some stop =>
      if groups = 0 then return .number stop
      else return .text (String.ofList (Regex.groupTexts t r ⟨0, stop⟩ 1))
    | none => return if groups = 0 then .number 0 else .text ""

/-- The position of the first character of a text that is among others; the first position is 1. -/
def index (text members : Octets) : Nat :=
  (text.toList.findIdx? fun c => members.toList.contains c).elim 0 (· + 1)

/-- A stretch of a text. -/
def substring (text : Octets) (start length : Value) : Octets :=
  match start.number?, length.number? with
  | some i, some n =>
    if i ≤ 0 || n ≤ 0 then ""
    else String.ofList ((text.toList.drop (i.toNat - 1)).take n.toNat)
  | _, _ => ""

/-- Operands that stand alone, and what is called by its name with operands behind it. -/
def callRule (whole : Rule) : Nat → Rule
  | 0 => fun _ p => .ok (.text "", p)
  | fuel + 1 => fun matters p => do
    let operand := callRule whole fuel matters
    let (a, p) ← takeArgument p
    if a = "+" then
      let (a, p) ← takeArgument p
      return (.text a, p)
    else if a = "length" then
      let (v, p) ← operand p
      return (.number v.shown.length, p)
    else if a = "match" then
      let (v, p) ← operand p
      let (w, p) ← operand p
      return (← if matters then matched v w else pure v, p)
    else if a = "index" then
      let (v, p) ← operand p
      let (w, p) ← operand p
      return (.number (index v.shown w.shown), p)
    else if a = "substr" then
      let (v, p) ← operand p
      let (start, p) ← operand p
      let (length, p) ← operand p
      return (.text (substring v.shown start length), p)
    else if a = "(" then
      let (v, p) ← whole matters p
      match p.rest with
      | ")" :: rest => return (v, ⟨")", rest⟩)
      | b :: _ => .error s!"syntax error: expecting ')' instead of {Naming.quoted b}"
      | [] => .error s!"syntax error: expecting ')' after {Naming.quoted p.previous}"
    else if a = ")" then .error "syntax error: unexpected ')'"
    else return (.text a, p)

/-- What an operation on numbers makes of two of them. -/
def calculate (sign : Octets) (matters : Bool) (v w : Value) : Except Fault Value :=
  if !matters then .ok v
  else
    match v.number?, w.number? with
    | some m, some n =>
      if sign = "+" then .ok (.number (m + n))
      else if sign = "-" then .ok (.number (m - n))
      else if sign = "*" then .ok (.number (m * n))
      else if n = 0 then .error "division by zero"
      else if sign = "/" then .ok (.number (m.tdiv n))
      else .ok (.number (m.tmod n))
    | _, _ => .error "non-integer argument"

/-- The order of two values: as numbers when both are, else as texts. -/
def order (v w : Value) : Ordering :=
  match Value.digits? v.shown, Value.digits? w.shown with
  | some m, some n => compare m n
  | _, _ => if v.shown = w.shown then .eq else if v.shown < w.shown then .lt else .gt

/-- What a comparison says. -/
def compared (sign : Octets) (matters : Bool) (v w : Value) : Value :=
  let o := order v w
  let holds : Bool := match sign with
    | "<" => o == .lt
    | "<=" => o != .gt
    | "=" | "==" => o == .eq
    | "!=" => o != .eq
    | ">=" => o != .lt
    | _ => o == .gt
  .number (if matters && holds then 1 else 0)

/-- A whole formula, with parentheses nested no deeper than `depth`. -/
def rule : Nat → Rule
  | 0 => fun _ p => .ok (.text "", p)
  | depth + 1 => fun matters p =>
    let call := callRule (rule depth) (p.rest.length + 1)
    let always : Value → Bool := fun _ => true
    let found := chain [":"] call always fun _ matters v w => if matters then matched v w else .ok v
    let product := chain ["*", "/", "%"] found always calculate
    let sum := chain ["+", "-"] product always calculate
    let comparison := chain ["<", "<=", "=", "==", "!=", ">=", ">"] sum always
      fun sign matters v w => .ok (compared sign matters v w)
    let both := chain ["&"] comparison (!·.isNull) fun _ _ v w =>
      .ok (if v.isNull || w.isNull then .number 0 else v)
    let either := chain ["|"] both (·.isNull) fun _ _ v w =>
      .ok (if !v.isNull then v else if w.isNull then .number 0 else w)
    either matters p

/-- The value of a formula. -/
def value (arguments : List Octets) : Except Fault Value := do
  let (v, p) ← rule (arguments.length + 1) true ⟨"", arguments⟩
  match p.rest with
  | [] => return v
  | a :: _ => .error s!"syntax error: unexpected argument {Naming.quoted a}"

/-- Prints the value of a formula. The status says whether it is null. -/
def expr : Tool := fun arguments _ =>
  let arguments := if arguments.head? = some "--" then arguments.tail else arguments
  if arguments.isEmpty then
    .complaint 2 "expr: missing operand\nTry 'expr --help' for more information."
  else
    match value arguments with
    | .error f => .complaint 2 ("expr: " ++ f)
    | .ok v => (Ran.output (v.shown ++ "\n")).withStatus (if v.isNull then 1 else 0)

end Formula

end Mender
