import Std.Data.HashMap
import Mender.Number.Layout
import Mender.Shell.Numeral

/-!
# Values of programs over records

A value is a number or a text. A text that came from outside counts as a number where it looks like
one, and a variable that was never set is both zero and empty. A format prints values.
-/

namespace Mender.Records

/-- A value. -/
inductive Value where
  | unset
  | number (x : Float)
  | text (s : Octets)
  /-- A text from outside. -/
  | given (s : Octets)

namespace Value

/-- A number in hexadecimal digits, and what follows it. -/
def readHexadecimal? (negative : Bool) : List Char → Option (Float × List Char)
  | '0' :: x :: d :: cs =>
    if (x == 'x' || x == 'X') && Shell.Numeral.isDigit 16 d then
      let digits := (d :: cs).takeWhile (Shell.Numeral.isDigit 16)
      let n := Binary64.ofDecimal negative (Shell.Numeral.digitsValue 16 digits) 0
      some (n, (d :: cs).drop digits.length)
    else none
  | _ => none

/-- The number at the start of a text, and what follows it. -/
def readNumber (cs : List Char) : Float × List Char :=
  let start := cs.dropWhile Octets.isSpace
  let (negative, digits) := match start with
    | '-' :: ds => (true, ds)
    | '+' :: ds => (false, ds)
    | ds => (false, ds)
  match readHexadecimal? negative digits with
  | some r => r
  | none => Shell.Numeral.readReal cs

/-- A text looks like a number. -/
def looksNumeric (s : Octets) : Bool :=
  let cs := s.toList.dropWhile Octets.isSpace
  let startsWell : Bool := cs.head?.any fun c => c.isDigit || c == '.' || c == '+' || c == '-'
  let (_, rest) := readNumber cs
  startsWell && rest.length < cs.length && rest.all Octets.isSpace

/-- A value as a number. -/
def toNumber : Value → Float
  | .unset => 0.0
  | .number x => x
  | .text s => (readNumber s.toList).1
  | .given s => (readNumber s.toList).1

/-- The value is a number. -/
def isNumber : Value → Bool
  | .unset => true
  | .number _ => true
  | .text _ => false
  | .given s => looksNumeric s

/-- The value counts as true. -/
def isTrue : Value → Bool
  | .unset => false
  | .number x => x != 0.0
  | .text s => !s.isEmpty
  | .given s => if looksNumeric s then (readNumber s.toList).1 != 0.0 else !s.isEmpty

/-- The whole number that a number is, if it is one that can be written in 64 bits. -/
def whole? (x : Float) : Option Int :=
  if Binary64.isNaN x || Binary64.isInfinite x then none
  else if x < -9223372036854775808.0 || 18446744073709551616.0 < x then none
  else
    let n := Binary64.floor x
    if x.floor == x then some n else none

/-- The integer part of a number, within the bounds of 64 bits. -/
def integer (x : Float) : Int :=
  if Binary64.isNaN x then -9223372036854775808
  else if x ≤ -9223372036854775808.0 then -9223372036854775808
  else if 18446744073709551615.0 ≤ x then 18446744073709551615
  else if x < 0.0 then -(Binary64.floor (-x)) else Binary64.floor x

/-- A number in the layout of a format with one directive. -/
def formatNumber (format : Octets) (x : Float) : Octets :=
  let cs := format.toList
  let lead := cs.takeWhile (· != '%')
  let (l, rest) := ({} : Layout).takeFlags (cs.drop (lead.length + 1))
  let width := rest.takeWhile Char.isDigit
  let rest := rest.drop width.length
  let (precision, rest) : Option Nat × List Char := match rest with
    | '.' :: rest =>
      let digits := rest.takeWhile Char.isDigit
      (some (Octets.value digits), rest.drop digits.length)
    | rest => (none, rest)
  match rest with
  | [] => format
  | c :: rest =>
    let l := { l with width := Octets.value width, precision }
    let shown :=
      if c = 'd' || c = 'i' then l.whole 'd' (integer x < 0) (integer x).natAbs
      else l.double c x
    String.ofList (lead ++ shown ++ rest)

/-- A number as a text: a whole number in its digits, any other by a format. -/
def numberText (format : Octets) (x : Float) : Octets :=
  match whole? x with
  | some n => toString (min n 18446744073709551615)
  | none => if Binary64.isNaN x then "-nan" else formatNumber format x

/-- A value as a text. -/
def toText (format : Octets) : Value → Octets
  | .unset => ""
  | .number x => numberText format x
  | .text s => s
  | .given s => s

/-- How two values compare: as numbers when both are, else as texts. There is no order with what is
not a number. -/
def compare (format : Octets) (a b : Value) : Option Ordering :=
  if a.isNumber && b.isNumber then
    let x := a.toNumber
    let y := b.toNumber
    if x < y then some .lt else if y < x then some .gt else if x == y then some .eq else none
  else
    let s := a.toText format
    let t := b.toText format
    some (if s = t then .eq else if s < t then .lt else .gt)

/-- What is true or false as a number. -/
def ofBool (b : Bool) : Value :=
  .number (if b then 1.0 else 0.0)

/-- A natural number. -/
def ofNat (n : Nat) : Value :=
  .number n.toFloat

end Value

/-!
## Formats of programs over records

What a format prints with some values: text as it stands, and a value for each directive.
-/

/-- Why a format cannot be followed. -/
inductive FormatFault where
  | tooFew
  /-- The directive of this number is none. -/
  | improper (number : Nat)
  deriving DecidableEq, Repr

/-- A number in a conversion of whole numbers. -/
def wholeNumber (l : Layout) (conversion : Char) (x : Float) : List Char :=
  let n := Value.integer x
  if conversion = 'd' || conversion = 'i' then l.whole 'd' (n < 0) n.natAbs
  else l.whole conversion false (n % 18446744073709551616).toNat

/-- The character that a value stands for. -/
def characterOf (v : Value) : Char :=
  let ofText (s : Octets) : Char := s.toList.headD '\x00'
  match v with
  | .number x => Char.ofNat ((Value.integer x) % 256).toNat
  | .unset => '\x00'
  | .text s => ofText s
  | .given s =>
    if v.isNumber then Char.ofNat ((Value.integer v.toNumber) % 256).toNat else ofText s

/-- A width or a precision, which may be a value. -/
def takeCount (vs : List Value) : List Char → Except FormatFault (Int × List Value × List Char)
  | '*' :: cs =>
    match vs with
    | v :: vs => .ok (Value.integer v.toNumber, vs, cs)
    | [] => .error .tooFew
  | cs =>
    let digits := cs.takeWhile Char.isDigit
    .ok (Octets.value digits, vs, cs.drop digits.length)

/-- Prints by a format; the text comes in reverse, also when the format cannot be followed to its
end. `number` counts the directives. -/
def printFormat (numbers : Octets) : Nat → Nat → List Value → List Char → List Char →
    List Char × Option FormatFault
  | 0, _, _, _, out => (out, none)
  | _, _, _, [], out => (out, none)
  | fuel + 1, number, vs, '%' :: '%' :: cs, out =>
    printFormat numbers fuel number vs cs ('%' :: out)
  | fuel + 1, number, vs, '%' :: cs, out =>
    let (l, rest) := ({} : Layout).takeFlags cs
    let counts : Except FormatFault (Layout × List Value × List Char) := do
      let (width, vs, rest) ← takeCount vs rest
      match rest with
      | '.' :: rest =>
        let (precision, vs, rest) ← takeCount vs rest
        return (l.withCounts width (some precision), vs, rest)
      | rest => return (l.withCounts width none, vs, rest)
    match counts with
    | .error f => (out, some f)
    | .ok (l, vs, rest) =>
      let rest := rest.dropWhile fun c => c == 'l' || c == 'h' || c == 'q'
      match rest with
      | [] => (out, some (.improper (number + 1)))
      | c :: rest =>
        if c = '%' && vs.isEmpty then (out, some .tooFew)
        else if !"cdiouxXeEfFgGs".toList.contains c then (out, some (.improper (number + 1)))
        else
          match vs with
          | [] => (out, some .tooFew)
          | v :: vs =>
            let shown :=
              if c = 's' then l.text (v.toText numbers).toList
              else if c = 'c' then { l with precision := none }.text [characterOf v]
              else if "eEfFgG".toList.contains c then l.double c v.toNumber
              else wholeNumber l c v.toNumber
            printFormat numbers fuel (number + 1) vs rest (shown.reverse ++ out)
  | fuel + 1, number, vs, c :: cs, out => printFormat numbers fuel number vs cs (c :: out)

/-- What a format prints, perhaps not to its end. -/
def formatted (numbers format : Octets) (vs : List Value) : Octets × Option FormatFault :=
  let (out, fault) := printFormat numbers (format.length + 1) 0 vs format.toList []
  (String.ofList out.reverse, fault)

/-! ## Arrays of programs over records

An array holds values under texts. A walk over an array goes through slots; which slot a key is in
follows from a hash of its bytes, and within a slot the key that was looked for last comes first.
Keys that were only used as numbers join the slots when the array is first looked at by texts.
-/

/-- An item of an array. -/
structure Item where
  value : Value
  /-- When the item came to the front of its slot, if it is in one. -/
  link : Option Nat
  /-- The key as a number. -/
  index : Int

/-- An array. -/
structure Table where
  items : Std.HashMap Octets Item := {}
  nextLink : Nat := 0
  /-- The number of slots. -/
  slots : Nat := 64
  /-- The array was looked at by texts. -/
  byTexts : Bool := false

namespace Table

/-- The hash of a text: each byte is mixed in and multiplied with a prime. -/
def hash (s : Octets) : UInt32 :=
  s.toList.foldl (fun h c => (h ^^^ UInt32.ofNat c.toNat) * 16777619) 2166136261

/-- The slot of a key. -/
def slotOf (t : Table) (key : Octets) : Nat :=
  (hash key).toNat % t.slots

/-- Puts all keys into slots. -/
def linked (t : Table) : Table :=
  if t.byTexts then t
  else
    let waiting := t.items.toList.filter fun e => e.2.link.isNone
    let place (e : Octets × Item) : Nat := (e.2.index % (t.slots : Int)).toNat
    let sorted := waiting.mergeSort fun a b =>
      place a < place b || (place a == place b && b.2.index ≤ a.2.index)
    let t := sorted.foldl
      (fun (t : Table) (key, item) =>
        { t with items := t.items.insert key { item with link := some t.nextLink }
                 nextLink := t.nextLink + 1 })
      t
    { t with byTexts := true }

/-- The most items that there are for each slot. -/
def itemsPerSlot : Nat := 12

/-- More slots when there are many items. -/
def grown (t : Table) : Table :=
  if itemsPerSlot * t.slots < t.items.size then { t with slots := 2 * t.slots } else t

/-- A key: a text, or the text of a whole number. -/
structure Key where
  text : Octets
  index : Option Int := none

/-- Looks a key up; a text comes to the front of its slot. -/
def find? (t : Table) (key : Key) : Option Value × Table :=
  match key.index with
  | some _ => ((t.items[key.text]?).map (·.value), t)
  | none =>
    let t := t.linked
    match t.items[key.text]? with
    | some item =>
      (some item.value,
        { t with items := t.items.insert key.text { item with link := some t.nextLink }
                 nextLink := t.nextLink + 1 })
    | none => (none, t)

/-- Sets the value under a key. -/
def set (t : Table) (key : Key) (value : Value) : Table :=
  match t.items[key.text]? with
  | some item => { t with items := t.items.insert key.text { item with value } }
  | none =>
    let t := if key.index.isSome then t else t.linked
    let link := if t.byTexts then some t.nextLink else none
    grown { t with
      items := t.items.insert key.text { value, link, index := key.index.getD 0 }
      nextLink := t.nextLink + 1 }

/-- Removes a key. An array without keys is as if it were new. -/
def erase (t : Table) (key : Key) : Table :=
  let items := t.items.erase key.text
  if items.isEmpty then {} else { t with items }

/-- The keys in the order of a walk. -/
def keys (t : Table) : List Octets :=
  let t := t.linked
  let placed := t.items.toList.map fun (key, item) => (t.slotOf key, item.link.getD 0, key)
  let sorted := placed.mergeSort fun a b => a.1 < b.1 || (a.1 == b.1 && b.2.1 ≤ a.2.1)
  sorted.map (·.2.2)

/-- An array of texts under the numbers from one on. -/
def ofPieces (pieces : List Octets) : Table :=
  (pieces.zipIdx 1).foldl
    (fun t (s, i) => t.set ⟨toString i, some i⟩ (.given s)) {}

end Table

end Mender.Records
