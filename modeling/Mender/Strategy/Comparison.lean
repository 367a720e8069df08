/-!
# Comparison operators in a line

Finding the first comparison of a source line. An angle bracket is a comparison only on its own: not
as part of a shift, an arrow or a longer operator.
-/

namespace Mender

/-- The comparison operators. -/
inductive Comparison where
  | identical
  | notIdentical
  | equal
  | notEqual
  | atMost
  | atLeast
  | below
  | above
  deriving DecidableEq, Repr

namespace Comparison

/-- An operator as it is written. -/
def text : Comparison → List Char
  | .identical => ['=', '=', '=']
  | .notIdentical => ['!', '=', '=']
  | .equal => ['=', '=']
  | .notEqual => ['!', '=']
  | .atMost => ['<', '=']
  | .atLeast => ['>', '=']
  | .below => ['<']
  | .above => ['>']

/-- The operator that holds exactly when another does not. -/
def inverse : Comparison → Comparison
  | .identical => .notIdentical
  | .notIdentical => .identical
  | .equal => .notEqual
  | .notEqual => .equal
  | .atMost => .above
  | .atLeast => .below
  | .below => .atLeast
  | .above => .atMost

/-- The operator with its bound taken in or left out. -/
def shiftBound : Comparison → Comparison
  | .atMost => .below
  | .below => .atMost
  | .atLeast => .above
  | .above => .atLeast
  | c => c

/-- A bracket after one of these characters is no operator of its own. -/
def joinsBefore (bracket : Char) (previous : Option Char) : Bool :=
  previous.any fun c => c == bracket || c == '-' || c == '='

/-- A bracket before one of these characters is no operator of its own. -/
def joinsAfter (bracket : Char) (rest : List Char) : Bool :=
  rest.head?.any fun c => c == bracket || c == '='

/-- A bracket alone. -/
def bracketHere? (previous : Option Char) : List Char → Option Comparison
  | '<' :: rest =>
    if joinsBefore '<' previous || joinsAfter '<' rest then none else some .below
  | '>' :: rest =>
    if joinsBefore '>' previous || joinsAfter '>' rest then none else some .above
  | _ => none

/-- A comparison of bounds that starts here. -/
def boundHere? (previous : Option Char) : List Char → Option Comparison
  | '<' :: '=' :: _ => some .atMost
  | '>' :: '=' :: _ => some .atLeast
  | cs => bracketHere? previous cs

/-- A comparison that starts here; the longest operator wins. -/
def here? (previous : Option Char) : List Char → Option Comparison
  | '=' :: '=' :: '=' :: _ => some .identical
  | '!' :: '=' :: '=' :: _ => some .notIdentical
  | '=' :: '=' :: _ => some .equal
  | '!' :: '=' :: _ => some .notEqual
  | cs => boundHere? previous cs

/-- A test of equality that is not part of a longer operator. -/
def looseHere? (previous : Option Char) (cs : List Char) : Option Comparison :=
  if previous.any fun c => c == '=' || c == '!' || c == '<' || c == '>' then none
  else
    match cs with
    | '=' :: '=' :: rest => if rest.head? = some '=' then none else some .equal
    | '!' :: '=' :: rest => if rest.head? = some '=' then none else some .notEqual
    | _ => none

/-- The first operator of a sort, with the text before it in reverse and the text after it. -/
def findFrom (sort : Option Char → List Char → Option Comparison) (before : List Char) :
    List Char → Option (List Char × Comparison × List Char)
  | [] => none
  | c :: cs =>
    match sort before.head? (c :: cs) with
    | some op => some (before, op, (c :: cs).drop op.text.length)
    | none => findFrom sort (c :: before) cs

/-- Replaces the first operator of a sort. -/
def replaceFirst (sort : Option Char → List Char → Option Comparison)
    (new : Comparison → Comparison) (line : List Char) : Option (List Char) :=
  (findFrom sort [] line).map fun (before, op, after) =>
    before.reverse ++ (new op).text ++ after

/-- Makes every loose test of equality strict, when `skip` characters belong to the last one. -/
def tightenFrom (skip : Nat) (previous : Option Char) : List Char → List Char
  | [] => []
  | c :: cs =>
    match skip with
    | skip + 1 => tightenFrom skip (some c) cs
    | 0 =>
      match looseHere? previous (c :: cs) with
      | some op => op.text ++ '=' :: tightenFrom (op.text.length - 1) (some c) cs
      | none => c :: tightenFrom 0 (some c) cs

end Comparison

end Mender
