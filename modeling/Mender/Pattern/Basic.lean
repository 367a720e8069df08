import Mender.Text.Blank
import Mender.Text.Digit
import Mender.Text.Word

/-!
# Text patterns

Patterns that recognise the shape of a message or of a source line. A pattern is built from classes
of characters, and only a class may be repeated, so a match is found by recursion on the pattern and
on the text. Among the ways to match, the first wins: the left branch of a choice, the longest run
of a greedy repetition, the shortest of a lazy one.
-/

namespace Mender

/-- A class of characters. -/
abbrev CharClass := Char → Bool

/-- A text pattern. -/
inductive Pattern where
  /-- Matches nothing and always succeeds. -/
  | empty
  /-- One character of a class. -/
  | one (c : CharClass)
  /-- One pattern after another. -/
  | seq (p q : Pattern)
  /-- The first pattern, or else the second. -/
  | alt (p q : Pattern)
  /-- The pattern, or else nothing. -/
  | opt (p : Pattern)
  /-- As many characters of a class as possible, but at least `least`. -/
  | many (c : CharClass) (least : Nat)
  /-- As few characters of a class as possible, but at least `least`. -/
  | few (c : CharClass) (least : Nat)
  /-- Remembers the text matched by a pattern. -/
  | group (index : Nat) (p : Pattern)
  /-- The start of the text. -/
  | textStart
  /-- The end of the text, or its last character when that is a line feed. -/
  | textEnd
  /-- The start of a line. -/
  | lineStart
  /-- The end of a line. -/
  | lineEnd
  /-- A place between a word character and another or none. -/
  | wordEdge
  /-- The next character is not of a class. -/
  | notNext (c : CharClass)
  /-- The previous character is not of a class. -/
  | notAfter (c : CharClass)

/-- A group that took part in a match so far: the text from where it starts, and its length. -/
structure Capture where
  index : Nat
  source : List Char
  length : Nat

/-- The index of a group and its text. -/
def Capture.text (c : Capture) : Nat × String :=
  (c.index, String.ofList (c.source.take c.length))

/-- A place in a text during a match. -/
structure Spot where
  previous : Option Char
  position : Nat
  rest : List Char
  captures : List Capture

/-- A match in a text. -/
structure Match where
  start : Nat
  stop : Nat
  /-- The text matched. -/
  whole : String
  /-- The groups that took part, by index. -/
  groups : List (Nat × String)
  deriving Repr, DecidableEq

/-- The text of a group that took part. -/
def Match.group? (m : Match) (index : Nat) : Option String :=
  (m.groups.find? (·.1 = index)).map (·.2)

namespace Pattern

/-- The longest run first. -/
def runMany {β : Type} (c : CharClass) (k : Option Char → Nat → List Char → Option β) :
    Nat → Option Char → Nat → List Char → Option β
  | least, previous, position, [] => if least = 0 then k previous position [] else none
  | least, previous, position, x :: xs =>
    let stop (_ : Unit) := if least = 0 then k previous position (x :: xs) else none
    if c x then (runMany c k (least - 1) (some x) (position + 1) xs).orElse stop else stop ()

/-- The shortest run first. -/
def runFew {β : Type} (c : CharClass) (k : Option Char → Nat → List Char → Option β) :
    Nat → Option Char → Nat → List Char → Option β
  | least, previous, position, [] => if least = 0 then k previous position [] else none
  | least, previous, position, x :: xs =>
    let more (_ : Unit) :=
      if c x then runFew c k (least - 1) (some x) (position + 1) xs else none
    if least = 0 then (k previous position (x :: xs)).orElse more else more ()

/-- A word character stands on one side only. -/
def atWordEdge (s : Spot) : Bool :=
  s.previous.any Text.isWord != s.rest.head?.any Text.isWord

/-- Matches a pattern at a spot and goes on from where it ends. -/
def run {β : Type} : Pattern → Spot → (Spot → Option β) → Option β
  | empty, s, k => k s
  | one c, s, k =>
    match s.rest with
    | [] => none
    | x :: xs => if c x then k ⟨some x, s.position + 1, xs, s.captures⟩ else none
  | seq p q, s, k => p.run s fun t => q.run t k
  | alt p q, s, k => (p.run s k).orElse fun _ => q.run s k
  | opt p, s, k => (p.run s k).orElse fun _ => k s
  | many c least, s, k =>
    runMany c (fun previous position rest => k ⟨previous, position, rest, s.captures⟩)
      least s.previous s.position s.rest
  | few c least, s, k =>
    runFew c (fun previous position rest => k ⟨previous, position, rest, s.captures⟩)
      least s.previous s.position s.rest
  | group index p, s, k => p.run s fun t =>
    k { t with captures := ⟨index, s.rest, t.position - s.position⟩ :: t.captures }
  | textStart, s, k => if s.position = 0 then k s else none
  | textEnd, s, k => if s.rest = [] ∨ s.rest = ['\n'] then k s else none
  | lineStart, s, k => if s.previous.all (· == '\n') then k s else none
  | lineEnd, s, k => if s.rest.head?.all (· == '\n') then k s else none
  | wordEdge, s, k => if atWordEdge s then k s else none
  | notNext c, s, k => if s.rest.head?.any c then none else k s
  | notAfter c, s, k => if s.previous.any c then none else k s

/-- The match that starts at a spot. -/
def matchHere (p : Pattern) (s : Spot) : Option Match :=
  p.run s fun t =>
    let whole := String.ofList (s.rest.take (t.position - s.position))
    some ⟨s.position, t.position, whole, t.captures.map Capture.text⟩

/-- The match at the start of a text. -/
def matchStart (p : Pattern) (cs : List Char) : Option Match :=
  p.matchHere ⟨none, 0, cs, []⟩

/-- The first match at or after a place. -/
def searchFrom (p : Pattern) (previous : Option Char) (position : Nat) :
    List Char → Option Match
  | [] => p.matchHere ⟨previous, position, [], []⟩
  | c :: cs =>
    (p.matchHere ⟨previous, position, c :: cs, []⟩).orElse fun _ =>
      searchFrom p (some c) (position + 1) cs

/-- The first match in a text. -/
def search (p : Pattern) (cs : List Char) : Option Match :=
  p.searchFrom none 0 cs

/-- The pattern occurs in a string. -/
def occursIn (p : Pattern) (s : String) : Bool :=
  (p.search s.toList).isSome

/-- The matches after a place that do not overlap, when `skip` characters belong to the last one. -/
def matchesFrom (p : Pattern) (skip : Nat) (previous : Option Char) (position : Nat) :
    List Char → List Match
  | [] => if skip = 0 then (p.matchHere ⟨previous, position, [], []⟩).toList else []
  | c :: cs =>
    match skip with
    | skip + 1 => matchesFrom p skip (some c) (position + 1) cs
    | 0 =>
      match p.matchHere ⟨previous, position, c :: cs, []⟩ with
      | none => matchesFrom p 0 (some c) (position + 1) cs
      | some m => m :: matchesFrom p (m.stop - m.start - 1) (some c) (position + 1) cs

/-- All matches in a text from the left that do not overlap. -/
def findAll (p : Pattern) (cs : List Char) : List Match :=
  p.matchesFrom 0 none 0 cs

/-- Replaces the matches after a place, when `skip` characters belong to the last one. -/
def substituteFrom (p : Pattern) (new : Match → List Char) (skip : Nat) (previous : Option Char)
    (position : Nat) : List Char → List Char
  | [] => []
  | c :: cs =>
    match skip with
    | skip + 1 => substituteFrom p new skip (some c) (position + 1) cs
    | 0 =>
      match p.matchHere ⟨previous, position, c :: cs, []⟩ with
      | none => c :: substituteFrom p new 0 (some c) (position + 1) cs
      | some m =>
        new m ++ substituteFrom p new (m.stop - m.start - 1) (some c) (position + 1) cs

/-- Replaces all matches of a pattern that never matches nothing. -/
def substitute (p : Pattern) (new : Match → List Char) (cs : List Char) : List Char :=
  p.substituteFrom new 0 none 0 cs

/-- The number of groups of a pattern, numbered from one. -/
def groupCount : Pattern → Nat
  | seq p q => p.groupCount + q.groupCount
  | alt p q => p.groupCount + q.groupCount
  | opt p => p.groupCount
  | group _ p => p.groupCount + 1
  | _ => 0

/-- The indices of the groups of a pattern, in the order they open. -/
def groupIndices : Pattern → List Nat
  | seq p q => p.groupIndices ++ q.groupIndices
  | alt p q => p.groupIndices ++ q.groupIndices
  | opt p => p.groupIndices
  | group index p => index :: p.groupIndices
  | _ => []

end Pattern

end Mender
