import Mender.Shell.Numeral
import Mender.Shell.Wildcard

/-!
# Regular expressions

How regular expressions match, and how they are written. Expressions match stretches of a text.
Among the stretches that match, the first one counts, and of those that start there the longest.
`Regex.reach` finds the ends of stretches without looking at how they come about; `Regex.walk` finds
one way for a stretch, and with it what the groups matched.
-/

namespace Mender

/-- A regular expression. -/
inductive Regex where
  | empty
  /-- One character of a class. -/
  | one (members : Char → Bool)
  | seq (a b : Regex)
  | alt (a b : Regex)
  /-- At least `least` and at most `most` times. -/
  | times (r : Regex) (least : Nat) (most : Option Nat)
  | group (number : Nat) (r : Regex)
  /-- What a group matched, once more. -/
  | again (number : Nat)
  | textStart
  | textEnd
  | lineStart
  | lineEnd
  | wordStart
  | wordEnd
  | wordEdge
  | insideWord

namespace Regex

/-- A character of words. -/
def isWord (c : Char) : Bool :=
  c.isAlphanum || c == '_'

/-- A text that is searched. -/
abbrev Subject := Array Char

/-- The character at a position is of a class. -/
def at_ (t : Subject) (p : Char → Bool) (i : Nat) : Bool :=
  (t[i]?).any p

/-- The character before a position is of a class. -/
def before (t : Subject) (p : Char → Bool) (i : Nat) : Bool :=
  i != 0 && (t[i - 1]?).any p

/-- An expression that matches at positions only holds at one. -/
def holdsAt (t : Subject) (i : Nat) : Regex → Bool
  | .textStart => i == 0
  | .textEnd => i == t.size
  | .lineStart => i == 0 || before t (· == '\n') i
  | .lineEnd => i == t.size || at_ t (· == '\n') i
  | .wordStart => !before t isWord i && at_ t isWord i
  | .wordEnd => before t isWord i && !at_ t isWord i
  | .wordEdge => before t isWord i != at_ t isWord i
  | .insideWord => before t isWord i == at_ t isWord i
  | _ => true

/-- Two sets of positions in ascending order as one. -/
def union : List Nat → List Nat → List Nat
  | [], ys => ys
  | xs, [] => xs
  | x :: xs, y :: ys =>
    if x < y then x :: union xs (y :: ys)
    else if y < x then y :: union (x :: xs) ys
    else x :: union xs ys

/-- The positions of the first set that the second does not hold. -/
def minus : List Nat → List Nat → List Nat
  | [], _ => []
  | xs, [] => xs
  | x :: xs, y :: ys =>
    if x < y then x :: minus xs (y :: ys)
    else if y < x then minus (x :: xs) ys
    else minus xs ys

/-- The positions that steps lead to, in at most some rounds. -/
def closure (step : List Nat → List Nat) : Nat → List Nat → List Nat → List Nat
  | 0, seen, _ => seen
  | n + 1, seen, fresh =>
    let next := minus (step fresh) seen
    if next.isEmpty then seen else closure step n (union seen next) next

/-- Takes some steps. -/
def stepTimes (step : List Nat → List Nat) : Nat → List Nat → List Nat
  | 0, ps => ps
  | n + 1, ps => stepTimes step n (step ps)

/-- The ends of the stretches that match from positions in ascending order. -/
def reach (t : Subject) : Regex → List Nat → List Nat
  | .empty, ps => ps
  | .one p, ps => ps.filterMap fun i => if at_ t p i then some (i + 1) else none
  | .seq a b, ps => reach t b (reach t a ps)
  | .alt a b, ps => union (reach t a ps) (reach t b ps)
  | .times r least most, ps =>
    let ps := stepTimes (reach t r) least ps
    closure (reach t r) ((most.map (· - least)).getD (t.size + 1)) ps ps
  | .group _ r, ps => reach t r ps
  | .again _, ps => ps
  | edge, ps => ps.filter fun i => holdsAt t i edge

/-- The stretches that groups matched, by number, the latest first. -/
abbrev Groups := List (Nat × Nat × Nat)

/-- The stretch that a group matched. -/
def stretchOf (gs : Groups) (number : Nat) : Option (Nat × Nat) :=
  (gs.find? (·.1 = number)).map (·.2)

/-- The text of a stretch. -/
def slice (t : Subject) (start stop : Nat) : List Char :=
  (t.extract start stop).toList

/-- How a walk goes on from a position. -/
abbrev Next := Nat → Groups → Option (Nat × Groups)

/-- Repeats a walk as often as possible, and less often if that does not lead on. -/
def walkTimes (step : Nat → Groups → Next → Option (Nat × Groups)) (next : Next) (least : Nat)
    (most : Option Nat) : Nat → Nat → Nat → Groups → Option (Nat × Groups)
  | 0, _, i, gs => next i gs
  | fuel + 1, count, i, gs =>
    if count < least then step i gs (walkTimes step next least most fuel (count + 1))
    else
      let more : Option (Nat × Groups) :=
        if most.any (· ≤ count) then none
        else step i gs fun j hs =>
          if j = i then none else walkTimes step next least most fuel (count + 1) j hs
      more.orElse fun _ => next i gs

/-- Walks along one way after another in which an expression matches, until one leads on. -/
def walk (t : Subject) : Regex → Nat → Groups → Next → Option (Nat × Groups)
  | .empty, i, gs, next => next i gs
  | .one p, i, gs, next => if at_ t p i then next (i + 1) gs else none
  | .seq a b, i, gs, next => walk t a i gs fun j hs => walk t b j hs next
  | .alt a b, i, gs, next => (walk t a i gs next).orElse fun _ => walk t b i gs next
  | .times r least most, i, gs, next =>
    walkTimes (walk t r) next least most (t.size + least + 2) 0 i gs
  | .group n r, i, gs, next => walk t r i gs fun j hs => next j ((n, i, j) :: hs)
  | .again n, i, gs, next =>
    match stretchOf gs n with
    | some (start, stop) =>
      let text := slice t start stop
      if slice t i (i + text.length) = text then next (i + text.length) gs else none
    | none => none
  | edge, i, gs, next => if holdsAt t i edge then next i gs else none

/-- The expression refers to what a group matched. -/
def refersBack : Regex → Bool
  | .again _ => true
  | .seq a b => refersBack a || refersBack b
  | .alt a b => refersBack a || refersBack b
  | .times r _ _ => refersBack r
  | .group _ r => refersBack r
  | _ => false

/-- A way in which an expression matches a stretch. -/
def wayFor (t : Subject) (r : Regex) (start stop : Nat) : Option Groups :=
  (walk t r start [] fun j gs => if j = stop then some (j, gs) else none).map (·.2)

/-- The ends of the stretches that match from a position, the longest first. -/
def endsFrom (t : Subject) (r : Regex) (start : Nat) : List Nat :=
  if r.refersBack then
    ((List.range (t.size + 1 - start)).reverse.map (· + start)).filter fun stop =>
      (wayFor t r start stop).isSome
  else (reach t r [start]).reverse

/-- A stretch of a text that matches. -/
structure Found where
  start : Nat
  stop : Nat
  deriving DecidableEq, Repr

/-- The first stretch at or after a position, among those that are wanted. -/
def findFrom (t : Subject) (r : Regex) (wanted : Nat → Nat → Bool) : Nat → Nat → Option Found
  | 0, _ => none
  | fuel + 1, i =>
    if t.size < i then none
    else
      match (endsFrom t r i).find? (wanted i ·) with
      | some j => some ⟨i, j⟩
      | none => findFrom t r wanted fuel (i + 1)

/-- The first and longest stretch at or after a position. -/
def find (t : Subject) (r : Regex) (i : Nat) : Option Found :=
  findFrom t r (fun _ _ => true) (t.size + 1 - i) i

/-- The expression matches somewhere. -/
def matches_ (t : Subject) (r : Regex) : Bool :=
  if r.refersBack then (find t r 0).isSome
  else !(reach t r (List.range (t.size + 1))).isEmpty

/-- The texts of the groups of a stretch. -/
def groupTexts (t : Subject) (r : Regex) (f : Found) : Nat → List Char :=
  let gs := (wayFor t r f.start f.stop).getD []
  fun n =>
    if n = 0 then slice t f.start f.stop
    else
      match stretchOf gs n with
      | some (start, stop) => slice t start stop
      | none => []

/-! ## How regular expressions are written

In the basic form, parentheses, braces, bars and the signs for "at least once" and "at most once"
act behind a backslash; in the extended form they act without one.
-/

/-- How an expression is read. -/
structure Form where
  extended : Bool := false
  /-- Letters of both cases are the same. -/
  fold : Bool := false
  /-- The edges of lines count as edges of the text. -/
  lines : Bool := false
  /-- A repetition cannot be repeated by a star or bounds, nor can such stand alone. -/
  strict : Bool := false
  /-- The letter `d` behind a backslash stands for a digit. -/
  digits : Bool := false

/-- A class that has both cases of its letters. -/
def folded (f : Form) (p : Char → Bool) : Char → Bool :=
  if f.fold then fun c => p c || p c.toLower || p c.toUpper else p

/-- One character. -/
def single (f : Form) (c : Char) : Regex :=
  .one (folded f (· == c))

/-- What can be wrong with an expression. -/
inductive Fault where
  | bracket
  | parenthesis
  | closing
  | brace
  | braceContent
  | rangeEnd
  | className
  | classSyntax
  | backslash
  | reference
  | repetition
  | unfinished
  | tooBig
  deriving DecidableEq, Repr

/-- A fault in words. -/
def Fault.text : Fault → Octets
  | .bracket => "Unmatched [, [^, [:, [., or [="
  | .parenthesis => "Unmatched ( or \\("
  | .closing => "Unmatched ) or \\)"
  | .brace => "Unmatched \\\x7b"
  | .braceContent => "Invalid content of \\\x7b\\\x7d"
  | .rangeEnd => "Invalid range end"
  | .className => "Invalid character class name"
  | .classSyntax => "character class syntax is [[:space:]], not [:space:]"
  | .backslash => "Trailing backslash"
  | .reference => "Invalid back reference"
  | .repetition => "Invalid preceding regular expression"
  | .unfinished => "Invalid regular expression"
  | .tooBig => "Regular expression too big"

/-- Reads the members of a set after its opening bracket and a circumflex. -/
def readMembers : Nat → Bool → (Char → Bool) → List Char → Except Fault ((Char → Bool) × List Char)
  | 0, _, _, _ => .error .bracket
  | _, _, _, [] => .error .bracket
  | fuel + 1, isFirst, p, ']' :: cs =>
    if isFirst then readRange fuel p ']' cs else .ok (p, cs)
  | fuel + 1, _, p, '[' :: ':' :: cs =>
    let name := cs.takeWhile (· != ':')
    match cs.drop name.length with
    | ':' :: ']' :: rest =>
      match Shell.Wildcard.namedClass? (String.ofList name) with
      | some q => readMembers fuel false (fun c => p c || q c) rest
      | none => .error .className
    | _ => .error .bracket
  | fuel + 1, _, p, '[' :: '.' :: c :: '.' :: ']' :: cs => readRange fuel p c cs
  | fuel + 1, _, p, '[' :: '=' :: c :: '=' :: ']' :: cs =>
    readMembers fuel false (fun x => p x || x == c) cs
  | fuel + 1, _, p, c :: cs => readRange fuel p c cs
where
  /-- Reads what follows a member: perhaps the other end of a range. -/
  readRange (fuel : Nat) (p : Char → Bool) (c : Char) :
      List Char → Except Fault ((Char → Bool) × List Char)
    | '-' :: ']' :: cs => readMembers fuel false (fun x => p x || x == c) ('-' :: ']' :: cs)
    | '-' :: d :: cs =>
      let (d, cs) := match d, cs with
        | '[', '.' :: e :: '.' :: ']' :: rest => (e, rest)
        | d, cs => (d, cs)
      if d.toNat < c.toNat then .error .rangeEnd
      else readMembers fuel false
        (fun x => p x || (c.toNat ≤ x.toNat && x.toNat ≤ d.toNat)) cs
    | cs => readMembers fuel false (fun x => p x || x == c) cs

/-- Reads a set after its opening bracket. -/
def readSet (f : Form) (cs : List Char) : Except Fault (Regex × List Char) := do
  let (inverted, body) := match cs with
    | '^' :: body => (true, body)
    | body => (false, body)
  match body with
  | [] => .error .unfinished
  | ':' :: rest =>
    let inner := rest.takeWhile (· != ']')
    if !inverted && inner.getLast? = some ':' && 1 < inner.length then .error .classSyntax
    else pure ()
  | _ => pure ()
  let (p, rest) ← readMembers (cs.length + 2) true (fun _ => false) body
  let p := folded f p
  return (.one (if inverted then fun c => !p c else p), rest)

/-- The most times that a repetition may ask for. -/
def mostTimes : Nat := 32767

/-- Reads the bounds of a repetition after the opening brace; the closing one may have a backslash
before it. There is none when it is no repetition at all. -/
def readBounds (f : Form) (cs : List Char) :
    Except Fault (Option (Nat × Option Nat × List Char)) := do
  let closing : List Char → Option (List Char)
    | '}' :: rest => if f.extended then some rest else none
    | '\\' :: '}' :: rest => if f.extended then none else some rest
    | _ => none
  let low := cs.takeWhile Char.isDigit
  let rest := cs.drop low.length
  let refuse (fault : Fault) : Except Fault (Option (Nat × Option Nat × List Char)) :=
    if f.extended then return none else .error fault
  match rest with
  | ',' :: rest =>
    let high := rest.takeWhile Char.isDigit
    match closing (rest.drop high.length) with
    | some after =>
      let least := Octets.value low
      if mostTimes < least || mostTimes < Octets.value high then .error .tooBig
      else if high.isEmpty then return some (least, none, after)
      else if Octets.value high < least then .error .braceContent
      else return some (least, some (Octets.value high), after)
    | none => refuse (if (rest.drop high.length).isEmpty then .brace else .braceContent)
  | rest =>
    match closing rest with
    | some after =>
      if low.isEmpty then refuse .braceContent
      else if mostTimes < Octets.value low then .error .tooBig
      else return some (Octets.value low, some (Octets.value low), after)
    | none => refuse (if rest.isEmpty then .brace else .braceContent)

/-- Reads the repetitions behind an expression. -/
def readRepetitions (f : Form) : Nat → Regex → List Char → Except Fault (Regex × List Char)
  | 0, r, cs => .ok (r, cs)
  | fuel + 1, r, cs =>
    let go (least : Nat) (most : Option Nat) (rest : List Char) :
        Except Fault (Regex × List Char) :=
      let repeats : Bool := rest.head? = some '*' || ['\\', '{'].isPrefixOf rest
      if f.strict && !f.extended && repeats then .error .repetition
      else readRepetitions f fuel (.times r least most) rest
    let bounds (rest : List Char) : Except Fault (Regex × List Char) := do
      match ← readBounds f rest with
      | some (least, most, rest) => go least most rest
      | none => return (r, cs)
    match cs with
    | '*' :: rest => go 0 none rest
    | '+' :: rest => if f.extended then go 1 none rest else .ok (r, cs)
    | '?' :: rest => if f.extended then go 0 (some 1) rest else .ok (r, cs)
    | '{' :: rest => if f.extended then bounds rest else .ok (r, cs)
    | '\\' :: '+' :: rest => if f.extended then .ok (r, cs) else go 1 none rest
    | '\\' :: '?' :: rest => if f.extended then .ok (r, cs) else go 0 (some 1) rest
    | '\\' :: '{' :: rest => if f.extended then .ok (r, cs) else bounds rest
    | _ => .ok (r, cs)

/-- What a character behind a backslash stands for, when it does not act. -/
def escaped (f : Form) (c : Char) : Regex :=
  let space : Char → Bool := Octets.isSpace
  match c with
  | 'w' => .one isWord
  | 'W' => .one fun c => !isWord c
  | 's' => .one space
  | 'S' => .one fun c => !space c
  | 'b' => .wordEdge
  | 'B' => .insideWord
  | '<' => .wordStart
  | '>' => .wordEnd
  | '`' => .textStart
  | '\'' => .textEnd
  | 'd' => if f.digits then .one Char.isDigit else single f 'd'
  | 'D' => if f.digits then .one fun c => !c.isDigit else single f 'D'
  | c => single f c

/-- The start of a branch ends here: nothing, a bar or a closing parenthesis follows. -/
def endsBranch (f : Form) (isTop : Bool) : List Char → Bool
  | [] => true
  | '|' :: _ => f.extended
  | ')' :: _ => f.extended && (!isTop || f.strict)
  | '\\' :: '|' :: _ => !f.extended
  | '\\' :: ')' :: _ => !f.extended
  | _ => false

/-- A sign of repetition at the start of a branch. -/
def startsWithRepetition (f : Form) : List Char → Bool
  | '*' :: _ => true
  | '+' :: _ => f.extended
  | '?' :: _ => f.extended
  | _ => false

/-- What reads an expression in parentheses: the number of groups so far, and the text. -/
abbrev Inner := Nat → List Char → Except Fault (Regex × Nat × List Char)

/-- Reads one expression without repetitions; the flags say whether it is the first of its branch
and stands outside of parentheses. -/
def readAtom (f : Form) (inner : Inner) (isFirst isTop : Bool) (groups : Nat) (cs : List Char) :
    Except Fault (Regex × Nat × List Char) := do
  let start : Regex := if f.lines then .lineStart else .textStart
  let stop : Regex := if f.lines then .lineEnd else .textEnd
  let parenthesised (rest : List Char) : Except Fault (Regex × Nat × List Char) := do
    let number := groups + 1
    let (r, groups, rest) ← inner number rest
    let closed := if f.extended then rest.head? = some ')' else ['\\', ')'].isPrefixOf rest
    if closed then return (.group number r, groups, rest.drop (if f.extended then 1 else 2))
    else .error .parenthesis
  match cs with
  | [] => return (.empty, groups, [])
  | '[' :: rest =>
    let (r, rest) ← readSet f rest
    return (r, groups, rest)
  | '.' :: rest => return (.one fun _ => true, groups, rest)
  | '^' :: rest =>
    if f.extended || isFirst then return (start, groups, rest)
    else return (single f '^', groups, rest)
  | '$' :: rest =>
    if f.extended || endsBranch f isTop rest then return (stop, groups, rest)
    else return (single f '$', groups, rest)
  | '(' :: rest =>
    if f.extended then parenthesised rest else return (single f '(', groups, rest)
  | '\\' :: '(' :: rest =>
    if f.extended then return (single f '(', groups, rest) else parenthesised rest
  | ['\\'] => .error .backslash
  | '\\' :: c :: rest =>
    if f.strict && !f.extended && c = '{' then .error .repetition
    else if '1' ≤ c && c ≤ '9' then
      let n := c.toNat - 48
      if n ≤ groups then return (.again n, groups, rest) else .error .reference
    else return (escaped f c, groups, rest)
  | c :: rest => return (single f c, groups, rest)

/-- The expression only looks at a position. -/
def isEdge : Regex → Bool
  | .textStart | .textEnd | .lineStart | .lineEnd => true
  | _ => false

/-- Reads a branch: expressions after one another. -/
def readBranch (f : Form) (inner : Inner) (isTop : Bool) :
    Nat → Bool → Nat → List Char → Except Fault (Regex × Nat × List Char)
  | 0, _, groups, cs => .ok (.empty, groups, cs)
  | fuel + 1, isFirst, groups, cs =>
    if endsBranch f isTop cs then .ok (.empty, groups, cs)
    else if isFirst && startsWithRepetition f cs then
      if f.extended then readBranch f inner isTop fuel true groups cs.tail
      else do
        let (r, rest) ← readRepetitions f (cs.length + 1) (single f '*') cs.tail
        let (s, groups, rest) ← readBranch f inner isTop fuel false groups rest
        return (.seq r s, groups, rest)
    else do
      let (r, groups, rest) ← readAtom f inner isFirst isTop groups cs
      let keepsFirst : Bool := isFirst && isEdge r && !f.extended
      let (r, rest) ← if isEdge r && !f.extended then pure (r, rest)
        else readRepetitions f (cs.length + 1) r rest
      let (s, groups, rest) ← readBranch f inner isTop fuel keepsFirst groups rest
      return (.seq r s, groups, rest)

/-- Reads branches between bars. -/
def readBranches (f : Form) (inner : Inner) (isTop : Bool) :
    Nat → Nat → List Char → Except Fault (Regex × Nat × List Char)
  | 0, groups, cs => .ok (.empty, groups, cs)
  | fuel + 1, groups, cs => do
    let (r, groups, rest) ← readBranch f inner isTop (cs.length + 1) true groups cs
    let more : Option (List Char) := match rest with
      | '|' :: rest => if f.extended then some rest else none
      | '\\' :: '|' :: rest => if f.extended then none else some rest
      | _ => none
    match more with
    | some rest =>
      let (s, groups, rest) ← readBranches f inner isTop fuel groups rest
      return (.alt r s, groups, rest)
    | none => return (r, groups, rest)

/-- Reads what stands in parentheses, which are nested no deeper than `depth`. -/
def readInner (f : Form) : Nat → Inner
  | 0 => fun _ _ => .error .parenthesis
  | depth + 1 => fun groups cs => readBranches f (readInner f depth) false (cs.length + 1) groups cs

/-- The signs of repetition in an extended expression that have nothing before them. The flag says
whether a branch begins. -/
def strayRepetitions : Nat → Bool → List Char → List Octets
  | 0, _, _ => []
  | _, _, [] => []
  | fuel + 1, _, '\\' :: cs => strayRepetitions fuel false (cs.drop 1)
  | fuel + 1, _, '[' :: cs =>
    match readSet {} cs with
    | .ok (_, rest) => strayRepetitions fuel false rest
    | .error _ => []
  | fuel + 1, isFirst, c :: cs =>
    if "(|^$".toList.contains c then strayRepetitions fuel true cs
    else if isFirst && "*+?".toList.contains c then
      String.singleton c :: strayRepetitions fuel true cs
    else if isFirst && c = '{' then
      match readBounds { extended := true } cs with
      | .ok (some (_, _, rest)) => "{...}" :: strayRepetitions fuel true rest
      | _ => strayRepetitions fuel false cs
    else strayRepetitions fuel false cs

/-- Reads an expression; also returns the number of its groups. -/
def read (f : Form) (s : Octets) : Except Fault (Regex × Nat) := do
  let cs := s.toList
  let (r, groups, rest) ← readBranches f (readInner f (cs.length + 1)) true (cs.length + 1) 0 cs
  match rest with
  | [] => return (r, groups)
  | _ => .error .closing

/-- An expression that matches a text as it stands. -/
def fixed (f : Form) (s : Octets) : Regex :=
  s.toList.foldr (fun c r => .seq (single f c) r) .empty

end Regex

end Mender
