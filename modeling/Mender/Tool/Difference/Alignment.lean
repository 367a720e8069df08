import Mender.Shell.Octets

/-!
# Alignment of two sequences

Marks the elements of two sequences that are not common to both, so that what is left is the same. A
search from both ends meets in the middle of a shortest way from one sequence to the other; the
halves are searched likewise. In the end, runs of marks are moved to where runs of the other
sequence stand, or towards the end.
-/

namespace Mender.Alignment

/-- Marks at the elements of a sequence. -/
abbrev Marking := Array Bool

/-- Marks at the elements of two sequences. -/
structure Marks where
  first : Marking
  second : Marking

/-- There is a mark. -/
def isMarked (m : Marking) (i : Int) : Bool :=
  0 ≤ i && (m[i.toNat]?).getD false

/-- Sets or removes a mark. -/
def mark (m : Marking) (i : Int) (on : Bool) : Marking :=
  m.setIfInBounds i.toNat on

/-- A part of both sequences. -/
structure Box where
  left : Int
  right : Int
  top : Int
  bottom : Int
  deriving DecidableEq, Repr

section Search

variable (as bs : Array Octets)

/-- The elements at two positions are the same. -/
def agree (x y : Int) : Bool :=
  match as[x.toNat]?, bs[y.toNat]? with
  | some a, some b => a == b
  | _, _ => false

/-- How many elements from two positions on are the same. -/
def forward (b : Box) : Nat → Int → Int → Int
  | 0, _, _ => 0
  | fuel + 1, x, y =>
    if x < b.right && y < b.bottom && agree as bs x y then forward b fuel (x + 1) (y + 1) + 1 else 0

/-- How many elements before two positions are the same. -/
def backward (b : Box) : Nat → Int → Int → Int
  | 0, _, _ => 0
  | fuel + 1, x, y =>
    if b.left < x && b.top < y && agree as bs (x - 1) (y - 1) then
      backward b fuel (x - 1) (y - 1) + 1
    else 0

/-- The furthest positions on the diagonals between two limits. -/
structure Front where
  reached : Array Int
  low : Int
  high : Int

/-- The place of a diagonal in a table. -/
def slot (d : Int) : Nat :=
  (d + bs.size + 1).toNat

/-- The position that was reached on a diagonal. -/
def Front.at_ (f : Front) (d : Int) : Int :=
  (f.reached[slot bs d]?).getD 0

/-- Sets the position on a diagonal. -/
def Front.set (f : Front) (d x : Int) : Front :=
  { f with reached := f.reached.setIfInBounds (slot bs d) x }

/-- Widens the limits of a front within those of the box; `beyond` stands outside of the limits. -/
def Front.widened (f : Front) (b : Box) (beyond : Int) : Front :=
  let f := if b.left - b.bottom < f.low then { f.set bs (f.low - 2) beyond with low := f.low - 1 }
    else { f with low := f.low + 1 }
  if f.high < b.right - b.top then { f.set bs (f.high + 2) beyond with high := f.high + 1 }
  else { f with high := f.high - 1 }

/-- The diagonals of a front, from the highest. -/
def Front.diagonals (f : Front) : List Int :=
  if f.high < f.low then []
  else (List.range (((f.high - f.low) / 2).toNat + 1)).map fun (k : Nat) => f.high - 2 * (k : Int)

/-- One step of the search from the start on some diagonals. It ends where it meets the other
front. -/
def stepDown (b : Box) (odd : Bool) (other : Front) : List Int → Front → Front × Option (Int × Int)
  | [], f => (f, none)
  | d :: ds, f =>
    let low := f.at_ bs (d - 1)
    let high := f.at_ bs (d + 1)
    let start := if low < high then high else low + 1
    let x := start + forward as bs b (as.size + 1) start (start - d)
    let f := f.set bs d x
    if odd && other.low ≤ d && d ≤ other.high && other.at_ bs d ≤ x then (f, some (x, x - d))
    else stepDown b odd other ds f

/-- One step of the search from the end on some diagonals. -/
def stepUp (b : Box) (odd : Bool) (other : Front) : List Int → Front → Front × Option (Int × Int)
  | [], f => (f, none)
  | d :: ds, f =>
    let low := f.at_ bs (d - 1)
    let high := f.at_ bs (d + 1)
    let start := if low < high then low else high - 1
    let x := start - backward as bs b (as.size + 1) start (start - d)
    let f := f.set bs d x
    if !odd && other.low ≤ d && d ≤ other.high && x ≤ other.at_ bs d then (f, some (x, x - d))
    else stepUp b odd other ds f

/-- Searches from both ends until the searches meet. -/
def meet (b : Box) (odd : Bool) : Nat → Front → Front → Int × Int
  | 0, _, _ => (b.left, b.top)
  | fuel + 1, down, up =>
    let down := down.widened bs b (-1)
    match stepDown as bs b odd up down.diagonals down with
    | (_, some point) => point
    | (down, none) =>
      let up := up.widened bs b (as.size + bs.size + 2)
      match stepUp as bs b odd down up.diagonals up with
      | (_, some point) => point
      | (up, none) => meet b odd fuel down up

/-- A point in the middle of a shortest way through a box. -/
def middle (b : Box) : Int × Int :=
  let empty : Array Int := Array.replicate (as.size + bs.size + 4) 0
  let start := b.left - b.top
  let stop := b.right - b.bottom
  let front (i : Int) : Front := { reached := empty, low := i, high := i }
  let down := (front start).set bs start b.left
  let up := (front stop).set bs stop b.right
  meet as bs b ((start - stop) % 2 != 0) (as.size + bs.size + 2) down up

/-- The positions from one to another. -/
def positions (i j : Int) : List Int :=
  (List.range (j - i).toNat).map fun (k : Nat) => i + (k : Int)

/-- Marks what is not common in a part of both sequences. -/
def markBox : Nat → Box → Marks → Marks
  | 0, _, m => m
  | fuel + 1, b, m =>
    let n := forward as bs b (as.size + 1) b.left b.top
    let b := { b with left := b.left + n, top := b.top + n }
    let n := backward as bs b (as.size + 1) b.right b.bottom
    let b := { b with right := b.right - n, bottom := b.bottom - n }
    if b.left = b.right then
      { m with second := (positions b.top b.bottom).foldl (fun s y => mark s y true) m.second }
    else if b.top = b.bottom then
      { m with first := (positions b.left b.right).foldl (fun s x => mark s x true) m.first }
    else
      let (x, y) := middle as bs b
      markBox fuel ⟨x, b.right, y, b.bottom⟩ (markBox fuel ⟨b.left, x, b.top, y⟩ m)

end Search

/-- Marks elements that the other sequence does not hold, and aligns the others. -/
def alignedMarks (as bs : Array Octets) : Marks :=
  let kept (xs ys : Array Octets) : Array Nat :=
    ((List.range xs.size).filter fun i => (xs[i]?).any fun x => ys.contains x).toArray
  let is := kept as bs
  let js := kept bs as
  let xs := is.filterMap fun i => as[i]?
  let ys := js.filterMap fun j => bs[j]?
  let m := markBox xs ys (xs.size + ys.size + 2) ⟨0, xs.size, 0, ys.size⟩
    ⟨Array.replicate xs.size false, Array.replicate ys.size false⟩
  let spread (size : Nat) (places : Array Nat) (marks : Marking) : Marking :=
    (places.toList.zip marks.toList).foldl (fun t (i, on) => t.setIfInBounds i on)
      (Array.replicate size true)
  ⟨spread as.size is m.first, spread bs.size js m.second⟩

/-! ## Moving runs of marks -/

/-- A run of marks that is moved: its limits, and the place in the other sequence that corresponds
to its end. -/
structure Run where
  marks : Marking
  start : Int
  stop : Int
  other : Int
  /-- The last end at which a run of the other sequence stood. -/
  corresponding : Option Int := none

/-- Goes on while there are marks. -/
def skipForward (m : Marking) : Nat → Int → Int
  | 0, i => i
  | fuel + 1, i => if isMarked m i then skipForward m fuel (i + 1) else i

/-- Goes back while there are marks before. -/
def skipBack (m : Marking) : Nat → Int → Int
  | 0, i => i
  | fuel + 1, i => if isMarked m (i - 1) then skipBack m fuel (i - 1) else i

/-- Goes back behind the next element that is not marked. -/
def backToUnmarked (m : Marking) : Nat → Int → Int
  | 0, j => j
  | fuel + 1, j => if isMarked m (j - 1) then backToUnmarked m fuel (j - 1) else j - 1

/-- Moves a run towards the start as far as the elements allow. -/
def Run.back (xs : Array Octets) (others : Marking) : Nat → Run → Run
  | 0, r => r
  | fuel + 1, r =>
    if 0 < r.start && xs[(r.start - 1).toNat]? = xs[(r.stop - 1).toNat]? then
      let marks := mark (mark r.marks (r.start - 1) true) (r.stop - 1) false
      let start := skipBack marks xs.size (r.start - 1)
      back xs others fuel
        { r with
          marks, start, stop := r.stop - 1
          other := backToUnmarked others others.size r.other }
    else r

/-- Moves a run towards the end as far as the elements allow. -/
def Run.ahead (xs : Array Octets) (others : Marking) : Nat → Run → Run
  | 0, r => r
  | fuel + 1, r =>
    if r.stop < xs.size && xs[r.start.toNat]? = xs[r.stop.toNat]? then
      let marks := mark (mark r.marks r.start false) r.stop true
      let stop := skipForward marks xs.size (r.stop + 1)
      let next := r.other + 1
      let other := skipForward others others.size next
      ahead xs others fuel
        { r with
          marks, start := r.start + 1, stop, other
          corresponding := if next < other then some stop else r.corresponding }
    else r

/-- Moves a run to and fro until it meets no other run any more. -/
def Run.settled (xs : Array Octets) (others : Marking) : Nat → Run → Run
  | 0, r => r
  | fuel + 1, r =>
    let length := r.stop - r.start
    let r := r.back xs others (xs.size + 1)
    let r := { r with corresponding := if isMarked others (r.other - 1) then some r.stop else none }
    let r := r.ahead xs others (xs.size + 1)
    if r.stop - r.start = length then r else settled xs others fuel r

/-- Moves a run back to where a run of the other sequence stands. -/
def Run.returned (others : Marking) : Nat → Run → Run
  | 0, r => r
  | fuel + 1, r =>
    if r.corresponding.any (· < r.stop) then
      returned others fuel
        { r with
          marks := mark (mark r.marks (r.start - 1) true) (r.stop - 1) false
          start := r.start - 1, stop := r.stop - 1
          other := backToUnmarked others others.size r.other }
    else r

/-- Moves all runs from two positions on. -/
def moveRuns (xs : Array Octets) (others : Marking) : Nat → Int → Int → Marking → Marking
  | 0, _, _, m => m
  | fuel + 1, i, j, m =>
    if xs.size ≤ i then m
    else if !isMarked m i then
      moveRuns xs others fuel (i + 1) (skipForward others others.size j + 1) m
    else
      let stop := skipForward m xs.size i
      let r : Run := ⟨m, i, stop, skipForward others others.size j, none⟩
      let r := (r.settled xs others (xs.size + 1)).returned others (xs.size + 1)
      moveRuns xs others fuel r.stop r.other r.marks

/-- How many elements at the start of two sequences are the same. -/
def commonStart (as bs : List Octets) : Nat :=
  ((as.zip bs).takeWhile fun (a, b) => a == b).length

/-- Marks what is not common. Common elements at both ends are left aside, but for `margin` of
them. -/
def marks (margin : Nat) (as bs : Array Octets) : Marks :=
  let start := commonStart as.toList bs.toList
  let restA := as.toList.drop start
  let restB := bs.toList.drop start
  let stop := commonStart restA.reverse restB.reverse
  let before := start - margin
  let behind := stop - margin
  let xs := as.extract before (as.size - behind)
  let ys := bs.extract before (bs.size - behind)
  let m := alignedMarks xs ys
  let fuel := xs.size + ys.size + 2
  let first := moveRuns xs m.second fuel 0 0 m.first
  let second := moveRuns ys first fuel 0 0 m.second
  let none_ (n : Nat) : Marking := Array.replicate n false
  ⟨none_ before ++ first ++ none_ behind, none_ before ++ second ++ none_ behind⟩

end Mender.Alignment
