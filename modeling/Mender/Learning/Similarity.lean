import Mender.Number.Binary64

/-!
# Similarity of texts

How much two texts have in common: the longest block they share is taken out, then the longest
blocks on either side of it, and so on. The ratio is twice the length of all blocks over the length
of both texts. In a long second text, characters that make up more than about a hundredth of it
start no block.
-/

namespace Mender.Similarity

/-- A block that two texts share. -/
structure Block where
  inFirst : Nat
  inSecond : Nat
  size : Nat

/-- The lengths of the blocks that end at each place of the second text, and the best block. -/
structure Scan where
  row : Array Nat
  best : Block

/-- Takes one place of the second text into a scan of a place of the first. -/
def step (first : Nat) (c : Char) (starts : Char → Bool) (second : Array Char) (low : Nat)
    (previous : Array Nat) (s : Scan) (j : Nat) : Scan :=
  if second.getD j ' ' == c && starts c then
    let size := (if j = low then 0 else previous.getD (j - 1 - low) 0) + 1
    let best := if s.best.size < size then ⟨first + 1 - size, j + 1 - size, size⟩ else s.best
    ⟨s.row.push size, best⟩
  else ⟨s.row.push 0, s.best⟩

/-- Lengthens a block to the left, over characters that start no block too. -/
def growLeft (first second : Array Char) (low low' : Nat) : Nat → Block → Block
  | 0, b => b
  | fuel + 1, b =>
    if low < b.inFirst && low' < b.inSecond &&
        first.getD (b.inFirst - 1) ' ' == second.getD (b.inSecond - 1) ' ' then
      growLeft first second low low' fuel ⟨b.inFirst - 1, b.inSecond - 1, b.size + 1⟩
    else b

/-- Lengthens a block to the right. -/
def growRight (first second : Array Char) (high high' : Nat) : Nat → Block → Block
  | 0, b => b
  | fuel + 1, b =>
    if b.inFirst + b.size < high && b.inSecond + b.size < high' &&
        first.getD (b.inFirst + b.size) ' ' == second.getD (b.inSecond + b.size) ' ' then
      growRight first second high high' fuel { b with size := b.size + 1 }
    else b

/-- The longest block that parts of two texts share, the earliest of those. -/
def longest (starts : Char → Bool) (first second : Array Char) (low high low' high' : Nat) :
    Block :=
  let places := (List.range (high' - low')).map (· + low')
  let scanned := (List.range (high - low)).foldl
    (fun (s : Scan) n =>
      let i := low + n
      places.foldl (step i (first.getD i ' ') starts second low' s.row) ⟨#[], s.best⟩)
    ⟨#[], ⟨low, low', 0⟩⟩
  growRight first second high high' (high - low)
    (growLeft first second low low' (high - low) scanned.best)

/-- The total length of the blocks that parts of two texts share. The fuel bounds the depth. -/
def shared (starts : Char → Bool) (first second : Array Char) :
    Nat → Nat → Nat → Nat → Nat → Nat
  | 0, _, _, _, _ => 0
  | fuel + 1, low, high, low', high' =>
    let b := longest starts first second low high low' high'
    if b.size = 0 then 0
    else
      let left :=
        if low < b.inFirst && low' < b.inSecond then
          shared starts first second fuel low b.inFirst low' b.inSecond
        else 0
      let right :=
        if b.inFirst + b.size < high && b.inSecond + b.size < high' then
          shared starts first second fuel (b.inFirst + b.size) high (b.inSecond + b.size) high'
        else 0
      b.size + left + right

/-- A character is rare enough in a text to start a block. -/
def startsBlock (second : List Char) (c : Char) : Bool :=
  second.length < 200 || second.count c ≤ second.length / 100 + 1

/-- How much two texts have in common, from zero to one. -/
def ratio (first second : String) : Float :=
  let a := first.toList
  let b := second.toList
  if a.isEmpty && b.isEmpty then 1.0
  else
    let common := b.eraseDups.filter (startsBlock b)
    let size := shared common.contains a.toArray b.toArray (a.length + 1) 0 a.length 0 b.length
    2.0 * Float.ofNat size / Float.ofNat (a.length + b.length)

end Mender.Similarity
