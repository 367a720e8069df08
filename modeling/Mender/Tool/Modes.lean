import Mender.Shell.Numeral
import Mender.Shell.Octets

/-!
# Modes of files

Who may read, write and run a file. A mode is given in octal digits, or by letters that say for whom
what is added, removed or set.
-/

namespace Mender.Mode

/-- What is done with permissions. -/
inductive Action where
  | add
  | remove
  | set
  deriving DecidableEq, Repr

/-- A change of permissions. -/
structure Change where
  /-- The bits of those it is for. -/
  who : Nat
  action : Action
  /-- The permissions for each. -/
  bits : Nat
  /-- Files may be run only if they are directories or could be run before. -/
  conditional : Bool := false
  /-- The bits of those whose permissions are copied. -/
  copied : Option Nat := none
  deriving DecidableEq, Repr

/-- All bits of a mode. -/
def whole : Nat := 0o7777

/-- Bits without others. -/
def without (a b : Nat) : Nat :=
  a - Nat.land a b

/-- Those that a letter stands for. -/
def who? : Char → Option Nat
  | 'u' => some 0o4700
  | 'g' => some 0o2070
  | 'o' => some 0o1007
  | 'a' => some whole
  | _ => none

/-- Reads the permissions behind a sign. -/
def readBits (who : Nat) (action : Action) (cs : List Char) : Change × List Char :=
  match cs with
  | c :: rest =>
    match who? c with
    | some from_ =>
      if c = 'a' then (⟨who, action, 0, false, none⟩, cs)
      else (⟨who, action, 0, false, some (from_ % 0o1000)⟩, rest)
    | none =>
      let letters := cs.takeWhile fun c => "rwxXst".toList.contains c
      let bit : Char → Nat
        | 'r' => 0o444
        | 'w' => 0o222
        | 'x' => 0o111
        | 's' => 0o6000
        | 't' => 0o1000
        | _ => 0
      let bits := letters.foldl (fun n c => Nat.lor n (bit c)) 0
      (⟨who, action, bits, letters.contains 'X', none⟩, cs.drop letters.length)
  | [] => (⟨who, action, 0, false, none⟩, [])

/-- Reads the changes of one clause after those that it is for. -/
def readChanges (who : Nat) : Nat → List Char → Option (List Change)
  | 0, _ => none
  | fuel + 1, cs =>
    let action? : Char → Option Action
      | '+' => some .add
      | '-' => some .remove
      | '=' => some .set
      | _ => none
    match cs with
    | [] => some []
    | c :: rest =>
      match action? c with
      | none => none
      | some action =>
        let (change, rest) := readBits who action rest
        (readChanges who fuel rest).map (change :: ·)

/-- Reads a clause. Without letters it is for all, but for what new files do not allow. -/
def readClause (umask : Nat) (cs : List Char) : Option (List Change) :=
  let letters := cs.takeWhile fun c => (who? c).isSome
  let who := if letters.isEmpty then without whole umask
    else letters.foldl (fun n c => Nat.lor n ((who? c).getD 0)) 0
  let rest := cs.drop letters.length
  if rest.isEmpty then none else readChanges who (rest.length + 1) rest

/-- Makes a change to a mode. -/
def Change.apply (c : Change) (isDirectory : Bool) (mode : Nat) : Nat :=
  let bits := match c.copied with
    | some from_ =>
      let has (bit : Nat) : Bool := Nat.land (Nat.land mode from_) bit != 0
      (if has 0o444 then 0o444 else 0) + (if has 0o222 then 0o222 else 0) +
        if has 0o111 then 0o111 else 0
    | none =>
      if c.conditional && (isDirectory || Nat.land mode 0o111 != 0) then Nat.lor c.bits 0o111
      else c.bits
  let bits := Nat.land bits c.who
  match c.action with
  | .add => Nat.lor mode bits
  | .remove => without mode bits
  | .set => Nat.lor (without mode (Nat.land c.who (if isDirectory then 0o1777 else whole))) bits

/-- What a text makes of modes. -/
def read? (umask : Nat) (s : Octets) : Option (Bool → Nat → Nat) :=
  let cs := s.toList
  if cs.all (fun c => '0' ≤ c && c ≤ '7') && !cs.isEmpty then
    let n := Shell.Numeral.digitsValue 8 cs
    if n ≤ whole then some fun _ _ => n else none
  else
    ((Text.splitText [','] cs).mapM (readClause umask)).map fun clauses isDirectory mode =>
      clauses.flatten.foldl (fun m c => c.apply isDirectory m) mode

/-- A mode in letters. -/
def letters (mode : Nat) : Octets :=
  let has (bit : Nat) : Bool := Nat.land mode bit != 0
  let run (bit special : Nat) (small large : Char) : Char :=
    if has special then if has bit then small else large else if has bit then 'x' else '-'
  String.ofList
    [if has 0o400 then 'r' else '-', if has 0o200 then 'w' else '-', run 0o100 0o4000 's' 'S',
      if has 0o40 then 'r' else '-', if has 0o20 then 'w' else '-', run 0o10 0o2000 's' 'S',
      if has 0o4 then 'r' else '-', if has 0o2 then 'w' else '-', run 0o1 0o1000 't' 'T']

/-- A mode in octal digits. -/
def digits (mode : Nat) : Octets :=
  String.ofList (Nat.toDigits 8 mode)

end Mender.Mode
