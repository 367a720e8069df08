import Mender.Shell.Octets

/-!
# Wildcards

Patterns of file names and of cases. A star matches any text, a question mark one character, and a
set in brackets one of its members; a backslash makes the next character stand for itself.
-/

namespace Mender.Shell.Wildcard

/-- A named class of characters. -/
def namedClass? (name : Octets) : Option (Char → Bool) :=
  match name with
  | "alpha" => some Char.isAlpha
  | "digit" => some Char.isDigit
  | "alnum" => some Char.isAlphanum
  | "upper" => some Char.isUpper
  | "lower" => some Char.isLower
  | "space" => some Octets.isSpace
  | "blank" => some fun c => c == ' ' || c == '\t'
  | "punct" => some fun c => 33 ≤ c.toNat && c.toNat < 127 && !c.isAlphanum
  | "cntrl" => some fun c => c.toNat < 32 || c.toNat == 127
  | "graph" => some fun c => 33 ≤ c.toNat && c.toNat < 127
  | "print" => some fun c => 32 ≤ c.toNat && c.toNat < 127
  | "xdigit" => some fun c => "0123456789abcdefABCDEF".toList.contains c
  | _ => none

/-- Reads a named class after its opening bracket; also returns what follows it. -/
def readClass? : List Char → Option ((Char → Bool) × List Char)
  | ':' :: cs =>
    let name := cs.takeWhile (· != ':')
    match cs.drop name.length with
    | ':' :: ']' :: rest => some ((namedClass? (String.ofList name)).getD (fun _ => false), rest)
    | _ => none
  | _ => none

/-- Drops a backslash before a character. -/
def unescaped : List Char → List Char
  | '\\' :: cs => cs
  | cs => cs

/-- Reads the members of a set up to its closing bracket: whether a character is among them, and
what follows the set. There is none when the bracket does not close. -/
def members? (x : Char) : Nat → Bool → List Char → Option (Bool × List Char)
  | 0, _, _ => none
  | fuel + 1, found, cs =>
    let after (found : Bool) : List Char → Option (Bool × List Char)
      | ']' :: rest => some (found, rest)
      | rest => members? x fuel found rest
    let single (c : Char) (rest : List Char) : Option (Bool × List Char) :=
      match rest with
      | '-' :: d :: rest' =>
        if d = ']' then after (found || x == c) rest
        else
          match unescaped (d :: rest') with
          | d :: rest => after (found || (c.toNat ≤ x.toNat && x.toNat ≤ d.toNat)) rest
          | [] => none
      | rest => after (found || x == c) rest
    match cs with
    | [] => none
    | '[' :: rest =>
      match readClass? rest with
      | some (p, rest) => after (found || p x) rest
      | none => single '[' rest
    | '\\' :: c :: rest => single c rest
    | c :: rest => single c rest

/-- A pattern matches a whole text, when both together are no longer than `fuel`. -/
def matchesIn : Nat → List Char → List Char → Bool
  | 0, _, _ => false
  | _ + 1, [], xs => xs.isEmpty
  | fuel + 1, '*' :: ps, xs =>
    matchesIn fuel ps xs ||
      match xs with
      | [] => false
      | _ :: xs => matchesIn fuel ('*' :: ps) xs
  | fuel + 1, '?' :: ps, _ :: xs => matchesIn fuel ps xs
  | _ + 1, '?' :: _, [] => false
  | fuel + 1, '\\' :: p :: ps, x :: xs => p == x && matchesIn fuel ps xs
  | _ + 1, '\\' :: _ :: _, [] => false
  | fuel + 1, '[' :: ps, x :: xs =>
    let (inverted, body) := match ps with
      | '!' :: body => (true, body)
      | body => (false, body)
    match members? x (body.length + 1) false body with
    | some (found, rest) => found != inverted && matchesIn fuel rest xs
    | none => x == '[' && matchesIn fuel ps xs
  | _ + 1, '[' :: _, [] => false
  | fuel + 1, p :: ps, x :: xs => p == x && matchesIn fuel ps xs
  | _ + 1, _ :: _, [] => false

/-- A pattern matches a whole text. -/
def matchesAll (pattern text : List Char) : Bool :=
  matchesIn (pattern.length + text.length + 1) pattern text

/-- The pattern has a character that matches other text than itself. -/
def isOpen (pattern : Octets) : Bool :=
  pattern.toList.any fun c => c == '*' || c == '?' || c == '['

end Mender.Shell.Wildcard
