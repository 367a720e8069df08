import Mender.Tool.Regex

/-!
# Expressions for records

Reads regular expressions in which a backslash escapes characters also within brackets, braces stand
for themselves, and an operand may not be missing. Texts are cut into records and fields by them.
-/

namespace Mender.Records

namespace Pattern

/-- What can be wrong with an expression. -/
inductive Fault where
  | unclosed
  | operand
  | bracket
  | start
  deriving DecidableEq, Repr

/-- A fault in words. -/
def Fault.text : Fault → Octets
  | .unclosed => "missing ')'"
  | .operand => "missing operand"
  | .bracket => "bad class -- [], [^] or ["
  | .start => "syntax error ^* or ^+"

/-- The character that an escape stands for, and what follows it. -/
def readEscape : List Char → Char × List Char
  | [] => ('\\', [])
  | c :: rest =>
    let digits := ((c :: rest).take 3).takeWhile fun c => '0' ≤ c && c ≤ '7'
    if !digits.isEmpty then
      (Char.ofNat (Shell.Numeral.digitsValue 8 digits % 256), (c :: rest).drop digits.length)
    else
      let d := match c with
        | 'a' => '\x07'
        | 'b' => '\x08'
        | 'f' => '\x0c'
        | 'n' => '\n'
        | 'r' => '\r'
        | 't' => '\t'
        | 'v' => '\x0b'
        | c => c
      (d, rest)

/-- Reads the members of a set up to its closing bracket. -/
def readMembers : Nat → Bool → (Char → Bool) → List Char → Except Fault ((Char → Bool) × List Char)
  | 0, _, _, _ => .error .bracket
  | _, _, _, [] => .error .bracket
  | fuel + 1, isFirst, p, ']' :: cs =>
    if isFirst then readRange fuel p ']' cs else .ok (p, cs)
  | fuel + 1, _, p, '[' :: ':' :: cs =>
    let name := cs.takeWhile (· != ':')
    match cs.drop name.length with
    | ':' :: ']' :: rest =>
      match Shell.Wildcard.namedClass? (String.ofList name) with
      | some q => readMembers fuel false (fun c => p c || q c) rest
      | none => readRange fuel p '[' (':' :: cs)
    | _ => readRange fuel p '[' (':' :: cs)
  | fuel + 1, _, p, '\\' :: cs =>
    let (c, rest) := readEscape cs
    readRange fuel p c rest
  | fuel + 1, _, p, c :: cs => readRange fuel p c cs
where
  /-- Reads what follows a member: perhaps the other end of a range. -/
  readRange (fuel : Nat) (p : Char → Bool) (c : Char) :
      List Char → Except Fault ((Char → Bool) × List Char)
    | '-' :: ']' :: cs => readMembers fuel false (fun x => p x || x == c) ('-' :: ']' :: cs)
    | '-' :: d :: cs =>
      let (d, rest) := if d = '\\' then readEscape cs else (d, cs)
      readMembers fuel false (fun x => p x || (c.toNat ≤ x.toNat && x.toNat ≤ d.toNat)) rest
    | cs => readMembers fuel false (fun x => p x || x == c) cs

/-- What reads an expression in parentheses. -/
abbrev Inner := List Char → Except Fault (Regex × List Char)

/-- One character. -/
def single (c : Char) : Regex :=
  .one (· == c)

/-- Reads one expression without repetitions. -/
def readAtom (inner : Inner) : List Char → Except Fault (Regex × List Char)
  | [] => .error .operand
  | '(' :: rest => do
    let (r, rest) ← inner rest
    match rest with
    | ')' :: rest => return (r, rest)
    | _ => .error .unclosed
  | '[' :: rest => do
    let (inverted, body) := match rest with
      | '^' :: body => (true, body)
      | body => (false, body)
    let (p, rest) ← readMembers (rest.length + 2) true (fun _ => false) body
    return (.one (if inverted then fun c => !p c else p), rest)
  | '.' :: rest => .ok (.one fun _ => true, rest)
  | '^' :: rest =>
    match rest with
    | '*' :: _ | '+' :: _ | '?' :: _ => .error .start
    | rest => .ok (.textStart, rest)
  | '$' :: rest => .ok (.textEnd, rest)
  | '\\' :: rest =>
    let (c, rest) := readEscape rest
    .ok (single c, rest)
  | c :: rest =>
    if c = '*' || c = '+' || c = '?' || c = '|' then .error .operand else .ok (single c, rest)

/-- Reads the repetitions behind an expression. -/
def readRepetitions : Regex → List Char → Regex × List Char
  | r, '*' :: rest => readRepetitions (.times r 0 none) rest
  | r, '+' :: rest => readRepetitions (.times r 1 none) rest
  | r, '?' :: rest => readRepetitions (.times r 0 (some 1)) rest
  | r, rest => (r, rest)

/-- Reads a branch: at least one expression. The flag says whether it stands in parentheses. -/
def readBranch (inner : Inner) (isInner : Bool) : Nat → List Char → Except Fault (Regex × List Char)
  | 0, _ => .error .operand
  | fuel + 1, cs => do
    if isInner && cs.head? = some ')' then .error .operand
    if isInner && cs.isEmpty then .error .unclosed
    let (r, rest) ← readAtom inner cs
    let (r, rest) := readRepetitions r rest
    match rest with
    | [] => return (r, [])
    | '|' :: _ => return (r, rest)
    | ')' :: _ =>
      if isInner then return (r, rest)
      else
        let (s, rest) ← readBranch inner isInner fuel rest
        return (.seq r s, rest)
    | rest =>
      let (s, rest) ← readBranch inner isInner fuel rest
      return (.seq r s, rest)

/-- Reads branches between bars. -/
def readBranches (inner : Inner) (isInner : Bool) :
    Nat → List Char → Except Fault (Regex × List Char)
  | 0, _ => .error .operand
  | fuel + 1, cs => do
    let (r, rest) ← readBranch inner isInner (cs.length + 1) cs
    match rest with
    | '|' :: rest =>
      let (s, rest) ← readBranches inner isInner fuel rest
      return (.alt r s, rest)
    | rest => return (r, rest)

/-- Reads what stands in parentheses, which are nested no deeper than `depth`. -/
def readInner : Nat → Inner
  | 0 => fun _ => .error .unclosed
  | depth + 1 => fun cs => readBranches (readInner depth) true (cs.length + 1) cs

/-- Reads an expression. The empty one matches anywhere. -/
def read (s : Octets) : Except Fault Regex :=
  let cs := s.toList
  if cs.isEmpty then .ok .empty
  else do
    let (r, _) ← readBranches (readInner (cs.length + 1)) false (cs.length + 1) cs
    return r

end Pattern

/-!
## Records and fields

Cuts texts into records and records into fields.
-/

/-- What separates the pieces of a text. -/
inductive Separator where
  /-- Blanks, tabs and line feeds; those at the ends do not count. -/
  | blanks
  /-- Every character is a piece. -/
  | nothing
  | character (c : Char)
  | expression (r : Regex)

namespace Separator

/-- The separator that a text stands for. -/
def ofText (s : Octets) : Except Pattern.Fault Separator :=
  match s.toList with
  | [] => .ok .nothing
  | [' '] => .ok .blanks
  | [c] => .ok (.character c)
  | _ => (Pattern.read s).map .expression

/-- The pieces of a text between the stretches that match, from a position on; in reverse what was
found. -/
def splitBy (t : Regex.Subject) (r : Regex) : Nat → Nat → Nat → List Octets → List Octets
  | 0, start, _, found => String.ofList (Regex.slice t start t.size) :: found
  | fuel + 1, start, i, found =>
    match Regex.findFrom t r (fun a b => a < b) (t.size + 1 - i) i with
    | some f =>
      splitBy t r fuel f.stop f.stop (String.ofList (Regex.slice t start f.start) :: found)
    | none => String.ofList (Regex.slice t start t.size) :: found

/-- The words of a text. -/
def words (cs : List Char) : List Octets :=
  let isBlank (c : Char) : Bool := c == ' ' || c == '\t' || c == '\n'
  let (current, found) := cs.foldl
    (fun ((current : List Char), (found : List Octets)) c =>
      if isBlank c then
        if current.isEmpty then ([], found)
        else ([], String.ofList current.reverse :: found)
      else (c :: current, found))
    ([], [])
  let found := if current.isEmpty then found else String.ofList current.reverse :: found
  found.reverse

/-- The pieces of a text. -/
def split (s : Separator) (text : Octets) : List Octets :=
  let cs := text.toList
  if cs.isEmpty then []
  else
    match s with
    | .blanks => words cs
    | .nothing => cs.map String.singleton
    | .character c =>
      let pieces := (Octets.pieces c cs).map String.ofList
      if cs.getLast? = some c then pieces ++ [""] else pieces
    | .expression r =>
      let t := cs.toArray
      (splitBy t r (t.size + 1) 0 0 []).reverse

/-- Takes a record from the front of what is to be read, which is not empty. Without a separator,
records end at empty lines. -/
def takeRecord (s : Separator) (cs : List Char) : Option (List Char × List Char) :=
  match s with
  | .nothing =>
    let cs := cs.dropWhile (· == '\n')
    if cs.isEmpty then none else some (paragraph [] cs)
  | .character c =>
    let (record, rest) := upTo c [] cs
    some (record, rest)
  | .blanks =>
    let (record, rest) := upTo ' ' [] cs
    some (record, rest)
  | .expression r =>
    let t := cs.toArray
    match Regex.findFrom t r (fun a b => a < b) (t.size + 1) 0 with
    | some f => some (Regex.slice t 0 f.start, Regex.slice t f.stop t.size)
    | none => some (cs, [])
where
  /-- The characters up to one, and those behind it. -/
  upTo (c : Char) (taken : List Char) : List Char → List Char × List Char
    | [] => (taken.reverse, [])
    | d :: ds => if d = c then (taken.reverse, ds) else upTo c (d :: taken) ds
  /-- The lines up to an empty one, and what follows the empty ones. -/
  paragraph (taken : List Char) : List Char → List Char × List Char
    | [] => (taken.reverse, [])
    | ['\n'] => (taken.reverse, [])
    | '\n' :: '\n' :: ds => (taken.reverse, ds.dropWhile (· == '\n'))
    | d :: ds => paragraph (d :: taken) ds

end Separator

end Mender.Records
