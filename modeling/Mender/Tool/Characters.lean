import Mender.Shell.Builtin
import Mender.Shell.Wildcard
import Mender.Tool.Showing

/-!
# Characters

Tools that replace, delete and arrange single characters.
-/

namespace Mender

namespace Mapping

/-- A part of a set of characters. -/
inductive Piece where
  /-- A character in the place of all that are equal to it. -/
  | equal (c : Char)
  | chars (cs : List Char)
  | named (name : Octets) (cs : List Char)
  /-- A character some times; without a number as often as it is needed. -/
  | repeated (c : Char) (count : Option Nat)
  deriving Repr

/-- All characters, by their bytes. -/
def all : List Char :=
  (List.range 256).map Char.ofNat

/-- The characters from one to another. -/
def range (a b : Char) : List Char :=
  (List.range (b.toNat + 1 - a.toNat)).map fun i => Char.ofNat (a.toNat + i)

/-- Resolves backslashes. The flags tell which characters had one. -/
def unescaped : Nat → List Char → List (Char × Bool)
  | 0, _ => []
  | _, [] => []
  | _, ['\\'] => [('\\', false)]
  | fuel + 1, '\\' :: cs =>
    let (c, rest) := Shell.readEscape cs
    if c = '\\' && rest.length = cs.length then
      match cs with
      | d :: rest => (d, true) :: unescaped fuel rest
      | [] => []
    else (c, true) :: unescaped fuel rest
  | fuel + 1, c :: cs => (c, false) :: unescaped fuel cs

/-- A text ends with a backslash that has no character behind it. -/
def endsWithBackslash (cs : List Char) : Bool :=
  (cs.reverse.takeWhile (· == '\\')).length % 2 = 1

/-- A character for a message. -/
def told (c : Char) : Octets :=
  if 32 ≤ c.toNat && c.toNat < 127 then String.singleton c
  else
    let digits := Nat.toDigits 8 c.toNat
    String.ofList ('\\' :: (List.replicate (3 - digits.length) '0' ++ digits))

/-- A construct in brackets: two signs inside of the brackets, and text between them. -/
def bracketed? (sign : Char) (cs : List (Char × Bool)) : Option (List Char × List (Char × Bool)) :=
  let inner := cs.takeWhile fun c => c != (sign, false)
  match cs.drop inner.length with
  | _ :: (']', false) :: rest => some (inner.map (·.1), rest)
  | _ => none

/-- A repetition in brackets after its opening bracket. -/
def repetition? (cs : List (Char × Bool)) : Option (Except Octets Piece × List (Char × Bool)) :=
  match cs with
  | (c, _) :: ('*', false) :: rest =>
    let inner := rest.takeWhile fun d => d != (']', false)
    match rest.drop inner.length with
    | _ :: rest =>
      let digits := inner.map (·.1)
      if digits.isEmpty then some (.ok (.repeated c none), rest)
      else if !digits.all Char.isDigit then
        some (.error s!"invalid repeat count '{String.ofList digits}' in [c*n] construct", rest)
      else
        let base := if digits.head? = some '0' then 8 else 10
        let n := Shell.Numeral.digitsValue base digits
        some (.ok (.repeated c (if n = 0 then none else some n)), rest)
    | [] => none
  | _ => none

/-- Reads a set of characters. -/
def readPieces : Nat → List (Char × Bool) → Except Octets (List Piece)
  | 0, _ => .ok []
  | _, [] => .ok []
  | fuel + 1, cs =>
    let plain : Except Octets (List Piece) :=
      match cs with
      | (a, _) :: ('-', false) :: (b, _) :: rest =>
        if b < a then
          .error (s!"range-endpoints of '{told a}-{told b}' are in reverse " ++
            "collating sequence order")
        else do return .chars (range a b) :: (← readPieces fuel rest)
      | (c, _) :: rest => do return .chars [c] :: (← readPieces fuel rest)
      | [] => .ok []
    match cs with
    | ('[', false) :: (':', false) :: rest =>
      match bracketed? ':' rest with
      | some (name, rest) =>
        let name := String.ofList name
        match Shell.Wildcard.namedClass? name with
        | some p => do return .named name (all.filter p) :: (← readPieces fuel rest)
        | none => .error s!"invalid character class '{name}'"
      | none => plain
    | ('[', false) :: ('=', false) :: rest =>
      match bracketed? '=' rest with
      | some ([c], rest) => do return .equal c :: (← readPieces fuel rest)
      | some (cs, _) =>
        .error s!"{String.ofList cs}: equivalence class operand must be a single character"
      | none => plain
    | ('[', false) :: rest =>
      match repetition? rest with
      | some (.ok piece, rest) => do return piece :: (← readPieces fuel rest)
      | some (.error e, _) => .error e
      | none => plain
    | _ => plain

/-- Reads a set of characters. -/
def readSet (s : Octets) : Except Octets (List Piece) :=
  let cs := unescaped (s.length + 1) s.toList
  readPieces (cs.length + 1) cs

/-- The number of characters of pieces, without those that fill up. -/
def Piece.size : Piece → Nat
  | .chars cs => cs.length
  | .equal _ => 1
  | .named _ cs => cs.length
  | .repeated _ count => count.getD 0

/-- The characters of pieces, filled up to a length where one of them allows it. -/
def members (length : Nat) (pieces : List Piece) : List Char :=
  let total := pieces.foldl (fun n p => n + p.size) 0
  pieces.flatMap fun
    | .chars cs => cs
    | .equal c => [c]
    | .named _ cs => cs
    | .repeated c (some n) => List.replicate n c
    | .repeated c none => List.replicate (length - total) c

/-- The options of `tr`. -/
def table : OptionTable :=
  { flags := "cCdst", inOrder := true
    long := [⟨"complement", 'c', .never⟩, ⟨"delete", 'd', .never⟩,
      ⟨"squeeze-repeats", 's', .never⟩, ⟨"truncate-set1", 't', .never⟩] }

/-- Leaves out repetitions of characters of a set. -/
def squeezed (holds : Char → Bool) (cs : List Char) : List Char :=
  let (kept, _) := cs.foldl
    (fun (kept, (last : Option Char)) c =>
      if last = some c && holds c then (kept, last) else (c :: kept, some c))
    (([] : List Char), (none : Option Char))
  kept.reverse

/-- A table of all characters that tells whether a list holds them. -/
def holds (cs : List Char) : Char → Bool :=
  let none : Array Bool := Array.replicate 256 false
  let marks := cs.foldl (fun (t : Array Bool) c => t.setIfInBounds c.toNat true) none
  fun c => marks[c.toNat]?.getD false

/-- What characters become. -/
def images (first second : List Char) : Char → Char :=
  let last := second.getLastD '\x00'
  let pairs := first.zip (second ++ List.replicate (first.length - second.length) last)
  let table := pairs.foldl (fun (t : Array Char) (a, b) => t.setIfInBounds a.toNat b) all.toArray
  fun c => table[c.toNat]?.getD c

/-- A class that is no case of letters. -/
def Piece.isOtherClass : Piece → Bool
  | .named name _ => name != "upper" && name != "lower"
  | _ => false

/-- A class of characters. -/
def Piece.isClass : Piece → Bool
  | .named _ _ => true
  | _ => false

/-- A character that fills a set up. -/
def Piece.fills : Piece → Bool
  | .repeated _ none => true
  | _ => false

/-- For each character of pieces: a case of letters starts there, and how many characters it has. -/
def caseStarts (pieces : List Piece) : List (Bool × Nat) :=
  pieces.flatMap fun p =>
    match p with
    | .named name cs =>
      if p.isOtherClass || name.isEmpty then cs.map fun _ => (false, 1)
      else (true, cs.length) :: (cs.drop 1).map fun _ => (false, 1)
    | p => List.replicate p.size (false, 1)

/-- Wherever a case of letters starts in the second set, one starts in the first. -/
def casesAlign : Nat → List (Bool × Nat) → List (Bool × Nat) → Bool
  | fuel + 1, (a, n) :: as, (b, m) :: bs =>
    if b then a && casesAlign fuel (as.drop (n - 1)) (bs.drop (m - 1)) else casesAlign fuel as bs
  | _, [], (b, _) :: _ => !b
  | _, _, _ => true

/-- Why sets cannot be used together, if they cannot. -/
def clash? (call : Call) (translates hasSecond : Bool) (first second : List Piece)
    (members₁ members₂ : List Char) : Option Octets :=
  let complements : Bool := call.has 'c' || call.has 'C'
  let isEqual : Piece → Bool
    | .equal _ => true
    | _ => false
  let starts := caseStarts second
  if first.any Piece.fills then some "the [c*] repeat construct may not appear in string1"
  else if 1 < second.countP Piece.fills then
    some "only one [c*] repeat construct may appear in string2"
  else if !translates then
    if hasSecond && second.any Piece.fills then
      some "the [c*] construct may appear in string2 only when translating"
    else none
  else if second.any isEqual then
    some "[=c=] expressions may not appear in string2 when translating"
  else if second.any Piece.isOtherClass then
    some ("when translating, the only character classes that may appear in\n" ++
      "string2 are 'upper' and 'lower'")
  else if !complements && second.any Piece.isClass &&
      !casesAlign (members₁.length + members₂.length + 1) (caseStarts first) starts then
    some "misaligned [:upper:] and/or [:lower:] construct"
  else if members₂.length < members₁.length && !call.has 't' && members₂.isEmpty then
    some "when not truncating set1, string2 must be non-empty"
  else if members₂.length < members₁.length && !call.has 't' &&
      (second.getLast?.map Piece.isClass).getD false then
    some ("when translating with string1 longer than string2,\n" ++
      "the latter string must not end with a character class")
  else if complements && first.any Piece.isClass &&
      !(members₂.eraseDups.length = 1 &&
        (members₂.length = members₁.length ||
          (members₂.length < members₁.length && !call.has 't'))) then
    some ("when translating with complemented character classes,\n" ++
      "string2 must map all characters in the domain to one")
  else none

/-- Replaces or deletes characters as a call asks. -/
def mapped (call : Call) (first second : List Piece) (hasSecond : Bool) (cs : List Char) :
    Except Octets (List Char) := do
  let complements : Bool := call.has 'c' || call.has 'C'
  let members₁ := members 0 first
  let members₁ := if complements then
      let inside := holds members₁
      all.filter fun c => !inside c
    else members₁
  let members₂ := members members₁.length second
  let translates : Bool := hasSecond && !call.has 'd'
  match clash? call translates hasSecond first second members₁ members₂ with
  | some message => .error message
  | none => pure ()
  if call.has 'd' then
    let inside := holds members₁
    let kept := cs.filter fun c => !inside c
    return if call.has 's' then squeezed (holds members₂) kept else kept
  else if !hasSecond then return squeezed (holds members₁) cs
  else
    let members₁ := if call.has 't' then members₁.take members₂.length else members₁
    let image := images members₁ members₂
    let cs := cs.map image
    return if call.has 's' then squeezed (holds members₂) cs else cs

/-- Replaces or deletes characters of the input. -/
def tr : Tool := .withOptions "tr" 1 table fun call scene =>
  let misuse (s : Octets) : Ran :=
    .complaint 1 s!"tr: {s}\nTry 'tr --help' for more information."
  let run (first : Octets) (second : Option Octets) : Ran :=
    let result := do
      let a ← readSet first
      let b ← readSet (second.getD "")
      mapped call a b second.isSome scene.input
    let endsOpen : Bool := endsWithBackslash first.toList || second.any (endsWithBackslash ·.toList)
    let warning := "tr: warning: an unescaped backslash at end of string is not portable"
    let warned : Ran := if endsOpen then .complaint 0 warning else {}
    match result with
    | .ok cs => warned.then_ (Ran.output (String.ofList cs)).takingAll
    | .error e => warned.then_ (.complaint 1 s!"tr: {e}")
  let deletes : Bool := call.has 'd'
  let squeezes : Bool := call.has 's'
  match call.operands with
  | [] => misuse "missing operand"
  | [a] =>
    if deletes && squeezes then
      misuse (s!"missing operand after '{a}'\nTwo strings must be given when both deleting and " ++
        "squeezing repeats.")
    else if !deletes && !squeezes then
      misuse s!"missing operand after '{a}'\nTwo strings must be given when translating."
    else run a none
  | [a, b] =>
    if deletes && !squeezes then
      misuse (s!"extra operand '{b}'\nOnly one string may be given when deleting without " ++
        "squeezing repeats.")
    else run a (some b)
  | _ :: _ :: c :: _ => misuse s!"extra operand '{c}'"

end Mapping

namespace Folding

/-- The column after a character. -/
def column (bytes : Bool) (n : Nat) (c : Char) : Nat :=
  if bytes then n + 1
  else if c = '\x08' then n - 1
  else if c = '\r' then 0
  else if c = '\t' then n + 8 - n % 8
  else n + 1

/-- The column after some characters. -/
def columnAfter (bytes : Bool) (cs : List Char) : Nat :=
  cs.foldl (column bytes) 0

/-- Breaks a line that is read; `current` is the line so far in reverse. -/
def breakLine (bytes spaces : Bool) (width : Nat) (done : List (List Char)) (current : List Char)
    (n : Nat) : List Char → List (List Char)
  | [] => (current.reverse :: done).reverse
  | c :: cs =>
    let after := column bytes n c
    if after ≤ width || current.isEmpty then
      breakLine bytes spaces width done (c :: current) after cs
    else
      let tail := current.takeWhile fun d => !(d == ' ' || d == '\t')
      if spaces && tail.length < current.length then
        let head := current.drop tail.length
        let start := columnAfter bytes tail.reverse
        if column bytes start c ≤ width || tail.isEmpty then
          breakLine bytes spaces width (head.reverse :: done) (c :: tail)
            (column bytes start c) cs
        else
          breakLine bytes spaces width (tail.reverse :: head.reverse :: done) [c]
            (column bytes 0 c) cs
      else breakLine bytes spaces width (current.reverse :: done) [c] (column bytes 0 c) cs

/-- Breaks the lines of files. -/
def fold : Tool :=
  let table : OptionTable :=
    { flags := "bs", valued := "w"
      long := [⟨"bytes", 'b', .never⟩, ⟨"spaces", 's', .never⟩, ⟨"width", 'w', .always⟩] }
  let withWidth (args : List Octets) : List Octets := args.map fun a =>
    match a.toList with
    | '-' :: d :: cs => if d.isDigit then String.ofList ('-' :: 'w' :: d :: cs) else a
    | _ => a
  fun args scene => Tool.withOptions "fold" 1 table (fun call scene =>
    let value := (call.value? 'w').getD "80"
    match Amount.digits? value with
    | some (w + 1) =>
      scene.overFiles call.operands (.unreadable "fold" 1) fun text =>
        .output (String.ofList ((Octets.fullLines text.toList).flatMap fun l =>
          let ended : Bool := l.getLast? = some '\n'
          let broken := breakLine (call.has 'b') (call.has 's') (w + 1) [] [] 0
            (if ended then l.dropLast else l)
          Text.joinText ['\n'] broken ++ if ended then ['\n'] else []))
    | _ => .complaint 1 s!"fold: invalid number of columns: '{value}'") (withWidth args) scene

/-- The blanks to the next stop. -/
def toStop (width n : Nat) : Nat :=
  if width = 0 then 1 else width - n % width

/-- Replaces tabs of a line by blanks. -/
def expanded (width : Nat) (initial : Bool) (l : List Char) : List Char :=
  let (shown, _, _) := l.foldl
    (fun ((shown : List Char), (n : Nat), (blank : Bool)) c =>
      if c = '\t' && (blank || !initial) then
        let k := toStop width n
        (List.replicate k ' ' ++ shown, n + k, blank)
      else if c = '\n' then (c :: shown, 0, true)
      else if c = '\x08' then (c :: shown, n - 1, false)
      else (c :: shown, n + 1, blank && (c == ' ' || c == '\t')))
    ([], 0, true)
  shown.reverse

/-- Replaces tabs by blanks. -/
def expand : Tool :=
  let table : OptionTable :=
    { flags := "i", valued := "t"
      long := [⟨"initial", 'i', .never⟩, ⟨"tabs", 't', .always⟩] }
  .withOptions "expand" 1 table fun call scene =>
    let value := (call.value? 't').getD "8"
    match Amount.digits? value with
    | some width =>
      if width = 0 then .complaint 1 "expand: tab size cannot be 0"
      else
        scene.overFiles call.operands (.unreadable "expand" 1) fun text =>
          .output (String.ofList (expanded width (call.has 'i') text.toList))
    | none => .complaint 1 s!"expand: tab size contains invalid character(s): '{value}'"

/-- Replaces blanks of a line by tabs where they reach a stop. -/
def unexpandedLine (width : Nat) (all : Bool) : Nat → Nat → Bool → List Char → List Char
  | pending, _, _, [] => List.replicate pending ' '
  | pending, n, blank, c :: cs =>
    if c = ' ' && (blank || all) then
      if (n + 1) % width = 0 && 0 < pending then
        '\t' :: unexpandedLine width all 0 (n + 1) blank cs
      else if (n + 1) % width = 0 && blank then
        '\t' :: unexpandedLine width all 0 (n + 1) blank cs
      else unexpandedLine width all (pending + 1) (n + 1) blank cs
    else if c = '\t' && (blank || all) then
      '\t' :: unexpandedLine width all 0 (n + width - n % width) blank cs
    else List.replicate pending ' ' ++ c :: unexpandedLine width all 0 (n + 1) false cs

/-- Replaces blanks by tabs. -/
def unexpand : Tool :=
  let table : OptionTable :=
    { flags := "a", valued := "t"
      long := [⟨"all", 'a', .never⟩, ⟨"tabs", 't', .always⟩, ⟨"first-only", 'f', .never⟩] }
  .withOptions "unexpand" 1 table fun call scene =>
    let width := max 1 (((call.value? 't').bind Amount.digits?).getD 8)
    let all : Bool := (call.has 'a' || call.has 't') && !call.has 'f'
    scene.overFiles call.operands (.unreadable "unexpand" 1) fun text =>
      .output (String.ofList ((Octets.fullLines text.toList).flatMap
        (unexpandedLine width all 0 0 true)))

end Folding

end Mender
