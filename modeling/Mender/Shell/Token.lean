import Mender.Shell.Syntax

/-!
# Tokens and words

Reads command lines character by character. The state of a reader comes first, then the tokens and
words that it takes from a line.
-/

namespace Mender.Shell

/-!
## Reading command lines

The state of a reader of command lines, and how it takes and gives back characters. A reader knows
its line, the token it read last, and the documents that the next line feed is followed by.
-/

/-- A token of a command line. -/
inductive Token where
  | endOfFile
  | newline
  | semicolon
  | ampersand
  | both
  | either
  | pipe
  | opening
  | closing
  | endOfCase
  | redirection
  | word
  | keyword (text : Octets)
  deriving DecidableEq, Repr

/-- The words that stand for tokens where a command may start. -/
def keywords : List Octets :=
  ["!", "case", "do", "done", "elif", "else", "esac", "fi", "for", "if", "in", "then", "until",
    "while", "\x7b", "\x7d"]

namespace Token

/-- A token as messages name it. -/
def text : Token → Octets
  | .endOfFile => "end of file"
  | .newline => "newline"
  | .semicolon => "\";\""
  | .ampersand => "\"&\""
  | .both => "\"&&\""
  | .either => "\"||\""
  | .pipe => "\"|\""
  | .opening => "\"(\""
  | .closing => "\")\""
  | .endOfCase => "\";;\""
  | .redirection => "redirection"
  | .word => "word"
  | .keyword s => "\"" ++ s ++ "\""

/-- A list of commands ends before the token. -/
def endsList : Token → Bool
  | .endOfFile | .closing | .endOfCase => true
  | .keyword s => s ∈ ["do", "done", "elif", "else", "esac", "fi", "then", "\x7d"]
  | _ => false

end Token

/-- What the next token may be besides itself. -/
structure Expecting where
  /-- Line feeds are skipped. -/
  newlines : Bool := false
  keywords : Bool := false
  aliases : Bool := false
  /-- The word ends a document, so nothing in it is substituted. -/
  mark : Bool := false
  deriving DecidableEq, Repr

namespace Expecting

/-- Either of two expectations. -/
def or (a b : Expecting) : Expecting :=
  ⟨a.newlines || b.newlines, a.keywords || b.keywords, a.aliases || b.aliases, a.mark || b.mark⟩

/-- A command that may start on a later line. -/
def command : Expecting :=
  { newlines := true, keywords := true, aliases := true }

/-- A command that starts here. -/
def commandHere : Expecting :=
  { keywords := true, aliases := true }

end Expecting

/-- A document that follows the line it is announced on. -/
structure Awaited where
  number : Nat
  mark : Octets
  expands : Bool
  /-- Tabs at the start of its lines are dropped. -/
  withoutTabs : Bool

/-- The state of a reader. -/
structure Reader where
  rest : List Char
  line : Nat := 1
  /-- The token read last. -/
  token : Token := .newline
  /-- The last token is read once more. -/
  again : Bool := false
  word : Word := []
  /-- A part of the word was quoted. -/
  quoted : Bool := false
  /-- Makes the redirection of its descriptor and kind from the word behind it. -/
  redirection : Nat × Octets := (0, "")
  expecting : Expecting := {}
  awaited : List Awaited := []
  documents : List (Nat × Word) := []
  /-- The number of the next document. -/
  nextDocument : Nat := 0
  aliases : List (Octets × Octets) := []
  /-- The aliases that are being read, with the length of what follows them. -/
  replaced : List (Octets × Nat) := []

/-- A command line that cannot be read. -/
structure SyntaxFault where
  line : Nat
  message : Octets

/-- Reads from a command line. -/
abbrev Reading := StateT Reader (Except SyntaxFault)

namespace Reading

/-- Complains about the command line. -/
def refuse {α : Type} (message : Octets) : Reading α := do
  throw ⟨(← get).line, "Syntax error: " ++ message⟩

/-- Complains about the last token. -/
def unexpected {α : Type} (wanted : Option Token) : Reading α := do
  let told := (← get).token.text ++ " unexpected"
  match wanted with
  | some t => refuse s!"{told} (expecting {t.text})"
  | none => refuse told

/-- Takes a character. -/
def take : Reading (Option Char) :=
  modifyGet fun r =>
    match r.rest with
    | [] => (none, r)
    | c :: rest => (some c, { r with rest })

/-- Drops line feeds after backslashes. -/
def joined (r : Reader) : List Char → Reader
  | '\\' :: '\n' :: rest => joined { r with line := r.line + 1 } rest
  | rest => { r with rest }

/-- Takes a character; a backslash before a line feed joins two lines. -/
def next : Reading (Option Char) := do
  modify fun r => joined r r.rest
  take

/-- Gives a character back. -/
def giveBack (c : Option Char) : Reading Unit :=
  modify fun r => { r with rest := c.toList ++ r.rest }

/-- Counts a line. -/
def countLine : Reading Unit :=
  modify fun r => { r with line := r.line + 1 }

/-- Sets the last token. -/
def answer (token : Token) : Reading Token := do
  modify fun r => { r with token }
  return token

/-- The last token is to be read once more. -/
def again : Reading Unit :=
  modify fun r => { r with again := true }

/-- Sets what the next token may be. -/
def expecting (e : Expecting) : Reading Unit :=
  modify fun r => { r with expecting := e }

end Reading

/-- Repeats a step until it has a result, at most as often as told. -/
def iterate {m : Type → Type} [Monad m] {α β : Type} (step : α → m (α ⊕ β)) (otherwise : m β) :
    Nat → α → m β
  | 0, _ => otherwise
  | n + 1, a => do
    match ← step a with
    | .inl a => iterate step otherwise n a
    | .inr b => return b

/-- The rules of a command line that refer to themselves, for fewer levels of nesting. -/
structure Rules where
  /-- Commands up to a token that ends them; there may be none. -/
  commands : Reading Command
  /-- Commands up to a token that ends them; there is at least one. -/
  someCommands : Reading Command
  /-- One command. -/
  command : Reading Command
  /-- Commands up to a closing parenthesis. -/
  enclosed : Reading Command

/-!
## Tokens and words

Reads the next token of a command line. A word is read character by character under levels of
quoting: every substitution that changes what quotes mean opens a level, and its end closes it.
Documents are read by the same rules, up to the line that ends them.
-/

section

open Reading

/-- What characters mean. -/
inductive Quoting where
  | none
  | single
  | double
  | arithmetic
  deriving DecidableEq, Repr

/-- What a character does. -/
inductive Role where
  | text
  | newline
  | backslash
  | startsSingle
  | startsDouble
  | endsQuotes
  | backquote
  | dollar
  | closesParameter
  | endsWord
  | opensParenthesis
  | closesParenthesis
  deriving DecidableEq, Repr

/-- What a character does under a quoting. -/
def roleOf (q : Quoting) (c : Char) : Role :=
  if c = '\n' then .newline
  else if q = .single then if c = '\'' then .endsQuotes else .text
  else if c = '\\' then .backslash
  else if c = '`' then .backquote
  else if c = '$' then .dollar
  else if c = '}' then .closesParameter
  else
    match q with
    | .double => if c = '"' then .endsQuotes else .text
    | .arithmetic =>
      if c = '(' then .opensParenthesis else if c = ')' then .closesParenthesis else .text
    | _ =>
      if c = '\'' then .startsSingle
      else if c = '"' then .startsDouble
      else if "<>();&| \t".toList.contains c then .endsWord
      else .text

/-- A level of quoting. -/
structure Level where
  quoting : Quoting
  /-- Inside double quotes. -/
  doubled : Bool := false
  /-- Inside double quotes that a parameter started. -/
  doubledWithin : Bool := false
  /-- A parameter opened the level. -/
  ofParameter : Bool := false
  /-- Parameters that are open on this level. -/
  parameters : Nat := 0
  /-- Those of them that stand in double quotes. -/
  doubledParameters : Nat := 0
  parentheses : Nat := 0

/-- A substitution that is not closed yet, with what stands before it. -/
inductive Opened where
  | parameter (name : Octets) (form : Form) (orNull : Bool) (before : List Part)
  | arithmetic (before : List Part)

/-- A word that is being read. Its parts are in reverse. -/
structure Scan where
  level : Level
  below : List Level := []
  parts : List Part := []
  opened : List Opened := []
  quoted : Bool := false
  /-- The document that is being read. -/
  document : Option Awaited := none
  /-- Nothing is substituted. -/
  literal : Bool := false

namespace Scan

/-- Adds a character. -/
def add (s : Scan) (c : Char) : Scan :=
  match s.level.quoting with
  | .single | .double => { s with parts := Word.addQuoted c s.parts }
  | _ => { s with parts := Word.addPlain c s.parts }

/-- Adds a character that stands for itself. -/
def addQuoted (s : Scan) (c : Char) : Scan :=
  { s with parts := Word.addQuoted c s.parts }

/-- Adds a part. -/
def addPart (s : Scan) (p : Part) : Scan :=
  { s with parts := p :: s.parts }

/-- Adds an edge of quotes. -/
def edge (s : Scan) : Scan :=
  if s.document.isSome then s else s.addPart .edge

/-- Opens a level. -/
def push (s : Scan) (l : Level) : Scan :=
  { s with level := l, below := s.level :: s.below }

/-- Closes a level. -/
def pop (s : Scan) : Scan :=
  match s.below with
  | l :: below => { s with level := l, below }
  | [] => s

/-- Double quotes start or end inside a parameter. -/
def toggled (s : Scan) : Scan :=
  if 0 < s.level.parameters then
    { s with level := { s.level with doubledWithin := !s.level.doubledWithin } }
  else s

/-- Starts a quoting. -/
def startQuotes (s : Scan) (c : Char) : Scan :=
  if c = '"' then
    { s with level := { s.level with quoting := .double, doubled := true } }.toggled.edge
  else { s with level := { s.level with quoting := .single } }.edge

/-- Ends a quoting. -/
def endQuotes (s : Scan) (c : Char) : Scan :=
  if s.document.isSome && s.level.parameters = 0 then s.add c
  else
    let l := s.level
    let l := if l.doubledParameters = 0 then { l with quoting := .none, doubled := false } else l
    let s := { s with level := l, quoted := true }
    (if c = '"' then s.toggled else s).edge

/-- Closes the innermost substitution. -/
def close (s : Scan) : Scan :=
  match s.opened with
  | .parameter name form orNull before :: opened =>
    { s with parts := .parameter name form orNull s.parts.reverse :: before, opened }
  | .arithmetic before :: opened =>
    { s with parts := .arithmetic s.parts.reverse :: before, opened }
  | [] => s

/-- Closes a parameter, when there is one to close. -/
def closeParameter (s : Scan) (c : Char) : Scan :=
  let l := s.level
  if l.doubledWithin || l.parameters = 0 then s.add c
  else
    let l := { l with parameters := l.parameters - 1 }
    let s := s.close
    if l.parameters = 0 && l.ofParameter then s.pop
    else { s with level := { l with doubledParameters := l.doubledParameters - 1 } }

/-- Opens a parameter. What follows is read under a quoting. -/
def openParameter (s : Scan) (name : Octets) (form : Form) (orNull : Bool) (q : Quoting) : Scan :=
  let q := if q = .arithmetic then .double else q
  let s := if q ≠ s.level.quoting || s.level.doubledWithin then
      s.push { quoting := q, doubled := q != .none, ofParameter := true }
    else s
  let l := s.level
  let l := { l with
    parameters := l.parameters + 1
    doubledParameters := l.doubledParameters + (if l.doubled then 1 else 0) }
  { s with level := l, parts := [], opened := .parameter name form orNull s.parts :: s.opened }

/-- Opens an arithmetic expression. -/
def openArithmetic (s : Scan) : Scan :=
  let s := s.push { quoting := .arithmetic, doubled := true }
  { s with parts := [], opened := .arithmetic s.parts :: s.opened }

end Scan

/-- A parameter that is no variable. -/
def isSpecial (c : Char) : Bool :=
  "!#$*-?@".toList.contains c || c.isDigit

/-- The character in an option is of a class. -/
def isOf (p : Char → Bool) : Option Char → Bool
  | some c => p c
  | none => false

/-- Takes characters of a class after a first one; also returns what follows. -/
def takeName (p : Char → Bool) (first : Char) : Reading (Octets × Option Char) := do
  iterate
    (fun (name : Octets) => do
      match ← next with
      | some c => if p c then return .inl (name.push c) else return .inr (name, some c)
      | none => return .inr (name, none))
    (return ("", none)) ((← get).rest.length + 1) (String.singleton first)

/-- How a parameter is written so far. -/
inductive Spelling where
  | bare
  | braced
  | counted
  | bad
  deriving DecidableEq, Repr

/-- Reads a name or number that starts with a character. -/
def readName (s : Spelling) (c : Char) : Reading (Octets × Option Char) :=
  if Octets.startsName c then takeName Octets.inName c
  else if s = .bare then do return (String.singleton c, ← next)
  else takeName Char.isDigit c

/-- Reads the name of a parameter; returns it, how it is written, and what follows. -/
def readParameterName (s : Spelling) (c : Option Char) :
    Reading (Octets × Spelling × Option Char) := do
  let isNamed (c : Char) := Octets.startsName c || c.isDigit
  match c with
  | none => return ("", .bad, none)
  | some '}' => return ("", .bad, c)
  | some c =>
    if isNamed c then
      let (name, after) ← readName s c
      return (name, s, after)
    else
      let special (s : Spelling) (c : Char) (after : Option Char) :
          Octets × Spelling × Option Char :=
        if isSpecial c then (String.singleton c, s, after) else ("", .bad, after)
      let after ← next
      if s = .braced && c = '#' then
        match after with
        | some d =>
          if isNamed d then
            let (name, after) ← readName .counted d
            return (name, .counted, after)
          else
            let last ← next
            if d = '}' || last ≠ some '}' then
              giveBack last
              return ("#", .braced, some d)
            else return special .counted d last
        | none => return ("#", .braced, none)
      else return special s c after

/-- The form that a character stands for. -/
def formOf? : Char → Option Form
  | '}' => some .value
  | '-' => some .orElse
  | '+' => some .ifThere
  | '?' => some .orFail
  | '=' => some .orAssign
  | _ => none

/-- Reads a parameter after the dollar sign and a character. -/
def readParameter (s : Scan) (c : Option Char) : Reading Scan := do
  let braced := c == some '{'
  let c ← if braced then next else pure c
  let (name, spelling, c) ← readParameterName (if braced then .braced else .bare) c
  let q := s.level.quoting
  match spelling with
  | .bare =>
    giveBack c
    return s.addPart (.parameter name .value false [])
  | .counted =>
    giveBack c
    return s.openParameter name (if c = some '}' then .length else .unknown) false q
  | .bad =>
    giveBack c
    return s.openParameter name .unknown false q
  | .braced =>
    match c with
    | some ':' =>
      let d ← next
      return s.openParameter name ((d.bind formOf?).getD .unknown) true q
    | some '%' | some '#' =>
      let d ← next
      let longest := d == c
      if !longest then giveBack d
      let form := if c = some '#' then .withoutStart longest else .withoutEnd longest
      return s.openParameter name form false .none
    | c =>
      match c.bind formOf? with
      | some .value => return s.addPart (.parameter name .value false [])
      | form => return s.openParameter name (form.getD .unknown) false q

/-- Reads a document from its first character. -/
abbrev DocumentReader := Awaited → Reading Word

/-- Reads the documents that the line feed just read is followed by. -/
def readDocuments (document : DocumentReader) : Reading Unit := do
  let awaited := (← get).awaited
  modify fun r => { r with awaited := [] }
  for a in awaited do
    let w ← document a
    modify fun r => { r with documents := (a.number, w) :: r.documents }

/-- Reads a command between backquotes: first its text, then the command in it. -/
def readBackquoted (rules : Rules) (doubled : Bool) : Reading Command := do
  let text ← iterate
    (fun (text : List Char) => do
      match ← next with
      | some '`' => return .inr text.reverse
      | some '\\' =>
        match ← take with
        | some c =>
          if c = '\\' || c = '`' || c = '$' || (doubled && c = '"') then
            return .inl (c :: text)
          else return .inl (c :: '\\' :: text)
        | none => refuse "EOF in backquote substitution"
      | some c =>
        if c = '\n' then countLine
        return .inl (c :: text)
      | none => refuse "EOF in backquote substitution")
    (refuse "EOF in backquote substitution") ((← get).rest.length + 2) []
  let outer ← get
  set { outer with rest := text, line := 1, awaited := [] }
  let command ← rules.commands
  modify fun r => { r with
    rest := outer.rest, line := outer.line, awaited := outer.awaited, again := false }
  return command

/-- Reads a word that goes on as told by its scan and its first character; also returns the
character that follows. -/
def scanWord (substitute backquote : Scan → Reading Scan) (first : Scan) (c : Option Char) :
    Reading (Scan × Option Char) := do
  let top (s : Scan) : Reading (Option Char) :=
    if s.level.quoting = .single then take else next
  iterate
    (fun (state : Scan × Option Char × Bool) => do
      let (s, c, atStart) := state
      let c ← if atStart then lineStart s c else pure c
      match c with
      | none => return .inr (s, none)
      | some c =>
        let goOn (s : Scan) : Reading ((Scan × Option Char × Bool) ⊕ (Scan × Option Char)) := do
          return .inl (s, ← top s, false)
        match roleOf s.level.quoting c with
        | .text => goOn (s.add c)
        | .newline =>
          if s.level.quoting = .none && s.level.parameters = 0 then return .inr (s, some c)
          else
            countLine
            let s := s.add c
            return .inl (s, ← top s, true)
        | .backslash => goOn (← backslash s)
        | .startsSingle => goOn (s.startQuotes c)
        | .startsDouble => goOn (s.startQuotes c)
        | .endsQuotes => goOn (s.endQuotes c)
        | .dollar => goOn (← substitute s)
        | .backquote => goOn (← backquote s)
        | .closesParameter => goOn (s.closeParameter c)
        | .opensParenthesis =>
          goOn { s.add c with level := { s.level with parentheses := s.level.parentheses + 1 } }
        | .closesParenthesis => goOn (← closeParenthesis s)
        | .endsWord =>
          if s.level.parameters = 0 then return .inr (s, some c) else goOn (s.add c))
    (return (first, none)) (2 * (← get).rest.length + 3) (first, c, true)
where
  /-- At the start of a line of a document: the end of the document, if the line is its mark. -/
  lineStart (s : Scan) (c : Option Char) : Reading (Option Char) := do
    match s.document with
    | none => return c
    | some a =>
      giveBack c
      if a.withoutTabs then modify fun r => { r with rest := r.rest.dropWhile (· == '\t') }
      let rest := (← get).rest
      let mark := a.mark.toList
      let after := rest.drop mark.length
      if mark.isPrefixOf rest && (after.isEmpty || after.head? = some '\n') then
        modify fun r => { r with
          rest := after.tail, line := r.line + if after.isEmpty then 0 else 1 }
        return none
      else take
  /-- A backslash. -/
  backslash (s : Scan) : Reading Scan := do
    match ← take with
    | none => return s.addQuoted '\\'
    | some c =>
      let l := s.level
      let plain := c == '\\' || c == '`' || c == '$' ||
        (c == '"' && !(s.document.isSome && l.parameters == 0)) ||
        (c == '}' && l.parameters != 0)
      let s := if l.doubled && !plain then s.addQuoted '\\' else s
      return { s.addQuoted c with quoted := true }
  /-- A closing parenthesis in an arithmetic expression. -/
  closeParenthesis (s : Scan) : Reading Scan := do
    let n := s.level.parentheses
    if 0 < n then return { s.add ')' with level := { s.level with parentheses := n - 1 } }
    else
      match ← next with
      | some ')' => return s.close.pop
      | c => giveBack c; return s.add ')'

/-- Reads a document. -/
def readDocumentWith (substitute backquote : Scan → Reading Scan) : DocumentReader := fun a => do
  let level : Level := if a.expands then { quoting := .double, doubled := true }
    else { quoting := .single }
  let c ← if a.expands then next else take
  let (s, _) ← scanWord substitute backquote { level, document := some a } c
  if s.level.quoting = .arithmetic then refuse "Missing '))'"
  if s.level.parameters ≠ 0 then refuse "Missing '\x7d'"
  return s.parts.reverse

/-- Reads the kind of a redirection after its first sign. -/
def readRedirection (sign : Char) (descriptor : Option Nat) : Reading Token := do
  let kind ← (do
    let c ← next
    if sign = '>' then
      if c = some '>' then return ">>"
      else if c = some '|' then return ">|"
      else if c = some '&' then return ">&"
      else giveBack c; return ">"
    else if c = some '<' then
      let d ← next
      if d = some '-' then return "<<-"
      else giveBack d; return "<<"
    else if c = some '&' then return "<&"
    else if c = some '>' then return "<>"
    else giveBack c; return "<")
  modify fun r => { r with redirection := (descriptor.getD (if sign = '>' then 1 else 0), kind) }
  answer .redirection

/-- The descriptor that a word before a redirection stands for. -/
def descriptorOf? (s : Scan) : Option (Option Nat) :=
  if s.quoted then none
  else
    match s.parts with
    | [] => some none
    | [.plain t] =>
      match t.toList with
      | [c] => if c.isDigit then some (some (c.toNat - 48)) else none
      | _ => none
    | _ => none

/-- Reads a word from its first character, or a redirection. -/
def readWordWith (substitute backquote : Scan → Reading Scan) (c : Char) : Reading Token := do
  let literal := (← get).expecting.mark
  let (s, after) ← scanWord substitute backquote { level := { quoting := .none }, literal } (some c)
  if s.level.quoting = .arithmetic then refuse "Missing '))'"
  if s.level.quoting ≠ .none then refuse "Unterminated quoted string"
  if s.level.parameters ≠ 0 then refuse "Missing '\x7d'"
  let finish : Reading Token := do
    giveBack after
    modify fun r => { r with word := s.parts.reverse, quoted := s.quoted }
    answer .word
  match after, descriptorOf? s with
  | some '<', some d => readRedirection '<' d
  | some '>', some d => readRedirection '>' d
  | _, _ => finish

/-- Reads a token as it stands. -/
def readRawWith (word : Char → Reading Token) : Reading Token := do
  if (← get).again then
    modify fun r => { r with again := false }
    return (← get).token
  let twice (c : Char) (two one : Token) : Reading Token := do
    let d ← next
    if d = some c then answer two
    else giveBack d; answer one
  iterate
    (fun (_ : Unit) => do
      match ← next with
      | some ' ' | some '\t' => return .inl ()
      | some '#' =>
        modify fun r => { r with rest := r.rest.dropWhile (· != '\n') }
        return .inl ()
      | some '\n' => countLine; return .inr (← answer .newline)
      | none => return .inr (← answer .endOfFile)
      | some '&' => return .inr (← twice '&' .both .ampersand)
      | some '|' => return .inr (← twice '|' .either .pipe)
      | some ';' => return .inr (← twice ';' .endOfCase .semicolon)
      | some '(' => return .inr (← answer .opening)
      | some ')' => return .inr (← answer .closing)
      | some c => return .inr (← word c))
    (answer .endOfFile) ((← get).rest.length + 2) ()

/-- The value of an alias that may be put in place of the last word. -/
def aliasOf? (r : Reader) : Option Octets :=
  match Word.plain? r.word with
  | some name =>
    if r.replaced.any fun a => a.1 = name && a.2 ≤ r.rest.length then none
    else (r.aliases.find? (·.1 = name)).map (·.2)
  | none => none

/-- Puts the value of an alias in front of what is to be read. -/
def putAlias (value : Octets) : Reading Unit :=
  modify fun r => { r with
    rest := value.toList ++ r.rest
    replaced := ((Word.plain? r.word).getD "", r.rest.length) :: r.replaced }

/-- The last token, read when there were `before` characters, is the first one behind an alias that
ends with a blank. -/
def followsAlias (r : Reader) (before : Nat) : Bool :=
  r.replaced.any fun a => a.2 < before && r.rest.length < a.2

/-- The most aliases and line feeds before a token. -/
def maxSkips : Nat := 100000

/-- Reads a token as it is expected: past line feeds, as a keyword, or through an alias. -/
def readTokenWith (raw : Reading Token) (documents : Reading Unit) : Reading Token := do
  iterate
    (fun (e : Expecting) => do
      let before := (← get).rest.length
      let t ← raw
      let t ← if e.newlines then
          iterate
            (fun (t : Token) => do
              if t = .newline then
                documents
                expecting {}
                return .inl (← raw)
              else return .inr t)
            (pure t) maxSkips t
        else pure t
      let r ← get
      let e := e.or r.expecting
      expecting {}
      if t ≠ .word || r.quoted then return .inr t
      match Word.plain? r.word with
      | none => return .inr t
      | some text =>
        if e.keywords && keywords.contains text then return .inr (← answer (.keyword text))
        else if e.aliases || followsAlias r before then
          match aliasOf? r with
          | some value => putAlias value; return .inl e
          | none => return .inr t
        else return .inr t)
    (answer .endOfFile) maxSkips (← get).expecting

/-- Reads a command between backquotes as a part. -/
def backquote (rules : Rules) (s : Scan) : Reading Scan := do
  if s.literal then return { s.add '`' with quoted := true }
  else return s.addPart (.command (← readBackquoted rules s.level.doubled))

/-- Reads what follows a dollar sign. -/
def substitute (rules : Rules) (s : Scan) : Reading Scan := do
  let c ← next
  let starts := c == some '(' || c == some '{' ||
    isOf (fun c => Octets.startsName c || isSpecial c) c
  if s.literal || !starts then
    giveBack c
    return s.add '$'
  else if c = some '(' then
    let d ← next
    if d = some '(' then return s.openArithmetic
    else
      giveBack d
      return s.addPart (.command (← rules.enclosed))
  else readParameter s c

/-- Reads the documents that are awaited. -/
def readAwaited (rules : Rules) : Reading Unit :=
  readDocuments (readDocumentWith (substitute rules) (backquote rules))

/-- Reads a token. -/
def readToken (rules : Rules) : Reading Token :=
  readTokenWith (readRawWith (readWordWith (substitute rules) (backquote rules)))
    (readAwaited rules)

end

end Mender.Shell
