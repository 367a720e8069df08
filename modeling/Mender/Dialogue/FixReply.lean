import Mender.Dialogue.Fence
import Mender.Number.Integer
import Mender.Patch.Basic

/-!
# Replies that hold a fix

A reply to a repair request may state a fix in tags: the file, the range of lines, the replaced and
the fixed code, and an explanation. Without such a block the first fenced code replaces the lines of
the fault. A reply in a dialogue may also be bare code.
-/

namespace Mender.FixReply

/-- The text between the first opening mark and the next closing mark. -/
def between? (opening closing cs : List Char) : Option (List Char) :=
  (Text.findText? opening cs).bind fun start =>
    let rest := cs.drop (start + opening.length)
    (Text.findText? closing rest).map rest.take

/-- The mark that opens a tag. -/
def openTag (name : String) : List Char :=
  '<' :: name.toList ++ ['>']

/-- The mark that closes a tag. -/
def closeTag (name : String) : List Char :=
  '<' :: '/' :: name.toList ++ ['>']

/-- The body of the first tag of a name. -/
def tag? (name : String) (cs : List Char) : Option (List Char) :=
  between? (openTag name) (closeTag name) cs

/-- The body of a tag as code; a missing tag is empty. -/
def codeOf (body : Option (List Char)) : String :=
  String.ofList (Fence.unwrapped (body.getD []))

/-- The trimmed body of a tag, or a text in its place when nothing is left of it. -/
def textOr (body : Option (List Char)) (absent : String) : String :=
  match Text.trim (body.getD []) with
  | [] => absent
  | cs => String.ofList cs

/-- The line number in a tag. A body that does not look like digits stands for the line of the
fault; one that does but is no decimal numeral is an error. -/
def lineOr (body : Option (List Char)) (absent : Int) : Except Failure Int :=
  let digits := Text.trim (body.getD [])
  if digits.isEmpty || !digits.all Text.isDigitLike then .ok absent
  else Integer.read (String.ofList digits)

/-- The strategy of candidates that a model makes. -/
def modelStrategy : String := "llm_generated"

/-- The explanation of a fix that gives none. -/
def defaultExplanation : String := "LLM-generated fix"

/-- The fix of a reply without tags: fenced code for the lines of the fault. -/
def ofCode (f : Fault) (strategy code : String) : Patch :=
  { changes := [⟨f.location.file, f.location.line, f.location.endLine, "", code⟩]
    strategy, source := .model, confidence := 0.5, explanation := defaultExplanation }

/-- The fix stated in tags, given the body of the block and the fixed code. -/
def ofTags (f : Fault) (strategy : String) (block fixed : List Char) : Except Failure Patch := do
  let first ← lineOr (tag? "line_start" block) f.location.line
  let last ← lineOr (tag? "line_end" block) f.location.endLine
  let change : Change :=
    { file := textOr (tag? "file" block) f.location.file
      first, last := max last first
      replaced := codeOf (tag? "original" block)
      new := codeOf (some fixed) }
  return { changes := [change], strategy, source := .model, confidence := 0.7
           explanation := textOr (tag? "explanation" block) defaultExplanation }

/-- The candidate that a reply offers, if it offers one. -/
def parse (f : Fault) (strategy reply : String) : Except Failure (Option Patch) :=
  match tag? "fix" reply.toList with
  | none => .ok ((Fence.codeBlock? reply).map (ofCode f strategy))
  | some block =>
    match tag? "fixed" block with
    | none => .ok none
    | some fixed => (ofTags f strategy block fixed).map some

/-- The words that code may start with. -/
def codeWords : List String :=
  ["function", "class", "const", "let", "var", "import", "export", "if", "for", "while", "return",
   "def"]

/-- A statement starts here: one of the words, a blank, and something more. -/
def startsCode (previous : Option Char) (cs : List Char) : Bool :=
  !previous.any Text.isWord &&
    codeWords.any fun w =>
      w.toList.isPrefixOf cs &&
        match cs.drop w.length with
        | blank :: _ :: _ => Text.isBlank blank
        | _ => false

/-- The text from the first place where a statement starts. -/
def fromCode? (previous : Option Char) : List Char → Option (List Char)
  | [] => none
  | c :: cs => if startsCode previous (c :: cs) then some (c :: cs) else fromCode? (some c) cs

/-- The code of a reply in a dialogue: its first fenced block, or else everything from the first
statement on. -/
def chatCode? (reply : String) : Option String :=
  (Fence.codeBlock? reply).orElse fun _ =>
    (fromCode? none reply.toList).map fun cs => String.ofList (Text.trim cs)

end Mender.FixReply
