import Mender.Strategy.Basic
import Mender.Strategy.LineFix
import Mender.Text.Identifier

/-!
# Fixes

The fixes that the standard strategies offer. Each looks at the match that selected its strategy and
at the faulty line, and answers with text in the language of `LineFix`, or with nothing.
-/

namespace Mender.Fixes

open Pattern

/-- The file is written for a JavaScript engine. -/
def isScript (ctx : FixContext) : Bool :=
  isScriptLanguage ctx.language

/-- The file is written in Python. -/
def isPython (ctx : FixContext) : Bool :=
  ctx.language = "python"

/-- A group of a match, when there is one. -/
def groupOf? (m : Option Match) (index : Nat) : Option String :=
  m.bind (·.group? index)

/-- A group of a match that must have taken part. -/
def part (m : Match) (index : Nat) : String :=
  (m.group? index).getD ""

/-- The access to a member, perhaps already a safe one. -/
def access : Pattern :=
  concat [wordEdge, group 1 name, blanks, opt (text "?"), text ".", blanks, group 2 name]

/-- A sequence indexed by a variable. -/
def subscript : Pattern :=
  concat [wordEdge, group 1 (seq (one nameStart) (many (orIn word (among "$.")) 0)), text "[",
    group 2 name, text "]"]

/-- A line that opens a block. -/
def blockOpener : Pattern :=
  concat [textStart, blanks, opt (seq (text "async") gap),
    firstOf (["def", "class", "if", "elif", "else", "for", "while", "try", "except", "finally",
      "with"].map text),
    wordEdge]

/-- An import with the names it brings in. -/
def importLine : Pattern :=
  concat [textStart, blanks, opt (concat [text "from", gap, many solid 1, gap]), text "import", gap,
    group 1 (many inLine 1), textEnd]

/-- A module named in quotes by neither a relative nor an absolute path. -/
def quotedModule : Pattern :=
  let inside := seq (one (except (among "'\"./"))) (many (except (among "'\"")) 0)
  alt (concat [text "'", inside, text "'"]) (concat [text "\"", inside, text "\""])

/-- Replaces the statement by a line, trimmed. -/
def statement (line : List Char) : String :=
  LineFix.lineMark ++ String.ofList (Text.trim line)

/-- The name of the object that turned out to be missing: the receiver of the member that the
message names, or else of the first access on the line, or else the name in the message. -/
def receiver? (m : Option Match) (ctx : FixContext) : Option String :=
  let property := (groupOf? m 1).filter (!·.isEmpty)
  let accesses := access.findAll ctx.line.toList
  let named := accesses.find? fun a => property.any (part a 2 = ·)
  match named.orElse fun _ => accesses.head? with
  | some a => some (part a 1)
  | none => property.filter fun p => (concat [wordEdge, text p, wordEdge]).occursIn ctx.line

/-- A statement in braces, on a line of its own. -/
def block (statement : String) : String :=
  String.singleton '{' ++ "\n  " ++ statement ++ "\n" ++ String.singleton '}'

/-- Runs the statement only when the object is there. -/
def nullGuard : FixGenerator := fun m ctx =>
  (receiver? m ctx).map fun name =>
    if isPython ctx then s!"if {name} is not None:\n    " ++ LineFix.statementMark
    else s!"if ({name} != null) " ++ block LineFix.statementMark

/-- Makes the access to the member safe. -/
def optionalChain : FixGenerator := fun _ _ => some LineFix.chainMark

/-- Asserts the type that the message asks for. -/
def typeAssertion : FixGenerator := fun m ctx =>
  match groupOf? m 2 with
  | some target =>
    if ctx.language = "typescript" && Text.isIdentifier target.toList then
      some s!"{LineFix.valueMark} as {target}"
    else none
  | none => none

/-- Converts the value to a string. -/
def toText : FixGenerator := fun _ ctx =>
  some (if isPython ctx then s!"str({LineFix.valueMark})" else s!"String({LineFix.valueMark})")

/-- Converts the value to a number. -/
def toNumber : FixGenerator := fun _ ctx =>
  some (if isPython ctx then s!"int({LineFix.valueMark})" else s!"Number({LineFix.valueMark})")

/-- Converts the value to a fraction. -/
def toFraction : FixGenerator := fun _ ctx =>
  if isPython ctx then some s!"float({LineFix.valueMark})" else none

/-- Runs the statement only when the index is inside the sequence. -/
def indexGuard : FixGenerator := fun _ ctx =>
  (subscript.search ctx.line.toList).map fun m =>
    let sequence := part m 1
    let index := part m 2
    if isPython ctx then
      s!"if 0 <= {index} < len({sequence}):\n    " ++ LineFix.statementMark
    else
      s!"if ({index} >= 0 && {index} < {sequence}.length) " ++ block LineFix.statementMark

/-- Takes the first bound of the line in or leaves it out. -/
def exclusiveBound : FixGenerator := fun _ ctx =>
  (Comparison.replaceFirst Comparison.boundHere? Comparison.shiftBound ctx.line.toList).map
    statement

/-- Runs the statement only when the sequence has items. -/
def nonEmptyGuard : FixGenerator := fun _ ctx =>
  (subscript.search ctx.line.toList).map fun m =>
    let sequence := part m 1
    if isPython ctx then s!"if {sequence}:\n    " ++ LineFix.statementMark
    else s!"if ({sequence}.length > 0) " ++ block LineFix.statementMark

/-- Catches every error of the statement. -/
def tryWrap : FixGenerator := fun _ ctx =>
  some <|
    if isPython ctx then
      "try:\n    " ++ LineFix.statementMark ++ "\nexcept Exception as error:\n    print(error)"
    else
      "try " ++ block LineFix.statementMark ++ " catch (error) " ++ block "console.error(error);"

/-- Catches the rejection of a promise. -/
def promiseCatch : FixGenerator := fun _ ctx =>
  let line := Text.trimEnd ctx.line.toList
  if !isScript ctx || !Text.hasText ".then(".toList line || Text.hasText ".catch(".toList line then
    none
  else
    let terminator := if Text.endsWith [';'] line then [';'] else []
    let body := Text.dropEndWhile (· == ';') (Text.trim line)
    some (LineFix.lineMark ++
      String.ofList (body ++ ".catch((error) => console.error(error))".toList ++ terminator))

/-- Makes the path of a module relative. -/
def relativeModule : FixGenerator := fun _ ctx =>
  if !isScript ctx then none
  else
    match quotedModule.search ctx.line.toList with
    | none => none
    | some m =>
      if Text.occursIn "import" ctx.line || Text.occursIn "require" ctx.line then
        let line := ctx.line.toList
        some (statement (line.take (m.start + 1) ++ "./".toList ++ line.drop (m.start + 1)))
      else none

/-- The name that an imported item is used by in the fallback. -/
def importedName (item : List Char) : List Char :=
  let renamed := (Text.splitText " as ".toList item).getLastD []
  (Text.trim renamed).takeWhile (· ≠ '.')

/-- Gives the imported names a value when the import fails. -/
def optionalImport : FixGenerator := fun _ ctx =>
  if !isPython ctx then none
  else
    (importLine.matchStart ctx.line.toList).map fun m =>
      let items := Text.splitText [','] (Text.trimBy (among "() ") (part m 1).toList)
      let names := (items.filter fun i => !(Text.trim i).isEmpty).map importedName
      let fallback := Text.joinText "\n    ".toList (names.map (· ++ " = None".toList))
      "try:\n    " ++ LineFix.statementMark ++ "\nexcept ImportError:\n    " ++
        String.ofList fallback

/-- Adds the colon that a block needs. -/
def missingColon : FixGenerator := fun _ ctx =>
  let line := Text.trimEnd ctx.line.toList
  if !isPython ctx || (blockOpener.matchStart line).isNone || Text.endsWith [':'] line then none
  else some ":"

/-- Adds a semicolon where a statement ends. -/
def missingSemicolon : FixGenerator := fun _ ctx =>
  let line := Text.trimEnd ctx.line.toList
  if !isScript ctx || line.getLast?.any (among ";{},([") then none else some ";"

/-- Adds the closing brackets that are missing. -/
def missingClosers (opener closer : Char) : FixGenerator := fun _ ctx =>
  let line := ctx.line.toList
  let missing := line.count opener - line.count closer
  if missing = 0 then none else some (String.ofList (List.replicate missing closer))

/-- Makes tests of equality strict. -/
def strictEquality : FixGenerator := fun _ ctx =>
  let line := ctx.line.toList
  if isScript ctx && (Comparison.findFrom Comparison.looseHere? [] line).isSome then
    some (statement (Comparison.tightenFrom 0 none line))
  else none

/-- Inverts the first comparison. -/
def flipComparison : FixGenerator := fun _ _ => some LineFix.flipMark

/-- Calls a function only when it is there. -/
def optionalCall : FixGenerator := fun m ctx =>
  match (groupOf? m 1).filter (!·.isEmpty) with
  | none => none
  | some callee =>
    if !isScript ctx then none
    else
      let last := String.ofList (Text.afterLast '.' callee.toList)
      ((concat [wordEdge, text last, text "("]).search ctx.line.toList).map fun found =>
        let line := ctx.line.toList
        statement (line.take (found.stop - 1) ++ "?.(".toList ++ line.drop found.stop)

end Mender.Fixes
