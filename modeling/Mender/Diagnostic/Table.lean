import Mender.Fault
import Mender.Pattern.Build

/-!
# The diagnostic table

The shapes of lines in which tools report errors: compilers, linters, test runners and stack traces.
A line belongs to the first shape of the table that matches it.
-/

namespace Mender

/-- One shape of diagnostic line. -/
structure Diagnostic where
  name : String
  shape : Pattern
  kind : Fault.Kind
  severity : Fault.Severity
  /-- The line tells where the fault is; a line that does not is recognised and gives no fault. -/
  located : Bool

namespace Diagnostic

open Pattern

/-- The group of the file name. -/
def fileGroup : Nat := 1

/-- The group of the line number. -/
def lineGroup : Nat := 2

/-- The group of the column number. -/
def columnGroup : Nat := 3

/-- The group of the message. -/
def messageGroup : Nat := 4

/-- The name of a group. -/
def groupName (index : Nat) : String :=
  if index = fileGroup then "file"
  else if index = lineGroup then "line"
  else if index = columnGroup then "col"
  else "msg"

/-- A file name without blanks, colons and parentheses. -/
def frameFile : Pattern :=
  group fileGroup (many (except (orIn blank (among "():"))) 1)

/-- A file name without blanks and colons. -/
def plainName : Pattern :=
  many (except (orIn blank (among ":"))) 1

/-- A line number. -/
def lineNumber : Pattern := group lineGroup digits

/-- A column number. -/
def columnNumber : Pattern := group columnGroup digits

/-- The rest of the line, not empty, as the message. -/
def messageRest : Pattern := group messageGroup (many inLine 1)

/-- A frame `at name (file:line:column)` or `at file:line:column`. -/
def callFrame : Pattern :=
  concat [wordEdge, text "at", gap, opt (seq (many solid 1) gap), opt (text "("), frameFile,
    text ":", lineNumber, text ":", columnNumber, opt (text ")")]

/-- A frame `File "path", line number`. -/
def quotedFrame : Pattern :=
  concat [text "File", gap, text "\"", group fileGroup (many (except (among "\"")) 1), text "\",",
    gap, text "line", gap, lineNumber]

/-- The line that ends a traceback: the name of an exception, perhaps with its message. -/
def exceptionSummary : Pattern :=
  concat [textStart, one fun c => c.isAlpha || c == '_', many (orIn word (among ".")) 0,
    firstOf (["Error", "Exception", "Warning", "Exit", "Interrupt"].map text),
    opt (concat [text ":", blanks, line]), textEnd]

/-- A message followed by `at` and a place. -/
def messageAtPlace : List Pattern :=
  [text ":", blanks, group messageGroup (few inLine 1), gap, anyCase "at", gap,
    opt (seq (many solid 1) gap), opt (text "("), frameFile, text ":", lineNumber]

/-- The shapes, in the order they are tried. -/
def table : List Diagnostic :=
  [{ name := "tsc"
     shape := concat [group fileGroup (many (except (orIn blank (among "("))) 1), text "(",
       lineNumber, text ",", columnNumber, text "):", blanks, text "error", gap, text "TS", digits,
       text ":", blanks, messageRest]
     kind := .typeError, severity := .high, located := true },
   { name := "mypy"
     shape := concat [textStart, group fileGroup (concat [plainName, text ".py", opt (text "i")]),
       text ":", lineNumber, text ":", opt (seq columnNumber (text ":")), blanks, text "error:",
       blanks, messageRest]
     kind := .typeError, severity := .high, located := true },
   { name := "compiler"
     shape := concat [textStart, group fileGroup plainName, text ":", lineNumber, text ":",
       columnNumber, text ":", blanks, opt (seq (text "fatal") gap), text "error:", blanks,
       messageRest]
     kind := .syntaxError, severity := .critical, located := true },
   { name := "pytest"
     shape := concat [textStart, group fileGroup (seq plainName (text ".py")), text ":",
       lineNumber, text ":", blanks,
       group messageGroup (concat [many (orIn word (among ".")) 0,
         firstOf (["Error", "Exception", "Failed"].map text), wordEdge, line])]
     kind := .testFailure, severity := .medium, located := true },
   { name := "lint"
     shape := concat [textStart, group fileGroup plainName, text ":", lineNumber, text ":",
       columnNumber, opt (text ":"), blanks,
       alt (concat [firstOf [text "error", text "warning"], wordEdge, opt (text ":"), blanks])
         (concat [many Char.isUpper 1, digits, gap]),
       messageRest]
     kind := .lintError, severity := .medium, located := true },
   { name := "syntax"
     shape := concat (anyCase "SyntaxError" :: messageAtPlace)
     kind := .syntaxError, severity := .critical, located := true },
   { name := "js_error"
     shape := concat (firstOf [anyCase "TypeError", anyCase "ReferenceError"] :: messageAtPlace)
     kind := .runtimeError, severity := .high, located := true },
   { name := "stack_frame"
     shape := callFrame
     kind := .runtimeError, severity := .high, located := true },
   { name := "jest"
     shape := concat [text "●", gap, many inLine 1, gap, text "›", gap, many inLine 1]
     kind := .testFailure, severity := .medium, located := false },
   { name := "pytest_summary"
     shape := concat [textStart, text "FAILED", gap, many solid 1, text "::", many solid 1]
     kind := .testFailure, severity := .medium, located := false },
   { name := "python"
     shape := quotedFrame
     kind := .runtimeError, severity := .high, located := true }]

/-- The first shape of the table that a line has, with the match. -/
def classify (line : List Char) : Option (Diagnostic × Match) :=
  table.findSome? fun d => (d.shape.search line).map fun m => (d, m)

end Diagnostic

end Mender
