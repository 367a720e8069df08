import Mender.Strategy.Fixes

/-!
# The standard strategies

The table of strategies that a repair starts with, in the order of the registry.
-/

namespace Mender.Strategy

open Pattern

/-- A run of word characters in quotes. -/
def quotedWord (index : Nat) : Pattern :=
  concat [text "'", group index wordRun, text "'"]

/-- Guards against missing objects. -/
def nullCheck : Strategy where
  id := "null_check"
  description := "Add null/undefined checks"
  patterns :=
    [concat [anyCase "Cannot read propert", alt (anyCase "y") (anyCase "ies"), text " ", quoteOpt,
       group 1 wordRun, quoteOpt, anyCase " of ",
       group 2 (alt (anyCase "undefined") (anyCase "null"))],
     concat [anyCase "Cannot read properties of ", alt (anyCase "undefined") (anyCase "null"),
       anyCase " (reading ", quotedWord 1, text ")"],
     concat [text "'NoneType' object has no attribute ", quotedWord 1],
     concat [group 1 wordRun, anyCase " is ",
       group 2 (firstOf [anyCase "undefined", anyCase "null", anyCase "None"]), wordEdge],
     concat [anyCase "TypeError:", line,
       firstOf [anyCase "undefined", anyCase "null", anyCase "NoneType"]]]
  fixes := [Fixes.nullGuard, Fixes.optionalChain]
  kinds := [.runtimeError]
  priority := 9

/-- Converts values to the type that is wanted. -/
def typeCoercion : Strategy where
  id := "type_coercion"
  description := "Fix type conversion issues"
  patterns :=
    [concat [anyCase "Type ", quotedWord 1, anyCase " is not assignable to type ", quotedWord 2],
     concat [anyCase "Argument of type '", group 1 (few inLine 1), anyCase "' is not assignable"],
     concat [anyCase "cannot convert ", group 1 wordRun, anyCase " to ", group 2 wordRun],
     concat [text "unsupported operand type(s) for ", many inLine 1, text ": ", quotedWord 1,
       text " and ", quotedWord 2],
     concat [text "can only concatenate ", group 1 wordRun, text " (not \"", group 2 wordRun,
       text "\")"],
     concat [text "must be ", group 1 wordRun, text ", not ", group 2 wordRun]]
  fixes := [Fixes.typeAssertion, Fixes.toText, Fixes.toNumber, Fixes.toFraction]
  kinds := [.typeError]
  priority := 7

/-- Keeps indices inside their sequences. -/
def boundaryCheck : Strategy where
  id := "boundary_check"
  description := "Add boundary checks for arrays"
  patterns :=
    [concat [anyCase "Index out of ", group 1 (alt (anyCase "bounds") (anyCase "range"))],
     concat [anyCase "Array index ", line, anyCase " out of bounds"],
     concat [firstOf [text "list", text "string", text "tuple"], text " index out of range"],
     text "RangeError"]
  fixes := [Fixes.indexGuard, Fixes.exclusiveBound, Fixes.nonEmptyGuard]
  priority := 7

/-- Handles errors that nobody caught. -/
def exceptionHandling : Strategy where
  id := "exception_handling"
  description := "Add error handling"
  patterns :=
    [concat [anyCase "Unhandled ", opt (anyCase "promise "), anyCase "rejection"],
     concat [anyCase "Error:", line, anyCase "not caught"],
     anyCase "uncaught exception"]
  fixes := [Fixes.tryWrap, Fixes.promiseCatch]
  priority := 6

/-- Mends imports. -/
def importFix : Strategy where
  id := "import_fix"
  description := "Fix import/export issues"
  patterns :=
    [concat [anyCase "Cannot find module ", one (among "'\""), group 1 (few inLine 1),
       one (among "'\"")],
     anyCase "Module not found",
     anyCase "is not exported from",
     anyCase "has no exported member",
     concat [text "No module named ", quoteOpt, group 1 (many (orIn word (among ".")) 1), quoteOpt],
     concat [text "cannot import name ", quoteOpt, group 1 wordRun, quoteOpt]]
  fixes := [Fixes.relativeModule, Fixes.optionalImport]
  priority := 6

/-- Completes broken syntax. -/
def syntaxFix : Strategy where
  id := "syntax_fix"
  description := "Fix syntax errors"
  patterns :=
    [text "SyntaxError",
     anyCase "Unexpected token",
     concat [anyCase "Missing ",
       firstOf [anyCase "semicolon", anyCase "bracket", anyCase "parenthesis"]],
     anyCase "Unterminated string",
     firstOf [text "invalid syntax", text "expected ':'", text "was never closed"]]
  fixes := [Fixes.missingColon, Fixes.missingSemicolon, Fixes.missingClosers '(' ')',
    Fixes.missingClosers '[' ']', Fixes.missingClosers '{' '}']
  kinds := [.syntaxError]
  priority := 8

/-- Changes tests that come out wrong. -/
def logicFix : Strategy where
  id := "logic_fix"
  description := "Fix logic errors"
  patterns :=
    [concat [anyCase "Expected ", line, anyCase " but ",
       alt (anyCase "got") (anyCase "received")],
     anyCase "assertion failed",
     text "AssertionError",
     anyCase "test failed"]
  fixes := [Fixes.strictEquality, Fixes.flipComparison, Fixes.exclusiveBound]
  kinds := [.testFailure]
  priority := 5

/-- Adapts calls to what is there. -/
def apiUpdate : Strategy where
  id := "api_update"
  description := "Update deprecated API calls"
  patterns :=
    [concat [group 1 (many (orIn word (among "$.")) 1), anyCase " is not a function"],
     anyCase "deprecated",
     concat [anyCase "method ", line, anyCase " does not exist"],
     concat [text "object has no attribute ", quotedWord 1]]
  fixes := [Fixes.optionalCall, Fixes.optionalChain]
  priority := 4

/-- Changes that may help any line. -/
def refactor : Strategy where
  id := "refactor"
  description := "General refactoring"
  patterns := [line]
  fixes := [Fixes.flipComparison, Fixes.optionalChain]
  priority := 1
  catchAll := true

/-- The standard strategies. -/
def standard : List Strategy :=
  [nullCheck, typeCoercion, boundaryCheck, exceptionHandling, importFix, syntaxFix, logicFix,
   apiUpdate, refactor]

end Mender.Strategy
