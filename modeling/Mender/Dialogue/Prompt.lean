import Mender.Dialogue.FixReply
import Mender.Language
import Mender.Patch.Basic

/-!
# Prompts

What is said to a language model: the request for a repair, the request for a better one, and the
messages of a repair dialogue.
-/

namespace Mender.Prompt

/-- Lines joined into a text. -/
def ofLines (lines : List String) : String :=
  Text.joined "\n" lines

/-- How a model is told to answer a repair request. -/
def repairSystem : String :=
  ofLines
    ["You are an expert software engineer specializing in debugging and repairing code.",
     "Your task is to analyze a bug and generate a precise, minimal fix.",
     "",
     "When generating a fix:",
     "1. Analyze the error message and stack trace carefully",
     "2. Understand the code context around the bug",
     "3. Generate the minimal change needed to fix the issue",
     "4. Explain why your fix works",
     "5. Consider edge cases and potential side effects",
     "",
     "Output format:",
     "<fix>",
     "<file>path/to/file</file>",
     "<line_start>10</line_start>",
     "<line_end>15</line_end>",
     "<original>",
     "original code here",
     "</original>",
     "<fixed>",
     "fixed code here",
     "</fixed>",
     "<explanation>Why this fix works</explanation>",
     "</fix>",
     "",
     "The <fixed> block replaces lines line_start..line_end of the file exactly,",
     "so keep the original indentation.",
     ""]

/-- How a model is told to answer in a dialogue. -/
def chatInstructions : String :=
  ofLines
    ["## Instructions",
     "1. Analyze the error and identify the root cause",
     "2. Generate a minimal fix that addresses the bug",
     "3. Return ONLY the corrected code block, no explanations",
     "4. Preserve the original code structure as much as possible",
     ""]

/-- The first request of a dialogue. -/
def chatOpening : String := "Please fix this bug."

/-- The request after a reply without code. -/
def noCode : String :=
  "No code block was found in your reply. Please return the corrected code in a fenced code block."

/-- A text that is there and not empty. -/
def present? (s : Option String) : Option String :=
  s.filter (!·.isEmpty)

/-- The request for a repair. -/
def repair (f : Fault) (codeContext : String) (hint : Option String) : String :=
  let l := f.location
  let related :=
    if f.related.isEmpty then []
    else ["", "**Related Locations:**"] ++ f.related.map fun r => "  " ++ r.text
  let more := match present? hint with
    | some hint => ["", s!"Additional context: {hint}"]
    | none => []
  ofLines <|
    ["Fix the following bug:", "", "**Error:**", f.message, "", "**Location:**",
     s!"File: {l.file}", s!"Lines: {l.line}-{l.endLine}", "", "**Code Context:**",
     Fence.fenced codeContext (languageOf l.file), "", "**Stack Trace (if available):**",
     (present? f.stackTrace).getD "N/A"] ++ related ++
    ["", "Please analyze the bug and provide a fix."] ++ more

/-- One failed attempt in the request for a better repair. -/
def failedAttempt (number : Nat) (p : Patch) : String :=
  let unknown := ["Result: Unknown"]
  let results := match p.results with
    | none => unknown
    | some o =>
      if o.failingTests.isEmpty && o.newFailures.isEmpty then unknown
      else
        (if o.failingTests.isEmpty then []
          else ["Failing tests: " ++ Text.joined ", " o.failingTests]) ++
        if o.newFailures.isEmpty then [] else ["New errors: " ++ Text.joined ", " o.newFailures]
  ofLines <|
    [s!"Attempt {number} ({p.strategy}):", if p.text.isEmpty then "(empty)" else p.text] ++ results

/-- The request for a better repair after failed ones. -/
def refinement (f : Fault) (codeContext : String) (failed : List Patch) : String :=
  let attempts := failed.mapIdx fun i p => failedAttempt (i + 1) p
  ofLines
    ["The following fix attempts failed. Please analyze why and suggest a better fix.", "",
     s!"**Original Error:** {f.message}", "", "**Code Context:**", Fence.fenced codeContext "", "",
     "**Failed Attempts:**", Text.joined "\n\n" attempts, "",
     "Please provide an improved fix that addresses the issues with the previous attempts."]

/-- A bug handed to a dialogue. -/
structure Bug where
  file : String
  message : String
  line : Option Int := none
  stackTrace : Option String := none
  snippet : Option String := none
  testCode : Option String := none

/-- The turn that opens a dialogue. -/
def chatSystem (b : Bug) : String :=
  let part (title : String) (body : Option String) : List String :=
    match body with
    | some body => ["", title, body]
    | none => []
  ofLines <|
    ["You are a debugging assistant. Fix the following bug.", "", "## Bug Location",
     s!"File: {b.file}"] ++
    (b.line.map fun n => s!"Line: {n}").toList ++
    ["", "## Error Message", b.message] ++
    part "## Stack Trace" (present? b.stackTrace) ++
    part "## Buggy Code" ((present? b.snippet).map (Fence.fenced · (languageOf b.file))) ++
    part "## Failing Test" ((present? b.testCode).map (Fence.fenced · "")) ++
    ["", chatInstructions]

/-- The request after an attempt that did not pass. -/
def followUp (o : Outcome) : String :=
  ofLines <|
    ["The previous fix did not work."] ++
    (if o.newFailures.isEmpty then [] else ["", "New errors:"] ++ o.newFailures) ++
    (if 0 < o.failed then ["", s!"Tests: {o.passed}/{o.run} passed, {o.failed} failed"] else []) ++
    ["", "Please try a different approach."]

/-- The results of an attempt that did not pass. -/
def feedback (o : Outcome) : String :=
  let listed (title : String) (items : List String) : List String :=
    if items.isEmpty then [] else ["", title] ++ items.map ("- " ++ ·)
  ofLines <|
    ["## Test Results"] ++
    (if o.compiled then ["Compiled successfully.", s!"Tests: {o.passed}/{o.run} passed"]
      else ["Compilation failed."]) ++
    listed "Errors:" o.newFailures ++ listed "Regressions:" o.regressions ++
    ["", "Please analyze these results and try a different fix."]

/-- The request after a patch that is not plausible. -/
def rejection (reason : String) : String :=
  s!"The patch was rejected: {reason}. Please try again."

end Mender.Prompt
