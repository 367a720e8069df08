import Mender.Fault
import Mender.Language
import Mender.Pattern.Build

/-!
# Strategies

A strategy recognises an error by patterns and offers fixes for the faulty line. How well it fits a
fault is a score: ten for each pattern found in the message, five for each found in the code around
the fault, and five when the sort of fault is one it is made for.
-/

namespace Mender

/-- What a fix may look at besides the match that selected its strategy. -/
structure FixContext where
  fault : Fault
  /-- Source text around the fault. -/
  codeContext : String
  language : String
  /-- The faulty line. -/
  line : String

/-- Offers the text of a fix, or nothing for this line. Fix generators are specified as pure
functions of the match and the context; that excludes one that fails. -/
abbrev FixGenerator := Option Match → FixContext → Option String

/-- A strategy. -/
structure Strategy where
  id : String
  description : String
  patterns : List Pattern
  fixes : List FixGenerator
  /-- The sorts of fault it is made for. -/
  kinds : List Fault.Kind := []
  /-- How much its fixes are to be trusted, from one to ten. -/
  priority : Int := 5
  /-- Matches everything and comes last. -/
  catchAll : Bool := false

namespace Strategy

/-- The first match of a pattern in a text, in the order of the patterns. -/
def matchIn? (s : Strategy) (text : String) : Option Match :=
  if text.isEmpty then none else s.patterns.findSome? fun p => p.search text.toList

/-- The match that selects the strategy: in the message, or else in the code. -/
def matchFor? (s : Strategy) (message codeContext : String) : Option Match :=
  (s.matchIn? message).orElse fun _ => s.matchIn? codeContext

/-- What one pattern adds to the score. -/
def patternScore (message codeContext : String) (p : Pattern) : Nat :=
  (if p.occursIn message then 10 else 0) +
    if !codeContext.isEmpty && p.occursIn codeContext then 5 else 0

/-- How well a strategy fits a fault. -/
def score (s : Strategy) (f : Fault) (codeContext : String) : Nat :=
  if s.catchAll then 1
  else
    (s.patterns.map (patternScore f.message codeContext)).foldr (· + ·) 0 +
      if s.kinds.contains f.kind then 5 else 0

end Strategy

end Mender
