import Mathlib.Data.List.Infix
import Mender.Strategy.Standard

/-!
# Comparisons beside shifts and arrows

In a line whose angle brackets all belong to shifts and arrows there is nothing to compare, and what
rewrites comparisons finds nothing there, unless a shift assigns: the end of `<<=` and of `>>=` is
taken for a comparison of bounds (`Comparison.rewrites_assigning_shift`).
-/

namespace Mender

namespace Comparison

/-- The operators with angle brackets that compare nothing. -/
inductive ShiftOrArrow where
  | left
  | right
  | leftAssign
  | rightAssign
  | arrow
  | fatArrow
  deriving DecidableEq

namespace ShiftOrArrow

/-- An operator as it is written. -/
def text : ShiftOrArrow → List Char
  | .left => ['<', '<']
  | .right => ['>', '>']
  | .leftAssign => ['<', '<', '=']
  | .rightAssign => ['>', '>', '=']
  | .arrow => ['-', '>']
  | .fatArrow => ['=', '>']

/-- The comparison that the end of an operator reads as. -/
def bound? : ShiftOrArrow → Option Comparison
  | .leftAssign => some .atMost
  | .rightAssign => some .atLeast
  | _ => none

end ShiftOrArrow

/-- A part of a line: a shift or an arrow, or a character that is no angle bracket and no
exclamation mark. -/
inductive Piece where
  | other (c : Char) (h : c ≠ '<' ∧ c ≠ '>' ∧ c ≠ '!')
  | operator (o : ShiftOrArrow)
  deriving DecidableEq

/-- The characters of a part. -/
def Piece.text : Piece → List Char
  | .other c _ => [c]
  | .operator o => o.text

/-- The comparison that the end of a part reads as. -/
def Piece.bound? : Piece → Option Comparison
  | .other _ _ => none
  | .operator o => o.bound?

/-- The line that parts make. -/
def textOf (ps : List Piece) : List Char :=
  ps.flatMap Piece.text

/-- No shift and no arrow is directly followed by an equals sign. -/
def Apart : List Piece → Prop
  | [] => True
  | .other _ _ :: ps => Apart ps
  | .operator _ :: ps => (textOf ps).head? ≠ some '=' ∧ Apart ps

/-- A line in which angle brackets only belong to shifts and arrows, and nothing is tested for being
equal. -/
structure Separated (ps : List Piece) : Prop where
  untested : ¬ ['=', '='] <:+: textOf ps
  apart : Apart ps

section Finding

variable {previous : Option Char} {before cs : List Char}

/-- A line without tests of equality has no comparisons but those of bounds. -/
theorem here_eq_bound_here (hbang : cs.head? ≠ some '!') (hequal : ¬ ['=', '='] <+: cs) :
    here? previous cs = boundHere? previous cs := by
  unfold here?
  split
  · exact absurd ⟨_, rfl⟩ hequal
  · exact absurd rfl hbang
  · exact absurd ⟨_, rfl⟩ hequal
  · exact absurd rfl hbang
  · rfl

theorem find_here_eq_find_bound (hbang : '!' ∉ cs) (hequal : ¬ ['=', '='] <:+: cs) :
    findFrom here? before cs = findFrom boundHere? before cs := by
  induction cs generalizing before with
  | nil => rfl
  | cons c cs ih =>
      have hhere : here? before.head? (c :: cs) = boundHere? before.head? (c :: cs) :=
        here_eq_bound_here (fun h => hbang (List.mem_of_mem_head? h))
          fun h => hequal h.isInfix
      rw [findFrom, findFrom, hhere, ih (fun h => hbang (List.mem_cons_of_mem _ h))
        fun h => hequal (h.trans (List.suffix_cons c cs).isInfix)]

/-- Where no comparison of bounds starts, it is looked for behind the next character. -/
theorem find_bound_next {c : Char} (h : boundHere? before.head? (c :: cs) = none) :
    findFrom boundHere? before (c :: cs) = findFrom boundHere? (c :: before) cs := by
  rw [findFrom, h]

theorem bound_here_of_other {c : Char} (h : c ≠ '<' ∧ c ≠ '>') :
    boundHere? previous (c :: cs) = none := by
  unfold boundHere? bracketHere?
  grind

/-- An angle bracket that joins what is before it compares nothing, unless an equals sign makes it
another operator. -/
theorem bound_here_of_joined {bracket c : Char} (hbracket : bracket = '<' ∨ bracket = '>')
    (hjoins : joinsBefore bracket (some c)) (hnext : cs.head? ≠ some '=') :
    boundHere? (some c) (bracket :: cs) = none := by
  obtain rfl | rfl := hbracket <;> cases cs with
  | nil => simp [boundHere?, bracketHere?, hjoins]
  | cons d cs =>
      have hd : d ≠ '=' := fun h => hnext (congrArg some h)
      simp [boundHere?, bracketHere?, hjoins, hd]

/-- No comparison of bounds starts in a shift that does not assign, or in an arrow. -/
theorem find_bound_of_operator {o : ShiftOrArrow} (ho : o.bound? = none)
    (hnext : cs.head? ≠ some '=') :
    findFrom boundHere? before (o.text ++ cs) =
      findFrom boundHere? (o.text.reverse ++ before) cs := by
  cases o with
  | leftAssign | rightAssign => cases ho
  | left =>
      exact (find_bound_next (by simp [boundHere?, bracketHere?, joinsAfter])).trans
        (find_bound_next (bound_here_of_joined (.inl rfl) rfl hnext))
  | right =>
      exact (find_bound_next (by simp [boundHere?, bracketHere?, joinsAfter])).trans
        (find_bound_next (bound_here_of_joined (.inr rfl) rfl hnext))
  | arrow | fatArrow =>
      exact (find_bound_next (bound_here_of_other (by decide))).trans
        (find_bound_next (bound_here_of_joined (.inr rfl) rfl hnext))

/-- A comparison of bounds is found at the end of a shift that assigns. -/
theorem find_bound_of_assignment {o : ShiftOrArrow} {op : Comparison} (ho : o.bound? = some op) :
    findFrom boundHere? before (o.text ++ cs) = some (o.text.take 1 ++ before, op, cs) := by
  cases o with
  | leftAssign | rightAssign =>
      cases ho
      simp [findFrom, ShiftOrArrow.text, boundHere?, bracketHere?, joinsAfter, Comparison.text]
  | left | right | arrow | fatArrow => cases ho

end Finding

section Lines

variable {ps front back : List Piece} {before : List Char} {o : ShiftOrArrow} {op : Comparison}

@[simp] theorem text_of_cons (p : Piece) (ps : List Piece) :
    textOf (p :: ps) = p.text ++ textOf ps :=
  List.flatMap_cons

theorem text_of_append (ps qs : List Piece) : textOf (ps ++ qs) = textOf ps ++ textOf qs :=
  List.flatMap_append

/-- No part of a line is an inequality or the start of one. -/
theorem bang_not_mem (ps : List Piece) : '!' ∉ textOf ps := by
  intro h
  obtain ⟨p, -, hp⟩ := List.mem_flatMap.mp h
  cases p with
  | other c hc => exact hc.2.2 (List.mem_singleton.mp hp).symm
  | operator o => cases o <;> simp [Piece.text, ShiftOrArrow.text] at hp

/-- A part that does not assign is passed by. -/
theorem find_bound_of_piece {p : Piece} (h : Apart (p :: ps)) (hp : p.bound? = none) :
    findFrom boundHere? before (textOf (p :: ps)) =
        findFrom boundHere? (p.text.reverse ++ before) (textOf ps) ∧ Apart ps := by
  rw [text_of_cons]
  cases p with
  | other c hc => exact ⟨find_bound_next (bound_here_of_other ⟨hc.1, hc.2.1⟩), h⟩
  | operator o => exact ⟨find_bound_of_operator hp h.1, h.2⟩

/-- Among parts that do not assign there is no comparison of bounds. -/
theorem find_bound_none (h : Apart ps) (hps : ∀ p ∈ ps, p.bound? = none) :
    findFrom boundHere? before (textOf ps) = none := by
  induction ps generalizing before with
  | nil => rfl
  | cons p ps ih =>
      obtain ⟨hp, hps⟩ := List.forall_mem_cons.mp hps
      obtain ⟨hfind, happart⟩ := find_bound_of_piece h hp
      rw [hfind, ih happart hps]

/-- The first shift that assigns is where a comparison of bounds is found. -/
theorem find_bound_first (h : Apart (front ++ .operator o :: back))
    (hfront : ∀ p ∈ front, p.bound? = none) (ho : o.bound? = some op) :
    findFrom boundHere? before (textOf (front ++ .operator o :: back)) =
      some (o.text.take 1 ++ (textOf front).reverse ++ before, op, textOf back) := by
  induction front generalizing before with
  | nil =>
      rw [List.nil_append, text_of_cons, Piece.text, find_bound_of_assignment ho]
      simp [textOf]
  | cons p front ih =>
      obtain ⟨hp, hfront⟩ := List.forall_mem_cons.mp hfront
      rw [List.cons_append] at h ⊢
      obtain ⟨hfind, happart⟩ := find_bound_of_piece h hp
      rw [hfind, ih happart hfront]
      simp

theorem Separated.find_here (h : Separated ps) :
    findFrom here? [] (textOf ps) = findFrom boundHere? [] (textOf ps) :=
  find_here_eq_find_bound (bang_not_mem ps) h.untested

/-- Nothing is replaced in a line where no shift assigns. -/
theorem Separated.replace_none (h : Separated ps) (hps : ∀ p ∈ ps, p.bound? = none)
    (new : Comparison → Comparison) : replaceFirst here? new (textOf ps) = none ∧
      replaceFirst boundHere? new (textOf ps) = none := by
  rw [replaceFirst, replaceFirst, h.find_here, find_bound_none h.apart hps]
  exact ⟨rfl, rfl⟩

/-- Otherwise the end of the first shift that assigns is replaced. -/
theorem Separated.replace_first (h : Separated (front ++ .operator o :: back))
    (hfront : ∀ p ∈ front, p.bound? = none) (ho : o.bound? = some op)
    (new : Comparison → Comparison) :
    replaceFirst here? new (textOf (front ++ .operator o :: back)) =
        some (textOf front ++ o.text.take 1 ++ (new op).text ++ textOf back) ∧
      replaceFirst boundHere? new (textOf (front ++ .operator o :: back)) =
        some (textOf front ++ o.text.take 1 ++ (new op).text ++ textOf back) := by
  rw [replaceFirst, replaceFirst, h.find_here, find_bound_first h.apart hfront ho]
  cases o <;> cases ho <;> simp [ShiftOrArrow.text]

/-- The fix that inverts the first comparison does no more than that. -/
theorem changed_flip (line : List Char) (language : String) :
    LineFix.changed line LineFix.flipMark.toList language = replaceFirst here? inverse line := by
  rw [LineFix.changed, if_neg (by decide), if_neg (by decide), if_neg (by decide), if_pos rfl]

/-- In a line where no shift assigns there is nothing to invert, and no bound to shift. -/
theorem Separated.offers_none (h : Separated ps) (hps : ∀ p ∈ ps, p.bound? = none)
    {ctx : FixContext} (hline : ctx.line = String.ofList (textOf ps)) (language : String)
    (m : Option Match) :
    LineFix.apply ctx.line LineFix.flipMark language = none ∧
      Fixes.exclusiveBound m ctx = none := by
  have hnone := h.replace_none hps
  rw [LineFix.apply, Fixes.exclusiveBound, changed_flip, hline, String.toList_ofList,
    (hnone _).1, (hnone _).2]
  exact ⟨ite_self _, rfl⟩

theorem Separated.offers_first (h : Separated (front ++ .operator o :: back))
    (hfront : ∀ p ∈ front, p.bound? = none) (ho : o.bound? = some op) {ctx : FixContext}
    (hline : ctx.line = String.ofList (textOf (front ++ .operator o :: back))) (language : String)
    (m : Option Match) :
    LineFix.apply ctx.line LineFix.flipMark language =
        some (String.ofList (textOf front ++ o.text.take 1 ++ op.inverse.text ++ textOf back)) ∧
      Fixes.exclusiveBound m ctx = some (Fixes.statement
        (textOf front ++ o.text.take 1 ++ op.shiftBound.text ++ textOf back)) := by
  have hsome := h.replace_first hfront ho
  have hblank : Text.isBlankText ctx.line = false := by
    rw [hline, Text.isBlankText, String.toList_ofList, text_of_append, text_of_cons]
    refine List.all_eq_false.mpr ?_
    cases o <;> cases ho
    · exact ⟨'<', by simp [Piece.text, ShiftOrArrow.text], by decide⟩
    · exact ⟨'>', by simp [Piece.text, ShiftOrArrow.text], by decide⟩
  have hchanged : textOf front ++ o.text.take 1 ++ op.inverse.text ++ textOf back ≠
      textOf (front ++ .operator o :: back) := by
    rw [text_of_append, text_of_cons]
    cases o <;> cases ho <;> simp [Piece.text, ShiftOrArrow.text, inverse, Comparison.text]
  rw [LineFix.apply, Fixes.exclusiveBound, changed_flip, hblank, hline, String.toList_ofList,
    (hsome _).1, (hsome _).2]
  exact ⟨if_neg hchanged, rfl⟩

/-- The first shift of a line that assigns. -/
theorem exists_first (h : ¬ ∀ p ∈ ps, p.bound? = none) : ∃ front o back op,
    ps = front ++ .operator o :: back ∧ (∀ p ∈ front, p.bound? = none) ∧
      o.bound? = some op := by
  induction ps with
  | nil => exact absurd (List.forall_mem_nil _) h
  | cons p ps ih =>
      cases p with
      | operator o =>
          cases ho : o.bound? with
          | some op => exact ⟨[], o, ps, op, rfl, List.forall_mem_nil _, ho⟩
          | none =>
              obtain ⟨front, o', back, op, rfl, hfront, ho'⟩ :=
                ih fun hps => h (List.forall_mem_cons.mpr ⟨ho, hps⟩)
              exact ⟨.operator o :: front, o', back, op, rfl,
                List.forall_mem_cons.mpr ⟨ho, hfront⟩, ho'⟩
      | other c hc =>
          obtain ⟨front, o', back, op, rfl, hfront, ho'⟩ :=
            ih fun hps => h (List.forall_mem_cons.mpr ⟨rfl, hps⟩)
          exact ⟨.other c hc :: front, o', back, op, rfl,
            List.forall_mem_cons.mpr ⟨rfl, hfront⟩, ho'⟩

/-- In a line whose angle brackets all belong to shifts and arrows, and which tests nothing for
being equal, comparisons are left alone exactly when no shift assigns: there is nothing to invert,
and the fix for bounds that the checks of boundaries and the fixes of logic have in common offers
nothing. Otherwise the end of the first shift that assigns is rewritten like a comparison. -/
theorem rewrites_assigning_shift (h : Separated ps) {ctx : FixContext}
    (hline : ctx.line = String.ofList (textOf ps)) (language : String) (m : Option Match) :
    (∀ s ∈ [Strategy.boundaryCheck, Strategy.logicFix], Fixes.exclusiveBound ∈ s.fixes) ∧
    ((LineFix.apply ctx.line LineFix.flipMark language = none ∧
      Fixes.exclusiveBound m ctx = none) ↔ ∀ p ∈ ps, p.bound? = none) ∧
    ∀ front o back op, ps = front ++ .operator o :: back → (∀ p ∈ front, p.bound? = none) →
      o.bound? = some op →
      LineFix.apply ctx.line LineFix.flipMark language =
          some (String.ofList (textOf front ++ o.text.take 1 ++ op.inverse.text ++ textOf back)) ∧
        Fixes.exclusiveBound m ctx = some (Fixes.statement
          (textOf front ++ o.text.take 1 ++ op.shiftBound.text ++ textOf back)) := by
  refine ⟨?_, ⟨fun hnone => ?_, fun hps => h.offers_none hps hline language m⟩, ?_⟩
  · simp [Strategy.boundaryCheck, Strategy.logicFix]
  · by_contra hps
    obtain ⟨front, o, back, op, rfl, hfront, ho⟩ := exists_first hps
    have hsome := (h.offers_first hfront ho hline language m).1
    rw [hnone.1] at hsome
    cases hsome
  · rintro front o back op rfl hfront ho
    exact h.offers_first hfront ho hline language m

/-- A fault in a line of a file. -/
def faultyLine (line : String) : FixContext where
  fault := ⟨.testFailure, .high, "assertion failed", .ofLine "a.c" 1, [], 0, none, .given, none⟩
  codeContext := ""
  language := "c"
  line := line

/-- The parts of `f(p->n<<2)`. -/
def callOfShift : List Piece :=
  [.other 'f' (by decide), .other '(' (by decide), .other 'p' (by decide), .operator .arrow,
   .other 'n' (by decide), .operator .left, .other '2' (by decide), .other ')' (by decide)]

theorem call_of_shift_separated : Separated callOfShift :=
  ⟨by decide, by simp [callOfShift, Apart, textOf, Piece.text, ShiftOrArrow.text]⟩

theorem rewrites_no_call_of_shift :
    LineFix.apply "f(p->n<<2)" LineFix.flipMark "c" = none ∧
      Fixes.exclusiveBound none (faultyLine "f(p->n<<2)") = none :=
  (@rewrites_assigning_shift callOfShift call_of_shift_separated (faultyLine "f(p->n<<2)") rfl "c"
    none).2.1.mpr (by decide)

/-- The parts of `x <<= 2`. -/
def shiftByTwo : List Piece :=
  [.other 'x' (by decide), .other ' ' (by decide), .operator .leftAssign,
   .other ' ' (by decide), .other '2' (by decide)]

/-- A shift that assigns becomes an inequality, or a shift that does not. -/
theorem assigning_shift_is_rewritten : Separated shiftByTwo ∧
    textOf shiftByTwo = "x <<= 2".toList ∧
    LineFix.apply "x <<= 2" LineFix.flipMark "c" = some "x <> 2" ∧
    Fixes.exclusiveBound none (faultyLine "x <<= 2") = some (LineFix.lineMark ++ "x << 2") := by
  refine ⟨⟨by decide, ?_⟩, by decide, by decide, by decide⟩
  simp [shiftByTwo, Apart, textOf, Piece.text]

end Lines

end Comparison

end Mender
