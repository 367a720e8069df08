import Mender.Proofs.Repair.Generation

/-!
# Replies that cannot be read

A reply offers a fix, or none, or it cannot be read. `FixReply.parse_fails_iff` says when that is: a
line number in its tags looks like digits and is no numeral, because of a digit that takes no part
in numerals or because it is too long.
-/

namespace Mender

namespace Text

/-- Tables of ranges that do not meet have no character in common. -/
theorem in_ranges_disjoint {table other : List (Nat × Nat)}
    (hapart : ∀ r ∈ table, ∀ q ∈ other, r.2 < q.1 ∨ q.2 < r.1) {c : Char}
    (h : inRanges table c = true) : inRanges other c = false := by
  simp only [inRanges, List.any_eq_true, List.any_eq_false, Bool.and_eq_true,
    decide_eq_true_eq] at h ⊢
  obtain ⟨r, hr, hc⟩ := h
  intro q hq hcq
  have := hapart r hr q hq
  omega

theorem is_digit_like_eq (c : Char) :
    isDigitLike c = inRanges (decimalRanges ++ framedDigitRanges) c := by
  have hdecimal : isDecimal c = inRanges decimalRanges c := by
    rw [Bool.eq_iff_iff]
    simp [isDecimal, digitValue?, inRanges, List.find?_isSome]
  rw [isDigitLike, hdecimal]
  simp only [inRanges, List.any_append]

/-- What looks like a digit is no blank. -/
theorem not_blank_of_digit_like {c : Char} (h : isDigitLike c = true) : isBlank c = false := by
  rw [is_digit_like_eq] at h
  exact in_ranges_disjoint (by decide) h

/-- A text without characters of a class at its ends has nothing to trim. -/
theorem trim_by_eq_self {p : Char → Bool} {cs : List Char} (h : ∀ c ∈ cs, p c = false) :
    trimBy p cs = cs := by
  have hkeep : ∀ ds : List Char, (∀ c ∈ ds, p c = false) → ds.dropWhile p = ds := by
    intro ds hds
    cases ds with
    | nil => rfl
    | cons d ds => rw [List.dropWhile_cons_of_neg (by simp [hds d])]
  rw [trimBy, hkeep cs h, dropEndWhile, hkeep _ fun c hc => h c (List.mem_reverse.mp hc),
    List.reverse_reverse]

/-- In a text of digits the run of digits ends at the first that takes no part in numerals, and at
the end of the text without one. -/
theorem digit_run_of_digit_like {cs : List Char} (h : ∀ c ∈ cs, isDigitLike c = true)
    (afterDigit : Bool) :
    (digitRun afterDigit cs).1.length + (digitRun afterDigit cs).2.length = cs.length ∧
      ((digitRun afterDigit cs).2 = [] ↔ ∀ c ∈ cs, isDecimal c = true) := by
  induction cs generalizing afterDigit with
  | nil => simp [digitRun]
  | cons c cs ih =>
      obtain ⟨hc, hcs⟩ := List.forall_mem_cons.mp h
      have hlow : (c == '_') = false := by
        rw [beq_eq_false_iff_ne]
        rintro rfl
        exact absurd hc (by decide)
      cases hvalue : digitValue? c with
      | some d =>
          have hdecimal : isDecimal c = true := by simp [isDecimal, hvalue]
          obtain ⟨hlength, hrest⟩ := ih hcs true
          simp only [digitRun, hvalue, List.length_cons, List.forall_mem_cons, hdecimal, true_and]
          exact ⟨by omega, hrest⟩
      | none =>
          have hdecimal : isDecimal c = false := by simp [isDecimal, hvalue]
          simp [digitRun, hvalue, hdecimal, hlow]

end Text

namespace Integer

/-- Reading fails in one way only, as a value that is none. -/
theorem magnitude_error_kind {text : String} {cs : List Char} {e : Failure}
    (h : magnitude text cs = .error e) : e.kind = .value := by
  unfold magnitude at h
  dsimp only at h
  split at h
  · cases h
    rfl
  split at h
  · cases h
    rfl
  split at h
  · cases h
  · cases h
    rfl

/-- Reading characters that look like digits fails when one of them takes no part in numerals or
they are too many. -/
theorem magnitude_fails_iff {cs : List Char} (h : ∀ c ∈ cs, Text.isDigitLike c = true)
    (hsome : cs ≠ []) (text : String) :
    (∃ e, magnitude text cs = .error e) ↔
      ¬(∀ c ∈ cs, Text.isDecimal c = true) ∨ maxDigits < cs.length := by
  obtain ⟨hlength, hrest⟩ := Text.digit_run_of_digit_like h false
  have hpositive := List.length_pos_iff.mpr hsome
  rcases hrun : Text.digitRun false cs with ⟨digits, rest⟩
  simp only [hrun] at hlength hrest
  simp only [magnitude, hrun, ← hrest]
  cases rest with
  | nil =>
      have hread : digits.isEmpty = false := by
        rw [← Bool.not_eq_true, List.isEmpty_iff_length_eq_zero]
        simp at hlength
        omega
      obtain hlength : digits.length = cs.length := hlength
      by_cases hlong : maxDigits < cs.length <;> simp [hread, hlength, hlong]
  | cons c rest =>
      refine ⟨fun _ => .inl (by simp), fun _ => ?_⟩
      split
      · exact ⟨_, rfl⟩
      split
      · exact ⟨_, rfl⟩
      · exact ⟨_, rfl⟩

/-- Giving a magnitude its sign does not fail. -/
theorem signed_eq_error_iff {x : Except Failure Nat} {sign : Int → Int} {e : Failure} :
    (do let n ← x; pure (n : Int) : Except Failure Int).map sign = .error e ↔ x = .error e := by
  cases x with
  | error e' =>
      constructor <;>
        · rintro ⟨⟩
          rfl
  | ok n => constructor <;> rintro ⟨⟩

theorem read_error_kind {text : String} {e : Failure} (h : read text = .error e) :
    e.kind = .value := by
  unfold read at h
  split at h <;> exact magnitude_error_kind (signed_eq_error_iff.mp h)

/-- A text of characters that look like digits has no sign and nothing to trim. -/
theorem read_of_digit_like {cs : List Char} (h : ∀ c ∈ cs, Text.isDigitLike c = true) :
    read (String.ofList cs) = (magnitude (String.ofList cs) cs).map fun n : Nat => (n : Int) := by
  have htrim : Text.trimBy Text.isNumeralBlank (String.ofList cs).toList = cs := by
    rw [String.toList_ofList]
    exact Text.trim_by_eq_self fun c hc => by
      simp [Text.isNumeralBlank, Text.not_blank_of_digit_like (h c hc)]
  unfold read
  rw [htrim]
  split
  · exact absurd (h '-' List.mem_cons_self) (by decide)
  · exact absurd (h '+' List.mem_cons_self) (by decide)
  · cases magnitude (String.ofList cs) cs <;> rfl

theorem read_eq_error_iff {cs : List Char} (h : ∀ c ∈ cs, Text.isDigitLike c = true)
    {e : Failure} :
    read (String.ofList cs) = .error e ↔ magnitude (String.ofList cs) cs = .error e := by
  rw [read_of_digit_like h]
  cases magnitude (String.ofList cs) cs <;> simp [Except.map]

end Integer

namespace FixReply

/-- The body of a tag looks like a line number and is none: it consists of digits, and one of them
takes no part in numerals, or they are too many. -/
def Misnumbered (body : Option (List Char)) : Prop :=
  let digits := Text.trim (body.getD [])
  (∀ c ∈ digits, Text.isDigitLike c = true) ∧
    (¬(∀ c ∈ digits, Text.isDecimal c = true) ∨ Integer.maxDigits < digits.length)

instance (body : Option (List Char)) : Decidable (Misnumbered body) :=
  inferInstanceAs (Decidable (_ ∧ _))

/-- A reply states a fix whose first or last line looks like a number and is none. -/
def Unreadable (reply : String) : Prop :=
  ∃ block fixed, tag? "fix" reply.toList = some block ∧ tag? "fixed" block = some fixed ∧
    (Misnumbered (tag? "line_start" block) ∨ Misnumbered (tag? "line_end" block))

theorem line_or_error_kind {body : Option (List Char)} {absent : Int} {e : Failure}
    (h : lineOr body absent = .error e) : e.kind = .value := by
  unfold lineOr at h
  dsimp only at h
  split at h
  · cases h
  · exact Integer.read_error_kind h

theorem line_or_fails_iff (body : Option (List Char)) (absent : Int) :
    (∃ e, lineOr body absent = .error e) ↔ Misnumbered body := by
  unfold lineOr Misnumbered
  dsimp only
  generalize Text.trim (body.getD []) = digits
  split
  · rename_i hother
    rw [Bool.or_eq_true, List.isEmpty_iff, Bool.not_eq_true', List.all_eq_false] at hother
    constructor
    · rintro ⟨e, he⟩
      cases he
    · rintro ⟨hlike, hbad⟩
      rcases hother with rfl | ⟨c, hc, hno⟩
      · simp at hbad
      · exact absurd (hlike c hc) hno
  · rename_i hdigits
    rw [Bool.or_eq_true, List.isEmpty_iff, Bool.not_eq_true', List.all_eq_false, not_or] at hdigits
    have hlike : ∀ c ∈ digits, Text.isDigitLike c = true := by simpa using hdigits.2
    rw [and_iff_right hlike, ← Integer.magnitude_fails_iff hlike hdigits.1 (String.ofList digits)]
    exact exists_congr fun e => Integer.read_eq_error_iff hlike

/-- A fix stated in tags fails to be read exactly when one of its line numbers does. -/
theorem of_tags_fails_iff (f : Fault) (strategy : String) (block fixed : List Char) :
    (∃ e, ofTags f strategy block fixed = .error e) ↔
      Misnumbered (tag? "line_start" block) ∨ Misnumbered (tag? "line_end" block) := by
  rw [← line_or_fails_iff (tag? "line_start" block) f.location.line,
    ← line_or_fails_iff (tag? "line_end" block) f.location.endLine]
  unfold ofTags
  cases lineOr (tag? "line_start" block) f.location.line with
  | error e => simp [bind, Except.bind]
  | ok first =>
      cases lineOr (tag? "line_end" block) f.location.endLine with
      | error e => simp [bind, Except.bind]
      | ok last => simp [bind, Except.bind, pure, Except.pure]

/-- A reply fails to be read exactly when it is unreadable, whatever it is asked for. -/
theorem parse_fails_iff (f : Fault) (strategy reply : String) :
    (∃ e, parse f strategy reply = .error e) ↔ Unreadable reply := by
  unfold parse Unreadable
  cases tag? "fix" reply.toList with
  | none => simp
  | some block =>
      cases hfixed : tag? "fixed" block with
      | none => simp [hfixed]
      | some fixed =>
          have htags := of_tags_fails_iff f strategy block fixed
          constructor
          · rintro ⟨e, he⟩
            simp only [hfixed] at he
            exact ⟨block, fixed, rfl, hfixed, htags.mp ⟨e, map_eq_error he⟩⟩
          · rintro ⟨_, _, ⟨⟩, hfixed', hbad⟩
            obtain rfl := Option.some.inj (hfixed.symm.trans hfixed')
            obtain ⟨e, he⟩ := htags.mpr hbad
            exact ⟨e, by simp only [hfixed, he]; rfl⟩

theorem of_tags_error_kind {f : Fault} {strategy : String} {block fixed : List Char} {e : Failure}
    (h : ofTags f strategy block fixed = .error e) : e.kind = .value := by
  unfold ofTags at h
  cases hfirst : lineOr (tag? "line_start" block) f.location.line with
  | error e' =>
      rw [hfirst] at h
      cases h
      exact line_or_error_kind hfirst
  | ok first =>
      cases hlast : lineOr (tag? "line_end" block) f.location.endLine with
      | error e' =>
          rw [hfirst, hlast] at h
          cases h
          exact line_or_error_kind hlast
      | ok last =>
          rw [hfirst, hlast] at h
          cases h

theorem parse_error_kind {f : Fault} {strategy reply : String} {e : Failure}
    (h : parse f strategy reply = .error e) : e.kind = .value := by
  unfold parse at h
  split at h
  · cases h
  split at h
  · cases h
  · exact of_tags_error_kind (map_eq_error h)

/-- An empty reply offers nothing. -/
theorem parse_empty (f : Fault) (strategy : String) : parse f strategy "" = .ok none := by
  rfl

end FixReply

end Mender
