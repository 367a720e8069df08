import Mender.Proofs.Patch.Reading

/-!
# What line edits come to

`rewritten` says line by line what becomes of a file, without any order among the changes: each line
stays unless a change covers it, and the new lines of a change stand where its range began. `Fits`
says when changes can be made at all. Making them from the bottom up comes to the same, although the
bounds are then checked against lines that earlier changes have already moved: above the floor
nothing has been touched, and below it nothing is looked at again.
-/

namespace Mender.Edit

/-- Changes fit a file of `size` lines when each is a range of its lines and no two of them meet. -/
structure Fits (size : Nat) (changes : List Change) : Prop where
  inside : ∀ c ∈ changes, 1 ≤ c.first ∧ c.first ≤ c.last ∧ c.last ≤ size
  apart : changes.Pairwise fun a b => a.last < b.first ∨ b.last < a.first

/-- What becomes of the line of a number: the new lines of the change that begins there, and the
line itself unless a change covers it. -/
def lineAfter (changes : List Change) (number : Nat) (line : List Char) : List (List Char) :=
  (changes.filter fun c => c.first = (number : Int)).flatMap (fun c => newLines c.new) ++
    if changes.any fun c => c.first ≤ number ∧ (number : Int) ≤ c.last then [] else [line]

/-- Lines after changes, where the first of them has a given number. -/
def rewriteFrom (changes : List Change) : Nat → List (List Char) → List (List Char)
  | _, [] => []
  | number, line :: lines =>
    lineAfter changes number line ++ rewriteFrom changes (number + 1) lines

/-- The lines of a file after changes. -/
def rewritten (changes : List Change) (lines : List (List Char)) : List (List Char) :=
  rewriteFrom changes 1 lines

section Lines

variable {c : Change} {cs changes : List Change} {number : Nat} {lines : List (List Char)}

theorem rewrite_from_append (changes : List Change) (number : Nat)
    (upper lower : List (List Char)) :
    rewriteFrom changes number (upper ++ lower) =
      rewriteFrom changes number upper ++ rewriteFrom changes (number + upper.length) lower := by
  induction upper generalizing number with
  | nil => rfl
  | cons line upper ih =>
      simp only [List.cons_append, rewriteFrom, ih, List.append_assoc, List.length_cons,
        Nat.add_right_comm, Nat.add_assoc]

/-- Without changes the lines stay. -/
theorem rewrite_from_nil (number : Nat) (lines : List (List Char)) :
    rewriteFrom [] number lines = lines := by
  induction lines generalizing number with
  | nil => rfl
  | cons line lines ih => simp [rewriteFrom, lineAfter, ih]

/-- A change above or below a line is nothing to it. -/
theorem line_after_skip (line : List Char) (hrange : c.first ≤ c.last)
    (haway : (number : Int) < c.first ∨ c.last < number) :
    lineAfter (c :: cs) number line = lineAfter cs number line := by
  have hfirst : c.first ≠ number := by omega
  have hcovers : ¬(c.first ≤ number ∧ (number : Int) ≤ c.last) := by omega
  simp [lineAfter, hfirst, hcovers]

/-- Lines that a change lies below or above are rewritten without it. -/
theorem rewrite_from_skip (hrange : c.first ≤ c.last)
    (haway : (number + lines.length : Int) ≤ c.first ∨ c.last < number) :
    rewriteFrom (c :: cs) number lines = rewriteFrom cs number lines := by
  induction lines generalizing number with
  | nil => rfl
  | cons line lines ih =>
      rw [List.length_cons] at haway
      rw [rewriteFrom, rewriteFrom, line_after_skip line hrange (by omega),
        ih (by push_cast; omega)]

/-- Lines that all changes lie below or above stay. -/
theorem rewrite_from_away (haway : ∀ c ∈ changes, c.first ≤ c.last ∧
    ((number + lines.length : Int) ≤ c.first ∨ c.last < number)) :
    rewriteFrom changes number lines = lines := by
  induction changes with
  | nil => exact rewrite_from_nil number lines
  | cons c cs ih =>
      obtain ⟨hc, hcs⟩ := List.forall_mem_cons.mp haway
      rw [rewrite_from_skip hc.1 hc.2, ih hcs]

/-- Lines that a change covers but does not begin with go away. -/
theorem rewrite_from_covered (hfirst : c.first < number)
    (hlast : (number + lines.length : Int) ≤ c.last + 1)
    (habove : ∀ d ∈ cs, d.first ≤ d.last ∧ d.last < number) :
    rewriteFrom (c :: cs) number lines = [] := by
  induction lines generalizing number with
  | nil => rfl
  | cons line lines ih =>
      rw [List.length_cons] at hlast
      have hbegins : (c :: cs).filter (fun d => d.first = (number : Int)) = [] := by
        rw [List.filter_eq_nil_iff]
        rintro d (_ | ⟨_, hd⟩)
        · simp only [decide_eq_true_eq]
          omega
        · have := habove d hd
          simp only [decide_eq_true_eq]
          omega
      have hcovers : c.first ≤ number ∧ (number : Int) ≤ c.last := by omega
      have hline : lineAfter (c :: cs) number line = [] := by
        rw [lineAfter, hbegins]
        simp [hcovers]
      rw [rewriteFrom, hline, ih (by push_cast; omega) (by push_cast; omega)]
      · rfl
      · intro d hd
        have := habove d hd
        push_cast
        omega

/-- The lines of a range become the new lines of its change. -/
theorem rewrite_from_range (hfirst : c.first = number)
    (hlast : (number + lines.length : Int) = c.last + 1) (hsome : lines ≠ [])
    (habove : ∀ d ∈ cs, d.first ≤ d.last ∧ d.last < number) :
    rewriteFrom (c :: cs) number lines = newLines c.new := by
  cases lines with
  | nil => exact absurd rfl hsome
  | cons line lines =>
      rw [List.length_cons] at hlast
      have hbegins : (c :: cs).filter (fun d => d.first = (number : Int)) = [c] := by
        rw [List.filter_cons_of_pos (by simpa using hfirst), List.filter_eq_nil_iff.mpr]
        intro d hd
        have := habove d hd
        simp only [decide_eq_true_eq]
        omega
      have hcovers : c.first ≤ number ∧ (number : Int) ≤ c.last := by omega
      rw [rewriteFrom, rewrite_from_covered (by push_cast; omega) (by push_cast; omega), lineAfter,
        hbegins]
      · simp [hcovers]
      · intro d hd
        have := habove d hd
        push_cast
        omega

end Lines

/-! ## From the bottom up -/

/-- Changes in the order in which they are made: each ends above the one before it begins, and the
first of them not below a line. -/
inductive Descends : Int → List Change → Prop
  | nil {bound} : Descends bound []
  | cons {bound c cs} : 1 ≤ c.first → c.first ≤ c.last → c.last ≤ bound →
      Descends (c.first - 1) cs → Descends bound (c :: cs)

theorem descends_cons_iff {bound : Int} {c : Change} {cs : List Change} :
    Descends bound (c :: cs) ↔
      1 ≤ c.first ∧ c.first ≤ c.last ∧ c.last ≤ bound ∧ Descends (c.first - 1) cs := by
  constructor
  · rintro (_ | ⟨hfirst, hrange, hlast, hrest⟩)
    exact ⟨hfirst, hrange, hlast, hrest⟩
  · rintro ⟨hfirst, hrange, hlast, hrest⟩
    exact .cons hfirst hrange hlast hrest

theorem Descends.inside {bound : Int} {cs : List Change} (h : Descends bound cs) :
    ∀ c ∈ cs, 1 ≤ c.first ∧ c.first ≤ c.last ∧ c.last ≤ bound := by
  induction h with
  | nil => simp
  | @cons bound c cs hfirst hrange hlast _ ih =>
      refine List.forall_mem_cons.mpr ⟨⟨hfirst, hrange, hlast⟩, fun d hd => ?_⟩
      have := ih d hd
      omega

theorem Descends.apart {bound : Int} {cs : List Change} (h : Descends bound cs) :
    cs.Pairwise fun a b => a.last < b.first ∨ b.last < a.first := by
  induction h with
  | nil => exact .nil
  | cons _ _ _ hrest ih =>
      refine .cons (fun d hd => .inr ?_) ih
      have := hrest.inside d hd
      omega

/-- Changes that are apart and ordered by where they begin descend. -/
theorem Descends.of_sorted {bound : Int} {cs : List Change}
    (hsorted : cs.Pairwise fun a b => b.first ≤ a.first)
    (hinside : ∀ c ∈ cs, 1 ≤ c.first ∧ c.first ≤ c.last ∧ c.last ≤ bound)
    (hapart : cs.Pairwise fun a b => a.last < b.first ∨ b.last < a.first) :
    Descends bound cs := by
  induction cs generalizing bound with
  | nil => exact .nil
  | cons c cs ih =>
      obtain ⟨⟨hfirst, hrange, hlast⟩, hothers⟩ := List.forall_mem_cons.mp hinside
      obtain ⟨hlow, hsorted'⟩ := List.pairwise_cons.mp hsorted
      obtain ⟨haway, hapart'⟩ := List.pairwise_cons.mp hapart
      refine .cons hfirst hrange hlast (ih hsorted' (fun d hd => ?_) hapart')
      have := hothers d hd
      have := hlow d hd
      have := haway d hd
      omega

/-- The lines above a change, and those from its range on, once it was made. -/
theorem replace_lines_split {lines : List (List Char)} (new : List (List Char))
    {first last : Int} (hrange : first ≤ last) (hlast : last ≤ lines.length) :
    (replaceLines lines first last new).take (first - 1).toNat = lines.take (first - 1).toNat ∧
      (replaceLines lines first last new).drop (first - 1).toNat =
        new ++ lines.drop last.toNat := by
  have hlength : (lines.take (first - 1).toNat).length = (first - 1).toNat := by
    rw [List.length_take]
    omega
  rw [replaceLines, List.append_assoc]
  exact ⟨List.take_left' hlength, List.drop_left' hlength⟩

/-- The lowest change on the lines down to a bound: its range becomes its new lines, the lines below
the range stay, and those above it are left to the other changes. -/
theorem rewritten_cons {c : Change} {cs : List Change} {lines : List (List Char)}
    (hdescends : Descends lines.length (c :: cs)) :
    rewritten (c :: cs) lines =
      rewritten cs (lines.take (c.first - 1).toNat) ++
        (newLines c.new ++ lines.drop c.last.toNat) := by
  obtain ⟨hfirst, hrange, hlast, hrest⟩ := descends_cons_iff.mp hdescends
  have habove : ∀ d ∈ cs, d.first ≤ d.last ∧ d.last < c.first := fun d hd => by
    have := hrest.inside d hd
    omega
  have hupper : (lines.take (c.first - 1).toNat).length = (c.first - 1).toNat := by
    rw [List.length_take]
    omega
  have hmiddle : ((lines.take c.last.toNat).drop (c.first - 1).toNat).length =
      c.last.toNat - (c.first - 1).toNat := by
    rw [List.length_drop, List.length_take]
    omega
  have hsplit : lines = lines.take (c.first - 1).toNat ++
      ((lines.take c.last.toNat).drop (c.first - 1).toNat ++ lines.drop c.last.toNat) := by
    have htake : (lines.take c.last.toNat).take (c.first - 1).toNat =
        lines.take (c.first - 1).toNat := by
      rw [List.take_take, Nat.min_eq_left (by omega)]
    rw [← List.append_assoc, ← htake, List.take_append_drop, List.take_append_drop]
  -- the lines above the range, those of the range, and those below it
  conv => lhs; rw [hsplit]
  rw [rewritten, rewrite_from_append, rewrite_from_append, rewritten]
  congr 1
  · exact rewrite_from_skip hrange (.inl (by omega))
  congr 1
  · refine rewrite_from_range (by omega) (by omega) ?_ fun d hd => ?_
    · exact List.ne_nil_of_length_pos (by omega)
    · have := habove d hd
      omega
  · refine rewrite_from_away (List.forall_mem_cons.mpr ⟨⟨hrange, .inr (by omega)⟩, fun d hd => ?_⟩)
    have := habove d hd
    omega

/-- Changes that descend from a bound can be made on any lines whose part down to the bound is
still untouched, and come to the rewritten part with the rest as it was. Others cannot. -/
theorem apply_down_eq {bound : Nat} {cs : List Change} {floor : Option Int}
    {lines : List (List Char)} (hbound : bound ≤ lines.length)
    (hfloor : ∀ last : Int, last ≤ lines.length → (floor.any (· ≤ last) = true ↔ bound < last)) :
    (Descends bound cs →
      applyDown cs floor lines = .ok (rewritten cs (lines.take bound) ++ lines.drop bound)) ∧
    (¬Descends bound cs → ∃ fault, applyDown cs floor lines = .error fault) := by
  -- the next bound is the line above the change; what was put in below it only adds lines there
  induction cs generalizing bound floor lines with
  | nil =>
      refine ⟨fun _ => ?_, fun h => absurd .nil h⟩
      rw [applyDown, rewritten, rewrite_from_nil, List.take_append_drop]
  | cons c cs ih =>
      rw [applyDown, descends_cons_iff]
      split
      · refine ⟨fun ⟨hfirst, hrange, hlast, _⟩ => ?_, fun _ => ⟨_, rfl⟩⟩
        omega
      · rename_i hinside
        split
        · rename_i hmeets
          refine ⟨fun ⟨_, _, hlast, _⟩ => ?_, fun _ => ⟨_, rfl⟩⟩
          have := (hfloor c.last (by omega)).mp hmeets
          omega
        · rename_i hapart
          have hlast : c.last ≤ bound := by
            have := mt (hfloor c.last (by omega)).mpr hapart
            omega
          have hrange : c.first ≤ c.last := by omega
          obtain ⟨habove, hfrom⟩ := replace_lines_split (newLines c.new) hrange
            (show c.last ≤ lines.length by omega)
          have hnext := @ih (c.first - 1).toNat (some c.first)
            (replaceLines lines c.first c.last (newLines c.new)) ?_ ?_
          · rw [habove, hfrom, Int.toNat_of_nonneg (by omega)] at hnext
            refine ⟨fun ⟨hfirst, _, _, hrest⟩ => ?_, fun hnot => hnext.2 fun hrest => hnot ?_⟩
            · have hlength : (lines.take bound).length = bound := by
                rw [List.length_take, Nat.min_eq_left hbound]
              have hdescends : Descends (lines.take bound).length (c :: cs) := by
                rw [hlength]
                exact .cons hfirst hrange hlast hrest
              rw [hnext.1 hrest, rewritten_cons hdescends, List.take_take,
                Nat.min_eq_left (by omega), List.append_assoc, List.append_assoc,
                ← List.drop_append_of_le_length (by omega), List.take_append_drop]
            · exact ⟨by omega, hrange, hlast, hrest⟩
          · rw [replaceLines]
            simp only [List.length_append, List.length_take]
            omega
          · intro last _
            simp only [Option.any_some, decide_eq_true_eq]
            omega

/-! ## Any order -/

theorem bottom_up_sorted (changes : List Change) :
    (bottomUp changes).Pairwise fun a b => b.first ≤ a.first := by
  have hsorted := @List.pairwise_mergeSort Change (fun a b => decide (b.first ≤ a.first))
    (fun a b c hab hbc => by
      simp only [decide_eq_true_eq] at hab hbc ⊢
      omega)
    (fun a b => by
      simp only [Bool.or_eq_true, decide_eq_true_eq]
      omega)
    changes
  exact hsorted.imp of_decide_eq_true

theorem bottom_up_perm (changes : List Change) : (bottomUp changes).Perm changes :=
  List.mergeSort_perm _ _

theorem Fits.perm {size : Nat} {changes changes' : List Change} (h : Fits size changes)
    (hperm : changes.Perm changes') : Fits size changes' :=
  ⟨fun c hc => h.inside c (hperm.mem_iff.mpr hc), h.apart.perm hperm fun hab => hab.symm⟩

/-- Of changes that fit at most one begins at a line. -/
theorem Fits.begins_at {size : Nat} {changes : List Change} (h : Fits size changes)
    (number : Nat) :
    (changes.filter fun c => c.first = (number : Int)).length ≤ 1 := by
  have hapart := h.apart.sublist (List.filter_sublist (p := fun c => c.first = (number : Int)))
  have hmem : ∀ c ∈ changes.filter fun c => c.first = (number : Int),
      c.first = number ∧ c.first ≤ c.last := fun c hc => by
    obtain ⟨hchange, hfirst⟩ := List.mem_filter.mp hc
    exact ⟨of_decide_eq_true hfirst, (h.inside c hchange).2.1⟩
  generalize changes.filter (fun c => c.first = (number : Int)) = begun at hapart hmem ⊢
  match begun with
  | [] => simp
  | [c] => simp
  | c :: d :: rest =>
      have := List.rel_of_pairwise_cons hapart List.mem_cons_self
      have := hmem c (by simp)
      have := hmem d (by simp)
      omega

/-- What becomes of a line does not depend on the order of changes that fit. -/
theorem line_after_perm {size : Nat} {changes changes' : List Change} (h : Fits size changes)
    (hperm : changes.Perm changes') (number : Nat) (line : List Char) :
    lineAfter changes number line = lineAfter changes' number line := by
  have hbegun := hperm.filter fun c => c.first = (number : Int)
  have hsame : (changes.filter fun c => c.first = (number : Int)) =
      changes'.filter fun c => c.first = (number : Int) := by
    have hone := h.begins_at number
    generalize changes.filter (fun c => c.first = (number : Int)) = begun at hbegun hone ⊢
    match begun with
    | [] => exact (List.nil_perm.mp hbegun).symm
    | [c] => exact List.singleton_perm.mp hbegun
    | _ :: _ :: _ => simp at hone
  rw [lineAfter, lineAfter, hsame, hperm.any_eq]

theorem rewritten_perm {size : Nat} {changes changes' : List Change} (h : Fits size changes)
    (hperm : changes.Perm changes') (lines : List (List Char)) :
    rewritten changes lines = rewritten changes' lines := by
  rw [rewritten, rewritten]
  generalize 1 = number
  induction lines generalizing number with
  | nil => rfl
  | cons line lines ih => rw [rewriteFrom, rewriteFrom, line_after_perm h hperm, ih]

/-- Changes that fit a text lead to its rewritten lines, in whatever order they are given. -/
theorem apply_of_fits {content : String} {changes : List Change}
    (h : Fits (Document.ofText content.toList).lines.length changes) :
    apply content changes = .ok (String.ofList { Document.ofText content.toList with
      lines := rewritten changes (Document.ofText content.toList).lines }.toText) := by
  have hperm := bottom_up_perm changes
  have hfits := h.perm hperm.symm
  have hdown := (@apply_down_eq (Document.ofText content.toList).lines.length _ none _
    (Nat.le_refl _) (fun last hlast => by simp; omega)).1
    (.of_sorted (bottom_up_sorted changes) hfits.inside hfits.apart)
  rw [List.take_length, List.drop_length, List.append_nil, rewritten_perm hfits hperm] at hdown
  rw [apply, hdown]
  rfl

/-- Changes that do not fit a text are refused. -/
theorem apply_of_not_fits {content : String} {changes : List Change}
    (h : ¬Fits (Document.ofText content.toList).lines.length changes) :
    ∃ fault, apply content changes = .error fault := by
  obtain ⟨fault, hdown⟩ := (@apply_down_eq (Document.ofText content.toList).lines.length
    (bottomUp changes) none _ (Nat.le_refl _) (fun last hlast => by simp; omega)).2
    fun hdescends => h (Fits.perm ⟨hdescends.inside, hdescends.apart⟩ (bottom_up_perm changes))
  refine ⟨fault, ?_⟩
  rw [apply, hdown]
  rfl

/-- Changes that can be made fit the lines of the file. -/
theorem fits_of_apply {content after : String} {changes : List Change}
    (h : apply content changes = .ok after) :
    Fits (Document.ofText content.toList).lines.length changes := by
  by_cases hfits : Fits (Document.ofText content.toList).lines.length changes
  · exact hfits
  · obtain ⟨fault, hfault⟩ := apply_of_not_fits hfits
    rw [h] at hfault
    cases hfault

/-- A line above all changes that is there after them was there before, however the lines of the two
texts are counted. -/
theorem line_above_changes {content after : String} {changes : List Change}
    (h : apply content changes = .ok after) {k : Nat}
    (habove : ∀ c ∈ changes, (k + 1 : Int) < c.first) {line : List Char}
    (hline : (Text.lines after.toList)[k]? = some line) :
    (Text.lines content.toList)[k]? = some line := by
  have hfits := fits_of_apply h
  have hreads := (Document.of_text_reads content.toList).text
  obtain rfl := Except.ok.inj ((apply_of_fits hfits).symm.trans h)
  rw [String.toList_ofList] at hline
  generalize Document.ofText content.toList = d at hfits hreads hline
  rw [← hreads]
  cases changes with
  | nil => rwa [rewritten, rewrite_from_nil] at hline
  | cons c cs =>
      have hk : k + 1 < d.lines.length := by
        have := habove c List.mem_cons_self
        have := hfits.inside c List.mem_cons_self
        omega
      have hlength : (d.lines.take (k + 1)).length = k + 1 := by
        rw [List.length_take]
        omega
      have hupper : d.lines.take (k + 1) ≠ [] := List.ne_nil_of_length_pos (by omega)
      have hlower : d.lines.drop (k + 1) ≠ [] := by
        rw [Ne, List.drop_eq_nil_iff]
        omega
      have hstays : rewriteFrom (c :: cs) 1 (d.lines.take (k + 1)) = d.lines.take (k + 1) :=
        rewrite_from_away fun b hb => by
          have := habove b hb
          have := hfits.inside b hb
          omega
      -- both texts start with the lines of the file down to this one; what follows them differs
      rw [Document.toText, ← List.take_append_drop (k + 1) d.lines,
        Text.lines_of_pieces _ hupper hlower _ (by omega)]
      rw [Document.toText, rewritten, ← List.take_append_drop (k + 1) d.lines,
        rewrite_from_append, hstays] at hline
      generalize rewriteFrom (c :: cs) (1 + (d.lines.take (k + 1)).length)
        (d.lines.drop (k + 1)) = below at hline
      by_cases hbelow : below = []
      · -- nothing is left below, so the line may be the last one and stand open
        rw [hbelow, List.append_nil] at hline
        cases hclosed : d.closed with
        | true => simpa [hclosed] using hline
        | false =>
            simp only [hclosed, Bool.false_eq_true, if_false, List.append_nil] at hline
            obtain ⟨rest, hrest⟩ := Text.lines_prefix_mark d.ending
              (Text.joinText d.ending.mark (d.lines.take (k + 1)))
            rw [← hrest, List.getElem?_append_left (List.getElem?_eq_some_iff.mp hline).1]
            exact hline
      · rwa [Text.lines_of_pieces _ hupper hbelow _ (by omega)] at hline

/-- Changes can be made exactly when they fit the lines of the file, and are refused as a patch that
cannot be applied otherwise. What they lead to is the file with each range replaced by its new lines
and all other lines as they were. The order in which they are given does not matter. -/
theorem apply_rewrites_iff_fits (content : String) (changes : List Change) :
    let d := Document.ofText content.toList
    d.Reads content.toList ∧ (∀ c ∈ changes, ReadsNew c.new (newLines c.new)) ∧
    ((∃ after, apply content changes = .ok after) ↔ Fits d.lines.length changes) ∧
    (∀ after, apply content changes = .ok after →
      after.toList = d.ending.mark.intercalate (rewritten changes d.lines) ++
        if d.closed then d.ending.mark else []) ∧
    (∀ fault, apply content changes = .error fault → fault.failure.kind = .patch) ∧
    ∀ changes', changes.Perm changes' →
      (apply content changes').toOption = (apply content changes).toOption := by
  intro d
  refine ⟨Document.of_text_reads _, fun _ _ => new_lines_read _,
    ⟨?_, fun h => ⟨_, apply_of_fits h⟩⟩, ?_, ?_, ?_⟩
  · rintro ⟨after, hafter⟩
    exact fits_of_apply hafter
  · intro after hafter
    obtain rfl := Except.ok.inj (hafter.symm.trans (apply_of_fits (fits_of_apply hafter)))
    rw [String.toList_ofList, Document.toText, Text.join_text_eq_intercalate]
  · rintro (⟨file, first, last, size⟩ | ⟨file, line⟩) _ <;> rfl
  · intro changes' hperm
    by_cases hfits : Fits d.lines.length changes
    · rw [apply_of_fits hfits, apply_of_fits (hfits.perm hperm), rewritten_perm hfits hperm]
    · obtain ⟨fault, hfault⟩ := apply_of_not_fits hfits
      obtain ⟨fault', hfault'⟩ := apply_of_not_fits fun hfits' => hfits (hfits'.perm hperm.symm)
      rw [hfault, hfault']
      rfl

/-- Two new lines get the line ending of the file between them and an empty text leaves no line,
whichever change is given first; a third change that meets the first one is refused. -/
theorem apply_rewrites_three_lines :
    let c : Change := ⟨"a.txt", 1, 1, "", "x\r\ny"⟩
    let d : Change := ⟨"a.txt", 3, 3, "", ""⟩
    apply "a\nb\nc\n" [c, d] = .ok "x\ny\nb\n" ∧ apply "a\nb\nc\n" [d, c] = .ok "x\ny\nb\n" ∧
      ¬∃ after, apply "a\nb\nc\n" [c, d, c] = .ok after := by
  intro c d
  obtain ⟨_, _, hfits, hresult, _, hperm⟩ := apply_rewrites_iff_fits "a\nb\nc\n" [c, d]
  obtain ⟨after, hafter⟩ := hfits.mpr ⟨by decide +kernel, by decide⟩
  have htext : after = "x\ny\nb\n" :=
    String.toList_injective ((hresult after hafter).trans (by decide +kernel))
  have hturned := hperm [d, c] (.swap d c [])
  rw [hafter, htext] at hturned
  refine ⟨by rw [hafter, htext], ?_, fun hmeets => ?_⟩
  · cases hcase : apply "a\nb\nc\n" [d, c] with
    | error fault =>
        rw [hcase] at hturned
        cases hturned
    | ok other =>
        rw [hcase] at hturned
        rw [Option.some.inj hturned]
  · have hapart := ((apply_rewrites_iff_fits "a\nb\nc\n" [c, d, c]).2.2.1.mp hmeets).apart
    exact absurd hapart (by decide)

end Mender.Edit
