import Mender.Pattern.Build

/-!
# What patterns read

`Reads p s t` says that a pattern can read a text from one spot to another, whichever of its ways it
prefers. The matcher takes no other way (`Pattern.reads_of_run`), so what all of them have in common
holds of every match. Matches are found where they start, one after another
(`Pattern.matches_ascend`).
-/

namespace Mender

/-- The spot behind some characters that are read. -/
def Spot.after (s : Spot) (taken rest : List Char) : Spot :=
  { s with
    previous := taken.getLast?.or s.previous, position := s.position + taken.length, rest }

namespace Pattern

/-- A pattern can read the text from one spot to another. -/
inductive Reads : Pattern → Spot → Spot → Prop
  | empty {s} : Reads empty s s
  | one {c s x rest} : s.rest = x :: rest → c x = true → Reads (one c) s (s.after [x] rest)
  | seq {p q s u t} : Reads p s u → Reads q u t → Reads (seq p q) s t
  | first {p q s t} : Reads p s t → Reads (alt p q) s t
  | second {p q s t} : Reads q s t → Reads (alt p q) s t
  | there {p s t} : Reads p s t → Reads (opt p) s t
  | missing {p s} : Reads (opt p) s s
  | many {c least s taken rest} : s.rest = taken ++ rest → (∀ x ∈ taken, c x = true) →
      least ≤ taken.length → Reads (many c least) s (s.after taken rest)
  | few {c least s taken rest} : s.rest = taken ++ rest → (∀ x ∈ taken, c x = true) →
      least ≤ taken.length → Reads (few c least) s (s.after taken rest)
  | group {index p s t} : Reads p s t → Reads (group index p) s
      { t with captures := ⟨index, s.rest, t.position - s.position⟩ :: t.captures }
  | textStart {s} : s.position = 0 → Reads textStart s s
  | textEnd {s} : s.rest = [] ∨ s.rest = ['\n'] → Reads textEnd s s
  | lineStart {s} : s.previous.all (· == '\n') = true → Reads lineStart s s
  | lineEnd {s} : s.rest.head?.all (· == '\n') = true → Reads lineEnd s s
  | wordEdge {s} : atWordEdge s = true → Reads wordEdge s s
  | notNext {c s} : s.rest.head?.any c = false → Reads (notNext c) s s
  | notAfter {c s} : s.previous.any c = false → Reads (notAfter c) s s

section Sequences

variable {s t : Spot}

theorem reads_concat_cons {p : Pattern} {ps : List Pattern} (h : Reads (concat (p :: ps)) s t) :
    ∃ u, Reads p s u ∧ Reads (concat ps) u t := by
  cases h with
  | seq hfirst hothers => exact ⟨_, hfirst, hothers⟩

/-- A fixed text is read where it stands. -/
theorem reads_text {w : String} (h : Reads (text w) s t) : s.rest = w.toList ++ t.rest := by
  rw [text] at h
  generalize w.toList = cs at h
  induction cs generalizing s with
  | nil =>
      cases h
      rfl
  | cons c cs ih =>
      obtain ⟨u, hfirst, hothers⟩ := reads_concat_cons h
      cases hfirst with
      | one hrest hc => rw [hrest, eq_of_beq hc, List.cons_append, ← ih hothers]; rfl

end Sequences

section Captures

variable {p : Pattern} {s t : Spot}

/-- What is read stands in front of what is left. -/
theorem reads_taken (h : Reads p s t) :
    ∃ taken, s.rest = taken ++ t.rest ∧ t.position = s.position + taken.length := by
  induction h with
  | one hrest => exact ⟨[_], hrest, rfl⟩
  | seq _ _ ihp ihq =>
      obtain ⟨first, hfirst, hposition⟩ := ihp
      obtain ⟨second, hsecond, hposition'⟩ := ihq
      refine ⟨first ++ second, by rw [hfirst, hsecond, List.append_assoc], ?_⟩
      rw [hposition', hposition, List.length_append, Nat.add_assoc]
  | first _ ih | second _ ih | there _ ih | group _ ih => exact ih
  | many hrest | few hrest => exact ⟨_, hrest, rfl⟩
  | empty | missing | textStart | textEnd | lineStart | lineEnd | wordEdge | notNext | notAfter =>
      exact ⟨[], rfl, rfl⟩

/-- What a pattern remembers is parts of the text, by the indices of its groups. -/
theorem reads_captures (h : Reads p s t) :
    ∃ new, t.captures = new ++ s.captures ∧
      ∀ c ∈ new, c.index ∈ p.groupIndices ∧ c.source.take c.length <:+: s.rest := by
  induction h with
  | seq hp _ ihp ihq =>
      obtain ⟨first, hfirst, hall⟩ := ihp
      obtain ⟨second, hsecond, hall'⟩ := ihq
      -- the second part is read behind what the first one took
      obtain ⟨taken, htaken, _⟩ := reads_taken hp
      refine ⟨second ++ first, by rw [hsecond, hfirst, List.append_assoc], fun c hc => ?_⟩
      rcases List.mem_append.mp hc with hc | hc
      · obtain ⟨hindex, hinfix⟩ := hall' c hc
        refine ⟨List.mem_append_right _ hindex, ?_⟩
        rw [htaken]
        exact hinfix.trans (List.suffix_append _ _).isInfix
      · obtain ⟨hindex, hinfix⟩ := hall c hc
        exact ⟨List.mem_append_left _ hindex, hinfix⟩
  | first _ ih =>
      obtain ⟨new, hnew, hall⟩ := ih
      exact ⟨new, hnew, fun c hc => ⟨List.mem_append_left _ (hall c hc).1, (hall c hc).2⟩⟩
  | second _ ih =>
      obtain ⟨new, hnew, hall⟩ := ih
      exact ⟨new, hnew, fun c hc => ⟨List.mem_append_right _ (hall c hc).1, (hall c hc).2⟩⟩
  | there _ ih => exact ih
  | @group index _ s t _ ih =>
      obtain ⟨new, hnew, hall⟩ := ih
      refine ⟨⟨index, s.rest, t.position - s.position⟩ :: new, by simp [hnew], ?_⟩
      refine List.forall_mem_cons.mpr ⟨⟨List.mem_cons_self, ?_⟩, fun c hc => ?_⟩
      · exact (List.take_prefix _ _).isInfix
      · exact ⟨List.mem_cons_of_mem _ (hall c hc).1, (hall c hc).2⟩
  | empty | one | missing | many | few | textStart | textEnd | lineStart | lineEnd | wordEdge
  | notNext | notAfter => exact ⟨[], rfl, by simp⟩

end Captures

section Runs

variable {β : Type} {c : CharClass} {b : β}

/-- A greedy repetition goes on from behind a run of its class. -/
theorem reads_of_run_many {k : Option Char → Nat → List Char → Option β} {least : Nat}
    {previous : Option Char} {position : Nat} {cs : List Char}
    (h : runMany c k least previous position cs = some b) :
    ∃ taken rest, cs = taken ++ rest ∧ (∀ x ∈ taken, c x = true) ∧ least ≤ taken.length ∧
      k (taken.getLast?.or previous) (position + taken.length) rest = some b := by
  induction cs generalizing least previous position with
  | nil =>
      rw [runMany, Option.ite_none_right_eq_some] at h
      exact ⟨[], [], rfl, by simp, Nat.le_of_eq h.1, h.2⟩
  | cons x xs ih =>
      by_cases hx : c x = true ∧ ∃ b', runMany c k (least - 1) (some x) (position + 1) xs = some b'
      · obtain ⟨hx, b', hmore⟩ := hx
        obtain rfl : b' = b := by simpa [runMany, hx, hmore] using h
        obtain ⟨taken, rest, rfl, hall, hleast, hk⟩ := ih hmore
        refine ⟨x :: taken, rest, rfl, List.forall_mem_cons.mpr ⟨hx, hall⟩, ?_, ?_⟩
        · rw [List.length_cons]
          omega
        · rwa [List.getLast?_cons, Option.some_or, List.length_cons, ← Nat.add_assoc,
            Nat.add_right_comm, ← Option.or_some]
      · -- no run from here on leads to an end, so the repetition stops here
        have hstop : least = 0 ∧ k previous position (x :: xs) = some b := by
          rw [not_and, not_exists] at hx
          cases hc : c x with
          | false => simpa [runMany, hc] using h
          | true =>
              have hnone := Option.eq_none_iff_forall_ne_some.mpr (hx hc)
              simpa [runMany, hc, hnone] using h
        exact ⟨[], x :: xs, rfl, by simp, Nat.le_of_eq hstop.1, hstop.2⟩

/-- So does a lazy one. -/
theorem reads_of_run_few {k : Option Char → Nat → List Char → Option β} {least : Nat}
    {previous : Option Char} {position : Nat} {cs : List Char}
    (h : runFew c k least previous position cs = some b) :
    ∃ taken rest, cs = taken ++ rest ∧ (∀ x ∈ taken, c x = true) ∧ least ≤ taken.length ∧
      k (taken.getLast?.or previous) (position + taken.length) rest = some b := by
  induction cs generalizing least previous position with
  | nil =>
      rw [runFew, Option.ite_none_right_eq_some] at h
      exact ⟨[], [], rfl, by simp, Nat.le_of_eq h.1, h.2⟩
  | cons x xs ih =>
      by_cases hstop : least = 0 ∧ ∃ b', k previous position (x :: xs) = some b'
      · obtain ⟨rfl, b', hk⟩ := hstop
        obtain rfl : b' = b := by simpa [runFew, hk] using h
        exact ⟨[], x :: xs, rfl, by simp, Nat.le_refl _, hk⟩
      · have hmore : c x = true ∧
            runFew c k (least - 1) (some x) (position + 1) xs = some b := by
          rw [not_and, not_exists] at hstop
          by_cases hleast : least = 0
          · have hnone := Option.eq_none_iff_forall_ne_some.mpr (hstop hleast)
            simpa [runFew, hleast, hnone] using h
          · simpa [runFew, hleast] using h
        obtain ⟨taken, rest, rfl, hall, hleast, hk⟩ := ih hmore.2
        refine ⟨x :: taken, rest, rfl, List.forall_mem_cons.mpr ⟨hmore.1, hall⟩, ?_, ?_⟩
        · rw [List.length_cons]
          omega
        · rwa [List.getLast?_cons, Option.some_or, List.length_cons, ← Nat.add_assoc,
            Nat.add_right_comm, ← Option.or_some]

/-- The matcher goes on from a spot that the pattern can read to. -/
theorem reads_of_run {p : Pattern} {s : Spot} {k : Spot → Option β} (h : p.run s k = some b) :
    ∃ t, Reads p s t ∧ k t = some b := by
  -- what comes after a part is in its continuation, so the induction is over all of these
  induction p generalizing s k b with
  | empty => exact ⟨s, .empty, h⟩
  | one c =>
      rw [run] at h
      split at h
      · cases h
      · rename_i x rest hrest
        rw [Option.ite_none_right_eq_some] at h
        exact ⟨_, .one hrest h.1, h.2⟩
  | seq p q ihp ihq =>
      obtain ⟨u, hu, hrun⟩ := ihp h
      obtain ⟨t, ht, hk⟩ := ihq hrun
      exact ⟨t, .seq hu ht, hk⟩
  | alt p q ihp ihq =>
      rw [run, Option.orElse_eq_or, Option.or_eq_some_iff] at h
      rcases h with hp | ⟨_, hq⟩
      · obtain ⟨t, ht, hk⟩ := ihp hp
        exact ⟨t, .first ht, hk⟩
      · obtain ⟨t, ht, hk⟩ := ihq hq
        exact ⟨t, .second ht, hk⟩
  | opt p ih =>
      rw [run, Option.orElse_eq_or, Option.or_eq_some_iff] at h
      rcases h with hp | ⟨_, hk⟩
      · obtain ⟨t, ht, hk⟩ := ih hp
        exact ⟨t, .there ht, hk⟩
      · exact ⟨s, .missing, hk⟩
  | many c least =>
      obtain ⟨taken, rest, hrest, hall, hleast, hk⟩ := reads_of_run_many h
      exact ⟨_, .many hrest hall hleast, hk⟩
  | few c least =>
      obtain ⟨taken, rest, hrest, hall, hleast, hk⟩ := reads_of_run_few h
      exact ⟨_, .few hrest hall hleast, hk⟩
  | group index p ih =>
      obtain ⟨t, ht, hk⟩ := ih h
      exact ⟨_, .group ht, hk⟩
  | textStart =>
      rw [run, Option.ite_none_right_eq_some] at h
      exact ⟨s, .textStart h.1, h.2⟩
  | textEnd =>
      rw [run, Option.ite_none_right_eq_some] at h
      exact ⟨s, .textEnd h.1, h.2⟩
  | lineStart =>
      rw [run, Option.ite_none_right_eq_some] at h
      exact ⟨s, .lineStart h.1, h.2⟩
  | lineEnd =>
      rw [run, Option.ite_none_right_eq_some] at h
      exact ⟨s, .lineEnd h.1, h.2⟩
  | wordEdge =>
      rw [run, Option.ite_none_right_eq_some] at h
      exact ⟨s, .wordEdge h.1, h.2⟩
  | notNext c =>
      rw [run, Option.ite_none_left_eq_some] at h
      exact ⟨s, .notNext (Bool.eq_false_iff.mpr h.1), h.2⟩
  | notAfter c =>
      rw [run, Option.ite_none_left_eq_some] at h
      exact ⟨s, .notAfter (Bool.eq_false_iff.mpr h.1), h.2⟩

end Runs

section Found

variable {p : Pattern} {m : Match} {previous : Option Char} {position : Nat} {cs : List Char}

/-- A match tells of a way to read the pattern. -/
theorem reads_of_match {s : Spot} (h : p.matchHere s = some m) :
    ∃ t, Reads p s t ∧ m.start = s.position ∧ m.groups = t.captures.map Capture.text := by
  obtain ⟨t, ht, hm⟩ := reads_of_run h
  cases hm
  exact ⟨t, ht, rfl, rfl⟩

/-- A match in a text, of which the characters before it are known, is the one at the place where it
starts. -/
structure StandsIn (p : Pattern) (m : Match) (previous : Option Char) (position : Nat)
    (before after : List Char) : Prop where
  start : m.start = position + before.length
  found : p.matchHere ⟨before.getLast?.or previous, m.start, after, []⟩ = some m

theorem StandsIn.here (h : p.matchHere ⟨previous, position, cs, []⟩ = some m) :
    StandsIn p m previous position [] cs := by
  obtain ⟨_, _, hstart, _⟩ := reads_of_match h
  exact ⟨hstart, hstart ▸ h⟩

theorem StandsIn.later {c : Char} {before after : List Char}
    (h : StandsIn p m (some c) (position + 1) before after) :
    StandsIn p m previous position (c :: before) after := by
  refine ⟨?_, ?_⟩
  · rw [h.start, List.length_cons]
    omega
  · rw [List.getLast?_cons, Option.some_or, ← Option.or_some]
    exact h.found

/-- Every match that is found is somewhere in the text. -/
theorem stands_of_mem_matches {skip : Nat} (h : m ∈ p.matchesFrom skip previous position cs) :
    ∃ before after, cs = before ++ after ∧ StandsIn p m previous position before after := by
  induction cs generalizing skip previous position with
  | nil =>
      rw [matchesFrom] at h
      split at h
      · exact ⟨[], [], rfl, .here (Option.mem_toList.mp h)⟩
      · cases h
  | cons c cs ih =>
      have hlater : ∀ {skip}, m ∈ p.matchesFrom skip (some c) (position + 1) cs →
          ∃ before after, c :: cs = before ++ after ∧
            StandsIn p m previous position before after := fun h => by
        obtain ⟨before, after, rfl, hstands⟩ := ih h
        exact ⟨c :: before, after, rfl, hstands.later⟩
      rw [matchesFrom.eq_def] at h
      dsimp only at h
      split at h
      · exact hlater h
      split at h
      · exact hlater h
      · rename_i m' hm'
        rcases List.mem_cons.mp h with rfl | h
        · exact ⟨[], c :: cs, rfl, .here hm'⟩
        · exact hlater h

/-- So is the first match. -/
theorem stands_of_search_from (h : p.searchFrom previous position cs = some m) :
    ∃ before after, cs = before ++ after ∧ StandsIn p m previous position before after := by
  induction cs generalizing previous position with
  | nil => exact ⟨[], [], rfl, .here h⟩
  | cons c cs ih =>
      rw [searchFrom, Option.orElse_eq_or, Option.or_eq_some_iff] at h
      rcases h with h | ⟨_, h⟩
      · exact ⟨[], c :: cs, rfl, .here h⟩
      · obtain ⟨before, after, rfl, hstands⟩ := ih h
        exact ⟨c :: before, after, rfl, hstands.later⟩

/-- A group of a match is a part of the text. -/
theorem StandsIn.group_part {before after : List Char} {index : Nat} {text : String}
    (h : StandsIn p m previous position before after) (hgroup : m.group? index = some text) :
    text.toList <:+: after := by
  obtain ⟨t, ht, _, hgroups⟩ := reads_of_match h.found
  obtain ⟨new, hnew, hall⟩ := reads_captures ht
  rw [Match.group?, Option.map_eq_some_iff] at hgroup
  obtain ⟨found, hfound, rfl⟩ := hgroup
  have hmem := List.mem_of_find?_eq_some hfound
  rw [hgroups, hnew, List.append_nil] at hmem
  obtain ⟨c, hc, rfl⟩ := List.mem_map.mp hmem
  rw [Capture.text, String.toList_ofList]
  exact (hall c hc).2

/-- Matches are found one after another. -/
theorem matches_ascend (skip : Nat) (previous : Option Char) (position : Nat) (cs : List Char) :
    (p.matchesFrom skip previous position cs).Pairwise fun m n => m.start < n.start := by
  induction cs generalizing skip previous position with
  | nil =>
      rw [matchesFrom]
      split
      · cases p.matchHere ⟨previous, position, [], []⟩ <;> simp
      · exact .nil
  | cons c cs ih =>
      rw [matchesFrom.eq_def]
      dsimp only
      split
      · exact ih _ _ _
      split
      · exact ih _ _ _
      · rename_i m hm
        refine .cons (fun n hn => ?_) (ih _ _ _)
        obtain ⟨_, _, _, hlater⟩ := stands_of_mem_matches hn
        rw [(StandsIn.here hm).start, hlater.start, List.length_nil]
        omega

end Found

end Pattern

end Mender
