import Mathlib.Data.List.Basic
import Mender.Learning.Store
import Mender.Strategy.Registry

/-!
# What is kept of feedback

A list of a learning store that grows past its cap is cut to its latest entries, and the last of
them is always kept: an error that was just learned is known. The strategies and the messages of
known errors are two indices of the same entries, and what is done to both does the same to the
entries (`LearnedEntry.index_enter`, `LearnedEntry.index_cut`). A try that is recorded for a
strategy changes the record of that strategy and of no other.
-/

namespace Mender

namespace SignatureIndex

/-- What was just entered is found. -/
theorem get_enter (index : SignatureIndex) (signature value : String) :
    (index.enter signature value).get? signature = some value := by
  have hothers : (index.filter (·.1 ≠ signature)).find? (·.1 = signature) = none :=
    List.find?_eq_none.mpr fun e he => by simpa using (List.mem_filter.mp he).2
  rw [get?, enter, List.find?_append, hothers]
  simp

/-- A part of an index says of its signatures what the index does. -/
theorem get_restrict (index : SignatureIndex) {signature : String} {signatures : List String}
    (h : signature ∈ signatures) :
    (index.restrict signatures).get? signature = index.get? signature := by
  rw [get?, get?, restrict]
  congr 1
  cases hfound : index.find? (·.1 = signature) with
  | none =>
      refine List.find?_eq_none.mpr fun e he => ?_
      obtain ⟨_, _, hsome⟩ := List.mem_filterMap.mp he
      exact List.find?_eq_none.mp hfound e (List.mem_of_find?_eq_some hsome)
  | some e =>
      induction signatures with
      | nil => cases h
      | cons first others ih =>
          rw [List.filterMap_cons]
          by_cases hfirst : first = signature
          · have hkey : e.1 = signature := by simpa using List.find?_some hfound
            simp only [hfirst, hfound]
            rw [List.find?_cons_of_pos (by simp [hkey])]
          · have hothers := ih (by simpa [Ne.symm hfirst] using h)
            split
            · exact hothers
            · rename_i other hother
              have hkey : other.1 = first := by simpa using List.find?_some hother
              rwa [List.find?_cons_of_neg (by simp [hkey, hfirst])]

end SignatureIndex

namespace LearnedEntry

open LearningStore

/-- The index of a value of entries. -/
def index (value : LearnedEntry → String) (entries : List LearnedEntry) : SignatureIndex :=
  entries.map fun e => (e.signature, value e)

/-- The entries once a further one is learned, which takes the place of what its signature had
before. -/
def learn (entries : List LearnedEntry) (e : LearnedEntry) : List LearnedEntry :=
  entries.filter (·.signature ≠ e.signature) ++ [e]

variable {entries kept : List LearnedEntry} {value : LearnedEntry → String} {e : LearnedEntry}

@[simp] theorem index_signatures (value : LearnedEntry → String) (entries : List LearnedEntry) :
    (index value entries).signatures = entries.map (·.signature) := by
  simp [SignatureIndex.signatures, index]

theorem index_enter (value : LearnedEntry → String) (entries : List LearnedEntry)
    (e : LearnedEntry) :
    (index value entries).enter e.signature (value e) = index value (learn entries e) := by
  rw [SignatureIndex.enter, index, index, learn, List.filter_map, List.map_append]
  rfl

/-- Entries of other signatures stay where they are. -/
theorem learn_other {older newer : List LearnedEntry} {new : LearnedEntry}
    (h : e.signature ≠ new.signature) :
    learn (older ++ e :: newer) new =
      older.filter (·.signature ≠ new.signature) ++ e :: learn newer new := by
  rw [learn, List.filter_append, List.filter_cons_of_pos (by simpa using h), List.append_assoc]
  rfl

theorem learn_signatures (entries : List LearnedEntry) (e : LearnedEntry) :
    (learn entries e).map (·.signature) ⊆ entries.map (·.signature) ++ [e.signature] := by
  rw [learn, List.map_append]
  exact List.append_subset.mpr
    ⟨fun _ h => List.mem_append_left _ (List.map_subset _ (List.filter_subset_self _) h),
      List.subset_append_right _ _⟩

/-- Each signature stands for one entry. -/
def Distinct (entries : List LearnedEntry) : Prop :=
  (entries.map (·.signature)).Nodup

theorem Distinct.learn (h : Distinct entries) (e : LearnedEntry) : Distinct (learn entries e) := by
  have hothers : Distinct (entries.filter (·.signature ≠ e.signature)) :=
    List.Nodup.sublist (List.filter_sublist.map _) h
  rw [Distinct, LearnedEntry.learn, List.map_append, List.nodup_append]
  refine ⟨hothers, by simp, fun signature hmem last hlast => ?_⟩
  obtain ⟨other, hother, rfl⟩ := List.mem_map.mp hmem
  obtain rfl := List.mem_singleton.mp hlast
  simpa using (List.mem_filter.mp hother).2

/-- No more than one entry makes room for the further one. -/
theorem Distinct.length_le_learn (h : Distinct entries) (e : LearnedEntry) :
    entries.length ≤ (LearnedEntry.learn entries e).length := by
  have hone : (entries.filter (·.signature = e.signature)).length ≤ 1 := by
    have hcount := List.nodup_iff_count.mp h e.signature
    rwa [List.count, List.countP_map, List.countP_eq_length_filter] at hcount
  have hsplit := List.length_eq_length_filter_add (l := entries) (·.signature = e.signature)
  have hothers : entries.filter (fun x => !decide (x.signature = e.signature)) =
      entries.filter (·.signature ≠ e.signature) :=
    List.filter_congr fun x _ => decide_not.symm
  rw [hothers] at hsplit
  rw [LearnedEntry.learn, List.length_append, List.length_singleton]
  omega

theorem Distinct.sublist (h : Distinct entries) (hkept : kept.Sublist entries) : Distinct kept :=
  List.Nodup.sublist (hkept.map _) h

/-- An entry is found by its signature. -/
theorem find_index (h : Distinct entries) (he : e ∈ entries) :
    (index value entries).find? (·.1 = e.signature) = some (e.signature, value e) := by
  induction entries with
  | nil => cases he
  | cons first others ih =>
      obtain ⟨hfirst, hothers⟩ := List.nodup_cons.mp h
      rw [index, List.map_cons]
      rcases List.mem_cons.mp he with rfl | hmem
      · rw [List.find?_cons_of_pos (by simp)]
      · have hne : first.signature ≠ e.signature := fun heq =>
          hfirst (List.mem_map.mpr ⟨e, hmem, heq.symm⟩)
        rw [List.find?_cons_of_neg (by simpa using hne)]
        exact ih hothers hmem

theorem index_get (h : Distinct entries) (he : e ∈ entries) :
    (index value entries).get? e.signature = some (value e) := by
  rw [SignatureIndex.get?, find_index h he]
  rfl

/-- The part of an index that is about some of its entries is the index of these. -/
theorem index_restrict (h : Distinct entries) (hkept : kept ⊆ entries) :
    (index value entries).restrict (kept.map (·.signature)) = index value kept := by
  calc (index value entries).restrict (kept.map (·.signature))
      = kept.filterMap fun e => (index value entries).find? (·.1 = e.signature) :=
        List.filterMap_map
    _ = kept.filterMap fun e => some (e.signature, value e) :=
        List.filterMap_congr fun e he => find_index h (hkept he)
    _ = index value kept := congrFun List.filterMap_eq_map' kept

/-- To cut an index is to cut its entries. -/
theorem index_cut (h : Distinct entries) (limit : Int) :
    (index value entries).cut limit (entries.map (·.signature)) =
      index value (capped limit entries) := by
  unfold SignatureIndex.cut capped
  rw [List.length_map]
  split
  · have hlatest : onwards (-(limit / 2)) (entries.map (·.signature)) =
        (onwards (-(limit / 2)) entries).map (·.signature) := by
      rw [onwards, onwards, List.length_map, List.map_drop]
    have hsubset : onwards (-(limit / 2)) entries ⊆ entries := List.drop_subset _ _
    rw [hlatest, index_restrict h hsubset]
  · rfl

end LearnedEntry

/-- The entry of a rejected candidate in the history of failures. -/
def failureEntry (f : Fault) (p : Patch) : String × String :=
  (Signature.ofMessage f.message, p.strategy)

namespace LearningStore

section Capped

variable {α : Type} {limit : Int} {items new : List α}

theorem capped_suffix (limit : Int) (items : List α) : capped limit items <:+ items := by
  unfold capped
  split
  · exact List.drop_suffix _ _
  · exact List.suffix_refl _

theorem capped_of_fits (h : items.length ≤ limit) : capped limit items = items := by
  rw [capped, if_neg (by omega)]

/-- An entry at the end outlives the cut. -/
theorem capped_concat (hlimit : 0 ≤ limit) (items : List α) (x : α) :
    ∃ kept, kept <:+ items ∧ capped limit (items ++ [x]) = kept ++ [x] := by
  unfold capped
  split
  · -- the place is counted from the end, or is the start when half of the cap is nothing
    have hplace : place (items ++ [x]).length (-(limit / 2)) ≤ items.length := by
      rw [place, List.length_append, List.length_singleton]
      split <;> omega
    exact ⟨_, List.drop_suffix _ items, List.drop_append_of_le_length hplace⟩
  · exact ⟨items, List.suffix_refl _, rfl⟩

/-- Entries one after another at the end of a list that is cut each time it grows past a limit. -/
def entered (limit : Int) (items new : List α) : List α :=
  new.foldl (fun items x => capped limit (items ++ [x])) items

theorem entered_suffix (limit : Int) (items new : List α) :
    entered limit items new <:+ items ++ new := by
  induction new generalizing items with
  | nil => simp [entered]
  | cons x new ih =>
      obtain ⟨dropped, hcut⟩ := capped_suffix limit (items ++ [x])
      refine (ih (capped limit (items ++ [x]))).trans ⟨dropped, ?_⟩
      rw [← List.append_assoc, hcut, List.append_assoc, List.singleton_append]

/-- Entries that fit are all kept. -/
theorem entered_of_fits (h : (items.length + new.length : Nat) ≤ limit) :
    entered limit items new = items ++ new := by
  induction new generalizing items with
  | nil => simp [entered]
  | cons x new ih =>
      rw [List.length_cons] at h
      rw [entered, List.foldl_cons, ← entered, capped_of_fits (by simp; omega),
        ih (by simp; omega), List.append_assoc, List.singleton_append]

/-- What was just entered is found in an index that is cut. -/
theorem get_cut_enter (hlimit : 0 ≤ limit) (index : SignatureIndex) (signature value : String) :
    ((index.enter signature value).cut limit (index.enter signature value).signatures).get?
      signature = some value := by
  have hfound := SignatureIndex.get_enter index signature value
  have hlast : (index.enter signature value).signatures =
      (index.filter (·.1 ≠ signature)).map (·.1) ++ [signature] := by
    rw [SignatureIndex.signatures, SignatureIndex.enter, List.map_append]
    rfl
  obtain ⟨kept, _, hkept⟩ := capped_concat hlimit ((index.filter (·.1 ≠ signature)).map (·.1))
    signature
  rw [← hlast, capped] at hkept
  unfold SignatureIndex.cut
  split at hkept
  · rename_i hgrown
    rw [if_pos hgrown, SignatureIndex.get_restrict _ (by simp [hkept]), hfound]
  · rename_i hfits
    rw [if_neg hfits, hfound]

end Capped

/-- An error whose fix was just recorded is known by that fix. -/
theorem lookup_record_success {s : LearningStore} (hcap : 0 ≤ s.cap) (f : Fault) (p : Patch)
    (failed : List Patch) (codeContext : String) :
    (s.recordSuccess f p failed codeContext).lookup f.message = some p.strategy := by
  have hfound : (s.recordSuccess f p failed codeContext).strategies.get?
      (Signature.ofMessage f.message) = some p.strategy := get_cut_enter hcap _ _ _
  rw [lookup, hfound]

end LearningStore

namespace Registry

@[simp] theorem record_strategies (r : Registry) (id : String) (success : Bool) :
    (r.record id success).strategies = r.strategies :=
  rfl

/-- A try is counted for its strategy and for no other. -/
theorem tally_record (r : Registry) (id other : String) (success : Bool) :
    (r.record id success).tally other =
      if id = other then (r.tally other).add success else r.tally other := by
  simp only [tally, record]
  induction r.tallies with
  | nil => by_cases h : id = other <;> simp [addTally, h]
  | cons t ts ih =>
      by_cases hid : t.1 = id
      · by_cases h : id = other <;> simp [addTally, hid, h]
      · by_cases hother : t.1 = other
        · have hne : id ≠ other := fun h => hid (hother.trans h.symm)
          simp [addTally, hother, hne, hne.symm]
        · simpa [addTally, hid, hother] using ih

end Registry

end Mender
