import Mathlib.Data.List.Nodup

/-!
# Lists with keys

A list may serve as a table: its elements have keys, each key once, and an element that is put into
it takes the place of the one with its key.
-/

namespace Mender.Keyed

variable {α κ : Type} [DecidableEq κ] (key : α → κ)

/-- Puts an element in the place of the one with its key, or at the end. -/
def put (x : α) : List α → List α
  | [] => [x]
  | y :: ys => if key y = key x then x :: ys else y :: put x ys

/-- The element that has a key after a put is the one that was put, if it is its key. -/
theorem find_put (x : α) (k : κ) (xs : List α) :
    (put key x xs).find? (key · = k) = if key x = k then some x else xs.find? (key · = k) := by
  induction xs with
  | nil => by_cases hx : key x = k <;> simp [put, hx]
  | cons y ys ih =>
      by_cases hy : key y = key x
      · by_cases hx : key x = k <;> simp [put, hy, hx]
      · by_cases hk : key y = k
        · have hx : key x ≠ k := fun h => hy (hk.trans h.symm)
          simp [put, hx, hk, hx.symm]
        · simp [put, hy, hk, ih]

/-- A known key keeps its place, and a new one comes last. -/
theorem map_put (x : α) (xs : List α) :
    (put key x xs).map key =
      if key x ∈ xs.map key then xs.map key else xs.map key ++ [key x] := by
  induction xs with
  | nil => rfl
  | cons y ys ih =>
      by_cases hy : key y = key x
      · simp [put, hy]
      · have hx : key x ≠ key y := fun h => hy h.symm
        by_cases hmem : key x ∈ ys.map key
        · simp only [if_pos hmem] at ih
          simp [put, hy, hx, ih, hmem]
        · simp only [if_neg hmem] at ih
          simp [put, hy, hx, ih, hmem]

variable {key}

theorem nodup_put {xs : List α} (h : (xs.map key).Nodup) (x : α) :
    ((put key x xs).map key).Nodup := by
  rw [map_put]
  split
  · exact h
  · rename_i hnew
    exact List.nodup_append'.mpr ⟨h, List.nodup_singleton _, List.disjoint_singleton.mpr hnew⟩

/-- An element of a table is what its key finds. -/
theorem find_eq_some_iff {xs : List α} (h : (xs.map key).Nodup) {k : κ} {x : α} :
    xs.find? (key · = k) = some x ↔ x ∈ xs ∧ key x = k := by
  constructor
  · intro hfind
    exact ⟨List.mem_of_find?_eq_some hfind, by simpa using List.find?_some hfind⟩
  · rintro ⟨hx, rfl⟩
    cases hfind : xs.find? (key · = key x) with
    | none => simpa using List.find?_eq_none.mp hfind x hx
    | some y =>
        have hkey : key y = key x := by simpa using List.find?_some hfind
        rw [List.inj_on_of_nodup_map h (List.mem_of_find?_eq_some hfind) hx hkey]

/-- A list without the later occurrences of its members holds each of them once. -/
theorem nodup_erase_dups {α : Type} [BEq α] [LawfulBEq α] (xs : List α) : xs.eraseDups.Nodup := by
  match xs with
  | [] => simp
  | x :: rest =>
      rw [List.eraseDups_cons, List.nodup_cons]
      refine ⟨fun hmem => ?_, nodup_erase_dups _⟩
      simpa using (List.mem_filter.mp (List.mem_eraseDups.mp hmem)).2
termination_by xs.length
decreasing_by exact Nat.lt_succ_of_le (List.length_filter_le _ _)

end Mender.Keyed
