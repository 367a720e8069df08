import Mathlib.Data.List.Forall2
import Mender.Failure

/-!
# Computations that may fail

Of computations one after another each has to give a result (`bind_eq_ok`), and so has the function
at every element of a list that is traversed (`mapM_eq_ok_iff`). What a computation gives, if it
gives anything, is said by `Gives`.
-/

namespace Mender

/-- A sequence that may fail gives a result when both of its parts do. -/
theorem bind_eq_ok {ε α β : Type} {x : Except ε α} {f : α → Except ε β} {b : β}
    (h : x >>= f = .ok b) : ∃ a, x = .ok a ∧ f a = .ok b := by
  cases x with
  | error e => cases h
  | ok a => exact ⟨a, rfl, h⟩

theorem map_eq_ok {ε α β : Type} {x : Except ε α} {f : α → β} {b : β} (h : x.map f = .ok b) :
    ∃ a, x = .ok a ∧ f a = b := by
  cases x with
  | error e => cases h
  | ok a => exact ⟨a, rfl, Except.ok.inj h⟩

theorem map_eq_error {ε α β : Type} {x : Except ε α} {f : α → β} {e : ε}
    (h : x.map f = .error e) : x = .error e := by
  cases x with
  | error e' =>
      cases h
      rfl
  | ok a => cases h

theorem map_eq_bind {α β : Type} (x : Except Failure α) (g : α → β) :
    x.map g = x >>= fun a => pure (g a) := by
  cases x <;> rfl

theorem lift_number_eq_ok {α : Type} {x : Except NumberFault α} {a : α}
    (h : liftNumber x = .ok a) : x = .ok a := by
  cases x with
  | ok a' =>
      cases h
      rfl
  | error e => cases h

/-- Each element of a list that matches another one matches an element of that one. -/
theorem exists_of_forall₂ {α β : Type} {R : α → β → Prop} {xs : List α} {ys : List β}
    (h : List.Forall₂ R xs ys) {y : β} (hy : y ∈ ys) : ∃ x ∈ xs, R x y := by
  induction h with
  | nil => cases hy
  | cons hfirst _ ih =>
      rcases List.mem_cons.mp hy with rfl | hy
      · exact ⟨_, List.mem_cons_self, hfirst⟩
      · obtain ⟨x, hx, hmatch⟩ := ih hy
        exact ⟨x, List.mem_cons_of_mem _ hx, hmatch⟩

section Traversal

variable {α β γ ε : Type} {f : α → Except ε β} {xs : List α} {ys : List β}

/-- A traversal gives what the function gives at every element. -/
theorem mapM_eq_ok_iff : xs.mapM f = .ok ys ↔ xs.map f = ys.map .ok := by
  induction xs generalizing ys with
  | nil => simp [pure, Except.pure, eq_comm]
  | cons x xs ih =>
      rw [List.mapM_cons, List.map_cons, eq_comm (b := ys.map _), List.map_eq_cons_iff]
      constructor
      · intro h
        obtain ⟨y, hy, h⟩ := bind_eq_ok h
        obtain ⟨zs, hzs, h⟩ := bind_eq_ok h
        cases h
        exact ⟨y, zs, rfl, hy.symm, (ih.mp hzs).symm⟩
      · rintro ⟨y, zs, rfl, hy, hzs⟩
        rw [← hy, ih.mpr hzs.symm]
        rfl

/-- A traversal gives what the function gives at some element. -/
theorem mem_of_mapM (h : xs.mapM f = .ok ys) {y : β} : y ∈ ys ↔ ∃ x ∈ xs, f x = .ok y := by
  rw [← List.mem_map, mapM_eq_ok_iff.mp h, List.mem_map_of_injective fun _ _ => Except.ok.inj]

/-- A traversal gives as many results as there are elements, each that of its element. -/
theorem forall₂_of_mapM (h : xs.mapM f = .ok ys) : List.Forall₂ (fun x y => f x = .ok y) xs ys := by
  rw [← List.forall₂_map_right_iff (f := Except.ok), ← List.forall₂_map_left_iff (f := f),
    List.forall₂_eq_eq_eq]
  exact mapM_eq_ok_iff.mp h

/-- A traversal gives what is related to a list if the function does at every element. -/
theorem mapM_ok_of_forall₂ {R : β → γ → Prop} {zs : List γ}
    (h : List.Forall₂ (fun x z => ∃ y, f x = .ok y ∧ R y z) xs zs) :
    ∃ ys, xs.mapM f = .ok ys ∧ List.Forall₂ R ys zs := by
  induction h with
  | nil => exact ⟨[], rfl, .nil⟩
  | cons hx _ ih =>
      obtain ⟨y, hy, hyz⟩ := hx
      obtain ⟨ys, hys, hrel⟩ := ih
      refine ⟨y :: ys, ?_, .cons hyz hrel⟩
      rw [List.mapM_cons, hy, hys]
      rfl

/-- A traversal gives something when the function does at every element. -/
theorem mapM_returns_iff : (∃ ys, xs.mapM f = .ok ys) ↔ ∀ x ∈ xs, ∃ y, f x = .ok y := by
  constructor
  · rintro ⟨ys, hys⟩ x hx
    have hmem : f x ∈ ys.map .ok := mapM_eq_ok_iff.mp hys ▸ List.mem_map_of_mem hx
    obtain ⟨y, -, hy⟩ := List.mem_map.mp hmem
    exact ⟨y, hy.symm⟩
  · intro h
    induction xs with
    | nil => exact ⟨[], rfl⟩
    | cons x xs ih =>
        obtain ⟨⟨y, hy⟩, hothers⟩ := List.forall_mem_cons.mp h
        obtain ⟨ys, hys⟩ := ih hothers
        refine ⟨y :: ys, ?_⟩
        rw [List.mapM_cons, hy, hys]
        rfl

theorem mapM_ok_self {f : α → Except ε α} (h : ∀ x ∈ xs, f x = .ok x) : xs.mapM f = .ok xs :=
  mapM_eq_ok_iff.mpr (List.map_congr_left h)

/-- What a list is read as agrees with the list in whatever each element agrees in. -/
theorem map_of_map_m {p : β → γ} {q : α → γ} (hf : ∀ x y, f x = .ok y → p y = q x)
    (h : xs.mapM f = .ok ys) : ys.map p = xs.map q := by
  have hrel : List.Forall₂ (· = ·) (xs.map q) (ys.map p) :=
    List.forall₂_map_left_iff.mpr (List.forall₂_map_right_iff.mpr
      ((forall₂_of_mapM h).imp fun x y hxy => (hf x y hxy).symm))
  rw [List.forall₂_eq_eq_eq] at hrel
  exact hrel.symm

end Traversal

/-- What a computation that may fail gives has a property. -/
def Gives {ε α : Type} (P : α → Prop) (x : Except ε α) : Prop :=
  ∀ a, x = .ok a → P a

namespace Gives

variable {ε α β : Type} {P : α → Prop} {Q : β → Prop}

theorem pure {a : α} (h : P a) : Gives P (pure a : Except ε α) := by
  rintro _ ⟨⟩
  exact h

theorem bind {x : Except ε α} {f : α → Except ε β} (hx : Gives P x)
    (hf : ∀ a, P a → Gives Q (f a)) : Gives Q (x >>= f) := fun b h => by
  obtain ⟨a, ha, hb⟩ := bind_eq_ok h
  exact hf a (hx a ha) b hb

theorem any (x : Except ε α) : Gives (fun _ => True) x :=
  fun _ _ => trivial

theorem mapM {f : α → Except ε β} {xs : List α} (h : ∀ x ∈ xs, Gives Q (f x)) :
    Gives (∀ y ∈ ·, Q y) (xs.mapM f) := by
  induction xs with
  | nil => exact .pure (by simp)
  | cons x xs ih =>
      obtain ⟨hfirst, hothers⟩ := List.forall_mem_cons.mp h
      rw [List.mapM_cons]
      exact .bind hfirst fun y hy => .bind (ih hothers) fun ys hys =>
        .pure (List.forall_mem_cons.mpr ⟨hy, hys⟩)

end Gives

end Mender
