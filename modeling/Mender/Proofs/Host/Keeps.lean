import Mathlib.Order.Defs.Unbundled
import Mender.Host.Collaborators

/-!
# What stateful computations keep

`Keeps R x` says that every run of `x` leads from a state to one that the relation `R` allows, and
`Yields R Q x` that it also answers with a value for which `Q` holds. A relation that is kept by
each call of a collaborator is kept by whatever is put together from such calls: the lemmas here say
so for the functions that every stage of a repair uses. `Answers I Q x` is for answers that depend
on what the state holds: it says `Q` of them for runs from the states with `I`, which they do not
leave. `Surrounds R S` says that steps of `S` may have steps of `R` around them, which is how a
bound on a single call becomes one on the computation that makes it.
-/

namespace Mender

variable {σ α β : Type}

/-- Running one computation after another. -/
theorem run_bind (x : StateM σ α) (f : α → StateM σ β) (s : σ) :
    (x >>= f) s = f (x s).1 (x s).2 :=
  rfl

/-- Running a computation that only answers. -/
theorem run_pure (a : α) (s : σ) : (pure a : StateM σ α) s = (a, s) :=
  rfl

/-- Every run of a computation leads to a state that the relation allows. -/
def Keeps (R : σ → σ → Prop) (x : StateM σ α) : Prop :=
  ∀ s, R s (x s).2

/-- Every run of a computation leads to a state that the relation allows, and answers with a value
that has the property. -/
def Yields (R : σ → σ → Prop) (Q : α → Prop) (x : StateM σ α) : Prop :=
  ∀ s, R s (x s).2 ∧ Q (x s).1

/-- From a state with a property every run of a computation leads to such a state, and answers with
a value that has another. -/
def Answers (I : σ → Prop) (Q : α → Prop) (x : StateM σ α) : Prop :=
  ∀ s, I s → I (x s).2 ∧ Q (x s).1

section Answers

variable {I : σ → Prop} {P : α → Prop} {Q : β → Prop}

theorem Answers.pure {a : α} (h : P a) : Answers I P (pure a : StateM σ α) :=
  fun _ hs => ⟨hs, h⟩

theorem Answers.bind {x : StateM σ α} {f : α → StateM σ β} (hx : Answers I P x)
    (hf : ∀ a, P a → Answers I Q (f a)) : Answers I Q (x >>= f) :=
  fun s hs => hf _ (hx s hs).2 _ (hx s hs).1

end Answers

section Steps

variable {R : σ → σ → Prop}

theorem Keeps.pure [Std.Refl R] (a : α) : Keeps R (pure a : StateM σ α) :=
  fun s => Std.Refl.refl s

theorem Keeps.bind [IsTrans σ R] {x : StateM σ α} {f : α → StateM σ β}
    (hx : Keeps R x) (hf : ∀ a, Keeps R (f a)) : Keeps R (x >>= f) :=
  fun s => IsTrans.trans _ _ _ (hx s) (hf (x s).1 (x s).2)

/-- Steps of one relation may come before and after those of another, or in their place. -/
structure Surrounds (R S : σ → σ → Prop) : Prop where
  alone : ∀ {s s'}, R s s' → S s s'
  before : ∀ {s s₁ s'}, R s s₁ → S s₁ s' → S s s'
  after : ∀ {s s₁ s'}, S s s₁ → R s₁ s' → S s s'

theorem Surrounds.self [IsTrans σ R] : Surrounds R R :=
  ⟨id, IsTrans.trans _ _ _, IsTrans.trans _ _ _⟩

/-- Any two states stand so. -/
def Anyhow (_ _ : σ) : Prop :=
  True

instance : IsPreorder σ Anyhow where
  refl _ := trivial
  trans _ _ _ _ _ := trivial

theorem Keeps.anyhow (x : StateM σ α) : Keeps Anyhow x :=
  fun _ => trivial

theorem Keeps.bind_before {S : σ → σ → Prop} (h : Surrounds R S) {x : StateM σ α}
    {f : α → StateM σ β} (hx : Keeps R x) (hf : ∀ a, Keeps S (f a)) : Keeps S (x >>= f) :=
  fun s => h.before (hx s) (hf (x s).1 (x s).2)

theorem Keeps.bind_after {S : σ → σ → Prop} (h : Surrounds R S) {x : StateM σ α}
    {f : α → StateM σ β} (hx : Keeps S x) (hf : ∀ a, Keeps R (f a)) : Keeps S (x >>= f) :=
  fun s => h.after (hx s) (hf (x s).1 (x s).2)

/-- What keeps a relation stays in the states that the relation does not lead out of. -/
theorem Keeps.answers {I : σ → Prop} {x : StateM σ α} (hx : Keeps R x)
    (hstay : ∀ s s', R s s' → I s → I s') : Answers I (fun _ => True) x :=
  fun s hs => ⟨hstay _ _ (hx s) hs, trivial⟩

variable {P : α → Prop} {Q : β → Prop}

/-- To keep a relation is to stay, wherever one starts, among the states that it leads to. -/
theorem yields_iff_answers [IsPreorder σ R] {x : StateM σ α} :
    Yields R P x ↔ ∀ s₀, Answers (R s₀) P x :=
  ⟨fun h _ s hs => ⟨IsTrans.trans _ _ _ hs (h s).1, (h s).2⟩, fun h s => h s s (Std.Refl.refl s)⟩

theorem Yields.pure [Std.Refl R] {a : α} (h : P a) : Yields R P (pure a : StateM σ α) :=
  fun s => ⟨Std.Refl.refl s, h⟩

/-- The answer of a sequence is that of its last computation. -/
theorem Yields.bind [IsTrans σ R] {x : StateM σ α} {f : α → StateM σ β} (hx : Keeps R x)
    (hf : ∀ a, Yields R Q (f a)) : Yields R Q (x >>= f) :=
  fun s => ⟨IsTrans.trans _ _ _ (hx s) (hf _ _).1, (hf _ _).2⟩

/-- A time limit changes the answer of a call, not what the call does, and a value is answered as it
is. -/
theorem bounded_eq (limit : Option Float) (late : Float → Failure) (call : StateM σ (Reply α))
    (s : σ) :
    (∃ a, (call s).1 = .value a ∧ bounded limit late call s = (.ok a, (call s).2)) ∨
      (∀ a, (call s).1 ≠ .value a) ∧ ∃ f, bounded limit late call s = (.error f, (call s).2) := by
  rw [bounded, run_bind]
  rcases call s with ⟨a | f | _, s'⟩
  · exact .inl ⟨a, rfl, rfl⟩
  · refine .inr ⟨by simp, ?_⟩
    cases limitInForce limit with
    | none => exact ⟨f, rfl⟩
    | some seconds => exact ⟨_, rfl⟩
  · refine .inr ⟨by simp, ?_⟩
    cases limitInForce limit <;> exact ⟨_, rfl⟩

theorem bounded_keeps (limit : Option Float) (late : Float → Failure) {call : StateM σ (Reply α)}
    (hcall : Keeps R call) : Keeps R (bounded limit late call) := by
  intro s
  obtain ⟨_, _, hrun⟩ | ⟨_, _, hrun⟩ := bounded_eq limit late call s <;>
    exact hrun ▸ hcall s

end Steps

namespace Host

variable (R : σ → σ → Prop) (h : Host (StateM σ))

/-- Reading a file keeps the relation. -/
def Reads : Prop :=
  ∀ read ∈ h.read?, ∀ path, Keeps R (read path)

/-- Writing a file keeps the relation. -/
def Writes : Prop :=
  ∀ write ∈ h.write?, ∀ path text, Keeps R (write path text)

/-- Running the tests keeps the relation. -/
def Runs : Prop :=
  ∀ tests ∈ h.tests?, Keeps R tests

/-- Asking the model keeps the relation. -/
def Asks : Prop :=
  ∀ model ∈ h.model?, ∀ request, Keeps R (model request)

/-- Telling that files were put back keeps the relation. -/
def TellsRollback : Prop :=
  ∀ files, Keeps R (h.notify (.rollback files))

end Host

variable {R : σ → σ → Prop} [IsPreorder σ R]

theorem Host.readable_keeps {h : Host (StateM σ)} (hread : h.Reads R) (path : String) :
    Keeps R (h.readable path) := by
  unfold Host.readable
  cases hr : h.read? with
  | none => exact .pure _
  | some read =>
      refine .bind (hread read hr path) fun answer => ?_
      cases answer with
      | ok text => exact .pure _
      | error f => exact .pure _

end Mender
