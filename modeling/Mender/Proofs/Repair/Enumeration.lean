import Mathlib.Algebra.GroupWithZero.Nat
import Mathlib.Algebra.Order.BigOperators.Group.List
import Mathlib.Algebra.Order.Group.Nat
import Mathlib.Data.List.Nodup
import Mender.Proofs.Repair.Budget

/-!
# Templates again and again

Candidates of strategies may be asked for again, with those made before as tried. Each call takes
something new from every strategy that has it, as far as the budget goes, so the calls come to an
end and have then made all that the fixes of the strategies make of the line, each once
(`Generate.repeated_enumerates`). What is left to make is what the induction is on.
-/

namespace Mender

namespace Template

variable {ctx : FixContext} {tried : List (String × String)} {ss : List Strategy} {budget : Nat}

/-- What identifies the candidates that strategies can make of a line. -/
def keys (ctx : FixContext) (ss : List Strategy) : List (String × String) :=
  ss.flatMap fun s => (options ctx s).map (s.id, ·)

/-- What identifies the candidates of one call, within a budget. -/
def taken (ctx : FixContext) (ss : List Strategy) (budget : Nat) (tried : List (String × String)) :
    List (String × String) :=
  ((untried ctx tried ss).take budget).map fun x => (x.1.id, x.2)

theorem mem_keys {key : String × String} :
    key ∈ keys ctx ss ↔ ∃ s ∈ ss, key.1 = s.id ∧ key.2 ∈ options ctx s := by
  simp only [keys, List.mem_flatMap, List.mem_map]
  constructor
  · rintro ⟨s, hs, new, hnew, rfl⟩
    exact ⟨s, hs, rfl, hnew⟩
  · rintro ⟨s, hs, hid, hnew⟩
    exact ⟨s, hs, key.2, hnew, Prod.ext hid.symm rfl⟩

theorem keys_length_le (ctx : FixContext) (ss : List Strategy) :
    (keys ctx ss).length ≤ (ss.map (·.fixes.length)).sum := by
  rw [keys, List.length_flatMap]
  refine List.sum_le_sum fun s _ => ?_
  rw [List.length_map]
  exact options_length_le ctx s

/-- What is taken is among what can be made, and was not tried. -/
theorem of_mem_taken {key : String × String} (h : key ∈ taken ctx ss budget tried) :
    key ∈ keys ctx ss ∧ key ∉ tried := by
  obtain ⟨x, hx, rfl⟩ := List.mem_map.mp h
  obtain ⟨hs, hnew⟩ := mem_untried.mp (List.mem_of_mem_take hx)
  exact ⟨mem_keys.mpr ⟨x.1, hs, rfl, mem_options_of_new_line hnew⟩, untried_of_new_line hnew⟩

/-- Each strategy is taken from once. -/
theorem taken_nodup (hids : (ss.map (·.id)).Nodup) : (taken ctx ss budget tried).Nodup := by
  have hfirst : (((untried ctx tried ss).map (·.1)).map (·.id)).Nodup :=
    hids.sublist ((untried_sublist ctx tried ss).map _)
  refine List.Nodup.of_map Prod.fst ?_
  rw [taken, List.map_map]
  rw [List.map_map] at hfirst
  exact hfirst.sublist ((List.take_sublist _ _).map _)

/-- Nothing is taken only when there is nothing left. -/
theorem tried_of_taken_nil (hbudget : 0 < budget) (h : taken ctx ss budget tried = []) :
    ∀ key ∈ keys ctx ss, key ∈ tried := by
  have hnone : untried ctx tried ss = [] := by
    rw [taken, List.map_eq_nil_iff, List.take_eq_nil_iff] at h
    exact h.resolve_left hbudget.ne'
  intro key hkey
  obtain ⟨s, hs, hid, hnew⟩ := mem_keys.mp hkey
  cases hline : newLine? ctx tried s with
  | none =>
      have htried := new_line_eq_none_iff.mp hline key.2 hnew
      rwa [← hid] at htried
  | some new =>
      have hmem : (s, new) ∈ untried ctx tried ss := mem_untried.mpr ⟨hs, hline⟩
      rw [hnone] at hmem
      cases hmem

end Template

namespace Generate

/-- Calls for candidates one after another, each told of all candidates before it, and what each of
them made. -/
def repeated {m : Type → Type} [Monad m] (config : RepairConfig) (host : Host m)
    (registry : Registry) (task : Task) :
    Nat → List (String × String) → m (Except Failure (List (List Patch)))
  | 0, _ => return .ok []
  | count + 1, tried => do
    match ← candidates config host registry { task with tried } with
    | .error e => return .error e
    | .ok pool =>
      return (← repeated config host registry task count (tried ++ pool.map Patch.key)).map
        (pool :: ·)

variable {E : Type} {c : Crew E} {config : RepairConfig} {registry : Registry} {task : Task}

/-- Candidates are asked of strategies alone, for a line that they always see. -/
structure StrategiesAlone (c : Crew E) (config : RepairConfig) (task : Task)
    (content line : String) : Prop where
  templates : config.useTemplates = true
  model : asks config c = false
  budget : 1 ≤ task.total config
  reads : ∀ s, (c.readFault task.fault.location.file s).1 = none
  line : Template.lineAt? content task.fault.location.line = some line

/-- A call makes what its strategies have left, as far as the budget goes. -/
theorem call_takes (hids : registry.ids.Nodup) {content line : String}
    (halone : StrategiesAlone c config task content line)
    (hpriority : ∀ st ∈ task.order registry, st.Weighed)
    (tried : List (String × String)) {s : Site E}
    (hfile : s.files task.fault.location.file = some content) :
    ∃ pool s', candidates config c.host registry { task with tried } s = (.ok pool, s') ∧
      s'.files = s.files ∧ pool.map Patch.key = Template.taken (task.fixContext line)
        (task.order registry) (task.total config).toNat tried := by
  have hmodel : model? config c.host = none := by
    obtain ⟨hmodel, _⟩ | ⟨_, _, hasks⟩ := model_crew config c
    · exact hmodel
    · rw [halone.model] at hasks
      cases hasks
  have hread : (c.read task.fault.location.file s).1 = .ok content := by
    rw [Crew.read]
    dsimp only
    rw [halone.reads s, hfile]
  have hpart : (templatePart config c registry { task with tried } s).1 =
      Template.candidates registry task.fault task.codeContext line (task.total config)
        task.learned tried := by
    rw [templatePart, if_pos halone.templates, Task.share, halone.model, if_neg (by simp)]
    exact templates_of_read (Int.lt_of_lt_of_le Int.zero_lt_one halone.budget) hread halone.line
  -- only a priority that counts for nothing could prevent candidates
  obtain ⟨pool, hpool⟩ : ∃ pool, Template.candidates registry task.fault task.codeContext line
      (task.total config) task.learned tried = .ok pool := by
    cases hmade : Template.candidates registry task.fault task.codeContext line
        (task.total config) task.learned tried with
    | ok pool => exact ⟨pool, rfl⟩
    | error e =>
        obtain ⟨st, hst, hheavy⟩ := Template.candidates_error hmade
        exact absurd (hpriority st hst) hheavy
  have htakes : ({ task with tried } : Task).Takes registry (task.total config) line pool :=
    takes_of_candidates hids hpool
  refine ⟨pool, (templatePart config c registry { task with tried } s).2, ?_,
    (template_part_quiet s).files, ?_⟩
  · rw [candidates_eq, run_bind, hpart, hpool, hmodel]
    rfl
  · rw [Template.taken, ← List.forall₂_eq_eq_eq, List.forall₂_map_left_iff,
      List.forall₂_map_right_iff]
    exact htakes.flip.imp fun p x hrewrites => hrewrites.key

/-- Calls enumerate what is left to make: no key comes twice, the calls that make something come
before those that make nothing, and after them everything was made. -/
structure Enumerates (all tried : List (String × String)) (count calls : Nat)
    (pools : List (List Patch)) : Prop where
  length : pools.length = count
  nodup : (tried ++ pools.flatten.map Patch.key).Nodup
  among : ∀ key ∈ tried ++ pools.flatten.map Patch.key, key ∈ all
  empty : ∀ i (h : i < pools.length), pools[i] = [] ↔ calls ≤ i
  complete : calls ≤ count → ∀ key ∈ all, key ∈ tried ++ pools.flatten.map Patch.key

namespace Enumerates

variable {all tried : List (String × String)} {count calls : Nat} {pools : List (List Patch)}
  {pool : List Patch}

/-- Before the first call only what was tried is known. -/
theorem start (hnodup : tried.Nodup) (hamong : ∀ key ∈ tried, key ∈ all) (hleft : 0 < calls) :
    Enumerates all tried 0 calls [] :=
  ⟨rfl, by simpa using hnodup, by simpa using hamong, by simp, by omega⟩

/-- Calls that make nothing come after everything was made. -/
theorem idle (hnodup : tried.Nodup) (hamong : ∀ key ∈ tried, key ∈ all)
    (hall : ∀ key ∈ all, key ∈ tried) (count : Nat) :
    Enumerates all tried count 0 (List.replicate count []) :=
  ⟨by simp, by simpa using hnodup, by simpa using hamong, by simp, by simpa using hall⟩

/-- A call that makes something comes before the others. -/
theorem cons (hsome : pool ≠ [])
    (h : Enumerates all (tried ++ pool.map Patch.key) count calls pools) :
    Enumerates all tried (count + 1) (calls + 1) (pool :: pools) := by
  have hsame : tried ++ (pool :: pools).flatten.map Patch.key =
      tried ++ pool.map Patch.key ++ pools.flatten.map Patch.key := by
    rw [List.flatten_cons, List.map_append, List.append_assoc]
  refine ⟨by rw [List.length_cons, h.length], hsame ▸ h.nodup, hsame ▸ h.among, fun i hi => ?_,
    fun hcalls => hsame ▸ h.complete (by omega)⟩
  cases i with
  | zero => simpa using hsome
  | succ i => simpa using h.empty i (by simpa using hi)

end Enumerates

section Calls

variable {content line : String} (hids : registry.ids.Nodup)
  (halone : StrategiesAlone c config task content line)
  (hpriority : ∀ st ∈ task.order registry, st.Weighed)

include hids halone hpriority

/-- The first of several calls takes what is left, and the others go on from there. -/
theorem repeated_step (count : Nat) (tried : List (String × String)) {s : Site E}
    (hfile : s.files task.fault.location.file = some content) :
    ∃ pool s', s'.files = s.files ∧
      pool.map Patch.key = Template.taken (task.fixContext line) (task.order registry)
        (task.total config).toNat tried ∧
      (repeated config c.host registry task (count + 1) tried s).1 =
        (repeated config c.host registry task count (tried ++ pool.map Patch.key) s').1.map
          (pool :: ·) := by
  obtain ⟨pool, s', hrun, hfiles, hkeys⟩ := call_takes hids halone hpriority tried hfile
  refine ⟨pool, s', hfiles, hkeys, ?_⟩
  rw [repeated, run_bind, hrun]
  rfl

/-- Where nothing is left, calls make nothing. -/
theorem repeated_idle {tried : List (String × String)}
    (hnone : Template.taken (task.fixContext line) (task.order registry)
      (task.total config).toNat tried = []) (count : Nat) {s : Site E}
    (hfile : s.files task.fault.location.file = some content) :
    (repeated config c.host registry task count tried s).1 = .ok (List.replicate count []) := by
  induction count generalizing s with
  | zero => rfl
  | succ count ih =>
      obtain ⟨pool, s', hfiles, hkeys, hrun⟩ :=
        repeated_step hids halone hpriority count tried hfile
      rw [hnone, List.map_eq_nil_iff] at hkeys
      rw [hrun, hkeys, List.map_nil, List.append_nil, ih (by rw [hfiles, hfile])]
      rfl

/-- From any keys that were tried, at most as many calls make something as there are others left. -/
theorem repeated_enumerates_from (tried : List (String × String)) (hnodup : tried.Nodup)
    (hamong : ∀ key ∈ tried, key ∈ Template.keys (task.fixContext line) (task.order registry)) :
    ∃ calls, tried.length + calls ≤
        (Template.keys (task.fixContext line) (task.order registry)).length ∧
      ∀ count (s : Site E), s.files task.fault.location.file = some content →
        ∃ pools, (repeated config c.host registry task count tried s).1 = .ok pools ∧
          Enumerates (Template.keys (task.fixContext line) (task.order registry)) tried count calls
            pools := by
  generalize hleft : (Template.keys (task.fixContext line) (task.order registry)).length -
    tried.length = left
  -- by what is left to try: a call takes some of it, or nothing is left
  induction left using Nat.strong_induction_on generalizing tried with
  | _ left ih =>
    have hwithin := (List.subperm_of_subset hnodup hamong).length_le
    have hbudget : 0 < (task.total config).toNat := by
      have := halone.budget
      omega
    by_cases hnone : Template.taken (task.fixContext line) (task.order registry)
        (task.total config).toNat tried = []
    · refine ⟨0, hwithin, fun count s hfile =>
        ⟨_, repeated_idle hids halone hpriority hnone count hfile, ?_⟩⟩
      exact .idle hnodup hamong (Template.tried_of_taken_nil hbudget hnone) count
    · -- a call that takes something leaves less for the calls after it
      let taken := Template.taken (task.fixContext line) (task.order registry)
        (task.total config).toNat tried
      have hmore : (tried ++ taken).Nodup :=
        hnodup.append (Template.taken_nodup (Registry.prioritize_ids_nodup hids))
          fun key htried htaken => (Template.of_mem_taken htaken).2 htried
      have hstill : ∀ key ∈ tried ++ taken,
          key ∈ Template.keys (task.fixContext line) (task.order registry) := by
        intro key hkey
        rcases List.mem_append.mp hkey with htried | htaken
        · exact hamong key htried
        · exact (Template.of_mem_taken htaken).1
      have hlonger : (tried ++ taken).length = tried.length + taken.length := List.length_append
      have hsome : 0 < taken.length := List.length_pos_iff.mpr hnone
      have hbound := (List.subperm_of_subset hmore hstill).length_le
      obtain ⟨calls, hcalls, henumerates⟩ := ih _ (by omega) (tried ++ taken) hmore hstill rfl
      refine ⟨calls + 1, by omega, fun count s hfile => ?_⟩
      cases count with
      | zero => exact ⟨[], rfl, .start hnodup hamong (Nat.succ_pos _)⟩
      | succ count =>
          obtain ⟨pool, s', hfiles, hkeys, hrun⟩ :=
            repeated_step hids halone hpriority count tried hfile
          obtain ⟨pools, hpools, h⟩ := henumerates count s' (by rw [hfiles, hfile])
          rw [← show pool.map Patch.key = taken from hkeys] at hpools h
          refine ⟨pool :: pools, by rw [hrun, hpools]; rfl, .cons ?_ h⟩
          rintro rfl
          exact hnone hkeys.symm

end Calls

/-- The strategies to try for a task have no more fixes than the registry has. -/
theorem order_fixes_le (hids : registry.ids.Nodup) (task : Task) :
    ((task.order registry).map (·.fixes.length)).sum ≤
      (registry.strategies.map (·.fixes.length)).sum := by
  have hnodup : (task.order registry).Nodup :=
    List.Nodup.of_map (·.id) (Registry.prioritize_ids_nodup hids)
  obtain ⟨same, hperm, hsub⟩ := List.subperm_of_subset hnodup
    fun st hst => ((Registry.mem_prioritize hids).mp hst).1
  calc ((task.order registry).map (·.fixes.length)).sum
      = (same.map (·.fixes.length)).sum := ((hperm.map _).sum_eq).symm
    _ ≤ (registry.strategies.map (·.fixes.length)).sum :=
        (hsub.map _).sum_le_sum fun _ _ => Nat.zero_le _

/-- Asking strategies alone again and again, each time with all candidates so far as tried, makes
each candidate once. After some calls, as many as there are fixes at most, nothing more is made, and
then there is a candidate for each strategy that fits the fault and each line that one of its fixes
makes. The priorities that strategies are documented to have all count. -/
theorem repeated_enumerates (c : Crew E) (config : RepairConfig)
    (ops : List Registry.Operation) (task : Task) (s : Site E) {content line : String}
    (halone : StrategiesAlone c config task content line)
    (hfile : s.files task.fault.location.file = some content)
    (hpriority : ∀ st ∈ task.order (.ofOperations ops), st.Weighed) :
    let registry := Registry.ofOperations ops
    ∃ calls ≤ (registry.strategies.map (·.fixes.length)).sum, ∀ count, ∃ pools,
      (repeated config c.host registry task count [] s).1 = .ok pools ∧ pools.length = count ∧
      (pools.flatten.map Patch.key).Nodup ∧
      (∀ i (h : i < pools.length), pools[i] = [] ↔ calls ≤ i) ∧
      (calls ≤ count → ∀ id new, (id, new) ∈ pools.flatten.map Patch.key ↔
        ∃ st ∈ task.order registry, st.id = id ∧ ∃ fix ∈ st.fixes,
          Template.rewritten? (task.fixContext line) st fix = some new) := by
  intro registry
  have hids : registry.ids.Nodup := Registry.ids_nodup ops
  obtain ⟨calls, hcalls, henumerates⟩ :=
    repeated_enumerates_from hids halone hpriority [] List.nodup_nil (by simp)
  have hfixes := Template.keys_length_le (task.fixContext line) (task.order registry)
  have hregistered := order_fixes_le hids task
  rw [List.length_nil, Nat.zero_add] at hcalls
  refine ⟨calls, by omega, fun count => ?_⟩
  obtain ⟨pools, hpools, h⟩ := henumerates count s hfile
  refine ⟨pools, hpools, h.length, h.nodup, h.empty, fun hdone id new => ?_⟩
  have hkeys : (id, new) ∈ pools.flatten.map Patch.key ↔
      (id, new) ∈ Template.keys (task.fixContext line) (task.order registry) :=
    ⟨fun hmem => h.among _ hmem, fun hmem => h.complete hdone _ hmem⟩
  rw [hkeys, Template.mem_keys]
  simp only [Template.options, List.mem_filterMap, eq_comm]

/-- A strategy that fits every fault, and two of whose fixes make the same of a line. -/
def twofoldStrategy : Strategy where
  id := "twofold"
  description := "twofold"
  patterns := []
  fixes := [fun _ _ => some "{line}x = 2", fun _ _ => some "{line}x = 2",
    fun _ _ => some "{line}x = 3"]
  catchAll := true

theorem repeated_enumerates_twofold :
    let crew := Crew.steady (fun _ _ => none) .silent
    let task : Task := { fault := .ofFirstLine "a.py", budget := some 1 }
    let registry := Registry.ofOperations [.register twofoldStrategy]
    StrategiesAlone crew {} task "y = 1\n" "y = 1" ∧
      (∀ st ∈ task.order registry, st.Weighed) ∧
      ∃ pools, (repeated {} crew.host registry task 3 [] (Site.single "a.py" "y = 1\n")).1 =
        .ok pools ∧ pools.length = 3 ∧ (pools.flatten.map Patch.key).Nodup ∧
        ∀ id new, (id, new) ∈ pools.flatten.map Patch.key ↔
          id = "twofold" ∧ (new = "x = 2" ∨ new = "x = 3") := by
  intro crew task registry
  have halone : StrategiesAlone crew {} task "y = 1\n" "y = 1" :=
    ⟨rfl, rfl, by decide, fun _ => rfl, by decide +kernel⟩
  have hstrategies : registry.strategies = [twofoldStrategy] := rfl
  have hpriority : ∀ st ∈ task.order registry, st.Weighed := by
    intro st hst
    have hmem := Registry.mem_of_mem_prioritize hst
    rw [hstrategies, List.mem_singleton] at hmem
    subst hmem
    exact Strategy.Documented.weighed ⟨by decide, by decide⟩
  obtain ⟨calls, hcalls, hall⟩ := repeated_enumerates crew {} [.register twofoldStrategy] task
    (Site.single "a.py" "y = 1\n") halone rfl hpriority
  obtain ⟨pools, hpools, hlength, hnodup, _, hcomplete⟩ := hall 3
  refine ⟨halone, hpriority, pools, hpools, hlength, hnodup, fun id new => ?_⟩
  have horder : ∀ st, st ∈ task.order registry ↔ st = twofoldStrategy := by
    intro st
    rw [Task.order, Registry.mem_prioritize (Registry.ids_nodup [.register twofoldStrategy]),
      hstrategies, List.mem_singleton]
    exact ⟨And.left, fun heq => ⟨heq, .inl (by rw [heq]; decide)⟩⟩
  have hoptions : Template.options (task.fixContext "y = 1") twofoldStrategy =
      ["x = 2", "x = 2", "x = 3"] := by decide +kernel
  have hfixes : (∃ fix ∈ twofoldStrategy.fixes, Template.rewritten? (task.fixContext "y = 1")
      twofoldStrategy fix = some new) ↔ new = "x = 2" ∨ new = "x = 3" := by
    rw [← List.mem_filterMap, ← Template.options, hoptions]
    simp
  rw [hcomplete hcalls]
  constructor
  · rintro ⟨st, hst, rfl, hfix⟩
    obtain rfl := (horder st).mp hst
    exact ⟨rfl, hfixes.mp hfix⟩
  · rintro ⟨rfl, hnew⟩
    exact ⟨twofoldStrategy, (horder _).mpr rfl, rfl, hfixes.mpr hnew⟩

end Generate

end Mender
