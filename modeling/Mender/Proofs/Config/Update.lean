import Mathlib.Data.List.Nodup
import Mender.Proofs.Failure
import Mender.Session.Engine

/-!
# What an update does to the options

An update names options and gives them values. When it succeeds, the options that it named have
these values and all others the ones they had. When it fails it may have set options all the same,
and `RepairConfig.update_is_atomic_iff` says which: only an option that does not exist is noticed
before anything is set.
-/

namespace Mender

/-- Options after changes to some of them: those that were named have the values of the changes, and
the others the values they had. -/
structure Sets {κ δ : Type} (name : δ → String) (holds : κ → δ → Prop) (changes : List δ)
    (c c' : κ) : Prop where
  named : ∀ d ∈ changes, holds c' d
  others : ∀ d, name d ∉ changes.map name → (holds c' d ↔ holds c d)

namespace Sets

variable {κ δ : Type} {name : δ → String} {holds : κ → δ → Prop} {d : δ} {changes : List δ}
  {c c₁ c' : κ}

theorem nil : Sets name holds [] c c :=
  ⟨by simp, fun _ _ => Iff.rfl⟩

/-- A change before others of different names. -/
theorem cons (hfirst : Sets name holds [d] c c₁) (h : Sets name holds changes c₁ c')
    (hnew : name d ∉ changes.map name) : Sets name holds (d :: changes) c c' := by
  refine ⟨fun e he => ?_, fun e he => ?_⟩
  · rcases List.mem_cons.mp he with rfl | he
    · exact (h.others e hnew).mpr (hfirst.named e (List.mem_singleton_self e))
    · exact h.named e he
  · rw [List.map_cons, List.mem_cons, not_or] at he
    exact (h.others e he.2).trans (hfirst.others e (by simpa using he.1))

/-- Changes of different names that are made one after another. -/
theorem foldl_m {set : κ → δ → Except Failure κ}
    (hstep : ∀ c c' : κ, ∀ d ∈ changes, set c d = .ok c' → Sets name holds [d] c c')
    (hnames : (changes.map name).Nodup) (h : changes.foldlM set c = .ok c') :
    Sets name holds changes c c' := by
  induction changes generalizing c with
  | nil =>
      cases h
      exact .nil
  | cons d changes ih =>
      obtain ⟨hnew, hothers⟩ := List.nodup_cons.mp hnames
      rw [List.foldlM_cons] at h
      obtain ⟨c₁, hfirst, hrest⟩ := bind_eq_ok h
      have hrest : Sets name holds changes c₁ c' :=
        ih (fun c c' e he => hstep c c' e (List.mem_cons_of_mem d he)) hothers hrest
      exact (hstep c c₁ d List.mem_cons_self hfirst).cons hrest hnew

end Sets

namespace LocalizationChange

/-- The name of the option that a change is for. -/
def name : LocalizationChange → String
  | .metric _ => "metric"
  | .threshold _ => "threshold"
  | .maxStatements _ => "max_statements"
  | .useStackTrace _ => "use_stack_trace"
  | .useStaticAnalysis _ => "use_static_analysis"
  | .staticWeight _ => "static_weight"
  | .spectrumWeight _ => "spectrum_weight"
  | .snippetContextLines _ => "snippet_context_lines"
  | .unknown name => name

/-- An option has the value of a change. -/
def Holds (c : LocalizationConfig) : LocalizationChange → Prop
  | .metric name => Metric.ofName name = .ok c.metric
  | .threshold x => c.threshold = x
  | .maxStatements n => c.maxStatements = n
  | .useStackTrace b => c.useStackTrace = b
  | .useStaticAnalysis b => c.useStaticAnalysis = b
  | .staticWeight x => c.staticWeight = x
  | .spectrumWeight x => c.spectrumWeight = x
  | .snippetContextLines n => c.snippetContextLines = n
  | .unknown _ => False

/-- The change is to an option that exists, and a metric that it names exists. -/
def Valid : LocalizationChange → Prop
  | .metric name => ∃ m, Metric.ofName name = .ok m
  | .unknown _ => False
  | _ => True

/-- A change that is given under a name is one of that name. -/
theorem of_field_name {field : String × Json} {d : LocalizationChange}
    (h : ofField field = .ok d) : d.name = field.1 := by
  obtain ⟨given, v⟩ := field
  unfold ofField at h
  dsimp only at h
  split at h
  · split at h <;> cases h
    rfl
  all_goals
    first
    | obtain ⟨_, _, rfl⟩ := map_eq_ok h
      rfl
    | cases h
      rfl

/-- Changes that are given as the fields of an object are of the names of the fields. -/
theorem names_of_fields {fields : List (String × Json)} {changes : List LocalizationChange}
    (h : fields.mapM ofField = .ok changes) : changes.map name = fields.map (·.1) :=
  map_of_map_m (fun _ _ => of_field_name) h

end LocalizationChange

namespace LocalizationConfig

variable {c c' : LocalizationConfig} {d : LocalizationChange} {changes : List LocalizationChange}

/-- Options that exist are set one at a time. -/
theorem set_sets (hknown : ∀ name, d ≠ .unknown name) (h : c.set d = .ok c') :
    Sets LocalizationChange.name LocalizationChange.Holds [d] c c' := by
  refine ⟨fun e he => ?_, fun e he => ?_⟩
  · obtain rfl := List.mem_singleton.mp he
    cases e with
    | metric name =>
        obtain ⟨m, hm, heq⟩ := bind_eq_ok h
        cases heq
        exact hm
    | unknown name => exact absurd rfl (hknown name)
    | _ =>
        cases h
        rfl
  · have hother : e.name ≠ d.name := by simpa using he
    cases d with
    | metric name =>
        obtain ⟨m, hm, heq⟩ := bind_eq_ok h
        cases heq
        cases e <;> first | exact Iff.rfl | exact absurd rfl hother
    | unknown name => exact absurd rfl (hknown name)
    | _ =>
        cases h
        cases e <;> first | exact Iff.rfl | exact absurd rfl hother

/-- An option can be set unless it is a metric that does not exist. -/
theorem set_ok_or_error (hknown : ∀ name, d ≠ .unknown name) :
    (d.Valid ∧ ∃ c', c.set d = .ok c') ∨
      (¬d.Valid ∧ ∃ e, c.set d = .error e ∧ e.kind = .value) := by
  cases d with
  | metric name =>
      cases hname : Metric.ofName name with
      | ok m => exact .inl ⟨⟨m, hname⟩, _, by simp [set, hname, bind, Except.bind]; rfl⟩
      | error e =>
          refine .inr ⟨fun ⟨m, hm⟩ => ?_, e, by simp [set, hname, bind, Except.bind], ?_⟩
          · rw [hname] at hm
            cases hm
          · unfold Metric.ofName at hname
            dsimp only at hname
            split at hname <;> cases hname
            rfl
  | unknown name => exact absurd rfl (hknown name)
  | _ => exact .inl ⟨trivial, _, rfl⟩

theorem fold_ok_or_error (hknown : ∀ name, .unknown name ∉ changes) :
    ((∀ d ∈ changes, d.Valid) ∧ ∃ c', changes.foldlM set c = .ok c') ∨
      ((∃ d ∈ changes, ¬d.Valid) ∧ ∃ e, changes.foldlM set c = .error e ∧ e.kind = .value) := by
  induction changes generalizing c with
  | nil => exact .inl ⟨by simp, c, rfl⟩
  | cons d changes ih =>
      have hothers : ∀ name, .unknown name ∉ changes :=
        fun name hmem => hknown name (List.mem_cons_of_mem d hmem)
      have hd : ∀ name, d ≠ .unknown name := fun name heq => hknown name (heq ▸ List.mem_cons_self)
      rw [List.foldlM_cons]
      rcases set_ok_or_error (c := c) hd with ⟨hvalid, c₁, hset⟩ | ⟨hvalid, e, hset, hkind⟩
      · rw [hset]
        rcases ih hothers (c := c₁) with ⟨hall, c', hfold⟩ | ⟨⟨f, hf, hnot⟩, e, hfold, hkind⟩
        · exact .inl ⟨List.forall_mem_cons.mpr ⟨hvalid, hall⟩, c', hfold⟩
        · exact .inr ⟨⟨f, List.mem_cons_of_mem d hf, hnot⟩, e, hfold, hkind⟩
      · rw [hset]
        exact .inr ⟨⟨d, List.mem_cons_self, hvalid⟩, e, rfl, hkind⟩

theorem mem_unknown_names {name : String} :
    name ∈ unknownNames changes ↔ .unknown name ∈ changes := by
  rw [unknownNames, List.mem_filterMap]
  constructor
  · rintro ⟨d, hd, heq⟩
    cases d <;> cases heq
    exact hd
  · exact fun hd => ⟨_, hd, rfl⟩

theorem unknown_not_mem (h : unknownNames changes = []) (name : String) :
    .unknown name ∉ changes := by
  rw [← mem_unknown_names, h]
  exact List.not_mem_nil

/-- Named options take the place of those of the same names. -/
theorem merge_sets (hnames : (changes.map LocalizationChange.name).Nodup)
    (h : c.merge changes = .ok c') :
    Sets LocalizationChange.name LocalizationChange.Holds changes c c' := by
  unfold merge at h
  split at h
  · rename_i hknown
    exact .foldl_m (fun c c' d hd hset =>
      set_sets (fun name heq => unknown_not_mem hknown name (heq ▸ hd)) hset) hnames h
  · cases h

/-- Options are merged when all of them exist, and refused as values otherwise. -/
theorem merge_ok_or_error (c : LocalizationConfig) (changes : List LocalizationChange) :
    ((∀ d ∈ changes, d.Valid) ∧ ∃ c', c.merge changes = .ok c') ∨
      ((∃ d ∈ changes, ¬d.Valid) ∧ ∃ e, c.merge changes = .error e ∧ e.kind = .value) := by
  unfold merge
  split
  · rename_i hknown
    exact fold_ok_or_error (unknown_not_mem hknown)
  · rename_i hknown
    obtain ⟨name, hname⟩ := List.exists_mem_of_ne_nil _ hknown
    exact .inr ⟨⟨_, mem_unknown_names.mp hname, id⟩, _, rfl, rfl⟩

end LocalizationConfig

namespace ConfigChange

/-- The name of the option that a change is for. -/
def name : ConfigChange → String
  | .useTemplates _ => "use_templates"
  | .useModel _ => "use_llm"
  | .maxCandidates _ => "max_candidates"
  | .maxIterations _ => "max_iterations"
  | .validateWithTests _ => "validate_with_tests"
  | .learningEnabled _ => "learning_enabled"
  | .localization _ | .localizationConfig _ => "fault_localization"
  | .testTimeout _ => "test_timeout"
  | .generationTimeout _ => "generation_timeout"
  | .similarityThreshold _ => "similarity_threshold"
  | .codeContextLines _ => "code_context_lines"
  | .learningHistoryCap _ => "learning_history_cap"
  | .maxSessions _ => "max_sessions"
  | .maxChatTurns _ => "max_chat_turns"
  | .maxImplausibleTurns _ => "max_implausible_turns"
  | .unknown name => name

/-- An option has the value of a change. -/
def Holds (c : RepairConfig) : ConfigChange → Prop
  | .useTemplates b => c.useTemplates = b
  | .useModel b => c.useModel = b
  | .maxCandidates n => c.maxCandidates = n
  | .maxIterations n => c.maxIterations = n
  | .validateWithTests b => c.validateWithTests = b
  | .learningEnabled b => c.learningEnabled = b
  | .localization changes => ∀ d ∈ changes, d.Holds c.localization
  | .localizationConfig l => c.localization = l
  | .testTimeout x => c.testTimeout = x
  | .generationTimeout x => c.generationTimeout = x
  | .similarityThreshold x => c.similarityThreshold = x
  | .codeContextLines n => c.codeContextLines = n
  | .learningHistoryCap n => c.learningHistoryCap = n
  | .maxSessions n => c.maxSessions = n
  | .maxChatTurns n => c.maxChatTurns = n
  | .maxImplausibleTurns n => c.maxImplausibleTurns = n
  | .unknown _ => False

/-- The value of a change keeps to the bounds. -/
def InBounds : ConfigChange → Prop
  | .maxCandidates n => 0 ≤ n
  | .maxIterations n => 1 ≤ n
  | _ => True

/-- The change is to an option that exists, with a value that the option can have. -/
def Valid : ConfigChange → Prop
  | .localization changes => ∀ d ∈ changes, d.Valid
  | .unknown _ => False
  | d => d.InBounds

/-- The change is one of the localization options. -/
def isLocalization : ConfigChange → Bool
  | .localization _ | .localizationConfig _ => true
  | _ => false

/-- A change that is given under a name is one of that name. -/
theorem of_field_name {field : String × Json} {d : ConfigChange} (h : ofField field = .ok d) :
    d.name = field.1 := by
  obtain ⟨given, v⟩ := field
  unfold ofField at h
  dsimp only at h
  split at h
  all_goals
    first
    | obtain ⟨_, _, rfl⟩ := map_eq_ok h
      rfl
    | cases h
      rfl

/-- Changes that are given as the fields of an object are of the names of the fields. -/
theorem names_of_fields {fields : List (String × Json)} {changes : List ConfigChange}
    (h : fields.mapM ofField = .ok changes) : changes.map name = fields.map (·.1) :=
  map_of_map_m (fun _ _ => of_field_name) h

variable {c c' : RepairConfig} {d e : ConfigChange}

theorem name_of_localization (h : d.isLocalization = true) : d.name = "fault_localization" := by
  cases d <;> first | rfl | cases h

/-- Options of their own do not depend on the localization options. -/
theorem holds_plain (h : d.isLocalization = false) (l : LocalizationConfig) :
    d.Holds { c with localization := l } ↔ d.Holds c := by
  cases d <;> first | exact Iff.rfl | cases h

theorem holds_localization (h : d.isLocalization = true)
    (hsame : c'.localization = c.localization) : d.Holds c' ↔ d.Holds c := by
  cases d with
  | localization changes => simp only [Holds, hsame]
  | localizationConfig l => simp only [Holds, hsame]
  | _ => cases h

/-- An option has one value. -/
theorem eq_of_holds (hname : d.name = e.name) (hplain : e.isLocalization = false)
    (hd : d.Holds c) (he : e.Holds c) : d = e := by
  cases e with
  | localization | localizationConfig => cases hplain
  | unknown => exact he.elim
  | _ =>
      cases he
      cases d with
      | unknown => exact hd.elim
      | _ =>
          first
          | cases hd
            rfl
          | exact absurd hname (by simp [name])

end ConfigChange

namespace RepairConfig

open ConfigChange (name_of_localization holds_plain holds_localization)

variable {c c' : RepairConfig} {d : ConfigChange} {changes : List ConfigChange}

/-- Options of their own are set one at a time. -/
theorem set_sets (hknown : ∀ name, d ≠ .unknown name) (hplain : d.isLocalization = false) :
    Sets ConfigChange.name ConfigChange.Holds [d] c (c.set d) := by
  refine ⟨fun e he => ?_, fun e he => ?_⟩
  · obtain rfl := List.mem_singleton.mp he
    cases e with
    | localization | localizationConfig => cases hplain
    | unknown name => exact absurd rfl (hknown name)
    | _ => rfl
  · have hother : e.name ≠ d.name := by simpa using he
    cases d with
    | localization | localizationConfig => cases hplain
    | unknown name => exact absurd rfl (hknown name)
    | _ => cases e <;> first | exact Iff.rfl | exact absurd rfl hother

/-- An option that has the value of a change already is as before. -/
theorem set_of_holds (hplain : d.isLocalization = false) (h : d.Holds c) : c.set d = c := by
  cases d with
  | localization | localizationConfig => cases hplain
  | unknown name => exact h.elim
  | _ =>
      cases h
      rfl

/-- The changes to options that do not concern localization. -/
def plain (changes : List ConfigChange) : List ConfigChange :=
  changes.filter fun d => !d.isLocalization

theorem mem_plain : d ∈ plain changes ↔ d ∈ changes ∧ d.isLocalization = false := by
  simp [plain]

theorem mem_unknown_names {name : String} :
    name ∈ unknownNames changes ↔ .unknown name ∈ changes := by
  rw [unknownNames, List.mem_filterMap]
  constructor
  · rintro ⟨d, hd, heq⟩
    cases d <;> cases heq
    exact hd
  · exact fun hd => ⟨_, hd, rfl⟩

theorem unknown_not_mem (h : unknownNames changes = []) (name : String) :
    .unknown name ∉ changes := by
  rw [← mem_unknown_names, h]
  exact List.not_mem_nil

/-- Changes to the localization options leave the other options as they are. -/
theorem foldl_set_plain : changes.foldl set c = (plain changes).foldl set c := by
  induction changes generalizing c with
  | nil => rfl
  | cons d changes ih =>
      cases hplain : d.isLocalization with
      | false => simp [plain, hplain, ih]
      | true =>
          have hsame : c.set d = c := by
            cases d with
            | localization | localizationConfig => rfl
            | _ => cases hplain
          simp [plain, hplain, ih, hsame]

theorem foldl_set_sets (hknown : unknownNames changes = [])
    (hnames : (changes.map ConfigChange.name).Nodup) :
    Sets ConfigChange.name ConfigChange.Holds (plain changes) c (changes.foldl set c) := by
  have hplain : ((plain changes).map ConfigChange.name).Nodup :=
    hnames.sublist (List.filter_sublist.map ConfigChange.name)
  have hfold : (plain changes).foldlM (fun c d => .ok (c.set d)) c =
      (.ok ((plain changes).foldl set c) : Except Failure RepairConfig) :=
    List.foldlM_pure
  rw [foldl_set_plain]
  refine .foldl_m (fun c c' d hd heq => ?_) hplain hfold
  cases heq
  obtain ⟨hmem, hd⟩ := mem_plain.mp hd
  exact set_sets (fun name heq => unknown_not_mem hknown name (heq ▸ hmem)) hd

theorem foldl_set_localization : (changes.foldl set c).localization = c.localization := by
  induction changes generalizing c with
  | nil => rfl
  | cons d changes ih =>
      have hsame : (c.set d).localization = c.localization := by cases d <;> rfl
      exact ih.trans hsame

/-- Options that are set to the values they have stay as they are. -/
theorem foldl_set_eq_self (hplain : ∀ d ∈ changes, d.isLocalization = false)
    (h : ∀ d ∈ changes, d.Holds c) : changes.foldl set c = c := by
  induction changes with
  | nil => rfl
  | cons d changes ih =>
      obtain ⟨hd, hothers⟩ := List.forall_mem_cons.mp h
      obtain ⟨hdplain, hothersplain⟩ := List.forall_mem_cons.mp hplain
      rw [List.foldl_cons, set_of_holds hdplain hd]
      exact ih hothersplain hothers

theorem localization_after_plain (h : d.isLocalization = false) (l : LocalizationConfig) :
    localizationAfter l d = .ok l := by
  cases d <;> first | rfl | cases h

theorem fold_localization_plain (h : ∀ d ∈ changes, d.isLocalization = false)
    (l : LocalizationConfig) : changes.foldlM localizationAfter l = .ok l := by
  induction changes with
  | nil => rfl
  | cons d changes ih =>
      obtain ⟨hd, hothers⟩ := List.forall_mem_cons.mp h
      rw [List.foldlM_cons, localization_after_plain hd]
      exact ih hothers

/-- The localization options are changed once. -/
theorem fold_localization (hnames : (changes.map ConfigChange.name).Nodup) (hd : d ∈ changes)
    (hloc : d.isLocalization = true) (l : LocalizationConfig) :
    changes.foldlM localizationAfter l = localizationAfter l d := by
  induction changes with
  | nil => cases hd
  | cons e changes ih =>
      obtain ⟨hnew, hothers⟩ := List.nodup_cons.mp hnames
      rw [List.foldlM_cons]
      cases hplain : e.isLocalization with
      | false =>
          have hrest : d ∈ changes := by
            rcases List.mem_cons.mp hd with rfl | hd
            · rw [hloc] at hplain
              cases hplain
            · exact hd
          rw [localization_after_plain hplain]
          exact ih hothers hrest
      | true =>
          -- the names are different, so no other change is about localization
          have hrest : ∀ f ∈ changes, f.isLocalization = false := fun f hf => by
            by_contra hf'
            have hsame : f.name = e.name := by
              rw [name_of_localization (by simpa using hf'), name_of_localization hplain]
            exact hnew (hsame ▸ List.mem_map_of_mem hf)
          obtain rfl : d = e := by
            rcases List.mem_cons.mp hd with rfl | hd
            · rfl
            · rw [hrest d hd] at hloc
              cases hloc
          cases hafter : localizationAfter l d with
          | error e => rfl
          | ok l' => exact fold_localization_plain hrest l'

/-- Options of which the named ones were changed. A change to the localization options leaves those
of them that it does not name as they were. -/
structure Changed (changes : List ConfigChange) (c c' : RepairConfig) : Prop extends
    Sets ConfigChange.name ConfigChange.Holds changes c c' where
  localization : ∀ nested, .localization nested ∈ changes →
    Sets LocalizationChange.name LocalizationChange.Holds nested c.localization c'.localization

/-- The bounds that options are held to. -/
def InBounds (c : RepairConfig) : Prop :=
  0 ≤ c.maxCandidates ∧ 1 ≤ c.maxIterations

/-- Some change to the localization options names one of them, or a metric, that does not exist. -/
def Refused (changes : List ConfigChange) : Prop :=
  ∃ nested, .localization nested ∈ changes ∧ ∃ d ∈ nested, ¬d.Valid

theorem check_ok_or_error :
    (c.InBounds ∧ c.check = .ok ()) ∨
      (¬c.InBounds ∧ ∃ e, c.check = .error e ∧ e.kind = .value) := by
  unfold check InBounds
  split
  · exact .inr ⟨by omega, _, rfl, rfl⟩
  · split
    · exact .inr ⟨by omega, _, rfl, rfl⟩
    · exact .inl ⟨by omega, rfl⟩

/-- Options keep to the bounds when those that are set do. -/
theorem in_bounds_iff (h : Sets ConfigChange.name ConfigChange.Holds changes c c')
    (hc : c.InBounds) : c'.InBounds ↔ ∀ d ∈ changes, d.InBounds := by
  constructor
  · intro hbounds d hd
    have hholds := h.named d hd
    cases d with
    | maxCandidates n => exact hholds ▸ hbounds.1
    | maxIterations n => exact hholds ▸ hbounds.2
    | _ => exact trivial
  · intro hall
    -- An option that is not named has the value it had, which kept to the bounds.
    have hvalue : ∀ d : ConfigChange, d.isLocalization = false → d.Holds c' →
        d.InBounds ∨ d.Holds c := fun d hplain hd => by
      by_cases hnamed : d.name ∈ changes.map ConfigChange.name
      · obtain ⟨e, he, hname⟩ := List.mem_map.mp hnamed
        obtain rfl := ConfigChange.eq_of_holds hname hplain (h.named e he) hd
        exact .inl (hall e he)
      · exact .inr ((h.others d hnamed).mp hd)
    constructor
    · rcases hvalue (.maxCandidates c'.maxCandidates) rfl rfl with hin | hsame
      · exact hin
      · exact hsame ▸ hc.1
    · rcases hvalue (.maxIterations c'.maxIterations) rfl rfl with hin | hsame
      · exact hin
      · exact hsame ▸ hc.2

/-- No two changes are to the localization options. -/
theorem localization_unique (hnames : (changes.map ConfigChange.name).Nodup) (hd : d ∈ changes)
    (hloc : d.isLocalization = true) {e : ConfigChange} (he : e ∈ changes)
    (heloc : e.isLocalization = true) : e = d :=
  List.inj_on_of_nodup_map hnames he hd
    ((name_of_localization heloc).trans (name_of_localization hloc).symm)

/-- Options whose plain ones were changed, with localization options that were changed. -/
theorem Changed.of_plain {l : LocalizationConfig}
    (hset : Sets ConfigChange.name ConfigChange.Holds (plain changes) c c')
    (hnested : ∀ nested, .localization nested ∈ changes →
      Sets LocalizationChange.name LocalizationChange.Holds nested c.localization l)
    (hwhole : ∀ new, .localizationConfig new ∈ changes → l = new)
    (hkept : (∀ d ∈ changes, d.isLocalization = false) → l = c.localization) :
    Changed changes c { c' with localization := l } where
  named d hd := by
    cases hloc : d.isLocalization with
    | false => exact (holds_plain hloc l).mpr (hset.named d (mem_plain.mpr ⟨hd, hloc⟩))
    | true =>
        cases d with
        | localization nested => exact (hnested nested hd).named
        | localizationConfig new => exact hwhole new hd
        | _ => cases hloc
  others d hd := by
    cases hloc : d.isLocalization with
    | false =>
        exact (holds_plain hloc l).trans (hset.others d fun hmem =>
          hd ((List.filter_sublist.map ConfigChange.name).subset hmem))
    | true =>
        refine holds_localization hloc (hkept fun e he => ?_)
        by_contra heloc
        have hsame : e.name = d.name :=
          (name_of_localization (by simpa using heloc)).trans (name_of_localization hloc).symm
        exact hd (hsame ▸ List.mem_map_of_mem he)
  localization := hnested

/-- The localization options come out changed, unless one of the changes is refused. -/
theorem localization_ok_or_error (hnames : (changes.map ConfigChange.name).Nodup)
    (hnested : ∀ nested, .localization nested ∈ changes →
      (nested.map LocalizationChange.name).Nodup)
    (hset : Sets ConfigChange.name ConfigChange.Holds (plain changes) c c') :
    (¬Refused changes ∧ ∃ l, changes.foldlM localizationAfter c.localization = .ok l ∧
        Changed changes c { c' with localization := l }) ∨
      (Refused changes ∧ ∃ e, changes.foldlM localizationAfter c.localization = .error e ∧
        e.kind = .value) := by
  by_cases hplain : ∀ d ∈ changes, d.isLocalization = false
  · refine .inl ⟨fun ⟨nested, hd, _⟩ => ?_, _, fold_localization_plain hplain _,
      .of_plain hset (fun nested hd => ?_) (fun new hd => ?_) fun _ => rfl⟩
    all_goals cases hplain _ hd
  · -- changes have different names, so one of them at most is about localization
    push Not at hplain
    obtain ⟨d, hd, hloc⟩ := hplain
    have hloc : d.isLocalization = true := by simpa using hloc
    rw [fold_localization hnames hd hloc]
    have hunique : ∀ e ∈ changes, e.isLocalization = true → e = d :=
      fun e he => localization_unique hnames hd hloc he
    have hkept {l : LocalizationConfig} (h : ∀ e ∈ changes, e.isLocalization = false) :
        l = c.localization := by
      rw [h d hd] at hloc
      cases hloc
    cases d with
    | localization nested =>
        rcases c.localization.merge_ok_or_error nested with
          ⟨hvalid, l, hmerge⟩ | ⟨hvalid, e, hmerge, hkind⟩
        · refine .inl ⟨fun ⟨nested', hd', f, hf, hnot⟩ => ?_, l, hmerge,
            .of_plain hset (fun nested' hd' => ?_) (fun new hd' => ?_) hkept⟩
          · cases hunique _ hd' rfl
            exact hnot (hvalid f hf)
          · cases hunique _ hd' rfl
            exact LocalizationConfig.merge_sets (hnested nested hd) hmerge
          · cases hunique _ hd' rfl
        · exact .inr ⟨⟨nested, hd, hvalid⟩, e, hmerge, hkind⟩
    | localizationConfig new =>
        refine .inl ⟨fun ⟨nested, hd', _⟩ => ?_, new, rfl,
          .of_plain hset (fun nested hd' => ?_) (fun new' hd' => ?_) hkept⟩
        all_goals cases hunique _ hd' rfl
        rfl
    | _ => cases hloc

/-- Changes are all possible when each option exists and each value keeps to its bound. -/
theorem forall_valid_iff : (∀ d ∈ changes, d.Valid) ↔
    (∀ name, .unknown name ∉ changes) ∧ ¬Refused changes ∧ ∀ d ∈ changes, d.InBounds := by
  constructor
  · intro h
    refine ⟨fun name hd => h _ hd, fun ⟨nested, hd, f, hf, hnot⟩ => hnot (h _ hd f hf),
      fun d hd => ?_⟩
    have hvalid := h d hd
    cases d <;> first | exact trivial | exact hvalid
  · rintro ⟨hknown, haccepted, hbounds⟩ d hd
    cases d with
    | unknown name => exact hknown name hd
    | localization nested =>
        intro f hf
        by_contra hnot
        exact haccepted ⟨nested, hd, f, hf, hnot⟩
    | _ => exact hbounds _ hd

theorem forall_plain_in_bounds_iff :
    (∀ d ∈ plain changes, d.InBounds) ↔ ∀ d ∈ changes, d.InBounds := by
  refine ⟨fun h d hd => ?_, fun h d hd => h d (mem_plain.mp hd).1⟩
  cases hloc : d.isLocalization with
  | false => exact h d (mem_plain.mpr ⟨hd, hloc⟩)
  | true => cases d <;> first | exact trivial | cases hloc

/-- The three points at which an update looks at changes: the names of the options come first, then
the localization options, then the bounds. -/
theorem update_cases (hnames : (changes.map ConfigChange.name).Nodup)
    (hnested : ∀ nested, .localization nested ∈ changes →
      (nested.map LocalizationChange.name).Nodup) :
    ((∃ name, .unknown name ∈ changes) ∧ ∃ e, c.update changes = (c, .error e) ∧ e.kind = .value) ∨
    ((∀ name, .unknown name ∉ changes) ∧ Refused changes ∧
      Sets ConfigChange.name ConfigChange.Holds (plain changes) c (changes.foldl set c) ∧
      ∃ e, c.update changes = (changes.foldl set c, .error e) ∧ e.kind = .value) ∨
    ((∀ name, .unknown name ∉ changes) ∧ ¬Refused changes ∧
      ∃ c', Changed changes c c' ∧ c.update changes = (c', c'.check)) := by
  cases hunknown : unknownNames changes with
  | cons name names =>
      refine .inl ⟨⟨name, mem_unknown_names.mp (hunknown ▸ List.mem_cons_self)⟩,
        LocalizationConfig.unknownOptions "RepairConfig" (name :: names), ?_, rfl⟩
      rw [update, hunknown]
  | nil =>
      have hknown : ∀ name, .unknown name ∉ changes := unknown_not_mem hunknown
      have hset := foldl_set_sets (c := c) hunknown hnames
      refine .inr ?_
      rcases localization_ok_or_error hnames hnested hset with
        ⟨haccepted, l, hfold, hchanged⟩ | ⟨hrefused, e, hfold, hkind⟩
      · refine .inr ⟨hknown, haccepted, _, hchanged, ?_⟩
        simp only [update, hunknown, foldl_set_localization, hfold]
      · refine .inl ⟨hknown, hrefused, hset, e, ?_, hkind⟩
        simp only [update, hunknown, foldl_set_localization, hfold]

/-- The options of an engine are updated in place. -/
theorem update_engine (engine : Engine) :
    (engine.update changes).2 = (engine.config.update changes).2 ∧
      (engine.update changes).1.config = (engine.config.update changes).1 := by
  unfold Engine.update
  split
  · rename_i hupdate
    rw [hupdate]
    exact ⟨rfl, rfl⟩
  · rename_i hupdate
    rw [hupdate]
    exact ⟨rfl, rfl⟩

/-- Changes that are all possible are made, and nothing else is. -/
theorem update_of_valid (hc : c.InBounds) (hnames : (changes.map ConfigChange.name).Nodup)
    (hnested : ∀ nested, .localization nested ∈ changes →
      (nested.map LocalizationChange.name).Nodup) (hvalid : ∀ d ∈ changes, d.Valid) :
    (c.update changes).2 = .ok () ∧ Changed changes c (c.update changes).1 ∧
      (c.update changes).1.InBounds := by
  obtain ⟨hknown, haccepted, hbounds⟩ := forall_valid_iff.mp hvalid
  rcases update_cases (c := c) hnames hnested with
    ⟨⟨name, hname⟩, _⟩ | ⟨_, hrefused, _⟩ | ⟨_, _, c', hchanged, hupdate⟩
  · exact absurd hname (hknown name)
  · exact absurd hrefused haccepted
  · have hin := (in_bounds_iff hchanged.toSets hc).mpr hbounds
    rw [hupdate]
    rcases check_ok_or_error (c := c') with ⟨_, hcheck⟩ | ⟨hout, _⟩
    · exact ⟨hcheck, hchanged, hin⟩
    · exact absurd hin hout

/-- An update that fails leaves the options as they were if an option does not exist, or if the
localization options refuse theirs and all others had their values already. Otherwise the options
keep what the update had set before it failed, out of bounds or not. -/
theorem update_is_atomic_iff (c : RepairConfig) (hc : c.InBounds) (changes : List ConfigChange)
    (hnames : (changes.map ConfigChange.name).Nodup)
    (hnested : ∀ nested, .localization nested ∈ changes →
      (nested.map LocalizationChange.name).Nodup) :
    ((∀ d ∈ changes, d.Valid) → (c.update changes).2 = .ok () ∧
      Changed changes c (c.update changes).1 ∧ (c.update changes).1.InBounds) ∧
    ((∃ d ∈ changes, ¬d.Valid) →
      (∃ e, (c.update changes).2 = .error e ∧ e.kind = .value) ∧
      ((c.update changes).1 = c ↔ (∃ name, .unknown name ∈ changes) ∨
        Refused changes ∧ ∀ d ∈ plain changes, d.Holds c) ∧
      ((c.update changes).1.InBounds ↔ (∃ name, .unknown name ∈ changes) ∨
        ∀ d ∈ changes, d.InBounds) ∧
      ((∀ name, .unknown name ∉ changes) →
        (Refused changes → Sets ConfigChange.name ConfigChange.Holds (plain changes) c
          (c.update changes).1) ∧
        (¬Refused changes → Changed changes c (c.update changes).1))) ∧
    ∀ engine : Engine, engine.config = c →
      (engine.update changes).2 = (c.update changes).2 ∧
        (engine.update changes).1.config = (c.update changes).1 := by
  refine ⟨update_of_valid hc hnames hnested, fun hinvalid => ?_,
    fun engine heq => heq ▸ update_engine engine⟩
  rcases update_cases (c := c) hnames hnested with
    ⟨hunknown, e, hupdate, hkind⟩ | ⟨hknown, hrefused, hset, e, hupdate, hkind⟩ |
    ⟨hknown, haccepted, c', hchanged, hupdate⟩
  · rw [hupdate]
    refine ⟨⟨e, rfl, hkind⟩, ⟨fun _ => .inl hunknown, fun _ => rfl⟩,
      ⟨fun _ => .inl hunknown, fun _ => hc⟩, fun hknown => ?_⟩
    obtain ⟨name, hname⟩ := hunknown
    exact absurd hname (hknown name)
  · have hnone : ¬∃ name, .unknown name ∈ changes := fun ⟨name, hname⟩ => hknown name hname
    rw [hupdate]
    refine ⟨⟨e, rfl, hkind⟩, ?_, ?_, fun _ => ⟨fun _ => hset, fun h => absurd hrefused h⟩⟩
    · rw [or_iff_right hnone]
      refine ⟨fun heq => ⟨hrefused, ?_⟩, fun ⟨_, hholds⟩ => ?_⟩
      · have heq : changes.foldl set c = c := heq
        rw [heq] at hset
        exact hset.named
      · exact foldl_set_plain.trans
          (foldl_set_eq_self (fun d hd => (mem_plain.mp hd).2) hholds)
    · rw [or_iff_right hnone, in_bounds_iff hset hc, forall_plain_in_bounds_iff]
  · have hnone : ¬∃ name, .unknown name ∈ changes := fun ⟨name, hname⟩ => hknown name hname
    have hin := in_bounds_iff hchanged.toSets hc
    -- Only the bounds are left to be broken.
    have hout : ¬c'.InBounds := fun hin' => by
      obtain ⟨d, hd, hnot⟩ := hinvalid
      exact hnot (forall_valid_iff.mpr ⟨hknown, haccepted, hin.mp hin'⟩ d hd)
    rw [hupdate]
    refine ⟨?_, ?_, ?_, fun _ => ⟨fun h => absurd h haccepted, fun _ => hchanged⟩⟩
    · rcases check_ok_or_error (c := c') with ⟨h, _⟩ | ⟨_, e, hcheck, hkind⟩
      · exact absurd h hout
      · exact ⟨e, hcheck, hkind⟩
    · rw [or_iff_right hnone]
      refine ⟨fun heq => ?_, fun ⟨h, _⟩ => absurd h haccepted⟩
      have heq : c' = c := heq
      exact absurd (heq ▸ hc) hout
    · rw [or_iff_right hnone]
      exact hin

/-- A metric that does not exist is noticed too late for a bound that is broken. -/
theorem update_with_bad_metric :
    (∃ e, (({} : RepairConfig).update [.maxIterations 0, .localization [.metric "none"]]).2 =
        .error e ∧ e.kind = .value) ∧
      ¬(({} : RepairConfig).update
        [.maxIterations 0, .localization [.metric "none"]]).1.InBounds := by
  have hnested : ∀ nested, .localization nested ∈
      [ConfigChange.maxIterations 0, .localization [.metric "none"]] →
      (nested.map LocalizationChange.name).Nodup := by
    intro nested hmem
    simp only [List.mem_cons, reduceCtorEq, List.not_mem_nil, or_false, false_or,
      ConfigChange.localization.injEq] at hmem
    subst hmem
    decide
  obtain ⟨_, hfails, _⟩ := update_is_atomic_iff {} ⟨by decide, by decide⟩
    [.maxIterations 0, .localization [.metric "none"]] (by decide) hnested
  have hinvalid : ¬(ConfigChange.maxIterations 0).Valid := fun h : (1 : Int) ≤ 0 => by omega
  obtain ⟨herror, _, hbounds, _⟩ := hfails ⟨_, List.mem_cons_self, hinvalid⟩
  refine ⟨herror, fun hin => ?_⟩
  rcases hbounds.mp hin with ⟨name, hname⟩ | hall
  · simp at hname
  · exact hinvalid (hall _ List.mem_cons_self)

/-- A bound that is refused stays broken, also for an engine. -/
theorem update_leaves_bound_broken :
    (({} : RepairConfig).update [.maxIterations 0]).2 =
        .error ⟨.value, "max_iterations must be >= 1"⟩ ∧
      (({} : RepairConfig).update [.maxIterations 0]).1.maxIterations = 0 ∧
      ((Engine.create {} none none).update [.maxIterations 0]).1.config.maxIterations = 0 :=
  ⟨rfl, rfl, rfl⟩

end RepairConfig

end Mender
