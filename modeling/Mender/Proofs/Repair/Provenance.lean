import Mathlib.Data.List.Forall2
import Mender.Proofs.Host.Site
import Mender.Proofs.Repair.Generation

/-!
# Where candidates come from

A candidate replaces one range of lines and records their text. `Crew.Makes.text_known` says where
that text is from, for any crew: it is a line of the file, it is a range of lines that was read for
a reply that left it out, or it is what the reply stated.
-/

namespace Mender

namespace Template

/-- A line that is found by its number. -/
theorem line_at_eq_some {content text : String} {number : Int}
    (h : lineAt? content number = some text) :
    ∃ k : Nat, number = k + 1 ∧ (Text.lines content.toList)[k]? = some text.toList := by
  unfold lineAt? at h
  split at h
  · cases h
  · obtain ⟨line, hline, rfl⟩ := Option.map_eq_some_iff.mp h
    exact ⟨(number - 1).toNat, by omega, by rwa [String.toList_ofList]⟩

theorem line_at_of_get {content text : String} {k : Nat}
    (h : (Text.lines content.toList)[k]? = some text.toList) :
    lineAt? content (k + 1) = some text := by
  rw [lineAt?, if_neg (by omega), show ((k : Int) + 1 - 1).toNat = k by omega, h, Option.map_some,
    String.ofList_toList]

end Template

/-- The candidate for a fault records text that was read from a file. -/
inductive Patch.TextFrom (f : Fault) (path content : String) (p : Patch) : Prop
  /-- A template records the line of the fault. -/
  | line (text new : String) (source : p.source = .template) (file : f.location.file = path)
      (read : Template.lineAt? content f.location.line = some text)
      (changes : p.changes = [⟨path, f.location.line, f.location.line, text, new⟩])
  /-- A reply that leaves out what it replaces records the lines of its range. -/
  | range (strategy reply : String) (stated : Patch) (c : Change) (source : p.source ≠ .template)
      (parse : FixReply.parse f strategy reply = .ok (some stated))
      (fix : stated.changes = [c]) (file : c.file = path) (absent : c.replaced = "")
      (changes : p.changes = [{ c with replaced := rangeText content c.first c.last }])

namespace Crew

variable {E : Type} (c : Crew E)

/-- A crew makes a candidate for a fault. -/
inductive Makes (s : Site E) (f : Fault) (p : Patch) : Prop
  | candidates {config : RepairConfig} {registry : Registry} {task : Generate.Task}
      {made : List Patch} (fault : task.fault = f)
      (run : (Generate.candidates config c.host registry task s).1 = .ok made) (mem : p ∈ made)
  | refine {config : RepairConfig} {codeContext : String} {failed made : List Patch}
      (run : (Generate.refine config c.host f codeContext failed s).1 = .ok made) (mem : p ∈ made)

/-- A file cannot be read at some moment while the files are as given. -/
def Unread (files : FileStore) (path : String) : Prop :=
  ∃ s e, s.files = files ∧ (c.read path s).1 = .error e

/-- What a change becomes once the text that it replaces is filled in: text that is stated stays,
and text that is missing is read unless the file cannot be. -/
inductive Filled (files : FileStore) (change : Change) : Change → Prop
  | stated : change.replaced ≠ "" → Filled files change change
  | unread : c.Unread files change.file → Filled files change change
  | read {content : String} : change.replaced = "" → files change.file = some content →
      Filled files change { change with
        replaced := rangeText content change.first change.last }

/-- The text that a candidate for a fault records is from the files, or as its reply states it. -/
def TextKnown (files : FileStore) (f : Fault) (p : Patch) : Prop :=
  (∃ path content, files path = some content ∧ p.TextFrom f path content) ∨
    p.source ≠ .template ∧ ∃ strategy reply stated change,
      FixReply.parse f strategy reply = .ok (some stated) ∧ stated.changes = [change] ∧
      p.changes = [change] ∧ (change.replaced ≠ "" ∨ c.Unread files change.file)

end Crew

/-- The files of a site are the given ones. -/
def Site.Holds {E : Type} (files : FileStore) (s : Site E) : Prop :=
  s.files = files

theorem Site.holds_of_untouched {E : Type} {files : FileStore} (s s' : Site E)
    (h : Site.Untouched s s') (hs : s.Holds files) : s'.Holds files :=
  h.files.trans hs

namespace Generate

variable {E : Type} {c : Crew E} {files : FileStore}

theorem readable_answers (path : String) :
    Answers (Site.Holds files) (fun found =>
        (∀ content, found = .ok (some content) → files path = some content) ∧
        (found = .ok none → c.Unread files path)) (c.host.readable path) := by
  intro s hs
  have hkept := (c.read_keeps path s).files
  refine ⟨((c.host.readable_keeps c.host_reads path s).files).trans hs, ?_⟩
  unfold Host.readable
  simp only [Crew.host, run_bind]
  cases hread : (c.read path s).1 with
  | ok text =>
      refine ⟨fun content hfound => ?_, fun hnone => ?_⟩
      · cases hfound
        exact hs ▸ c.read_eq_ok hread
      · cases hnone
  | error e =>
      simp only [run_pure]
      refine ⟨fun content hfound => ?_, fun _ => ⟨s, e, hs, hread⟩⟩
      split at hfound <;> cases hfound

theorem fill_replaced_answers (change : Change) :
    Answers (Site.Holds files) (fun made => ∀ change', made = .ok change' →
      c.Filled files change change') (fillReplaced c.host change) := by
  unfold fillReplaced
  by_cases hempty : change.replaced.isEmpty = true
  · rw [hempty]
    refine .bind (readable_answers change.file) fun found hfound => ?_
    rcases found with e | _ | content
    · exact .pure (by simp)
    · exact .pure fun change' hmade => Except.ok.inj hmade ▸ .unread (hfound.2 rfl)
    · refine .pure fun change' hmade => Except.ok.inj hmade ▸ ?_
      exact .read (String.isEmpty_iff.mp hempty) (hfound.1 content rfl)
  · rw [Bool.not_eq_true] at hempty
    rw [hempty]
    refine .pure fun change' hmade => Except.ok.inj hmade ▸ .stated fun habsent => ?_
    rw [habsent] at hempty
    cases hempty

theorem fill_replaceds_answers (changes : List Change) :
    Answers (Site.Holds files) (fun made => ∀ changes', made = .ok changes' →
      List.Forall₂ (c.Filled files) changes changes') (fillReplaceds c.host changes) := by
  induction changes with
  | nil => exact .pure fun changes' hmade => Except.ok.inj hmade ▸ .nil
  | cons change changes ih =>
      refine .bind (fill_replaced_answers change) fun made hmade => ?_
      cases made with
      | error e => exact .pure (by simp)
      | ok change' =>
          refine .bind ih fun others hothers => .pure fun changes' hall => ?_
          obtain ⟨rest, hrest, rfl⟩ := map_eq_ok hall
          exact .cons (hmade change' rfl) (hothers rest hrest)

/-- A candidate of a reply whose text is filled in has text of known origin. -/
theorem text_known_of_filled {f : Fault} {strategy reply : String} {stated p : Patch}
    (hparse : FixReply.parse f strategy reply = .ok (some stated))
    (hfilled : List.Forall₂ (c.Filled files) stated.changes p.changes)
    (hsource : p.source ≠ .template) : c.TextKnown files f p := by
  obtain ⟨_, _, change, hfix⟩ := FixReply.parse_offers hparse
  rw [hfix] at hfilled
  obtain ⟨change', hchanges, hone⟩ : ∃ change', p.changes = [change'] ∧
      c.Filled files change change' := by
    generalize p.changes = changes at hfilled
    cases hfilled with
    | cons hone hrest =>
        cases hrest
        exact ⟨_, rfl, hone⟩
  cases hone with
  | stated hsome =>
      exact .inr ⟨hsource, strategy, reply, stated, change, hparse, hfix, hchanges, .inl hsome⟩
  | unread hunread =>
      exact .inr ⟨hsource, strategy, reply, stated, change, hparse, hfix, hchanges, .inr hunread⟩
  | @read content hempty hfile =>
      exact .inl ⟨change.file, content, hfile,
        .range strategy reply stated change hsource hparse hfix rfl hempty hchanges⟩

theorem of_reply_answers (f : Fault) (strategy reply : String) :
    Answers (Site.Holds files) (fun made => ∀ p, made = .ok (some p) → p.source = .model ∧
        ∃ stated, FixReply.parse f strategy reply = .ok (some stated) ∧
          List.Forall₂ (c.Filled files) stated.changes p.changes)
      (ofReply c.host f strategy reply) := by
  unfold ofReply
  cases hparse : FixReply.parse f strategy reply with
  | error e => exact .pure (by simp)
  | ok found =>
      cases found with
      | none => exact .pure (by simp)
      | some stated =>
          refine .bind (fill_replaceds_answers stated.changes) fun filled hfilled => .pure ?_
          intro p hmade
          obtain ⟨changes, hchanges, hp⟩ := map_eq_ok hmade
          cases hp
          exact ⟨(FixReply.parse_offers hparse).1, stated, rfl, hfilled changes hchanges⟩

theorem model_stays {config : RepairConfig} : Stays (Site.Holds files) config c.host :=
  stays_of_asks c.host_asks Site.holds_of_untouched

/-- A template candidate records the line of the fault. -/
theorem templates_answers (registry : Registry) (task : Task) (budget : Int) :
    Answers (Site.Holds files) (Made (c.TextKnown files task.fault))
      (templates c.host registry task budget) := by
  unfold templates
  split
  · exact .pure Made.nil
  · refine .bind (readable_answers task.fault.location.file) fun found hfound => ?_
    rcases found with e | _ | content
    · exact .pure (Made.error e)
    · exact .pure Made.nil
    · dsimp only [Option.bind_some]
      split
      · exact .pure Made.nil
      · rename_i line hline
        refine .pure fun patches hpatches => ?_
        refine Template.of_strategies_forall (fun s _ new p hpatch => ?_)
          (lift_number_eq_ok hpatches)
        obtain ⟨trust, _, hmade⟩ := bind_eq_ok hpatch
        cases hmade
        exact .inl ⟨_, content, hfound.1 content rfl, .line line new rfl rfl hline rfl⟩

theorem candidates_answers (config : RepairConfig) (registry : Registry) (task : Task) :
    Answers (Site.Holds files) (Made (c.TextKnown files task.fault))
      (candidates config c.host registry task) := by
  refine candidates_made model_stays (templates_answers registry task) fun reply s hs => ?_
  obtain ⟨hkept, hmade⟩ := of_reply_answers task.fault FixReply.modelStrategy reply s hs
  refine ⟨hkept, fun p hp => ?_⟩
  obtain ⟨hsource, stated, hparse, hfilled⟩ := hmade p hp
  exact text_known_of_filled hparse hfilled (by simp [hsource])

theorem refine_answers (config : RepairConfig) (f : Fault) (codeContext : String)
    (failed : List Patch) :
    Answers (Site.Holds files) (Made (c.TextKnown files f))
      (refine config c.host f codeContext failed) := by
  refine refine_made model_stays (fun reply s hs => ?_) codeContext failed
  obtain ⟨hkept, hmade⟩ := of_reply_answers f refinedStrategy reply s hs
  refine ⟨hkept, fun p hp => ?_⟩
  obtain ⟨_, stated, hparse, hfilled⟩ := hmade p hp
  exact text_known_of_filled hparse hfilled (by simp)

end Generate

/-- The text that a candidate records is of known origin, whoever makes it. -/
theorem Crew.Makes.text_known {E : Type} {c : Crew E} {s : Site E} {f : Fault} {p : Patch}
    (h : c.Makes s f p) : c.TextKnown s.files f p := by
  cases h with
  | candidates hfault hrun hmem =>
      exact hfault ▸ (Generate.candidates_answers _ _ _ s rfl).2 _ hrun p hmem
  | refine hrun hmem => exact (Generate.refine_answers _ _ _ _ s rfl).2 _ hrun p hmem

end Mender
