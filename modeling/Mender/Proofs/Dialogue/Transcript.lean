import Mathlib.Data.List.SplitBy
import Mender.Dialogue.Service
import Mender.Proofs.Text.Pieces

/-!
# Transcripts as messages

The messages that are made of a transcript are its runs of turns of one speaker, each with all that
its turns say and in their order (`Transcript.merged_tells`). So speakers take turns in them, the
first speaker of the transcript speaks first, and the last one last. `Transcript.formed` says so of
every request.
-/

namespace Mender

/-- The first of several texts stands in front of the others. -/
theorem Text.joined_cons (mark first second : String) (texts : List String) :
    joined mark (first :: second :: texts) = first ++ mark ++ joined mark (second :: texts) := by
  rw [← String.toList_inj]
  simp [joined, join_text_cons]

theorem Text.joined_singleton (mark text : String) : joined mark [text] = text := by
  simp [joined, joinText]

namespace Transcript

/-- The runs of turns of one speaker, each as long as it can be. -/
def runs (ts : List Turn) : List (List Turn) :=
  ts.splitBy fun t u => t.role == u.role

/-- A message tells what the turns of a run say, as the speaker of them all: their contents in their
order, with blank lines between them. -/
structure Tells (run : List Turn) (m : Turn) : Prop where
  role : ∀ t ∈ run, t.role = m.role
  content : m.content = Text.joined gap (run.map (·.content))

section Runs

variable {t u : Turn} {us : List Turn}

/-- The first run begins with the first turn. -/
theorem runs_cons (u : Turn) (us : List Turn) :
    ∃ run rest, runs (u :: us) = (u :: run) :: rest := by
  obtain ⟨run, rest, hruns⟩ : ∃ run rest, runs (u :: us) = run :: rest :=
    List.exists_cons_of_ne_nil (List.splitBy_ne_nil.mpr (List.cons_ne_nil u us))
  have hin : run ∈ runs (u :: us) := hruns ▸ List.mem_cons_self
  obtain ⟨v, run, rfl⟩ := List.exists_cons_of_ne_nil (List.ne_nil_of_mem_splitBy hin)
  have hflatten : (runs (u :: us)).flatten = u :: us := List.flatten_splitBy _ _
  rw [hruns, List.flatten_cons, List.cons_append] at hflatten
  obtain ⟨rfl, _⟩ := List.cons_eq_cons.mp hflatten
  exact ⟨run, rest, hruns⟩

/-- A turn in front of one of another speaker is a run of its own. -/
theorem runs_cons_of_ne (h : t.role ≠ u.role) : runs (t :: u :: us) = [t] :: runs (u :: us) := by
  have hapart : ∀ x ∈ [t].getLast?, (x.role == u.role) = false := by
    simpa using h
  exact List.splitBy_append_cons (r := fun t u : Turn => t.role == u.role) us hapart

/-- A turn in front of one of its speaker joins the run of it. -/
theorem runs_cons_of_eq (h : t.role = u.role) {run : List Turn} {rest : List (List Turn)}
    (hruns : runs (u :: us) = (u :: run) :: rest) :
    runs (t :: u :: us) = (t :: u :: run) :: rest := by
  obtain ⟨hflatten, hnil, hspeakers, hborders⟩ := List.splitBy_eq_iff.mp hruns
  obtain ⟨hfirst, hspeakers⟩ := List.forall_mem_cons.mp hspeakers
  refine List.splitBy_eq_iff.mpr ⟨?_, ?_, ?_, ?_⟩
  · rw [hflatten]
    rfl
  · simpa using hnil
  · exact List.forall_mem_cons.mpr ⟨List.isChain_cons_cons.mpr ⟨by simpa using h, hfirst⟩,
      hspeakers⟩
  · rw [List.isChain_cons] at hborders ⊢
    refine ⟨fun next hnext => ?_, hborders.2⟩
    obtain ⟨_, hnextsome, hborder⟩ := hborders.1 next hnext
    exact ⟨List.cons_ne_nil _ _, hnextsome, by simpa using hborder⟩

end Runs

/-- A turn whose speaker is that of the first message is joined to it. -/
theorem prepend_of_eq {t m : Turn} (h : m.role = t.role) (ms : List Turn) :
    prepend t (m :: ms) = ⟨t.role, t.content ++ gap ++ m.content⟩ :: ms :=
  if_pos h

theorem prepend_of_ne {t m : Turn} (h : m.role ≠ t.role) (ms : List Turn) :
    prepend t (m :: ms) = t :: m :: ms :=
  if_neg h

/-- Each message tells what one run of turns says, and all runs are told in their order. -/
theorem merged_tells (ts : List Turn) : List.Forall₂ Tells (runs ts) (merged ts) := by
  -- by induction on the turns from the last one back, as messages are made
  induction ts with
  | nil => exact .nil
  | cons t ts ih =>
      have halone : Tells [t] t := ⟨by simp, by simp [Text.joined_singleton]⟩
      cases ts with
      | nil => exact .cons halone .nil
      | cons u us =>
          obtain ⟨run, rest, hruns⟩ := runs_cons u us
          rw [hruns] at ih
          generalize hmessages : merged (u :: us) = messages at ih
          obtain _ | @⟨_, m, _, ms, htells, hrest⟩ := ih
          have hspeaker : u.role = m.role := htells.role u List.mem_cons_self
          rw [merged, hmessages]
          -- the first message has the speaker of the first turn, so both join it or neither does
          by_cases hsame : t.role = u.role
          · rw [runs_cons_of_eq hsame hruns, prepend_of_eq (hspeaker.symm.trans hsame.symm)]
            refine .cons ⟨?_, ?_⟩ hrest
            · refine List.forall_mem_cons.mpr ⟨rfl, fun v hv => ?_⟩
              exact (htells.role v hv).trans (hspeaker.symm.trans hsame.symm)
            · rw [htells.content]
              exact (Text.joined_cons _ _ _ _).symm
          · rw [runs_cons_of_ne hsame, prepend_of_ne (fun h => hsame (hspeaker.trans h).symm),
              hruns]
            exact .cons halone (.cons htells hrest)

/-- Speakers take turns in messages. -/
theorem merged_alternate (ts : List Turn) :
    (merged ts).IsChain fun m m' => m.role ≠ m'.role := by
  induction ts with
  | nil => exact .nil
  | cons t ts ih =>
      rw [merged]
      cases hmessages : merged ts with
      | nil => exact .singleton t
      | cons m ms =>
          rw [hmessages] at ih
          by_cases hsame : m.role = t.role
          · rw [prepend_of_eq hsame]
            rw [List.isChain_cons] at ih ⊢
            exact ⟨fun m' hm' => hsame ▸ ih.1 m' hm', ih.2⟩
          · rw [prepend_of_ne hsame]
            exact List.isChain_cons_cons.mpr ⟨Ne.symm hsame, ih⟩

/-- Whoever speaks first in a transcript speaks first in its messages. -/
theorem merged_head_role (ts : List Turn) :
    (merged ts).head?.map (·.role) = ts.head?.map (·.role) := by
  cases ts with
  | nil => rfl
  | cons t ts =>
      rw [merged]
      cases merged ts with
      | nil => rfl
      | cons m ms =>
          by_cases hsame : m.role = t.role
          · rw [prepend_of_eq hsame]
            rfl
          · rw [prepend_of_ne hsame]
            rfl

/-- Whoever speaks last in a transcript speaks last in its messages. -/
theorem merged_last_role (ts : List Turn) :
    (merged ts).getLast?.map (·.role) = ts.getLast?.map (·.role) := by
  induction ts with
  | nil => rfl
  | cons t ts ih =>
      have hprepend : (prepend t (merged ts)).getLast?.map (·.role) =
          (t :: merged ts).getLast?.map (·.role) := by
        cases merged ts with
        | nil => rfl
        | cons m ms =>
            by_cases hsame : m.role = t.role
            · rw [prepend_of_eq hsame, List.getLast?_cons_cons]
              cases ms <;> simp [hsame]
            · rw [prepend_of_ne hsame]
      rw [merged, hprepend, List.getLast?_cons, List.getLast?_cons, Option.map_some,
        Option.map_some, ← Option.getD_map Turn.role, ← Option.getD_map Turn.role, ih]

/-- The turns of a request that the system does not speak. -/
def spoken (r : Request) : List Turn :=
  r.history.filter (·.role ≠ .system) ++ [⟨.user, r.prompt⟩]

theorem messages_eq (r : Request) : messages r = merged (spoken r) := by
  simp [messages, turns, spoken]

/-- A request is told to a service in good form. -/
structure Formed (r : Request) : Prop where
  /-- What the system says is told in its order, with blank lines between its turns. -/
  system : Transcript.system r =
    Text.joined gap ((r.history.filter (·.role = .system)).map (·.content))
  /-- The messages are the runs of all other turns and the prompt. -/
  tells : List.Forall₂ Tells (runs (spoken r)) (messages r)
  /-- The runs leave out no turn and keep the order of turns. -/
  whole : (runs (spoken r)).flatten = spoken r
  alternate : (messages r).IsChain fun m m' => m.role ≠ m'.role
  last : (messages r).getLast?.map (·.role) = some .user

theorem formed (r : Request) : Formed r where
  system := by simp [Transcript.system, turns]
  tells := messages_eq r ▸ merged_tells _
  whole := List.flatten_splitBy _ _
  alternate := messages_eq r ▸ merged_alternate _
  last := by simp [messages_eq, merged_last_role, spoken]

end Transcript

end Mender
