import Mender.Proofs.Host.Keeps
import Mender.Proofs.Learning.History
import Mender.Session.Engine

/-!
# Repairs one after another

An engine keeps the latest of the sessions that its repairs make, and a learning store the latest of
its history. What is kept is bounded by the limit, except that a limit with no half, or no session,
is no limit: nothing is cut off then (`Engine.histories_keep_latest`).
-/

namespace Mender

open LearnedEntry (index)

/-- What a repair is called with. -/
structure Engine.Call where
  output : String
  hint : Option String
  coverage : Option Coverage

namespace Engine

/-- Repairs one after another, with what each of them gave. -/
def repairs {m : Type → Type} [Monad m] (host : Host m) :
    Engine → List Call → m (Engine × List (Except Failure (List RepairResult)))
  | e, [] => return (e, [])
  | e, c :: cs => do
    let (e, given) ← repair host e c.output c.hint c.coverage
    let (e, others) ← repairs host e cs
    return (e, given :: others)

/-- What is kept of sessions that are stored one after another. -/
def storedSessions (limit : Int) (kept made : List Session) : List Session :=
  made.foldl (fun kept session => keptSessions limit (kept ++ [session])) kept

section Sessions

variable {limit : Int}

/-- Without room for any session all of them are kept. -/
theorem stored_sessions_zero (kept made : List Session) :
    storedSessions 0 kept made = kept ++ made := by
  induction made generalizing kept with
  | nil => simp [storedSessions]
  | cons session made ih =>
      have hall : keptSessions 0 (kept ++ [session]) = kept ++ [session] := by
        unfold keptSessions onwards
        split <;> rfl
      rw [storedSessions, List.foldl_cons, hall, ← storedSessions, ih, List.append_assoc]
      rfl

/-- The latest sessions are kept, as many as there is room for. -/
theorem stored_sessions_latest {limit : Nat} (hlimit : 0 < limit) (made : List Session) :
    storedSessions limit [] made = made.drop (made.length - limit) := by
  induction made using List.reverseRecOn with
  | nil => simp [storedSessions]
  | append_singleton made session ih =>
      have hlength : (made.drop (made.length - limit) ++ [session]).length =
          min made.length limit + 1 := by
        rw [List.length_append, List.length_drop, List.length_singleton]
        omega
      rw [storedSessions, List.foldl_concat, ← storedSessions, ih, keptSessions, hlength,
        List.length_append, List.length_singleton, List.drop_append_of_le_length (by omega)]
      by_cases hfull : limit ≤ made.length
      · have hplace : place (min made.length limit + 1) (-limit) = 1 := by
          rw [place_of_neg (by omega)]
          omega
        rw [if_pos (by omega), onwards, hlength, hplace, List.drop_append_of_le_length
          (by rw [List.length_drop]; omega), List.drop_drop, Nat.sub_add_comm hfull]
      · rw [if_neg (by omega), show made.length - limit = made.length + 1 - limit by omega]

end Sessions

variable {σ : Type}

/-- A repair keeps the options, and stores a session exactly if it gives results. -/
theorem repair_stores (host : Host (StateM σ)) (e : Engine) (c : Call) (s : σ) :
    ∃ e' given s', repair host e c.output c.hint c.coverage s = ((e', given), s') ∧
      e'.config = e.config ∧ ∃ made : List Session,
        made.map (·.results) = given.toOption.toList ∧
        e'.sessions = storedSessions e.config.maxSessions e.sessions made := by
  rw [repair, run_bind]
  rcases Session.run ⟨e.config, host, c.hint⟩ e.localization e.memory c.output c.coverage s with
    ⟨⟨memory, f | session⟩, s'⟩
  · exact ⟨_, _, _, rfl, rfl, [], rfl, rfl⟩
  · exact ⟨_, _, _, rfl, rfl, [session], rfl, rfl⟩

/-- Of the sessions that repairs make those that are stored one after another are kept. -/
theorem repairs_store (host : Host (StateM σ)) (e : Engine) (calls : List Call) (s : σ) :
    ∃ e' given s', repairs host e calls s = ((e', given), s') ∧ e'.config = e.config ∧
      ∃ made : List Session, made.map (·.results) = given.filterMap Except.toOption ∧
        e'.sessions = storedSessions e.config.maxSessions e.sessions made := by
  induction calls generalizing e s with
  | nil => exact ⟨e, [], s, rfl, rfl, [], rfl, rfl⟩
  | cons c cs ih =>
      obtain ⟨e₁, given, s₁, hfirst, hconfig, made, hmade, hstored⟩ := repair_stores host e c s
      obtain ⟨e', others, s', hothers, hsame, later, hlater, hkept⟩ := ih e₁ s₁
      refine ⟨e', given :: others, s', ?_, hsame.trans hconfig, made ++ later, ?_, ?_⟩
      · rw [repairs]
        simp only [run_bind, hfirst, hothers]
        rfl
      · rw [List.map_append, hmade, hlater]
        cases given <;> rfl
      · rw [hkept, hstored, hconfig, storedSessions, storedSessions, storedSessions,
          List.foldl_append]

/-- A learning store holds the latest of what there was to remember, and an engine the latest of the
sessions that its repairs made. A store is bounded by its cap when half of that is something, and
the sessions by their number when there is room for one; otherwise everything is kept, however much
it is. -/
theorem histories_keep_latest (cap : Nat) (threshold : Float) (ops : List LearningStore.Operation)
    (maxSessions : Nat) (host : Host (StateM σ)) (config : RepairConfig)
    (registry : Option Registry) (learning : Option LearningStore) (calls : List Call) (s : σ) :
    let store := LearningStore.run { cap, threshold } ops
    let history := LearningStore.historyOf ops
    let ended := (repairs host (create { config with maxSessions } registry learning) calls s).1
    (store.records <:+ history.records ∧ store.failures <:+ history.failures ∧
      ∃ known, known <:+ history.learned ∧ store.strategies = index (·.strategy) known ∧
        store.messages = index (·.message) known) ∧
    (2 ≤ cap → store.records.length ≤ cap ∧ store.failures.length ≤ cap ∧
      store.strategies.length ≤ cap ∧ store.messages.length ≤ cap) ∧
    (cap < 2 → store.records = history.records ∧ store.failures = history.failures ∧
      store.strategies = index (·.strategy) history.learned ∧
      store.messages = index (·.message) history.learned) ∧
    ∃ made : List Session, made.map (·.results) = ended.2.filterMap Except.toOption ∧
      ended.1.sessions <:+ made ∧
      (0 < maxSessions → ended.1.sessions.length = min made.length maxSessions) ∧
      (maxSessions = 0 → ended.1.sessions = made) := by
  intro store history ended
  obtain ⟨hcap, hs⟩ := LearningStore.run_remembers (Int.natCast_nonneg cap) threshold ops
  obtain ⟨known, hknown, hstrategies, hmessages⟩ := hs.known
  have hrecords := hs.records
  have hfailures := hs.failures
  rw [hcap] at hknown hrecords hfailures
  obtain ⟨e', given, s', hrun, _, made, hmade, hstored⟩ := repairs_store host
    (create { config with maxSessions } registry learning) calls s
  have hgiven : ended.2 = given := congrArg (·.1.2) hrun
  have hkept : ended.1.sessions = storedSessions maxSessions [] made :=
    (congrArg (·.1.1.sessions) hrun).trans hstored
  have hnone : maxSessions = 0 → ended.1.sessions = made := by
    rintro rfl
    exact hkept.trans (stored_sessions_zero [] made)
  have hlatest : 0 < maxSessions →
      ended.1.sessions = made.drop (made.length - maxSessions) := fun hroom =>
    hkept.trans (stored_sessions_latest hroom made)
  refine ⟨⟨hrecords.latest, hfailures.latest, known, hknown.latest, hstrategies, hmessages⟩,
    fun hlarge => ?_, fun hsmall => ?_, made, hgiven ▸ hmade, ?_, fun hroom => ?_, hnone⟩
  · have hbound : (2 : Int) ≤ cap := by omega
    have hsize : known.length ≤ cap := Int.ofNat_le.mp (hknown.bounded hbound)
    refine ⟨Int.ofNat_le.mp (hrecords.bounded hbound), Int.ofNat_le.mp (hfailures.bounded hbound),
      ?_, ?_⟩
    · rwa [hstrategies, index, List.length_map]
    · rwa [hmessages, index, List.length_map]
  · -- half of such a cap is zero, so nothing is ever dropped
    have hbound : (cap : Int) < 2 := by omega
    obtain rfl := hknown.unbounded hbound
    exact ⟨hrecords.unbounded hbound, hfailures.unbounded hbound, hstrategies, hmessages⟩
  · rcases Nat.eq_zero_or_pos maxSessions with hzero | hroom
    · rw [hnone hzero]
    · rw [hlatest hroom]
      exact List.drop_suffix _ _
  · rw [hlatest hroom, List.length_drop]
    omega

/-- A store for nothing keeps a record and an entry, and an engine for no session a session. -/
theorem histories_grow_without_room :
    let store := LearningStore.run { cap := 0, threshold := 0.75 }
      [.success (.ofFirstLine "a.py") (.ofFirstLine "a.py" "x = 2") [] "",
        .failure (.ofFirstLine "a.py") (.ofFirstLine "a.py" "x = 3")]
    let ended := repairs (Crew.steady (fun _ _ => none) (.value { success := true })).host
      (create { maxSessions := 0 } none none) [⟨"", none, none⟩] (Site.single "a.py" "x = 1\n")
    store.records.length = 1 ∧ store.failures.length = 1 ∧ store.strategies.length = 1 ∧
      ended.1.1.sessions.length = 1 := by
  decide +kernel

end Engine

end Mender
