import MusicCloud.Ledgers
import MusicCloud.Effects

/-!
Like statistics over whole runs. The reactions to a song are the ledger of the
likes and dislikes of it; a start should clear the ledger of the song that
starts, but the code deletes the reactions to the song that ends.
-/
namespace MusicCloud
open Runs Tables Ledgers

namespace Server
variable {s t : Server}

section Ledger

def becomesActive (e : Server × Call) (songID : Int) : Prop :=
  e.1.activeSong.map (fun a => a.id) ≠ some songID ∧
    (e.1.call e.2).activeSong.map (fun a => a.id) = some songID

/-- Sessions whose most recent reaction to the song, made since the song last
    became active, has this value. -/
def reactedWith (start : Server) (calls : List Call) (songID value : Int) : Set Int :=
  {sessionID | ∃ before e after, trace call start calls = before ++ e :: after ∧
    reaction e.2 = some (sessionID, songID, value) ∧ ∀ later ∈ after,
      (∀ other, reaction later.2 ≠ some (sessionID, songID, other)) ∧
      ¬ becomesActive later songID}

/-- In the state that the calls lead to, `getStats` counts the sessions whose
    most recent reaction of the current play is a like, or a dislike. -/
def StatsCurrent (start : Server) (calls : List Call) : Prop :=
  ∀ active, (run call start calls).activeSong = some active → ∃ stats t,
    getStats (run call start calls) = .ok stats t ∧ stats.id = active.id ∧
    stats.likes = (reactedWith start calls active.id 1).ncard ∧
    stats.dislikes = (reactedWith start calls active.id (-1)).ncard

/-- A song that starts has no reactions stored for it. -/
def StartsUnjudged (s : Server) (c : Call) : Prop :=
  ∀ next, s.startsNext c = some next → ∀ l ∈ s.db.likes, l.song_id ≠ next.id

def reactionTo (songID : Int) (e : Server × Call) : Option (Int × Int) :=
  match reaction e.2 with
  | some (sessionID, song, value) => if song = songID then some (sessionID, value) else none
  | none => none

abbrev ReactionRecords (songID : Int) (likes : List LikeRow) (events : List (Server × Call)) :
    Prop :=
  Records (reactionTo songID) (fun e _ _ => becomesActive e songID) LikeRow.session_id
    LikeRow.value (likes.filter fun l => l.song_id = songID) events

theorem reactionTo_eq_some {songID sessionID value : Int} {e : Server × Call} :
    reactionTo songID e = some (sessionID, value) ↔
      reaction e.2 = some (sessionID, songID, value) := by
  unfold reactionTo
  rcases reaction e.2 with _ | ⟨session, song, v⟩
  · simp
  · by_cases same : song = songID <;> simp [same]

theorem mem_reactedWith {start : Server} {calls : List Call} {songID value sessionID : Int} :
    sessionID ∈ reactedWith start calls songID value ↔
      Standing (reactionTo songID) (fun e _ _ => becomesActive e songID)
        (trace call start calls) sessionID value := by
  simp only [reactedWith, Set.mem_ofPred_eq, Standing, ← reactionTo_eq_some, ne_eq]

theorem value_of_reaction {c : Call} {sessionID songID value : Int}
    (h : reaction c = some (sessionID, songID, value)) : value = 1 ∨ value = -1 := by
  unfold reaction at h
  split at h
  · split at h
    · cases h
    · cases h
      exact Or.inl rfl
  · split at h
    · cases h
    · cases h
      exact Or.inr rfl
  · cases h

theorem likes_insertLike (sessionID songID value : Int) (db : Database) (song : Int) :
    ∃ rowid, (db.insertLike sessionID songID value).likes.filter (fun l => l.song_id = song) =
      if songID = song then insertOrReplace LikeRow.session_id
        { rowid := rowid, session_id := sessionID, song_id := songID, value := value }
        (db.likes.filter fun l => l.song_id = song)
      else db.likes.filter fun l => l.song_id = song := by
  refine ⟨freshRowid (db.likes.map LikeRow.rowid), ?_⟩
  simp only [Database.insertLike, insertOrReplace, List.filter_append, List.filter_filter]
  by_cases same : songID = song
  · rw [if_pos same]
    congr 1
    · refine List.filter_congr fun l _ => ?_
      by_cases own : l.song_id = song <;> simp [own, same]
    · simp [same]
  · rw [if_neg same]
    have last : ([{ rowid := freshRowid (db.likes.map LikeRow.rowid), session_id := sessionID
                    song_id := songID, value := value }] : List LikeRow).filter
        (fun l => l.song_id = song) = [] := by simp [same]
    rw [last, List.append_nil]
    refine List.filter_congr fun l _ => ?_
    by_cases own : l.song_id = song <;> simp [own, Ne.symm same]

theorem reaction_of_starts {c : Call} {next : Song} (starts : s.startsNext c = some next) :
    reaction c = none := by
  cases c with
  | speakerStatusUpdate => rfl
  | _ => cases starts

section Step
variable (agrees : s.playback.Agrees) (positive : ∀ r ∈ s.db.songs, 0 < r.id)
include agrees positive

theorem reactionRecords_call {c : Call} {events : List (Server × Call)}
    (unjudged : s.StartsUnjudged c)
    (records : ∀ active, s.activeSong = some active →
      ReactionRecords active.id s.db.likes events) {active : ActiveSong}
    (running : (s.call c).activeSong = some active) :
    ReactionRecords active.id (s.call c).db.likes (events ++ [(s, c)]) := by
  have ids : (s.call c).activeSong.map (fun a => a.id) = some active.id := by rw [running]; rfl
  cases starts : s.startsNext c with
  | some next =>
    obtain ⟨selected, -, likes, started⟩ := call_started agrees positive starts
    have same : next.id = active.id := Option.some.inj (started.symm.trans ids)
    have silent : reactionTo active.id (s, c) = none := by
      simp only [reactionTo, reaction_of_starts starts]
    have before : s.activeSong.map (fun a => a.id) ≠ some active.id := by
      intro already
      obtain ⟨old, hold, oid⟩ := Option.map_eq_some_iff.mp already
      exact next_not_active agrees ⟨next, selected, same.symm⟩ ⟨old, hold, oid.symm⟩
    have none_left : (s.call c).db.likes.filter (fun l => l.song_id = active.id) = [] := by
      rw [likes, List.filter_eq_nil_iff]
      intro l hl own
      exact unjudged next starts l (List.mem_filter.mp hl).1 (same ▸ of_decide_eq_true own)
    rw [ReactionRecords, none_left]
    exact records_cleared silent fun _ _ => ⟨before, ids⟩
  | none =>
    have kept := call_unstarted agrees starts
    have same : s.activeSong.map (fun a => a.id) = some active.id := by
      rw [← ids, kept.active, stored_activeSong]
    obtain ⟨old, hold, oid⟩ := Option.map_eq_some_iff.mp same
    have earlier := records old hold
    rw [oid] at earlier
    have clean : ∀ _ _ : Int, ¬ becomesActive (s, c) active.id := fun _ _ becomes => becomes.1 same
    rw [ReactionRecords, kept.likes, stored_likes]
    cases made : reaction c with
    | none =>
      have silent : reactionTo active.id (s, c) = none := by simp only [reactionTo, made]
      exact earlier.skip silent clean
    | some r =>
      obtain ⟨sessionID, songID, value⟩ := r
      obtain ⟨rowid, rows⟩ := likes_insertLike sessionID songID value s.db active.id
      dsimp only
      rw [rows]
      by_cases own : songID = active.id
      · rw [if_pos own]
        exact earlier.put (reactionTo_eq_some.mpr (own ▸ made)) clean
      · rw [if_neg own]
        exact earlier.skip (by simp only [reactionTo, made, if_neg own]) clean

theorem likes_values_call (values : ∀ l ∈ s.db.likes, l.value = 1 ∨ l.value = -1) (c : Call) :
    ∀ l ∈ (s.call c).db.likes, l.value = 1 ∨ l.value = -1 := by
  intro l hl
  cases starts : s.startsNext c with
  | some next =>
    obtain ⟨-, -, likes, -⟩ := call_started agrees positive starts
    rw [likes] at hl
    exact values l (List.mem_filter.mp hl).1
  | none =>
    rw [(call_unstarted agrees starts).likes, stored_likes] at hl
    cases made : reaction c with
    | none => exact values l (by simpa only [made] using hl)
    | some r =>
      obtain ⟨sessionID, songID, value⟩ := r
      simp only [made, Database.insertLike] at hl
      rcases (mem_insertOrReplace _).mp hl with rfl | ⟨old, -⟩
      · exact value_of_reaction made
      · exact values l old

end Step

section Run
variable (music : List MusicRow) (clock : Nat)

theorem likes_values_run (calls : List Call) :
    ∀ l ∈ (run call (start music clock) calls).db.likes, l.value = 1 ∨ l.value = -1 := by
  induction calls using List.reverseRecOn with
  | nil => simp [start, Database.create]
  | append_singleton calls c ih =>
    rw [run_concat]
    exact likes_values_call (agrees_run music clock calls) (positive_run music clock calls) ih c

theorem reactionRecords_run (calls : List Call)
    (unjudged : StepsMeet call StartsUnjudged (start music clock) calls) {active : ActiveSong}
    (running : (run call (start music clock) calls).activeSong = some active) :
    ReactionRecords active.id (run call (start music clock) calls).db.likes
      (trace call (start music clock) calls) := by
  induction calls using List.reverseRecOn generalizing active with
  | nil => cases running
  | append_singleton calls c ih =>
    obtain ⟨before, now⟩ := (stepsMeet_concat call StartsUnjudged _ calls c).mp unjudged
    rw [run_concat] at running ⊢
    rw [trace_concat]
    exact reactionRecords_call (agrees_run music clock calls) (positive_run music clock calls) now
      (fun _ => ih before) running

theorem statsCurrent_of_records {calls : List Call}
    (records : ∀ active, (run call (start music clock) calls).activeSong = some active →
      ReactionRecords active.id (run call (start music clock) calls).db.likes
        (trace call (start music clock) calls)) :
    StatsCurrent (start music clock) calls := by
  intro active running
  have agrees := agrees_run music clock calls
  have nonneg : 0 ≤ active.id := by
    obtain ⟨r, hr, id⟩ := agrees.listed active.toSong (by simp [playback, running])
    have := positive_run music clock calls r hr
    omega
  obtain ⟨balance, stats⟩ := getStats_active agrees running nonneg
  have ledger := records active running
  have counted : ∀ (p : Int → Bool) (value : Int), (p 1 = true ↔ (1 : Int) = value) →
      (p (-1) = true ↔ (-1 : Int) = value) →
      (run call (start music clock) calls).db.likes.countP
        (fun l => decide (l.song_id = active.id) && p l.value) =
      (reactedWith (start music clock) calls active.id value).ncard := by
    intro p value likes dislikes
    have count := ledger.count (fun l => p l.value) (fun _ v => p v = true) (fun _ => Iff.rfl)
    rw [List.countP_filter] at count
    have sessions : {sessionID | ∃ v, Standing (reactionTo active.id)
        (fun e _ _ => becomesActive e active.id) (trace call (start music clock) calls)
          sessionID v ∧ p v = true} =
        reactedWith (start music clock) calls active.id value := by
      ext sessionID
      rw [mem_reactedWith, Set.mem_ofPred_eq]
      constructor
      · rintro ⟨v, standing, hv⟩
        obtain ⟨before, e, after, split, put, since⟩ := standing
        have same : v = value := by
          rcases value_of_reaction (reactionTo_eq_some.mp put) with rfl | rfl
          · exact likes.mp hv
          · exact dislikes.mp hv
        exact same ▸ ⟨before, e, after, split, put, since⟩
      · intro standing
        refine ⟨value, standing, ?_⟩
        obtain ⟨before, e, after, split, put, since⟩ := standing
        rcases value_of_reaction (reactionTo_eq_some.mp put) with rfl | rfl
        · exact likes.mpr rfl
        · exact dislikes.mpr rfl
    rw [sessions] at count
    rw [← count]
    exact List.countP_congr fun l _ => by simp [and_comm]
  refine ⟨_, _, stats, rfl, ?_, ?_⟩
  · exact congrArg Nat.cast (counted (fun v => decide (v > 0)) 1 (by decide) (by decide))
  · exact congrArg Nat.cast (counted (fun v => decide (v < 0)) (-1) (by decide) (by decide))

theorem reactedWith_started {start : Server} {calls : List Call} {c : Call} {songID : Int}
    (starts : becomesActive (run call start calls, c) songID) (silent : reaction c = none)
    (value : Int) : reactedWith start (calls ++ [c]) songID value = ∅ := by
  ext sessionID
  rw [mem_reactedWith, trace_concat, standing_concat]
  simp [reactionTo, silent, starts]

theorem not_statsCurrent_of_judged {calls : List Call} {c : Call}
    (judged : ¬ (run call (start music clock) calls).StartsUnjudged c) :
    ¬ StatsCurrent (start music clock) (calls ++ [c]) := by
  intro current
  have agrees := agrees_run music clock calls
  obtain ⟨next, starts, l, hl, own⟩ : ∃ next, (run call (start music clock) calls).startsNext c =
      some next ∧ ∃ l ∈ (run call (start music clock) calls).db.likes, l.song_id = next.id := by
    simpa [StartsUnjudged] using judged
  obtain ⟨selected, -, likes, ids⟩ := call_started agrees (positive_run music clock calls) starts
  have idle : (run call (start music clock) calls).activeSong.map (fun a => a.id) ≠ some next.id := by
    intro already
    obtain ⟨old, hold, oid⟩ := Option.map_eq_some_iff.mp already
    exact next_not_active agrees ⟨next, selected, rfl⟩ ⟨old, hold, oid.symm⟩
  have empty : ∀ value, reactedWith (start music clock) (calls ++ [c]) next.id value = ∅ :=
    reactedWith_started ⟨idle, ids⟩ (reaction_of_starts starts)
  rw [← run_concat call] at likes ids
  obtain ⟨active, running, aid⟩ := Option.map_eq_some_iff.mp ids
  obtain ⟨stats, t, result, -, liked, disliked⟩ := current active running
  have kept : l ∈ (run call (start music clock) (calls ++ [c])).db.likes := by
    rw [likes]
    exact List.mem_filter.mpr ⟨hl, by simpa [own] using idle⟩
  have nonneg : 0 ≤ active.id := by
    obtain ⟨r, hr, id⟩ := (agrees_run music clock (calls ++ [c])).listed active.toSong
      (by simp [playback, running])
    have := positive_run music clock (calls ++ [c]) r hr
    omega
  obtain ⟨balance, exact_stats⟩ :=
    getStats_active (agrees_run music clock (calls ++ [c])) running nonneg
  rw [exact_stats] at result
  cases result
  rw [aid, empty, Set.ncard_empty] at liked disliked
  have unliked := List.countP_eq_zero.mp (Int.natCast_eq_zero.mp liked) l kept
  have undisliked := List.countP_eq_zero.mp (Int.natCast_eq_zero.mp disliked) l kept
  rcases likes_values_run music clock (calls ++ [c]) l kept with value | value
  · simp [own, value] at unliked
  · simp [own, value] at undisliked

end Run

end Ledger

end Server
/-- The like statistics belong to the current play in every state of a run
    exactly when no song of the run starts with reactions stored for it. -/
theorem stats_current_iff (music : List MusicRow) (clock : Nat) (calls : List Call) :
    (∀ ran, ran <+: calls → Server.StatsCurrent (.start music clock) ran) ↔
      StepsMeet Server.call Server.StartsUnjudged (.start music clock) calls := by
  constructor
  · intro current
    induction calls using List.reverseRecOn with
    | nil => trivial
    | append_singleton calls c ih =>
      refine (stepsMeet_concat _ _ _ _ _).mpr ⟨ih fun ran before => ?_, ?_⟩
      · exact current ran (before.trans (List.prefix_append calls [c]))
      · by_contra judged
        exact Server.not_statsCurrent_of_judged music clock judged (current _ (List.prefix_refl _))
  · rintro unjudged ran ⟨rest, rfl⟩
    have before := ((stepsMeet_append _ _ _ ran rest).mp unjudged).1
    exact Server.statsCurrent_of_records music clock fun _ running =>
      Server.reactionRecords_run music clock ran before running

def likedEarlyCalls : List Call :=
  startedCalls ++ [.like 2 5, .speakerStatusUpdate 1 (some { id := 1, status := some .Stopped })]

/-- When the second song starts, that like is counted for it. -/
theorem early_like_counted :
    ¬ ∀ (music : List MusicRow) (clock : Nat) (calls : List Call),
      Server.StatsCurrent (.start music clock) calls := by
  intro always
  have judged : ¬ (run Server.call (.start twoSongs 0) likedEarlyCalls).StartsUnjudged
      (.speakerStatusUpdate 1 (some { id := 2, status := some .Playing })) := by
    intro unjudged
    exact unjudged _ rfl _ (List.mem_singleton_self _) rfl
  exact Server.not_statsCurrent_of_judged twoSongs 0 judged (always _ _ _)

end MusicCloud
