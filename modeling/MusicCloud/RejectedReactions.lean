import MusicCloud.Effects

/-!
Likes and dislikes that end with an exception. The row is written before the
statistics are made and before a song is skipped, and the skip gives up the timer
task before it selects a song. Only the check of the arguments comes before.
-/
namespace MusicCloud
open Runs

namespace Database

def reactions (db : Database) : List (Int × Int × Int) :=
  db.likes.map fun r => (r.session_id, r.song_id, r.value)

def Stored (db : Database) (sessionID songID value : Int) : Prop :=
  (db.likes.filter fun r => (r.session_id, r.song_id) = (sessionID, songID)).map LikeRow.value =
    [value]

theorem reactions_insertLike_iff (db : Database) (sessionID songID value : Int) :
    (db.insertLike sessionID songID value).reactions.Perm db.reactions ↔
      db.Stored sessionID songID value := by
  have keyed : (db.likes.filter fun r => (r.session_id, r.song_id) = (sessionID, songID)).map
      (fun r => (r.session_id, r.song_id, r.value)) =
        ((db.likes.filter fun r => (r.session_id, r.song_id) = (sessionID, songID)).map
          LikeRow.value).map fun value => (sessionID, songID, value) := by
    rw [List.map_map]
    apply List.map_congr_left
    intro r own
    have key := of_decide_eq_true (List.mem_filter.mp own).2
    obtain ⟨session, song⟩ := Prod.mk.inj key
    simp only [Function.comp_apply, session, song]
  have split : ((db.likes.filter fun r => (r.session_id, r.song_id) ≠ (sessionID, songID)).map
      (fun r => (r.session_id, r.song_id, r.value)) ++
        (db.likes.filter fun r => (r.session_id, r.song_id) = (sessionID, songID)).map
          fun r => (r.session_id, r.song_id, r.value)).Perm db.reactions := by
    rw [← List.map_append]
    apply List.Perm.map
    have both := List.filter_append_perm
      (fun r : LikeRow => decide ((r.session_id, r.song_id) ≠ (sessionID, songID))) db.likes
    simpa using both
  have written : (db.insertLike sessionID songID value).reactions =
      (db.likes.filter fun r => (r.session_id, r.song_id) ≠ (sessionID, songID)).map
        (fun r => (r.session_id, r.song_id, r.value)) ++ [(sessionID, songID, value)] := by
    unfold reactions insertLike Tables.insertOrReplace
    rw [List.map_append]
    rfl
  have replaced := split.congr_right (db.insertLike sessionID songID value).reactions
  rw [← replaced, written, List.perm_append_left_iff, List.perm_comm, List.perm_singleton, keyed]
  unfold Stored
  constructor
  · intro equal
    have values := congrArg (List.map fun row : Int × Int × Int => row.2.2) equal
    simpa using values
  · intro stored
    rw [stored]
    rfl

end Database

namespace Server
variable {s t : Server}

/-- What a rejected reaction should leave alone. -/
structure Unaffected (s t : Server) : Prop where
  likes : t.db.reactions.Perm s.db.reactions
  nextSong : t.nextSong = s.nextSong
  pending : t.songTimer = s.songTimer

def Skips (s : Server) (songID sessionID : Int) : Prop :=
  ∃ active stats, s.activeSong = some active ∧
    likeData (s.db.insertLike sessionID songID (-1)) active.id = .ok stats ∧
    s.nextSong = none ∧ unpopular stats s.db.getSessionCount = true

theorem unaffected_reacted_iff {sessionID songID value : Int}
    (likes : t.db.likes = (s.reacted sessionID songID value).db.likes)
    (next : t.nextSong = s.nextSong) (pending : t.songTimer = s.songTimer) :
    Unaffected s t ↔ s.db.Stored sessionID songID value := by
  rw [← Database.reactions_insertLike_iff]
  have same : t.db.reactions = (s.db.insertLike sessionID songID value).reactions := by
    unfold Database.reactions
    rw [likes]
    rfl
  rw [← same]
  constructor
  · exact Unaffected.likes
  · intro perm
    exact ⟨perm, next, pending⟩

structure SameSelection (s t : Server) : Prop where
  db : t.db = s.db
  nextSong : t.nextSong = s.nextSong
  songTimer : t.songTimer = s.songTimer
  songTimerTask : t.songTimerTask = s.songTimerTask

theorem getStats_cases (s : Server) :
    (∃ active stats, s.activeSong = some active ∧ likeData s.db active.id = .ok stats ∧
      getStats s = .ok stats (s.refreshed active)) ∨
    (∀ active stats, s.activeSong = some active → likeData s.db active.id ≠ .ok stats) ∧
      ∃ e t, getStats s = .error e t ∧ SameSelection s t := by
  rw [getStats_apply, getActiveSong_apply]
  cases running : s.activeSong with
  | none =>
    right
    refine ⟨fun active stats no => (by cases no), ?_⟩
    dsimp only
    by_cases empty : s.db.activeSongQuery = []
    · rw [if_pos empty]
      exact ⟨_, _, rfl, rfl, rfl, rfl, rfl⟩
    · rw [if_neg empty]
      exact ⟨_, _, rfl, rfl, rfl, rfl, rfl⟩
  | some active =>
    have same : likeData (s.refreshed active).db (s.positioned active).id =
        likeData s.db active.id := by
      rw [positioned_toSong]
      rfl
    dsimp only
    rw [same]
    cases counted : likeData s.db active.id with
    | ok stats => exact Or.inl ⟨active, stats, rfl, counted, rfl⟩
    | error e =>
      right
      refine ⟨?_, e, s.refreshed active, rfl, rfl, rfl, rfl, rfl⟩
      intro other stats own
      cases own
      rw [counted]
      exact fun no => by cases no

section Rejected
variable {songID sessionID : Int} {e : JavaException}

theorem like_unaffected_iff
    (rejected : like songID sessionID s = .error e t) :
    Unaffected s t ↔ songID < 0 ∨ sessionID < 0 ∨ s.db.Stored sessionID songID 1 := by
  rw [like_apply] at rejected
  by_cases negative : songID < 0 ∨ sessionID < 0
  · rw [if_pos negative] at rejected
    cases rejected
    exact iff_of_true ⟨.refl _, rfl, rfl⟩ (by omega)
  · rw [if_neg negative] at rejected
    have valid : (songID < 0 ∨ sessionID < 0 ∨ s.db.Stored sessionID songID 1) ↔
        s.db.Stored sessionID songID 1 := by
      constructor
      · rintro (no | no | stored)
        · exact absurd (Or.inl no) negative
        · exact absurd (Or.inr no) negative
        · exact stored
      · exact fun stored => Or.inr (Or.inr stored)
    rw [valid]
    rcases getStats_cases (s.reacted sessionID songID 1) with
      ⟨active, stats, -, -, eq⟩ | ⟨-, e', u, eq, same⟩
    · rw [eq] at rejected
      cases rejected
    · rw [eq] at rejected
      cases rejected
      exact unaffected_reacted_iff (congrArg Database.likes same.db) same.nextSong same.songTimer

theorem skipToNext_unaffected_iff {u : Server} (skip : skipToNext s = .error e u)
    (unset : s.nextSong = none) :
    u.nextSong = s.nextSong ∧ u.songTimer = s.songTimer ↔
      s.candidate = none ∧ s.uncancelledTasks = s.songTimer := by
  rw [skipToNext_apply, unset] at skip
  simp only [Option.isSome_none, Bool.false_eq_true, if_false] at skip
  cases choice : s.candidate with
  | none =>
    rw [choice] at skip
    cases skip
    unfold cleared
    rw [cancelSongTimerTask_eq]
    simp
  | some song =>
    rw [choice] at skip
    dsimp only at skip
    split at skip
    · cases skip
    · cases skip
      have chosen : (s.skippedTo song).renewed.nextSong = some song := rfl
      rw [chosen, unset]
      simp

theorem skipToNext_likes (s : Server) : (finalState (skipToNext s)).db.likes = s.db.likes :=
  (unstarted_of_acts (by simp) (acts_skipToNext none)).likes

theorem dislike_unaffected_iff (rejected : dislike songID sessionID s = .error e t) :
    Unaffected s t ↔ songID < 0 ∨ sessionID < 0 ∨ s.db.Stored sessionID songID (-1) ∧
      (s.Skips songID sessionID → s.candidate = none ∧ s.uncancelledTasks = s.songTimer) := by
  rw [dislike_apply] at rejected
  by_cases negative : songID < 0 ∨ sessionID < 0
  · rw [if_pos negative] at rejected
    cases rejected
    exact iff_of_true ⟨.refl _, rfl, rfl⟩ (by omega)
  · rw [if_neg negative] at rejected
    have valid : ∀ rest : Prop, (songID < 0 ∨ sessionID < 0 ∨ rest) ↔ rest := by
      intro rest
      constructor
      · rintro (no | no | rest)
        · exact absurd (Or.inl no) negative
        · exact absurd (Or.inr no) negative
        · exact rest
      · exact fun rest => Or.inr (Or.inr rest)
    rw [valid]
    rcases getStats_cases (s.reacted sessionID songID (-1)) with
      ⟨active, stats, running, counted, eq⟩ | ⟨uncounted, e', u, eq, same⟩
    · rw [eq] at rejected
      dsimp only at rejected
      by_cases skips : s.nextSong = none ∧ unpopular stats s.db.getSessionCount = true
      · have both : ((s.reacted sessionID songID (-1)).refreshed active).nextSong = none ∧
            unpopular stats
              ((s.reacted sessionID songID (-1)).refreshed active).db.getSessionCount := skips
        rw [if_pos both] at rejected
        have skip := skipToNext_unaffected_iff rejected skips.1
        have likes := skipToNext_likes
          (((s.reacted sessionID songID (-1)).refreshed active).broadcastUpdate (.likes stats) .User)
        rw [rejected, finalState_error] at likes
        have comes : s.Skips songID sessionID := ⟨active, stats, running, counted, skips⟩
        constructor
        · intro same
          refine ⟨?_, fun _ => skip.mp ⟨same.nextSong, same.pending⟩⟩
          rw [← Database.reactions_insertLike_iff]
          have table : t.db.reactions = (s.db.insertLike sessionID songID (-1)).reactions := by
            unfold Database.reactions
            rw [likes]
            rfl
          rw [← table]
          exact same.likes
        · rintro ⟨stored, dry⟩
          obtain ⟨next, pending⟩ := skip.mpr (dry comes)
          exact (unaffected_reacted_iff likes next pending).mpr stored
      · have other : ¬ (((s.reacted sessionID songID (-1)).refreshed active).nextSong = none ∧
            unpopular stats
              ((s.reacted sessionID songID (-1)).refreshed active).db.getSessionCount) := skips
        rw [if_neg other] at rejected
        cases rejected
    · rw [eq] at rejected
      cases rejected
      rw [unaffected_reacted_iff (congrArg Database.likes same.db) same.nextSong same.songTimer]
      constructor
      · intro stored
        refine ⟨stored, ?_⟩
        rintro ⟨active, stats, running, counted, -⟩
        exact absurd counted (uncounted active stats running)
      · exact fun both => both.1

end Rejected

/-- In every state: a like or a dislike that throws leaves likes, next song and timer
    alone exactly if it is refused for its arguments, or stores again what was stored
    and, where it comes to a skip, finds no song and no pending task to give up. -/
theorem rejected_reaction_unaffected_iff (s : Server) (songID sessionID : Int) :
    (∀ e t, like songID sessionID s = .error e t → (Unaffected s t ↔
      songID < 0 ∨ sessionID < 0 ∨ s.db.Stored sessionID songID 1)) ∧
    (∀ e t, dislike songID sessionID s = .error e t → (Unaffected s t ↔
      songID < 0 ∨ sessionID < 0 ∨ s.db.Stored sessionID songID (-1) ∧
        (s.Skips songID sessionID → s.candidate = none ∧ s.uncancelledTasks = s.songTimer))) :=
  ⟨fun _ _ rejected => like_unaffected_iff rejected,
   fun _ _ rejected => dislike_unaffected_iff rejected⟩

theorem rejected_reaction_unaffected_negative :
    Unaffected (start [] 0) (finalState (like (-1) 1 (start [] 0))) ∧
    Unaffected (start [] 0) (finalState (dislike (-1) 1 (start [] 0))) :=
  ⟨((rejected_reaction_unaffected_iff (start [] 0) (-1) 1).1 .illegalArgument _ rfl).mpr
    (Or.inl (by decide)),
   ((rejected_reaction_unaffected_iff (start [] 0) (-1) 1).2 .illegalArgument _ rfl).mpr
    (Or.inl (by decide))⟩

/-- A like without an active song throws, and its row stays. -/
theorem rejected_like_stored :
    ¬ ∀ (s : Server) (songID sessionID : Int),
      (∀ e t, like songID sessionID s = .error e t → Unaffected s t) ∧
      (∀ e t, dislike songID sessionID s = .error e t → Unaffected s t) := by
  intro always
  have unaffected := (always (start [] 0) 1 1).1 .noSuchElement
    ((start [] 0).reacted 1 1 1) rfl
  have table := unaffected.likes.length_eq
  revert table
  decide

end Server
end MusicCloud
