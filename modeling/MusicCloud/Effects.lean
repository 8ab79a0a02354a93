import MusicCloud.StatusReports
import MusicCloud.Calls

/-!
What one call does to the votes, the reactions and the active song: it starts
the next song, or stores a row of its own, or leaves all three alone.
-/
namespace MusicCloud

namespace Database

theorem updateNextSong_votes (current : Option Int) (next : Int) (datetime : Nat)
    (db : Database) : (db.updateNextSong current (some next) datetime).votes =
      db.votes.filter fun r => r.song_id ≠ next := by
  cases current <;> rfl

theorem updateNextSong_likes (current : Option Int) (next : Int) (datetime : Nat)
    (db : Database) : (db.updateNextSong current (some next) datetime).likes =
      db.likes.filter fun l => current ≠ some l.song_id := by
  cases current with
  | none => simp [updateNextSong, addCurrentSong, setStatus]
  | some c =>
    simp [updateNextSong, addCurrentSong, setStatus,
      removeCurrentSong, eq_comm]

end Database

namespace Server
variable {s t : Server}

def startsNext (s : Server) : Call → Option Song
  | .speakerStatusUpdate sessionID (some ⟨songID, some .Playing⟩) =>
    if 0 ≤ sessionID then
      s.nextSong.filter fun next => decide (songID = next.id ∧ s.accepts (selectionDelay next))
    else none
  | _ => none

def reaction : Call → Option (Int × Int × Int)
  | .like songID sessionID =>
    if songID < 0 ∨ sessionID < 0 then none else some (sessionID, songID, 1)
  | .dislike songID sessionID =>
    if songID < 0 ∨ sessionID < 0 then none else some (sessionID, songID, -1)
  | _ => none

def stored (s : Server) : Call → Server
  | .vote songID sessionID =>
    if songID < 0 ∨ sessionID < 0 then s
    else { s with db := s.db.insertVote sessionID songID }
  | .like songID sessionID =>
    if songID < 0 ∨ sessionID < 0 then s else s.reacted sessionID songID 1
  | .dislike songID sessionID =>
    if songID < 0 ∨ sessionID < 0 then s else s.reacted sessionID songID (-1)
  | _ => s

theorem stored_likes (s : Server) (c : Call) : (s.stored c).db.likes = match reaction c with
    | some (sessionID, songID, value) => (s.db.insertLike sessionID songID value).likes
    | none => s.db.likes := by
  cases c with
  | vote songID sessionID =>
    rw [stored]
    split <;> rfl
  | like songID sessionID =>
    rw [stored, reaction]
    split <;> rfl
  | dislike songID sessionID =>
    rw [stored, reaction]
    split <;> rfl
  | _ => rfl

theorem stored_activeSong (s : Server) (c : Call) : (s.stored c).activeSong = s.activeSong := by
  unfold stored
  split
  any_goals split
  all_goals rfl

structure Unstarted (s t : Server) : Prop where
  votes : t.db.votes = s.db.votes
  likes : t.db.likes = s.db.likes
  active : t.activeSong.map (fun a => a.id) = s.activeSong.map fun a => a.id

theorem Unstarted.refl (s : Server) : Unstarted s s := ⟨rfl, rfl, rfl⟩

theorem Unstarted.trans {u : Server} (first : Unstarted s t) (second : Unstarted t u) :
    Unstarted s u :=
  ⟨second.votes.trans first.votes, second.likes.trans first.likes, second.active.trans first.active⟩

theorem unstarted_of_act {report : Option (Int × Status)}
    (other : ∀ id, report ≠ some (id, .Playing)) (act : Act report s t) : Unstarted s t := by
  cases act with
  | refresh active running =>
    exact ⟨rfl, rfl, by simp only [refreshed, running, Option.map_some, positioned_toSong]⟩
  | start song sessionID playing => exact absurd playing (other sessionID)
  | _ => exact ⟨rfl, rfl, rfl⟩

theorem unstarted_of_acts {report : Option (Int × Status)}
    (other : ∀ id, report ≠ some (id, .Playing)) (acts : Acts report s t) : Unstarted s t := by
  induction acts with
  | refl => exact .refl s
  | tail _ act ih => exact ih.trans (unstarted_of_act other act)

theorem playing_of_startsNext {c : Call} {next : Song} (starts : s.startsNext c = some next) :
    s.nextSong = some next ∧ s.accepts (selectionDelay next) ∧
      ∃ sessionID, s.call c = finalState (playingUpdate sessionID next.id s) := by
  unfold startsNext at starts
  split at starts
  · rename_i sessionID songID
    by_cases valid : 0 ≤ sessionID
    · rw [if_pos valid] at starts
      obtain ⟨selected, both⟩ := Option.filter_eq_some_iff.mp starts
      obtain ⟨rfl, accepted⟩ := of_decide_eq_true both
      refine ⟨selected, accepted, sessionID, ?_⟩
      rw [call, speakerStatusUpdate_apply, if_neg (not_lt.mpr valid)]
    · rw [if_neg valid] at starts
      cases starts
  · cases starts

section Starting
variable (agrees : s.playback.Agrees)
include agrees

theorem started_call (positive : ∀ r ∈ s.db.songs, 0 < r.id) {c : Call} {next : Song}
    (starts : s.startsNext c = some next) :
    s.nextSong = some next ∧ TransitionStarted s (s.call c) next := by
  obtain ⟨selected, accepted, sessionID, result⟩ := playing_of_startsNext starts
  obtain ⟨t, completed, transition⟩ := playing_started agrees positive selected accepted sessionID
  rw [completed, finalState_ok] at result
  rw [result]
  exact ⟨selected, transition⟩

/-- A call that starts a song deletes the votes for it, and the reactions to the
    song that ends. -/
theorem call_started (positive : ∀ r ∈ s.db.songs, 0 < r.id) {c : Call} {next : Song}
    (starts : s.startsNext c = some next) :
    s.nextSong = some next ∧
    (s.call c).db.votes = s.db.votes.filter (fun v => v.song_id ≠ next.id) ∧
    (s.call c).db.likes =
      s.db.likes.filter (fun l => s.activeSong.map (fun a => a.id) ≠ some l.song_id) ∧
    (s.call c).activeSong.map (fun a => a.id) = some next.id := by
  obtain ⟨selected, transition⟩ := started_call agrees positive starts
  refine ⟨selected, ?_, ?_, ?_⟩
  · rw [transition.database, Database.updateNextSong_votes]
  · rw [transition.database, Database.updateNextSong_likes]
  · have same := congrArg (Option.map Song.id) transition.active
    simpa [Option.map_map] using same

omit agrees in
theorem acts_playingUpdate_unstarted (sessionID songID : Int)
    (starts : ∀ next, s.nextSong = some next →
      ¬ (songID = next.id ∧ s.accepts (selectionDelay next))) :
    Acts none s (finalState (playingUpdate sessionID songID s)) := by
  rw [playingUpdate_apply]
  cases selected : s.nextSong with
  | none => exact .refl
  | some next =>
    dsimp only
    split
    · rename_i expected
      rw [if_neg fun accepted => starts next selected ⟨expected, accepted⟩]
      exact (acts_cancelSongTimerTask none s).trans (acts_renewed none _)
    · cases running : s.activeSong with
      | none => exact .refl
      | some active =>
        dsimp only
        split
        · exact .refl
        · have refreshed : Acts none s (s.refreshed active) := .single (.refresh s active running)
          exact (refreshed.tail (.send _ _ _)).tail (.send _ _ _)

theorem acts_unstarted {c : Call} (starts : s.startsNext c = none) :
    ∃ report, (∀ id, report ≠ some (id, .Playing)) ∧ Acts report (s.written c) (s.call c) := by
  by_cases playing : ∃ id, reportBy c = some (id, .Playing)
  · obtain ⟨id, eq⟩ := playing
    refine ⟨none, by simp, ?_⟩
    cases c with
    | speakerStatusUpdate sessionID update =>
      rcases update with _ | ⟨songID, _ | status⟩
      · cases eq
      · cases eq
      · have same : status = .Playing := (Prod.mk.inj (Option.some.inj eq)).2
        subst same
        rw [call, speakerStatusUpdate_apply]
        split
        · exact .refl
        · rename_i valid
          refine acts_playingUpdate_unstarted sessionID songID fun next selected both => ?_
          simp [startsNext, not_lt.mp valid, both.1] at starts
          exact starts next selected rfl both.2
    | _ => cases eq
  · exact ⟨reportBy c, fun id eq => playing ⟨id, eq⟩, acts_call agrees c⟩

theorem call_unstarted {c : Call} (starts : s.startsNext c = none) :
    Unstarted (s.stored c) (s.call c) := by
  obtain ⟨report, other, acts⟩ := acts_unstarted agrees starts
  have written : Unstarted (s.stored c) (s.written c) := by
    cases c with
    | vote => exact .refl _
    | like => exact .refl _
    | dislike => exact .refl _
    | authenticateUser pin ip | authenticateSpeaker pin ip =>
      cases pin with
      | none => exact .refl s
      | some pin =>
        unfold written
        dsimp only
        split <;> exact ⟨rfl, rfl, rfl⟩
    | destroySession _ | registerRequest _ _ =>
      unfold written
      dsimp only
      split <;> exact ⟨rfl, rfl, rfl⟩
    | _ => exact ⟨rfl, rfl, rfl⟩
  exact written.trans (unstarted_of_acts other acts)

end Starting

end Server
end MusicCloud
