import MusicCloud.Ledgers
import MusicCloud.Effects

/-!
Vote counting over runs of votes and song starts. The table of votes is the
ledger of the votes cast; `getVotes` counts its entries song by song.
-/
namespace MusicCloud
open Runs Tables Ledgers

inductive VoteEvent where
  | vote (songID sessionID : Int)
  | start (song : Song)

/-- Sessions whose most recent vote is for the song and was cast after the
    last time the song started. -/
def votersFor (events : List VoteEvent) (songID : Int) : Set Int :=
  {sessionID | ∃ before after, events = before ++ .vote songID sessionID :: after ∧
    ∀ later ∈ after, (∀ other, later ≠ .vote other sessionID) ∧
      ∀ song, later = .start song → song.id ≠ songID}

namespace Server

def voteStep (s : Server) : VoteEvent → Server
  | .vote songID sessionID => finalState (vote songID sessionID s)
  | .start song => finalState (updatePlayback (s.selected song))

def Succeeds (s : Server) : VoteEvent → Prop
  | .vote songID sessionID => 0 ≤ songID ∧ 0 ≤ sessionID
  | .start song => s.accepts (selectionDelay song)

instance (s : Server) (e : VoteEvent) : Decidable (s.Succeeds e) :=
  match e with
  | .vote songID sessionID => inferInstanceAs (Decidable (0 ≤ songID ∧ 0 ≤ sessionID))
  | .start song => inferInstanceAs (Decidable (s.accepts (selectionDelay song)))

end Server

section VoteLedger

def votePuts : VoteEvent → Option (Int × Int)
  | .vote songID sessionID => some (sessionID, songID)
  | .start _ => none

def startClears : VoteEvent → Int → Int → Prop
  | .vote _ _, _, _ => False
  | .start song, _, songID => songID = song.id

theorem mem_votersFor {events : List VoteEvent} {songID sessionID : Int} :
    sessionID ∈ votersFor events songID ↔
      Standing votePuts startClears events sessionID songID := by
  constructor
  · rintro ⟨before, after, rfl, since⟩
    refine ⟨before, _, after, rfl, rfl, ?_⟩
    intro later hlater
    obtain ⟨votes, starts⟩ := since later hlater
    cases later with
    | vote song session =>
      refine ⟨fun other same => ?_, id⟩
      cases same
      exact votes _ rfl
    | start song => exact ⟨by simp [votePuts], fun same => starts song rfl same.symm⟩
  · rintro ⟨before, e, after, rfl, put, since⟩
    cases e with
    | start => cases put
    | vote =>
      cases put
      refine ⟨before, after, rfl, ?_⟩
      intro later hlater
      obtain ⟨puts, clears⟩ := since later hlater
      refine ⟨?_, ?_⟩
      · rintro other rfl
        exact puts other rfl
      · rintro song rfl same
        exact clears same.symm

abbrev VoteRecords (votes : List VoteRow) (events : List VoteEvent) : Prop :=
  Records votePuts startClears VoteRow.session_id VoteRow.song_id votes events

end VoteLedger

namespace Server
variable {s : Server}

theorem voteStep_vote {songID sessionID : Int} (valid : 0 ≤ songID ∧ 0 ≤ sessionID) :
    (s.voteStep (.vote songID sessionID)).db = s.db.insertVote sessionID songID := by
  have nonneg : ¬ (songID < 0 ∨ sessionID < 0) := by omega
  rw [voteStep, vote_apply, if_neg nonneg]
  rfl

theorem voteStep_start {song : Song} (accepted : s.accepts (selectionDelay song)) :
    s.voteStep (.start song) = (s.selected song).playbackUpdated song := by
  have next : (s.selected song).nextSong = some song := rfl
  have same : (s.selected song).accepts (selectionDelay song) := accepted
  rw [voteStep, updatePlayback_apply, next]
  dsimp only
  rw [if_pos same, finalState_ok]

theorem voteRecords_run (music : List MusicRow) (clock : Nat) (events : List VoteEvent)
    (successful : StepsMeet voteStep Succeeds (start music clock) events) :
    VoteRecords (run voteStep (start music clock) events).db.votes events ∧
      (run voteStep (start music clock) events).db.songs.map SongRow.id =
        (Database.transferData 1 music).map SongRow.id := by
  induction events using List.reverseRecOn with
  | nil => exact ⟨records_nil, rfl⟩
  | append_singleton events e ih =>
    obtain ⟨before, now⟩ := (stepsMeet_concat voteStep Succeeds _ events e).mp successful
    obtain ⟨records, songs⟩ := ih before
    rw [run_concat]
    generalize run voteStep (start music clock) events = s at now records songs ⊢
    cases e with
    | vote songID sessionID =>
      rw [voteStep_vote now]
      exact ⟨records.put rfl fun _ _ cleared => cleared, songs⟩
    | start song =>
      rw [voteStep_start now, playbackUpdated_db]
      refine ⟨?_, ?_⟩
      · rw [Database.updateNextSong_votes]
        exact records.clear _ rfl fun r => by simp [startClears]
      · rw [Database.updateNextSong_songs, List.map_map, ← songs]
        exact List.map_congr_left fun r _ => Database.transitionRow_id _ _ _ r

end Server

/-- After every sequence of successful votes and song starts, `getVotes` lists
    every song of the library once, with the number of sessions whose most
    recent vote is for it and later than its last start; no session is counted
    for two songs. -/
theorem votes_counted (music : List MusicRow) (clock : Nat) (events : List VoteEvent)
    (successful : StepsMeet Server.voteStep Server.Succeeds (.start music clock) events) :
    let votes := (run Server.voteStep (.start music clock) events).db.getVotes
    votes.map VoteData.id = (Database.transferData 1 music).map SongRow.id ∧
    (votes.map VoteData.id).Nodup ∧
    (∀ d ∈ votes, d.votes = (votersFor events d.id).ncard) ∧
    ∀ sessionID first second, sessionID ∈ votersFor events first →
      sessionID ∈ votersFor events second → first = second := by
  obtain ⟨records, songs⟩ := Server.voteRecords_run music clock events successful
  intro votes
  have listed : votes.map VoteData.id = (Database.transferData 1 music).map SongRow.id := by
    rw [← songs, show votes = _ from Database.getVotes_eq _, List.map_map]
    rfl
  refine ⟨listed, listed ▸ Server.transferData_nodup 1 music, ?_, ?_⟩
  · intro d hd
    rw [show votes = _ from Database.getVotes_eq _] at hd
    obtain ⟨r, -, rfl⟩ := List.mem_map.mp hd
    have count := records.count (fun v => decide (v.song_id = r.id))
      (fun _ songID => songID = r.id) (by simp)
    have voters : {sessionID | ∃ songID, Standing votePuts startClears events sessionID songID ∧
        songID = r.id} = votersFor events r.id := by
      ext sessionID
      simp [mem_votersFor]
    rw [voters] at count
    dsimp only
    exact_mod_cast count
  · intro sessionID first second one two
    exact records.unique (mem_votersFor.mp one) (mem_votersFor.mp two)

def votedEvents : List VoteEvent :=
  [.vote 1 7, .vote 1 8, .vote 2 8, .start
    { id := 1, name := "first", artist := "", album := "", path := "first", length := 180, votes := 1 }]

theorem votes_counted_after_start :
    ((run Server.voteStep (.start twoSongs 0) votedEvents).db.getVotes.map VoteData.id).Nodup ∧
    ∀ d ∈ (run Server.voteStep (.start twoSongs 0) votedEvents).db.getVotes,
      d.votes = (votersFor votedEvents d.id).ncard := by
  have counted := votes_counted twoSongs 0 votedEvents
    ⟨by decide, by decide, by decide, by decide, trivial⟩
  exact ⟨counted.2.1, counted.2.2.1⟩

end MusicCloud
