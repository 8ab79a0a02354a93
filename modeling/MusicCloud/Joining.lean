import MusicCloud.Skipping
import MusicCloud.SpeakerPlayback

/-!
A speaker that joins while a song is active. The server sends it a Play command
for that song and nothing else, and a speaker that has just been started ignores
a Play command for a song that has not been announced to it.
-/
namespace MusicCloud
open Runs

def welcomeUpdates (s : Server) (pin : Option String) (ip : String) : List SessionUpdate :=
  (s.call (.authenticateSpeaker pin ip)).handedTo (s.db.sessionSequence + 1)

namespace Speaker

def processed (files : Int → SongFile) (loads : Bool) (updates : List SessionUpdate) : Speaker :=
  run step (start files) (updates.map fun update => .handles update loads)

/-- The speaker plays, or has asked for the song that the server has as active or
    next, or has reported it as ready. -/
def Joins (s : Speaker) (server : Server) : Prop :=
  s.currentSongState = .PLAYING ∨ ∃ entry ∈ s.playbackConnectionQueue,
    ((s.content entry).status = .need_song ∨ (s.content entry).status = .Ready) ∧
      (server.activeSong.map (fun a => a.id) = some (s.content entry).id ∨
        server.nextSong.map Song.id = some (s.content entry).id)

theorem handlePlayCommand_start (files : Int → SongFile) (songID : Int) (loads : Bool) :
    (start files).handlePlayCommand songID loads = start files := by
  unfold handlePlayCommand
  by_cases unknown : songID = MusicCloud.UNKNOWN
  · rw [if_pos (by exact unknown)]
  · have other : songID ≠ (start files).nextSong := unknown
    rw [if_neg (by exact unknown), if_neg (fun both => other both.1), if_neg (fun both => other both.1)]

end Speaker

theorem welcomeUpdates_active {s : Server} {active : ActiveSong} (running : s.activeSong = some active)
    {pin : String} (accepted : Server.authenticatePin pin) (ip : String) :
    welcomeUpdates s (some pin) ip =
      [.playback_command { command := .Play, id := active.id }] := by
  let session := Session.create (s.db.sessionSequence + 1) ip .Speaker
  have welcomed : s.call (.authenticateSpeaker (some pin) ip) =
      ((s.joined ip .Speaker).refreshed active).sendUpdate
        (.playback_command { command := .Play, id := active.id }) session.id := by
    have found := Server.getActiveSong_apply (s.joined ip .Speaker)
    have joined : (s.joined ip .Speaker).activeSong = some active := running
    rw [joined] at found
    rw [Server.call, Server.speakerAuthenticate_apply]
    dsimp only
    rw [if_pos accepted, Server.welcomeSpeaker, found]
    simp [session]
  have live : ((s.joined ip .Speaker).refreshed active).sessionMap (s.db.sessionSequence + 1) =
      some session := by
    simp [Server.refreshed, Server.joined, session]
  have nothing : ((s.joined ip .Speaker).refreshed active).handedTo (s.db.sessionSequence + 1) = [] := by
    unfold Server.handedTo
    rw [live]
    rfl
  unfold welcomeUpdates
  rw [welcomed]
  refine (Server.handedTo_sendUpdate live).trans ?_
  rw [nothing, List.nil_append]

theorem processed_welcomeUpdates {s : Server} (playing : s.activeSong ≠ none) {pin : String}
    (accepted : Server.authenticatePin pin) (ip : String) (files : Int → SongFile) (loads : Bool) :
    Speaker.processed files loads (welcomeUpdates s (some pin) ip) = .start files := by
  obtain ⟨active, running⟩ := Option.ne_none_iff_exists'.mp playing
  rw [welcomeUpdates_active running accepted]
  exact Speaker.handlePlayCommand_start files active.id loads

theorem not_joins_start (files : Int → SongFile) (server : Server) :
    ¬ (Speaker.start files).Joins server := by
  rintro (no | ⟨entry, listed, -⟩)
  · cases no
  · cases listed

/-- No speaker that joins while a song is active gets to play, or to ask for a
    song, on the updates that it is welcomed with. -/
theorem joining_speaker_stays_silent (music : List MusicRow) (clock : Nat) (calls : List Call)
    (pin ip : String) (files : Int → SongFile) (loads : Bool)
    (playing : (run Server.call (.start music clock) calls).activeSong ≠ none)
    (accepted : Server.authenticatePin pin = true) :
    ¬ (Speaker.processed files loads
        (welcomeUpdates (run Server.call (.start music clock) calls) (some pin) ip)).Joins
      ((run Server.call (.start music clock) calls).call (.authenticateSpeaker (some pin) ip)) := by
  rw [processed_welcomeUpdates playing accepted ip files loads]
  exact not_joins_start files _

theorem second_speaker_stays_silent :
    ¬ (Speaker.processed (fun _ => .missing) true
        (welcomeUpdates (run Server.call (.start twoSongs 0) startedCalls) (some "1234")
          "10.0.0.5")).Joins
      ((run Server.call (.start twoSongs 0) startedCalls).call
        (.authenticateSpeaker (some "1234") "10.0.0.5")) := by
  apply joining_speaker_stays_silent
  · decide +kernel
  · decide

theorem second_speaker_does_not_join :
    ¬ ∀ (music : List MusicRow) (clock : Nat) (calls : List Call) (pin ip : String)
      (files : Int → SongFile) (loads : Bool),
      (run Server.call (.start music clock) calls).activeSong ≠ none →
        Server.authenticatePin pin = true →
          (Speaker.processed files loads
              (welcomeUpdates (run Server.call (.start music clock) calls) (some pin) ip)).Joins
            ((run Server.call (.start music clock) calls).call
              (.authenticateSpeaker (some pin) ip)) := by
  intro always
  have playing : (run Server.call (.start twoSongs 0) startedCalls).activeSong ≠ none := by
    decide +kernel
  have joins := always twoSongs 0 startedCalls "1234" "10.0.0.5" (fun _ => .missing) true playing
    (by decide)
  rw [processed_welcomeUpdates playing (by decide)] at joins
  exact not_joins_start _ _ joins

end MusicCloud
