import MusicCloud.SpeakerDownloads

/-!
Song ends on the speaker. They reach `playback_func` as pygame events, which it
polls only while a song is playing, and a Stop command ends the music without
taking its event off the queue. So an event may outlive its song and be taken for
the end of the next one.
-/
namespace MusicCloud
open Runs

namespace Speaker

def stop (songID : Int) : SpeakerEvent :=
  .handles (.playback_command { command := .Stop, id := songID }) true

/-- The playback thread puts Stopped for the current song, whose playback has ended, and a
    song end that is polled is that of the current playback. -/
structure StopsEnded (s : Speaker) (e : SpeakerEvent) : Prop where
  ended : (∀ ok, e ≠ .communicates ok) → ∀ entry songID,
    (s.step e).playbackConnectionQueue = s.playbackConnectionQueue ++ [entry] →
      (s.step e).content entry = { id := songID, status := .Stopped } →
        songID = s.currentSong ∧ (s.step e).music ≠ some s.playbacks
  own : ∀ number rest, e = .polls true → s.currentSongState = .PLAYING →
    s.songEnds = number :: rest → number = s.playbacks

def StartsQuiet (s : Speaker) (e : SpeakerEvent) : Prop :=
  ∀ songID loads, e = .handles (.playback_command { command := .Play, id := songID }) loads →
    s.Starts songID → s.songEnds = []

/-- Queued song ends are those of the current playback, which is over then. -/
structure Quiet (s : Speaker) : Prop where
  own : ∀ number ∈ s.songEnds, number = s.playbacks
  silent : s.songEnds ≠ [] → s.music = none
  playing : ∀ number, s.music = some number →
    number = s.playbacks ∧ s.currentSongState = .PLAYING

structure SameMusic (s t : Speaker) : Prop where
  playbacks : t.playbacks = s.playbacks
  music : t.music = s.music
  songEnds : t.songEnds = s.songEnds
  state : t.currentSongState = s.currentSongState

variable {s : Speaker}

theorem Quiet.of_same (h : s.Quiet) {t : Speaker} (same : SameMusic s t) : t.Quiet := by
  constructor
  · rw [same.songEnds, same.playbacks]
    exact h.own
  · rw [same.songEnds, same.music]
    exact h.silent
  · rw [same.music, same.playbacks, same.state]
    exact h.playing

theorem sameMusic_fetchSong (s : Speaker) (songID : Int) : SameMusic s (s.fetchSong songID) := by
  unfold fetchSong
  split
  · dsimp only
    split <;> exact ⟨rfl, rfl, rfl, rfl⟩
  · exact ⟨rfl, rfl, rfl, rfl⟩

theorem sameMusic_upcoming (s : Speaker) (songID : Int) :
    SameMusic s (s.handleUpcomingSongUpdate songID) := by
  unfold handleUpcomingSongUpdate
  split
  · exact ⟨rfl, rfl, rfl, rfl⟩
  · split
    · have same := sameMusic_fetchSong { s with nextSong := songID, nextSongState := .UNKNOWN } songID
      exact ⟨same.playbacks, same.music, same.songEnds, same.state⟩
    · split
      · exact sameMusic_fetchSong s songID
      · exact ⟨rfl, rfl, rfl, rfl⟩

theorem sameMusic_communicate (s : Speaker) (ok : Bool) : SameMusic s (s.communicate ok) := by
  unfold communicate
  cases s.comm with
  | idle =>
    dsimp only
    split <;> exact ⟨rfl, rfl, rfl, rfl⟩
  | rewriting entry ready songID => cases entry <;> exact ⟨rfl, rfl, rfl, rfl⟩
  | _ => exact ⟨rfl, rfl, rfl, rfl⟩

theorem Quiet.endMusic (h : s.Quiet) : s.endMusic.Quiet := by
  constructor
  · intro number listed
    rcases List.mem_append.mp listed with queued | ended
    · exact h.own number queued
    · exact (h.playing number (by simpa using ended)).1
  · intro _
    rfl
  · intro number no
    cases no

theorem Quiet.play (h : s.Quiet) {songID : Int} (loads : Bool)
    (quiet : s.Starts songID → s.songEnds = []) : (s.handlePlayCommand songID loads).Quiet := by
  unfold handlePlayCommand
  split
  · exact h
  · rename_i other
    split
    · rename_i starts
      have unqueued := quiet ⟨other, starts⟩
      have silent : s.music = none := by
        cases music : s.music with
        | none => rfl
        | some number => exact absurd (h.playing number music).2 starts.2.1
      split
      · constructor
        · intro number listed
          simp [message, put, playMusic, Speaker.endMusic, started, unqueued, silent] at listed
        · intro queued
          simp [message, put, playMusic, Speaker.endMusic, started, unqueued, silent] at queued
        · rintro number ⟨⟩
          exact ⟨rfl, rfl⟩
      · constructor
        · intro number listed
          simp [started, unqueued] at listed
        · intro _
          exact silent
        · intro number playing
          have no : s.music = some number := playing
          rw [silent] at no
          cases no
    · split
      · exact h.of_same ⟨rfl, rfl, rfl, rfl⟩
      · exact h

theorem Quiet.stop (h : s.Quiet) (songID : Int) : (s.handleStopCommand songID).Quiet := by
  unfold handleStopCommand
  split
  · have ended := h.endMusic
    exact ⟨ended.own, ended.silent, fun number no => (nomatch no)⟩
  · exact h

theorem Quiet.poll (h : s.Quiet) (found : Bool) : (s.poll found).Quiet := by
  unfold Speaker.poll
  split
  · split
    · rename_i number rest queue
      have silent := h.silent (by simp [queue])
      constructor
      · intro other listed
        exact h.own other (by rw [queue]; exact List.mem_cons_of_mem number listed)
      · intro _
        exact silent
      · intro other playing
        have no : s.music = some other := playing
        rw [silent] at no
        cases no
    · exact h
  · exact h

theorem Quiet.step (h : s.Quiet) {e : SpeakerEvent} (quiet : s.StartsQuiet e) : (s.step e).Quiet := by
  cases e with
  | communicates ok => exact h.of_same (sameMusic_communicate s ok)
  | songEnds => exact h.endMusic
  | polls found => exact h.poll found
  | handles update loads =>
    cases update with
    | upcoming_song song => exact h.of_same (sameMusic_upcoming s song.id)
    | playback_command command =>
      obtain ⟨kind, songID⟩ := command
      cases kind with
      | Play => exact h.play loads (quiet songID loads rfl)
      | Stop => exact h.stop songID
    | _ => exact h

theorem quiet_start (files : Int → SongFile) : (start files).Quiet := by
  constructor
  · intro number no
    cases no
  · intro no
    exact absurd rfl no
  · intro number no
    cases no

def PutsOther (s t : Speaker) : Prop :=
  ∀ entry, t.playbackConnectionQueue = s.playbackConnectionQueue ++ [entry] →
    (t.content entry).status ≠ .Stopped

theorem putsOther_of_same {t : Speaker}
    (same : t.playbackConnectionQueue = s.playbackConnectionQueue) : s.PutsOther t := by
  intro entry put
  rw [same] at put
  simp at put

theorem putsOther_message {t : Speaker} (same : t.playbackConnectionQueue = s.playbackConnectionQueue)
    (songID : Int) {status : MessageStatus} (other : status ≠ .Stopped) :
    s.PutsOther (t.message songID status) := by
  intro entry put
  have queue : (t.message songID status).playbackConnectionQueue =
      s.playbackConnectionQueue ++ [.own { id := songID, status := status }] := by
    simp [message, Speaker.put, same]
  rw [queue] at put
  obtain rfl := List.singleton_injective (List.append_cancel_left put)
  exact other

theorem putsOther_fetchSong {t : Speaker}
    (same : t.playbackConnectionQueue = s.playbackConnectionQueue) (songID : Int) :
    s.PutsOther (t.fetchSong songID) := by
  unfold fetchSong
  split
  · dsimp only
    split
    · exact putsOther_message (t := { t with nextSongState := .READY }) same songID (by decide)
    · exact putsOther_of_same same
  · exact putsOther_message same songID (by decide)

theorem putsOther_upcoming (songID : Int) : s.PutsOther (s.handleUpcomingSongUpdate songID) := by
  unfold handleUpcomingSongUpdate
  split
  · exact putsOther_of_same rfl
  · split
    · exact putsOther_fetchSong (t := { s with nextSong := songID, nextSongState := .UNKNOWN }) rfl songID
    · split
      · exact putsOther_fetchSong rfl songID
      · exact putsOther_of_same rfl

theorem putsOther_play (songID : Int) (loads : Bool) :
    s.PutsOther (s.handlePlayCommand songID loads) := by
  unfold handlePlayCommand
  split
  · exact putsOther_of_same rfl
  · split
    · split
      · exact putsOther_message (t := s.started.playMusic) rfl songID (by decide)
      · exact putsOther_of_same rfl
    · split
      · exact putsOther_message rfl songID (by decide)
      · exact putsOther_of_same rfl

theorem Quiet.stops (h : s.Quiet) (e : SpeakerEvent) : s.StopsEnded e := by
  have ends : s.PutsOther (s.step e) → (∀ ok, e ≠ .communicates ok) → ∀ entry songID,
      (s.step e).playbackConnectionQueue = s.playbackConnectionQueue ++ [entry] →
        (s.step e).content entry = { id := songID, status := .Stopped } →
          songID = s.currentSong ∧ (s.step e).music ≠ some s.playbacks := by
    intro other _ entry songID put stopped
    exact absurd (congrArg Message.status stopped) (other entry put)
  constructor
  · cases e with
    | communicates ok =>
      intro playback
      exact absurd rfl (playback ok)
    | songEnds => exact ends (putsOther_of_same rfl)
    | polls found =>
      by_cases polled : s.currentSongState = .PLAYING ∧ found
      · cases queue : s.songEnds with
        | nil =>
          apply ends
          apply putsOther_of_same
          rw [Speaker.step, Speaker.poll, if_pos polled, queue]
        | cons number rest =>
          have after : s.step (.polls found) = { s with
              songEnds := rest
              currentSongState := .STOPPED
              songEnd := { id := s.currentSong, status := .Stopped } }.put .songEnd := by
            rw [Speaker.step, Speaker.poll, if_pos polled, queue]
          intro _ entry songID put stopped
          rw [after] at put stopped ⊢
          obtain rfl := List.singleton_injective (List.append_cancel_left put)
          refine ⟨(congrArg Message.id stopped).symm, ?_⟩
          change s.music ≠ _
          rw [h.silent (by simp [queue])]
          simp
      · apply ends
        apply putsOther_of_same
        rw [Speaker.step, Speaker.poll, if_neg polled]
    | handles update loads =>
      cases update with
      | upcoming_song song => exact ends (putsOther_upcoming song.id)
      | playback_command command =>
        obtain ⟨kind, songID⟩ := command
        cases kind with
        | Play => exact ends (putsOther_play songID loads)
        | Stop =>
          by_cases stops : songID = s.currentSong ∧ s.currentSongState = .PLAYING
          · have after : s.step (.handles (.playback_command { command := .Stop, id := songID }) loads) =
                { s.endMusic with currentSongState := .STOPPED }.message songID .Stopped := by
              rw [Speaker.step, handle, handleStopCommand, if_pos stops]
            intro _ entry named put stopped
            rw [after] at put stopped ⊢
            obtain rfl := List.singleton_injective (List.append_cancel_left put)
            have same : songID = named := congrArg Message.id stopped
            refine ⟨same.symm.trans stops.1, ?_⟩
            intro no
            cases no
          · apply ends
            apply putsOther_of_same
            rw [Speaker.step, handle, handleStopCommand, if_neg stops]
      | _ => exact ends (putsOther_of_same rfl)
  · intro number rest _ _ queue
    exact h.own number (by rw [queue]; exact List.mem_cons_self)

end Speaker

/-- Stopped is only reported when the playback that it belongs to has ended, and no
    song end is taken for that of a later song, if no song is started while a
    song end is queued. -/
theorem stopped_song_has_ended (files : Int → SongFile) (events : List SpeakerEvent)
    (quiet : StepsMeet Speaker.step Speaker.StartsQuiet (.start files) events) :
    StepsMeet Speaker.step Speaker.StopsEnded (.start files) events := by
  apply stepsMeet_of_invariant Speaker.step Speaker.Quiet _ _ events _
    (Speaker.quiet_start files) quiet
  · intro s e h quiet
    exact h.step quiet
  · intro s e h _
    exact h.stops e

def endedEvents : List SpeakerEvent :=
  upcoming 1 :: communication 8 ++ [play 1, .songEnds, .polls true]

theorem first_song_end_reported :
    StepsMeet Speaker.step Speaker.StopsEnded (.start fun _ => .missing) endedEvents := by
  apply stopped_song_has_ended
  have quiet : ∀ s : Speaker, s.songEnds = [] → ∀ e, s.StartsQuiet e :=
    fun s none e songID loads _ _ => none
  refine (stepsMeet_append _ _ _ _ _).mpr ⟨?_, ?_, ?_, ?_, trivial⟩
  · apply stepsMeet_of_forall
    rintro e he s songID loads rfl -
    simp [upcoming, communication] at he
  · apply quiet
    decide
  · apply quiet
    decide
  · intro songID loads no
    cases no

/-- A Stop command ends the first song. The second song is fetched and started,
    and the song end of the first one is polled. -/
def stoppedEvents : List SpeakerEvent :=
  upcoming 1 :: communication 8 ++ play 1 :: Speaker.stop 1 :: upcoming 2 :: communication 20 ++
    [play 2]

theorem second_song_end_reported :
    ¬ ∀ (files : Int → SongFile) (events : List SpeakerEvent),
      StepsMeet Speaker.step Speaker.StopsEnded (.start files) events := by
  intro always
  have all := always (fun _ => .missing) (stoppedEvents ++ [.polls true])
  have last := ((stepsMeet_concat _ _ _ _ _).mp all).2
  have ended := last.ended (fun _ no => nomatch no) .songEnd 2 (by decide) (by decide)
  revert ended
  decide

end MusicCloud
