import MusicCloud.SpeakerFailures

/-!
The server announces each selected song twice. The second announcement is a duplicate
for the speaker once the first one has made the song READY or DOWNLOADING; but a song
that has only been asked for is UNKNOWN until the communication thread takes the
message off `playback_connection_queue`, so the duplicate asks for it again.
-/
namespace MusicCloud
open Runs

namespace Speaker
variable {s : Speaker} {songID : Int}

/-- The update again makes no difference to the songs and to the messages, and both
    together ask for the song once at most. -/
structure RepeatHarmless (s : Speaker) (songID : Int) : Prop where
  same : (s.handleUpcomingSongUpdate songID).SameSongs
    ((s.handleUpcomingSongUpdate songID).handleUpcomingSongUpdate songID)
  once : ((s.handleUpcomingSongUpdate songID).handleUpcomingSongUpdate songID).playbackConnectionQueue.count
      (.own { id := songID, status := .need_song }) ≤
    s.playbackConnectionQueue.count (.own { id := songID, status := .need_song }) + 1

def awaiting (songID : Int) (s : Speaker) : Speaker :=
  { s with nextSong := songID, nextSongState := .UNKNOWN }

theorem upcoming_fetches (fetches : s.Fetches songID) :
    s.handleUpcomingSongUpdate songID = (s.awaiting songID).fetchSong songID := by
  obtain ⟨other, due⟩ := fetches
  unfold handleUpcomingSongUpdate
  rw [if_neg other]
  by_cases next : songID = s.nextSong
  · obtain different | ⟨unknown, known⟩ := due
    · exact absurd next different
    · have same : s.awaiting songID = s := by
        rw [awaiting, next, ← unknown]
      rw [if_neg (not_not_intro next), if_pos ⟨unknown, known⟩, same]
  · rw [if_pos next]
    rfl

theorem upcoming_ignored (ignores : ¬ s.Fetches songID) : s.handleUpcomingSongUpdate songID = s := by
  unfold handleUpcomingSongUpdate
  by_cases current : songID = s.currentSong
  · rw [if_pos current]
  · have next : ¬ songID ≠ s.nextSong := fun different => ignores ⟨current, Or.inl different⟩
    rw [if_neg current, if_neg next, if_neg fun due => ignores ⟨current, Or.inr due⟩]

theorem fetchSong_missing (missing : s.files songID = .missing) :
    s.fetchSong songID = s.message songID .need_song := by
  unfold fetchSong checkForSong
  rw [if_neg (by simp [missing])]

theorem fetchSong_found (found : s.files songID ≠ .missing) :
    (s.fetchSong songID).nextSongState = .READY ∧ (s.fetchSong songID).nextSong = s.nextSong ∧
      (s.fetchSong songID).playbackConnectionQueue.count (.own { id := songID, status := .need_song }) =
        s.playbackConnectionQueue.count (.own { id := songID, status := .need_song }) := by
  unfold fetchSong checkForSong
  rw [if_pos (by simp [found])]
  dsimp only
  split
  · refine ⟨rfl, rfl, ?_⟩
    simp [message, put]
  · exact ⟨rfl, rfl, rfl⟩

theorem repeatHarmless_ignored
    (ignores : ¬ (s.handleUpcomingSongUpdate songID).Fetches songID)
    (once : (s.handleUpcomingSongUpdate songID).playbackConnectionQueue.count
        (.own { id := songID, status := .need_song }) ≤
      s.playbackConnectionQueue.count (.own { id := songID, status := .need_song }) + 1) :
    s.RepeatHarmless songID := by
  have again := upcoming_ignored ignores
  constructor
  · rw [again]
    exact ⟨rfl, rfl, rfl, rfl, rfl⟩
  · rw [again]
    exact once

theorem repeatHarmless_fetches (fetches : s.Fetches songID) :
    s.RepeatHarmless songID ↔ s.files songID ≠ .missing ∨ songID = MusicCloud.UNKNOWN := by
  have first := upcoming_fetches fetches
  by_cases missing : s.files songID = .missing
  · have asks : s.handleUpcomingSongUpdate songID = (s.awaiting songID).message songID .need_song := by
      rw [first]
      exact fetchSong_missing missing
    by_cases known : songID = MusicCloud.UNKNOWN
    · have ignores : ¬ (s.handleUpcomingSongUpdate songID).Fetches songID := by
        rw [asks]
        rintro ⟨_, different | ⟨_, other⟩⟩
        · exact different rfl
        · exact other known
      have harmless := repeatHarmless_ignored ignores (by
        rw [asks]
        simp [message, put, awaiting])
      exact iff_of_true harmless (Or.inr known)
    · apply iff_of_false
      · intro harmless
        have fetches' : (s.handleUpcomingSongUpdate songID).Fetches songID := by
          rw [asks]
          exact ⟨fetches.1, Or.inr ⟨rfl, known⟩⟩
        have again : (s.handleUpcomingSongUpdate songID).handleUpcomingSongUpdate songID =
            ((s.handleUpcomingSongUpdate songID).awaiting songID).message songID .need_song := by
          rw [upcoming_fetches fetches']
          apply fetchSong_missing
          rw [asks]
          exact missing
        have same := harmless.same.playbackConnectionQueue
        rw [again] at same
        simp [message, put, awaiting] at same
      · simp [missing, known]
  · obtain ⟨ready, next, count⟩ := fetchSong_found (s := s.awaiting songID) missing
    have ignores : ¬ (s.handleUpcomingSongUpdate songID).Fetches songID := by
      rw [first]
      rintro ⟨_, different | ⟨unknown, _⟩⟩
      · exact different next.symm
      · rw [ready] at unknown
        cases unknown
    have harmless := repeatHarmless_ignored ignores (by
      rw [first, count]
      exact Nat.le_succ _)
    exact iff_of_true harmless (Or.inl missing)

end Speaker

/-- The update again asks for the song again exactly when the first update finds that
    the song is due and that its file is missing. -/
theorem upcoming_repeat_harmless_iff (s : Speaker) (songID : Int) :
    s.RepeatHarmless songID ↔
      ¬ (s.Fetches songID ∧ s.files songID = .missing ∧ songID ≠ UNKNOWN) := by
  by_cases fetches : s.Fetches songID
  · rw [Speaker.repeatHarmless_fetches fetches]
    tauto
  · have first := Speaker.upcoming_ignored fetches
    have harmless : s.RepeatHarmless songID := by
      apply Speaker.repeatHarmless_ignored
      · rw [first]
        exact fetches
      · rw [first]
        exact Nat.le_succ _
    exact iff_of_true harmless fun due => fetches due.1

theorem missing_song_asked_for_twice :
    ¬ ∀ (s : Speaker) (songID : Int), s.RepeatHarmless songID := by
  intro always
  have once := (always (.start fun _ => .missing) 1).once
  revert once
  decide

end MusicCloud
