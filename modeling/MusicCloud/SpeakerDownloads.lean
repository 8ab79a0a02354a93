import MusicCloud.Speaker

/-!
Downloads of the speaker. The communication thread fetches one song after the
other, and writes `next_song_state` and the files without a look at what the
playback thread has done meanwhile. So READY may be marked for a song that is
not there.
-/
namespace MusicCloud
open Runs

namespace Speaker

def Genuine : SpeakerEvent → Prop
  | .handles (.playback_command command) _ => 0 < command.id
  | .handles (.upcoming_song song) _ => 0 < song.id
  | _ => True

section Ready

def ReadyThere (s : Speaker) : Prop :=
  s.nextSongState = .READY → s.nextSong ≠ MusicCloud.UNKNOWN ∧ s.files s.nextSong = .complete

def Fetches (s : Speaker) (songID : Int) : Prop :=
  songID ≠ s.currentSong ∧
    (songID ≠ s.nextSong ∨ s.nextSongState = .UNKNOWN ∧ s.nextSong ≠ MusicCloud.UNKNOWN)

/-- The downloads keep to the next song: a download is marked READY for the song
    that it has fetched, or for one that is complete as well; no song is found
    while its file is being written; and the file of a READY song is not opened
    for writing again. -/
structure DownloadsNext (s : Speaker) (e : SpeakerEvent) : Prop where
  marks : ∀ ok songID, e = .communicates ok → s.comm = .saved songID →
    s.nextSong ≠ MusicCloud.UNKNOWN ∧ (s.nextSong = songID ∨ s.files s.nextSong = .complete)
  finds : ∀ song loads, e = .handles (.upcoming_song song) loads → s.Fetches song.id →
    s.files song.id ≠ .writing
  opens : ∀ ok songID, e = .communicates ok → s.comm = .opening songID →
    ¬ (s.nextSong = songID ∧ s.nextSongState = .READY)

structure Downloaded (s : Speaker) : Prop where
  ready : s.ReadyThere
  saved : ∀ songID, s.comm = .saved songID → s.files songID = .complete

instance (s : Speaker) : Decidable s.ReadyThere :=
  inferInstanceAs (Decidable (_ → _))

variable {s : Speaker}

theorem readyThere_fetchSong {songID : Int} (next : s.nextSong = songID)
    (known : songID ≠ MusicCloud.UNKNOWN) (unready : s.nextSongState ≠ .READY) :
    (s.fetchSong songID).ReadyThere ↔ s.files songID ≠ .writing := by
  unfold fetchSong checkForSong
  cases file : s.files songID with
  | missing => simp [ReadyThere, message, put, unready]
  | writing =>
    by_cases playing : s.currentSongState = .PLAYING <;>
      simp [ReadyThere, message, put, playing, next, file]
  | complete =>
    by_cases playing : s.currentSongState = .PLAYING <;>
      simp [ReadyThere, message, put, playing, next, file, known]

theorem readyThere_upcoming (ready : s.ReadyThere) {songID : Int}
    (known : songID ≠ MusicCloud.UNKNOWN) :
    (s.handleUpcomingSongUpdate songID).ReadyThere ↔
      (s.Fetches songID → s.files songID ≠ .writing) := by
  unfold handleUpcomingSongUpdate Fetches
  by_cases current : songID = s.currentSong
  · simp [current, ready]
  · by_cases next : songID = s.nextSong
    · subst next
      by_cases unknown : s.nextSongState = .UNKNOWN
      · have fetched := readyThere_fetchSong (s := s) rfl known (by simp [unknown])
        simp [current, unknown, known, fetched]
      · simp [current, unknown, ready]
    · have fetched := readyThere_fetchSong (s := { s with
        nextSong := songID, nextSongState := .UNKNOWN }) rfl known (by simp)
      simp [current, next, fetched]

theorem readyThere_play (ready : s.ReadyThere) (songID : Int) (loads : Bool) :
    (s.handlePlayCommand songID loads).ReadyThere := by
  unfold handlePlayCommand
  split
  · exact ready
  · split
    · split
      · intro no
        cases no
      · intro no
        cases no
    · split
      · exact ready
      · exact ready

theorem readyThere_of_same {t : Speaker} (next : t.nextSong = s.nextSong)
    (state : t.nextSongState = s.nextSongState) (files : t.files = s.files) :
    t.ReadyThere ↔ s.ReadyThere := by
  unfold ReadyThere
  rw [next, state, files]

def touches : Comm → Bool
  | .marking _ => true
  | .opening _ => true
  | .writing _ => true
  | .saved _ => true
  | .failed => true
  | _ => false

theorem communicate_same (ok : Bool) (other : touches s.comm = false) :
    (s.communicate ok).nextSong = s.nextSong ∧
      (s.communicate ok).nextSongState = s.nextSongState ∧ (s.communicate ok).files = s.files := by
  unfold communicate
  cases here : s.comm with
  | idle =>
    dsimp only
    split <;> exact ⟨rfl, rfl, rfl⟩
  | rewriting entry ready songID => cases entry <;> exact ⟨rfl, rfl, rfl⟩
  | marking songID => simp [here, touches] at other
  | opening songID => simp [here, touches] at other
  | writing songID => simp [here, touches] at other
  | saved songID => simp [here, touches] at other
  | failed => simp [here, touches] at other
  | _ => exact ⟨rfl, rfl, rfl⟩

theorem downloadsNext_communicate (ok : Bool) : s.DownloadsNext (.communicates ok) ↔
    (∀ songID, s.comm = .saved songID → s.nextSong ≠ MusicCloud.UNKNOWN ∧
      (s.nextSong = songID ∨ s.files s.nextSong = .complete)) ∧
    ∀ songID, s.comm = .opening songID → ¬ (s.nextSong = songID ∧ s.nextSongState = .READY) := by
  constructor
  · intro h
    exact ⟨fun songID => h.marks ok songID rfl, fun songID => h.opens ok songID rfl⟩
  · rintro ⟨marks, opens⟩
    exact ⟨fun _ songID _ => marks songID, fun _ _ no => (nomatch no), fun _ songID _ => opens songID⟩

theorem readyThere_communicate (h : s.Downloaded) (ok : Bool) :
    (s.communicate ok).ReadyThere ↔ s.DownloadsNext (.communicates ok) := by
  rw [downloadsNext_communicate]
  cases touching : touches s.comm with
  | false =>
    obtain ⟨next, state, files⟩ := communicate_same ok touching
    rw [readyThere_of_same next state files]
    constructor
    · intro _
      constructor <;> intro songID here <;> simp [here, touches] at touching
    · intro _
      exact h.ready
  | true =>
    cases here : s.comm with
    | marking songID => simp [communicate, here, ReadyThere]
    | failed => simp [communicate, here, ReadyThere]
    | opening songID =>
      by_cases own : s.nextSong = songID
      · by_cases ready : s.nextSongState = .READY
        · simp [communicate, here, ReadyThere, own, ready]
        · simp [communicate, here, ReadyThere, own, ready]
      · have kept := h.ready
        simp only [ReadyThere] at kept
        simpa [communicate, here, ReadyThere, own, Function.update_of_ne own] using kept
    | writing songID =>
      have kept := h.ready
      by_cases own : s.nextSong = songID
      · simp only [ReadyThere, own] at kept
        simpa [communicate, here, ReadyThere, own] using fun ready => (kept ready).1
      · simp only [ReadyThere] at kept
        simpa [communicate, here, ReadyThere, own, Function.update_of_ne own] using kept
    | saved songID =>
      have complete := h.saved songID here
      by_cases own : s.nextSong = songID
      · simp [communicate, here, ReadyThere, own, complete]
      · simp [communicate, here, ReadyThere, own]
    | _ => simp [here, touches] at touching

theorem saved_communicate (ok : Bool) (songID : Int)
    (saved : (s.communicate ok).comm = .saved songID) :
    (s.communicate ok).files songID = .complete := by
  have passes := s.passes_communicate ok
  rw [saved] at passes
  cases here : s.comm with
  | writing own =>
    rw [here] at passes
    cases passes
    rw [communicate_writing ok here]
    exact Function.update_self _ _ _
  | _ =>
    rw [here] at passes
    cases passes

theorem playback_kept (s : Speaker) {e : SpeakerEvent} (other : ∀ ok, e ≠ .communicates ok) :
    (s.step e).comm = s.comm ∧ (s.step e).files = s.files := by
  have fetch : ∀ (t : Speaker) (songID : Int),
      (t.fetchSong songID).comm = t.comm ∧ (t.fetchSong songID).files = t.files := by
    intro t songID
    unfold fetchSong
    split
    · dsimp only
      split <;> exact ⟨rfl, rfl⟩
    · exact ⟨rfl, rfl⟩
  cases e with
  | communicates ok => exact absurd rfl (other ok)
  | songEnds => exact ⟨rfl, rfl⟩
  | polls found =>
    unfold step poll
    dsimp only
    split
    · split <;> exact ⟨rfl, rfl⟩
    · exact ⟨rfl, rfl⟩
  | handles update loads =>
    unfold step handle
    dsimp only
    split
    · unfold handlePlayCommand
      split
      · exact ⟨rfl, rfl⟩
      · split
        · split <;> exact ⟨rfl, rfl⟩
        · split <;> exact ⟨rfl, rfl⟩
    · unfold handleStopCommand
      split <;> exact ⟨rfl, rfl⟩
    · unfold handleUpcomingSongUpdate
      split
      · exact ⟨rfl, rfl⟩
      · split
        · exact fetch _ _
        · split
          · exact fetch _ _
          · exact ⟨rfl, rfl⟩
    · exact ⟨rfl, rfl⟩

theorem Downloaded.step (h : s.Downloaded) {e : SpeakerEvent} (ready : (s.step e).ReadyThere) :
    (s.step e).Downloaded := by
  refine ⟨ready, ?_⟩
  intro songID saved
  by_cases communicates : ∃ ok, e = .communicates ok
  · obtain ⟨ok, rfl⟩ := communicates
    exact saved_communicate ok songID saved
  · obtain ⟨comm, files⟩ := playback_kept s fun ok same => communicates ⟨ok, same⟩
    rw [comm] at saved
    rw [files]
    exact h.saved songID saved

theorem Downloaded.readyThere_iff (h : s.Downloaded) {e : SpeakerEvent} (genuine : Genuine e) :
    (s.step e).ReadyThere ↔ s.DownloadsNext e := by
  have known : ∀ songID : Int, 0 < songID → songID ≠ MusicCloud.UNKNOWN := by
    intro songID positive
    unfold MusicCloud.UNKNOWN
    omega
  have trivially : (∀ ok, e ≠ .communicates ok) → (∀ song loads, e ≠ .handles (.upcoming_song song) loads) →
      s.DownloadsNext e := by
    intro communicates upcoming
    exact ⟨fun ok _ same => absurd same (communicates ok), fun song loads same =>
      absurd same (upcoming song loads), fun ok _ same => absurd same (communicates ok)⟩
  cases e with
  | communicates ok => exact readyThere_communicate h ok
  | songEnds => exact iff_of_true h.ready (trivially (by simp) (by simp))
  | polls found =>
    refine iff_of_true ?_ (trivially (by simp) (by simp))
    unfold Speaker.step poll
    dsimp only
    split
    · split <;> exact h.ready
    · exact h.ready
  | handles update loads =>
    cases update with
    | upcoming_song song =>
      have upcoming := readyThere_upcoming h.ready (known song.id genuine)
      refine upcoming.trans ?_
      constructor
      · intro finds
        refine ⟨fun _ _ no => (nomatch no), ?_, fun _ _ no => (nomatch no)⟩
        rintro _ _ ⟨⟩
        exact finds
      · intro downloads
        exact downloads.finds song loads rfl
    | playback_command command =>
      obtain ⟨kind, songID⟩ := command
      refine iff_of_true ?_ (trivially (by simp) (by simp))
      cases kind with
      | Play => exact readyThere_play h.ready songID loads
      | Stop =>
        unfold Speaker.step handle handleStopCommand
        dsimp only
        split
        · exact h.ready
        · exact h.ready
    | _ => exact iff_of_true h.ready (trivially (by simp) (by simp))

theorem downloaded_start (files : Int → SongFile) : (start files).Downloaded := by
  constructor
  · intro no
    cases no
  · intro songID no
    cases no

end Ready

section Songs

def Starts (s : Speaker) (songID : Int) : Prop :=
  songID ≠ s.currentSong ∧ songID = s.nextSong ∧ s.currentSongState ≠ .PLAYING ∧
    s.nextSongState = .READY

theorem communicate_songs (s : Speaker) (ok : Bool) :
    (s.communicate ok).currentSong = s.currentSong ∧
      (s.communicate ok).currentSongState = s.currentSongState ∧
      (s.communicate ok).nextSong = s.nextSong := by
  unfold communicate
  cases s.comm with
  | idle =>
    dsimp only
    split <;> exact ⟨rfl, rfl, rfl⟩
  | rewriting entry ready songID => cases entry <;> exact ⟨rfl, rfl, rfl⟩
  | _ => exact ⟨rfl, rfl, rfl⟩

end Songs

end Speaker

/-- In every run, READY always means that the file of the next song is there if
    and only if the downloads keep to the next song. -/
theorem ready_song_is_there_iff (files : Int → SongFile) (events : List SpeakerEvent)
    (genuine : ∀ e ∈ events, Speaker.Genuine e) :
    StepsMeet Speaker.step (fun s e => (s.step e).ReadyThere) (.start files) events ↔
      StepsMeet Speaker.step Speaker.DownloadsNext (.start files) events := by
  have all := stepsMeet_of_forall Speaker.step (fun _ e => Speaker.Genuine e) events
    (.start files) (fun e he _ => genuine e he)
  exact stepsMeet_iff_of_invariant Speaker.step Speaker.Downloaded
    (fun s e h ready => h.step ready) (fun s e h genuine => h.readyThere_iff genuine) events _
    (Speaker.downloaded_start files) all

def upcoming (songID : Int) : SpeakerEvent :=
  .handles (.upcoming_song { id := songID, name := "", artist := "", album := "", path := ""
                             length := 180, votes := 0 }) true

def play (songID : Int) : SpeakerEvent :=
  .handles (.playback_command { command := .Play, id := songID }) true

def communication (steps : Nat) : List SpeakerEvent := List.replicate steps (.communicates true)

theorem genuine_communication (steps : Nat) : ∀ e ∈ communication steps, Speaker.Genuine e := by
  intro e he
  rw [List.eq_of_mem_replicate he]
  trivial

theorem genuine_upcoming {songID : Int} (positive : 0 < songID) {events : List SpeakerEvent}
    (rest : ∀ e ∈ events, Speaker.Genuine e) :
    ∀ e ∈ upcoming songID :: events, Speaker.Genuine e := by
  rintro e (_ | ⟨_, later⟩)
  · exact positive
  · exact rest e later

theorem genuine_play {songID : Int} (positive : 0 < songID) {events : List SpeakerEvent}
    (rest : ∀ e ∈ events, Speaker.Genuine e) :
    ∀ e ∈ play songID :: events, Speaker.Genuine e := by
  rintro e (_ | ⟨_, later⟩)
  · exact positive
  · exact rest e later

theorem first_download_keeps_to_next :
    StepsMeet Speaker.step Speaker.DownloadsNext (.start fun _ => .missing)
      (upcoming 1 :: communication 8) := by
  apply (ready_song_is_there_iff _ _ _).mp
  · decide
  · exact genuine_upcoming (by decide) (genuine_communication 8)

def replacedEvents : List SpeakerEvent :=
  upcoming 1 :: communication 4 ++ upcoming 2 :: communication 2

theorem ready_song_is_missing :
    ¬ ∀ (files : Int → SongFile) (events : List SpeakerEvent),
      (∀ e ∈ events, Speaker.Genuine e) →
        StepsMeet Speaker.step (fun s e => (s.step e).ReadyThere) (.start files) events := by
  intro always
  have ready := always (fun _ => .missing) replacedEvents <|
    genuine_upcoming (by decide) <| List.forall_mem_append.mpr
      ⟨genuine_communication 4, genuine_upcoming (by decide) (genuine_communication 2)⟩
  revert ready
  decide

end MusicCloud
