import MusicCloud.SpeakerThreads

/-!
The file that pygame plays. The communication thread opens the file of the song that
it has been asked for without a look at the song that is playing, so that a request
for a song which is still there when the song starts makes it overwrite the file.
-/
namespace MusicCloud
open Runs

namespace SpeakerThreads

def Genuine : ThreadEvent → Prop
  | .handles update => Speaker.Genuine (.handles update true)
  | _ => True

def OverwritesPlaying (t : SpeakerThreads) (e : ThreadEvent) : Prop :=
  ∃ ok, e = .communicates ok ∧ t.comm = .opening t.currentSong ∧ t.currentSongState = .PLAYING

/-- The song that the communication thread is about to fetch, or to ask for again. -/
def fetching (t : SpeakerThreads) : Option Int :=
  match t.comm with
  | .taken entry => if (t.content entry).status = .need_song then some (t.content entry).id else none
  | .asked entry => some (t.content entry).id
  | .marking songID => some songID
  | .requesting songID => some songID
  | .opening songID => some songID
  | .identifying _ false songID => some songID
  | .stating entry false => some (t.content entry).id
  | .putting entry => if (t.content entry).status = .need_song then some (t.content entry).id else none
  | _ => none

def Needs (t : SpeakerThreads) (songID : Int) : Prop :=
  (∃ entry ∈ t.playbackConnectionQueue, t.content entry = { id := songID, status := .need_song }) ∨
    t.fetching = some songID

instance (t : SpeakerThreads) (songID : Int) : Decidable (t.Needs songID) :=
  inferInstanceAs (Decidable (_ ∨ _))

/-- A song that is starting is no longer to be fetched, by the time when it is PLAYING and
    about to be no longer the next song. -/
def StartsFetched (t : SpeakerThreads) (_ : ThreadEvent) : Prop :=
  t.playback = .forgetting → ¬ t.Needs t.currentSong

instance (t : SpeakerThreads) (e : ThreadEvent) : Decidable (t.StartsFetched e) :=
  inferInstanceAs (Decidable (_ → _))

/-- What holds at a stage of the playback thread. -/
def Fits (t : SpeakerThreads) : PlaybackStage → Prop
  | .checkingReady songID =>
    songID ≠ t.currentSong ∧ t.currentSongState ≠ .PLAYING ∧ 0 < t.nextSong
  | .adopting => t.currentSongState ≠ .PLAYING ∧ 0 < t.nextSong
  | .turning => 0 < t.currentSong
  | .forgetting => 0 < t.currentSong
  | .checkingUnknown songID => songID ≠ t.currentSong
  | .asking songID => songID ≠ t.currentSong
  | .selecting songID => songID ≠ t.currentSong
  | .clearing songID => songID ≠ t.currentSong
  | .checkingFetch songID => songID ≠ t.currentSong
  | .searching songID => songID ≠ t.currentSong
  | .identifying => t.currentSongState ≠ .PLAYING
  | .stating => t.currentSongState ≠ .PLAYING
  | .putting => t.currentSongState ≠ .PLAYING
  | _ => True

/-- The communication thread is about to make something else of a Stopped message that it
    shares with the playback thread. -/
def Renews : CommStage → Prop
  | .checkingNext .songEnd => True
  | .checkingReady .songEnd => True
  | .checkingUnknown .songEnd => True
  | .renewing .songEnd _ => True
  | .identifying .songEnd _ _ => True
  | .stating .songEnd _ => True
  | _ => False

/-- The song that is playing is not to be fetched, and never becomes the next one. -/
structure Unneeded (t : SpeakerThreads) : Prop where
  playing : t.currentSongState = .PLAYING → t.playback ≠ .forgetting →
    ¬ t.Needs t.currentSong ∧ t.nextSong ≠ t.currentSong
  fits : t.Fits t.playback
  stopped : Renews t.comm → t.songEnd.status = .Stopped

variable {t : SpeakerThreads} {songID : Int}

theorem Unneeded.keeps (h : t.Unneeded) {e : ThreadEvent} (fetched : t.StartsFetched e) :
    ¬ t.OverwritesPlaying e := by
  rintro ⟨ok, -, opening, playing⟩
  have needs : t.Needs t.currentSong := by
    right
    unfold fetching
    rw [opening]
  by_cases forgets : t.playback = .forgetting
  · exact fetched forgets needs
  · exact (h.playing playing forgets).1 needs

theorem Fits.of_same {u : SpeakerThreads} {stage : PlaybackStage} (fits : t.Fits stage)
    (current : u.currentSong = t.currentSong) (state : u.currentSongState = t.currentSongState)
    (next : u.nextSong = t.nextSong) : u.Fits stage := by
  unfold Fits
  rw [current, state, next]
  exact fits

/-- The playback thread goes on and leaves the songs and the messages alone. -/
theorem Unneeded.goto (h : t.Unneeded) (left : t.playback ≠ .forgetting) {stage : PlaybackStage}
    (fits : t.Fits stage) : (t.goto stage).Unneeded :=
  ⟨fun playing _ => h.playing playing left, fits.of_same rfl rfl rfl, h.stopped⟩

theorem Unneeded.mark (h : t.Unneeded) (state : SongState) :
    ({ t with nextSongState := state } : SpeakerThreads).Unneeded :=
  ⟨h.playing, h.fits.of_same rfl rfl rfl, h.stopped⟩

theorem needs_put {entry : Entry} (needs : (t.put entry).Needs songID) :
    t.Needs songID ∨ t.content entry = { id := songID, status := .need_song } := by
  rcases needs with ⟨other, listed, asks⟩ | fetched
  · rcases List.mem_append.mp listed with before | last
    · exact Or.inl (Or.inl ⟨other, before, asks⟩)
    · rw [List.mem_singleton.mp last] at asks
      exact Or.inr asks
  · exact Or.inl (Or.inr fetched)

/-- A message is put that does not ask for the current song. -/
theorem Unneeded.report (h : t.Unneeded) (left : t.playback ≠ .forgetting) {songID : Int}
    {status : MessageStatus} (other : status = .need_song → songID ≠ t.currentSong) :
    ((t.message songID status).goto .waiting).Unneeded := by
  refine ⟨?_, trivial, h.stopped⟩
  intro playing _
  obtain ⟨unneeded, differs⟩ := h.playing playing left
  refine ⟨?_, differs⟩
  intro needs
  rcases needs_put needs with before | asks
  · exact unneeded before
  · have status : status = .need_song := congrArg Message.status asks
    exact other status (congrArg Message.id asks)

theorem Unneeded.silence (h : t.Unneeded) {stage : PlaybackStage}
    (fits : ({ t with currentSongState := .STOPPED } : SpeakerThreads).Fits stage) :
    (({ t with currentSongState := .STOPPED } : SpeakerThreads).goto stage).Unneeded := by
  refine ⟨?_, fits.of_same rfl rfl rfl, h.stopped⟩
  intro no
  cases no

theorem Unneeded.forget (h : t.Unneeded) (here : t.playback = .forgetting)
    (fetched : ¬ t.Needs t.currentSong) :
    ({ t with nextSong := UNKNOWN, playback := .resetting } : SpeakerThreads).Unneeded := by
  have positive := h.fits
  rw [here] at positive
  refine ⟨fun _ _ => ⟨fetched, ?_⟩, trivial, h.stopped⟩
  change UNKNOWN ≠ t.currentSong
  exact ne_of_lt (lt_trans (by decide) positive)

theorem Unneeded.playback (h : t.Unneeded) (loads : Bool)
    (fetched : t.playback = .forgetting → ¬ t.Needs t.currentSong) :
    (t.playbackFunc loads).Unneeded := by
  have fits := h.fits
  by_cases here : t.playback = .forgetting
  · have forgets : t.playbackFunc loads =
        ({ t with nextSong := UNKNOWN, playback := .resetting } : SpeakerThreads) := by
      unfold playbackFunc
      rw [here]
    rw [forgets]
    exact h.forget here (fetched here)
  unfold playbackFunc
  cases stage : t.playback with
  | waiting => exact h
  | forgetting => exact absurd stage here
  | checkingReady songID =>
    rw [stage] at fits
    dsimp only
    split
    · exact h.goto here fits.2
    · exact h.goto here fits.1
  | checkingUnknown songID =>
    rw [stage] at fits
    dsimp only
    split
    · exact h.goto here fits
    · exact h.goto here trivial
  | adopting =>
    rw [stage] at fits
    exact ⟨fun playing => absurd playing fits.1, fits.2, h.stopped⟩
  | turning =>
    rw [stage] at fits
    exact ⟨fun _ forgets => absurd rfl forgets, fits, h.stopped⟩
  | resetting => exact (h.mark .UNKNOWN).goto here trivial
  | loading =>
    dsimp only
    apply h.goto here
    cases t.files t.currentSong with
    | writing => cases loads <;> trivial
    | _ => trivial
  | reporting => exact h.report here (fun no => by cases no)
  | asking songID =>
    rw [stage] at fits
    exact h.report here (fun _ => fits)
  | silencing => exact h.silence trivial
  | reportingStop => exact h.report here (fun no => by cases no)
  | selecting songID =>
    rw [stage] at fits
    exact ⟨fun playing _ => ⟨(h.playing playing here).1, fits⟩, fits, h.stopped⟩
  | clearing songID =>
    rw [stage] at fits
    exact (h.mark .UNKNOWN).goto here fits
  | checkingFetch songID =>
    rw [stage] at fits
    dsimp only
    split
    · exact h.goto here fits
    · exact h.goto here trivial
  | searching songID =>
    rw [stage] at fits
    dsimp only
    split
    · exact h.goto here trivial
    · exact h.goto here fits
  | finding songID =>
    dsimp only
    split
    · exact (h.mark .READY).goto here trivial
    · exact (h.mark .READY).goto here trivial
  | announcing songID => exact h.report here (fun no => by cases no)
  | ending => exact h.silence (by intro no; cases no)
  | identifying =>
    rw [stage] at fits
    exact ⟨fun playing => absurd playing fits, fits, h.stopped⟩
  | stating =>
    rw [stage] at fits
    exact ⟨fun playing => absurd playing fits, fits, fun _ => rfl⟩
  | putting =>
    rw [stage] at fits
    exact ⟨fun playing => absurd playing fits, trivial, h.stopped⟩

theorem Unneeded.handles (h : t.Unneeded) {update : SessionUpdate} (here : t.playback = .waiting)
    (genuine : Speaker.Genuine (.handles update true)) : (t.goto (t.handle update)).Unneeded := by
  have left : t.playback ≠ .forgetting := by
    rw [here]
    intro no
    cases no
  apply h.goto left
  cases update with
  | upcoming_song song =>
    unfold handle
    dsimp only
    by_cases current : song.id = t.currentSong
    · rw [if_pos current]
      trivial
    · rw [if_neg current]
      by_cases other : song.id ≠ t.nextSong
      · rw [if_pos other]
        exact current
      · rw [if_neg other]
        split
        · exact current
        · trivial
  | playback_command command =>
    obtain ⟨kind, songID⟩ := command
    cases kind with
    | Play =>
      unfold handle
      dsimp only
      by_cases ignored : songID = t.currentSong ∨ songID ≠ t.nextSong
      · rw [if_pos ignored]
        trivial
      · obtain ⟨current, next⟩ := not_or.mp ignored
        rw [if_neg ignored]
        by_cases silent : t.currentSongState ≠ .PLAYING
        · rw [if_pos silent]
          exact ⟨current, silent, not_not.mp next ▸ genuine⟩
        · rw [if_neg silent]
          exact current
    | Stop =>
      unfold handle
      dsimp only
      split <;> trivial
  | _ => trivial

theorem communicateFunc_same (t : SpeakerThreads) (ok : Bool) :
    (t.communicateFunc ok).currentSong = t.currentSong ∧
      (t.communicateFunc ok).currentSongState = t.currentSongState ∧
      (t.communicateFunc ok).nextSong = t.nextSong ∧ (t.communicateFunc ok).playback = t.playback := by
  unfold communicateFunc
  cases t.comm with
  | idle => cases t.playbackConnectionQueue <;> exact ⟨rfl, rfl, rfl, rfl⟩
  | identifying entry ready songID => cases entry <;> exact ⟨rfl, rfl, rfl, rfl⟩
  | stating entry ready => cases entry <;> exact ⟨rfl, rfl, rfl, rfl⟩
  | _ => exact ⟨rfl, rfl, rfl, rfl⟩

theorem needs_of_same {u : SpeakerThreads} (needs : u.Needs songID)
    (queue : u.playbackConnectionQueue = t.playbackConnectionQueue) (songEnd : u.songEnd = t.songEnd)
    (fetched : u.fetching = some songID → t.fetching = some songID ∨ songID = t.nextSong) :
    t.Needs songID ∨ songID = t.nextSong := by
  have content : ∀ entry, u.content entry = t.content entry := by
    intro entry
    cases entry with
    | own message => rfl
    | songEnd => exact songEnd
  rcases needs with ⟨entry, listed, asks⟩ | fetches
  · exact Or.inl (Or.inl ⟨entry, queue ▸ listed, (content entry).symm.trans asks⟩)
  · rcases fetched fetches with before | next
    · exact Or.inl (Or.inr before)
    · exact Or.inr next

theorem fetching_asking {entry : Entry} (here : t.comm = .taken entry ∨ t.comm = .putting entry)
    (asks : t.content entry = { id := songID, status := .need_song }) : t.fetching = some songID := by
  unfold fetching
  rcases here with here | here
  · rw [here]
    dsimp only
    rw [asks]
    rfl
  · rw [here]
    dsimp only
    rw [asks]
    rfl

theorem asking_of_fetching {entry : Entry} (fetches : t.fetching = some songID)
    (here : t.comm = .taken entry ∨ t.comm = .putting entry) :
    t.content entry = { id := songID, status := .need_song } := by
  unfold fetching at fetches
  have both : (if (t.content entry).status = .need_song then some (t.content entry).id else none) =
      some songID := by
    rcases here with here | here
    · rw [here] at fetches
      exact fetches
    · rw [here] at fetches
      exact fetches
  by_cases asks : (t.content entry).status = .need_song
  · rw [if_pos asks] at both
    rw [← Option.some.inj both, ← asks]
  · rw [if_neg asks] at both
    cases both

theorem fetching_ite {p : Prop} [Decidable p] {a b : CommStage}
    (first : ({ t with comm := a } : SpeakerThreads).fetching = none)
    (second : ({ t with comm := b } : SpeakerThreads).fetching = none) :
    ({ t with comm := if p then a else b } : SpeakerThreads).fetching = none := by
  by_cases h : p
  · rw [if_pos h]
    exact first
  · rw [if_neg h]
    exact second

theorem needs_taken (ok : Bool) (here : t.comm = .idle)
    (needs : (t.communicateFunc ok).Needs songID) : t.Needs songID := by
  cases queue : t.playbackConnectionQueue with
  | nil =>
    have rests : t.communicateFunc ok = t := by
      unfold communicateFunc
      rw [here, queue]
    exact rests ▸ needs
  | cons entry rest =>
    rw [communicateFunc_takes ok here queue] at needs
    left
    rw [queue]
    rcases needs with ⟨other, listed, asks⟩ | fetches
    · exact ⟨other, List.mem_cons_of_mem entry listed, asks⟩
    · have asks := asking_of_fetching fetches (Or.inl rfl)
      exact ⟨entry, List.mem_cons_self, asks⟩

theorem needs_identified {entry : Entry} {ready : Bool} {own : Int} (ok : Bool)
    (here : t.comm = .identifying entry ready own)
    (stopped : Renews t.comm → t.songEnd.status = .Stopped)
    (needs : (t.communicateFunc ok).Needs songID) : t.Needs songID := by
  unfold communicateFunc at needs
  rw [here] at needs stopped
  have fetches : ready = false → own = songID → t.Needs songID := by
    rintro rfl rfl
    right
    unfold fetching
    rw [here]
  cases entry with
  | own message =>
    rcases needs with queued | fetched
    · exact Or.inl queued
    · cases ready with
      | true => cases fetched
      | false => exact fetches rfl (Option.some.inj fetched)
  | songEnd =>
    rcases needs with ⟨other, listed, asks⟩ | fetched
    · cases other with
      | own message => exact Or.inl ⟨_, listed, asks⟩
      | songEnd =>
        have asked : t.songEnd.status = .need_song := congrArg Message.status asks
        have no := (stopped trivial).symm.trans asked
        cases no
    · cases ready with
      | true => cases fetched
      | false => exact fetches rfl (Option.some.inj fetched)

theorem needs_stated {entry : Entry} {ready : Bool} (ok : Bool) (here : t.comm = .stating entry ready)
    (needs : (t.communicateFunc ok).Needs songID) : t.Needs songID := by
  have fetches : ready = false → (t.content entry).id = songID → t.Needs songID := by
    rintro rfl same
    right
    unfold fetching
    rw [here]
    exact congrArg some same
  cases entry with
  | own message =>
    have states : t.communicateFunc ok = { t with
        comm := if ready then .resending (.own { message with status := renewedStatus ready })
          else .putting (.own { message with status := renewedStatus ready }) } := by
      unfold communicateFunc
      rw [here]
      rfl
    rw [states] at needs
    rcases needs with queued | fetched
    · exact Or.inl queued
    · cases ready with
      | true => cases fetched
      | false =>
        have asks := asking_of_fetching fetched (Or.inr rfl)
        exact fetches rfl (congrArg Message.id asks)
  | songEnd =>
    have states : t.communicateFunc ok = { t with
        songEnd := { t.songEnd with status := renewedStatus ready }
        comm := if ready then .resending .songEnd else .putting .songEnd } := by
      unfold communicateFunc
      rw [here]
      rfl
    rw [states] at needs
    rcases needs with ⟨other, listed, asks⟩ | fetched
    · cases other with
      | own message => exact Or.inl ⟨_, listed, asks⟩
      | songEnd =>
        cases ready with
        | true =>
          have no := congrArg Message.status asks
          cases no
        | false => exact fetches rfl (congrArg Message.id asks)
    · cases ready with
      | true => cases fetched
      | false =>
        have asks := asking_of_fetching fetched (Or.inr rfl)
        exact fetches rfl (congrArg Message.id asks)

theorem needs_put_again {entry : Entry} (ok : Bool) (here : t.comm = .putting entry)
    (needs : (t.communicateFunc ok).Needs songID) : t.Needs songID := by
  unfold communicateFunc at needs
  rw [here] at needs
  rcases needs with ⟨other, listed, asks⟩ | no
  · rcases List.mem_append.mp listed with before | last
    · exact Or.inl ⟨other, before, asks⟩
    · rw [List.mem_singleton.mp last] at asks
      exact Or.inr (fetching_asking (Or.inr here) asks)
  · cases no

/-- The communication thread comes to ask for the next song only. -/
theorem needs_communicate (ok : Bool) (stopped : Renews t.comm → t.songEnd.status = .Stopped)
    (needs : (t.communicateFunc ok).Needs songID) : t.Needs songID ∨ songID = t.nextSong := by
  cases here : t.comm with
  | idle => exact Or.inl (needs_taken ok here needs)
  | identifying entry ready own => exact Or.inl (needs_identified ok here stopped needs)
  | stating entry ready => exact Or.inl (needs_stated ok here needs)
  | putting entry => exact Or.inl (needs_put_again ok here needs)
  | taken entry =>
    unfold communicateFunc at needs
    rw [here] at needs
    dsimp only at needs
    refine needs_of_same needs rfl rfl ?_
    intro fetched
    left
    by_cases asks : (t.content entry).status = .need_song
    · rw [if_pos asks] at fetched
      unfold fetching
      rw [here]
      exact (if_pos asks).trans fetched
    · rw [if_neg asks] at fetched
      cases fetched
  | asked _ | marking _ =>
    unfold communicateFunc at needs
    rw [here] at needs
    dsimp only at needs
    refine needs_of_same needs rfl rfl ?_
    intro fetched
    left
    unfold fetching
    rw [here]
    exact fetched
  | requesting own =>
    unfold communicateFunc at needs
    rw [here] at needs
    dsimp only at needs
    refine needs_of_same needs rfl rfl ?_
    intro fetched
    left
    cases ok with
    | true =>
      unfold fetching
      rw [here]
      exact fetched
    | false => cases fetched
  | renewing entry ready =>
    unfold communicateFunc at needs
    rw [here] at needs
    dsimp only at needs
    refine needs_of_same needs rfl rfl ?_
    intro fetched
    cases ready with
    | true => cases fetched
    | false => exact Or.inr (Option.some.inj fetched).symm
  | testing _ | sent _ | checkingNext _ | checkingReady _ | checkingUnknown _ =>
    unfold communicateFunc at needs
    rw [here] at needs
    dsimp only at needs
    refine needs_of_same needs rfl rfl ?_
    intro no
    rw [fetching_ite rfl rfl] at no
    cases no
  | _ =>
    unfold communicateFunc at needs
    rw [here] at needs
    dsimp only at needs
    refine needs_of_same needs rfl rfl ?_
    intro no
    cases no

theorem not_renews_ite {p : Prop} [Decidable p] {a b : CommStage} (first : ¬ Renews a)
    (second : ¬ Renews b) : ¬ Renews (if p then a else b) := by
  by_cases h : p
  · rw [if_pos h]
    exact first
  · rw [if_neg h]
    exact second

theorem stopped_communicate (ok : Bool) (stopped : Renews t.comm → t.songEnd.status = .Stopped)
    (renews : Renews (t.communicateFunc ok).comm) : (t.communicateFunc ok).songEnd.status = .Stopped := by
  unfold communicateFunc at renews ⊢
  cases here : t.comm with
  | idle =>
    rw [here] at renews
    cases queue : t.playbackConnectionQueue with
    | nil =>
      rw [queue] at renews
      dsimp only at renews
      rw [here] at renews
      exact renews.elim
    | cons entry rest =>
      rw [queue] at renews
      exact renews.elim
  | sent entry =>
    rw [here] at renews
    dsimp only at renews ⊢
    by_cases ended : (t.content entry).status = .Stopped
    · rw [if_pos ended] at renews
      cases entry with
      | own message => exact renews.elim
      | songEnd => exact ended
    · rw [if_neg ended] at renews
      exact renews.elim
  | checkingNext entry | checkingReady entry | checkingUnknown entry =>
    rw [here] at renews stopped
    dsimp only at renews ⊢
    cases entry with
    | own message => exact (not_renews_ite id id renews).elim
    | songEnd => exact stopped trivial
  | renewing entry ready =>
    rw [here] at renews stopped
    cases entry with
    | own message => exact renews.elim
    | songEnd => exact stopped trivial
  | identifying entry ready own =>
    rw [here] at renews stopped
    cases entry with
    | own message => exact renews.elim
    | songEnd => exact stopped trivial
  | stating entry ready =>
    rw [here] at renews
    cases entry <;> cases ready <;> exact renews.elim
  | taken _ | requesting _ | testing _ =>
    rw [here] at renews
    exact (not_renews_ite id id renews).elim
  | _ =>
    rw [here] at renews
    exact renews.elim

theorem Unneeded.communicate (h : t.Unneeded) (ok : Bool) : (t.communicateFunc ok).Unneeded := by
  obtain ⟨current, state, next, playback⟩ := communicateFunc_same t ok
  refine ⟨?_, ?_, stopped_communicate ok h.stopped⟩
  · rw [current, state, next, playback]
    intro playing left
    obtain ⟨unneeded, differs⟩ := h.playing playing left
    refine ⟨?_, differs⟩
    intro needs
    rcases needs_communicate ok h.stopped needs with before | same
    · exact unneeded before
    · exact differs same.symm
  · rw [playback]
    exact h.fits.of_same current state next

theorem Unneeded.step (h : t.Unneeded) {e : ThreadEvent} (genuine : Genuine e)
    (fetched : t.StartsFetched e) : (t.step e).Unneeded := by
  unfold SpeakerThreads.step
  cases e with
  | handles update =>
    dsimp only
    split
    · exact h.handles ‹_› genuine
    · exact h
  | polls found =>
    dsimp only
    split
    · rename_i here
      have left : t.playback ≠ .forgetting := by
        rw [here]
        intro no
        cases no
      apply h.goto left
      unfold poll
      split <;> trivial
    · exact h
  | plays loads => exact h.playback loads fetched
  | communicates ok => exact h.communicate ok

theorem unneeded_start (files : Int → SongFile) : (start files).Unneeded := by
  refine ⟨?_, trivial, fun no => no.elim⟩
  intro no
  cases no

end SpeakerThreads

/-- The communication thread never opens the file of the song that is playing, if no song is
    PLAYING and about to be no longer the next one while it is still to be fetched. -/
theorem playing_song_not_overwritten (files : Int → SongFile) (events : List ThreadEvent)
    (genuine : ∀ e ∈ events, SpeakerThreads.Genuine e)
    (fetched : StepsMeet SpeakerThreads.step SpeakerThreads.StartsFetched (.start files) events) :
    StepsMeet SpeakerThreads.step (fun t e => ¬ t.OverwritesPlaying e) (.start files) events := by
  have all := stepsMeet_of_forall SpeakerThreads.step (fun _ e => SpeakerThreads.Genuine e) events
    (.start files) (fun e he _ => genuine e he)
  apply stepsMeet_of_invariant SpeakerThreads.step SpeakerThreads.Unneeded _ _ events _
    (SpeakerThreads.unneeded_start files)
    ((stepsMeet_and SpeakerThreads.step _ _ _ _).mpr ⟨all, fetched⟩)
  · intro t e h both
    exact h.step both.1 both.2
  · intro t e h both
    exact h.keeps both.2

theorem genuine_uninterrupted {events : List SpeakerEvent}
    (genuine : ∀ e ∈ events, Speaker.Genuine e) (s : Speaker) :
    ∀ e ∈ s.uninterrupted events, SpeakerThreads.Genuine e := by
  induction events generalizing s with
  | nil =>
    intro e no
    cases no
  | cons first events ih =>
    unfold Speaker.uninterrupted
    have here := genuine first List.mem_cons_self
    have rest := ih (fun e there => genuine e (List.mem_cons_of_mem first there)) (s.step first)
    refine List.forall_mem_append.mpr ⟨?_, rest⟩
    intro e there
    cases first with
    | handles update loads =>
      rcases List.mem_cons.mp there with rfl | later
      · cases update <;> exact here
      · rw [List.eq_of_mem_replicate later]
        trivial
    | polls found =>
      rcases List.mem_cons.mp there with rfl | later
      · trivial
      · rw [List.eq_of_mem_replicate later]
        trivial
    | songEnds => cases there
    | communicates ok =>
      rw [List.eq_of_mem_replicate there]
      trivial

theorem first_song_not_overwritten :
    StepsMeet SpeakerThreads.step (fun t e => ¬ t.OverwritesPlaying e) (.start fun _ => .missing)
      ((Speaker.start fun _ => .missing).uninterrupted (upcoming 1 :: communication 8 ++ [play 1])) := by
  apply playing_song_not_overwritten
  · exact genuine_uninterrupted (genuine_upcoming (by decide) <| List.forall_mem_append.mpr
      ⟨genuine_communication 8, genuine_play (by decide) (by simp)⟩) _
  · decide +kernel

/-- The first song is announced twice, as skips do, and so it is asked for twice.
    It has been started when it is fetched again. -/
def repeatedEvents : List SpeakerEvent :=
  upcoming 1 :: upcoming 1 :: communication 8 ++ play 1 :: communication 3

theorem playing_song_overwritten :
    ¬ ∀ (files : Int → SongFile) (events : List ThreadEvent),
      (∀ e ∈ events, SpeakerThreads.Genuine e) →
        StepsMeet SpeakerThreads.step (fun t e => ¬ t.OverwritesPlaying e) (.start files) events := by
  intro always
  have genuine : ∀ e ∈ repeatedEvents, Speaker.Genuine e :=
    genuine_upcoming (by decide) <| genuine_upcoming (by decide) <| List.forall_mem_append.mpr
      ⟨genuine_communication 8, genuine_play (by decide) (genuine_communication 3)⟩
  have kept := always (fun _ => .missing)
    ((Speaker.start fun _ => .missing).uninterrupted repeatedEvents ++ [.communicates true])
    (List.forall_mem_append.mpr ⟨genuine_uninterrupted genuine _,
      fun e he => by rw [List.mem_singleton.mp he]; trivial⟩)
  have last := ((stepsMeet_concat _ _ _ _ _).mp kept).2
  have same := (Speaker.start fun _ => .missing).threads_run repeatedEvents
  apply last
  change SpeakerThreads.OverwritesPlaying (run SpeakerThreads.step (Speaker.start _).threads _) _
  rw [same]
  exact ⟨true, rfl, by decide, by decide⟩

end MusicCloud
