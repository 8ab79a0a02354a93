import MusicCloud.Authenticating
import MusicCloud.SpeakerDownloads

/-!
What the speaker plays is a song of the server. A Play command that the speaker
has yet to hear is for the next song or for the one it has started already, and a
Playing report that it has yet to send is for the next song. A Playing report of
another song would be answered with a Stop command; it never occurs.
-/
namespace MusicCloud
open Runs

def Comm.outgoing : Comm → List Entry
  | .sending entry => [entry]
  | _ => []

def Entry.playing : Entry → Option Int
  | .own { id := songID, status := .Playing } => some songID
  | _ => none

namespace Speaker
variable {k : Speaker}

def unsent (k : Speaker) : List Entry := k.comm.outgoing ++ k.playbackConnectionQueue

def playings (k : Speaker) : List Int := k.unsent.filterMap Entry.playing

theorem playings_of_same {t : Speaker} (outgoing : t.comm.outgoing = k.comm.outgoing)
    (queue : t.playbackConnectionQueue = k.playbackConnectionQueue) : t.playings = k.playings := by
  unfold playings unsent
  rw [outgoing, queue]

theorem playings_put {t : Speaker} (entry : Entry) (comm : t.comm = k.comm)
    (queue : t.playbackConnectionQueue = k.playbackConnectionQueue ++ [entry]) :
    t.playings = k.playings ++ entry.playing.toList := by
  unfold playings unsent
  rw [comm, queue, ← List.append_assoc, List.filterMap_append]
  cases named : entry.playing <;> simp [named]

theorem playings_silent {t : Speaker} (entry : Entry) (silent : entry.playing = none)
    (comm : t.comm = k.comm)
    (queue : t.playbackConnectionQueue = k.playbackConnectionQueue ++ [entry]) :
    t.playings = k.playings := by
  rw [playings_put entry comm queue, silent]
  simp

theorem playing_of_status {message : Message} (other : message.status ≠ .Playing) :
    (Entry.own message).playing = none := by
  obtain ⟨songID, status⟩ := message
  cases status with
  | Playing => exact absurd rfl other
  | _ => rfl

theorem playings_communicate (ok : Bool)
    (other : ∀ message, k.posts = some message → message.status ≠ .Playing) :
    (k.communicate ok).playings = k.playings := by
  unfold communicate
  cases here : k.comm with
  | idle =>
    cases queued : k.playbackConnectionQueue with
    | nil => rfl
    | cons entry rest =>
      dsimp only
      split
      · rename_i needs
        have silent : entry.playing = none := by
          cases entry with
          | songEnd => rfl
          | own message =>
            apply playing_of_status
            intro playing
            rw [content, playing] at needs
            cases needs
        unfold playings unsent
        rw [here, queued]
        simp [silent, Comm.outgoing]
      · unfold playings unsent
        rw [here, queued]
        rfl
  | sending entry =>
    have silent : entry.playing = none := by
      cases entry with
      | songEnd => rfl
      | own message =>
        apply playing_of_status
        apply other
        rw [posts, here]
        rfl
    unfold playings unsent
    rw [here]
    simp [silent, Comm.outgoing]
  | requeueing entry songID =>
    have silent : (rewritten entry (renewed false songID)).playing = none := by
      cases entry <;> rfl
    unfold playings unsent
    rw [here]
    simp [put, setComm, silent, Comm.outgoing]
  | rewriting entry ready songID =>
    apply playings_of_same
    · rw [here]
      cases ready <;> rfl
    · cases entry <;> rfl
  | testing _ | requesting _ | sent _ | checkingNext _ | checkingReady _ | checkingUnknown _ =>
    apply playings_of_same
    · rw [here]
      dsimp only
      split <;> rfl
    · rfl
  | _ =>
    apply playings_of_same
    · rw [here]
      rfl
    · rfl

theorem sending_playing (songEnd : k.songEnd.status ≠ .Playing) {message : Message}
    (posts : k.posts = some message) (playing : message.status = .Playing) :
    k.comm = .sending (.own message) := by
  rw [Speaker.posts] at posts
  cases here : k.comm with
  | sending entry =>
    rw [here] at posts
    cases posts
    cases entry with
    | songEnd => exact absurd playing songEnd
    | own message => rfl
  | announcing other =>
    rw [here] at posts
    cases posts
    cases playing
  | resending entry other =>
    rw [here] at posts
    cases posts
    cases entry with
    | own message => cases playing
    | songEnd => exact absurd playing songEnd
  | _ =>
    rw [here] at posts
    cases posts

theorem playings_posted (ok : Bool) (songEnd : k.songEnd.status ≠ .Playing) {message : Message}
    (posts : k.posts = some message) (playing : message.status = .Playing) :
    k.playings = message.id :: (k.communicate ok).playings := by
  have here := sending_playing songEnd posts playing
  obtain ⟨songID, status⟩ := message
  cases playing
  unfold playings unsent communicate
  rw [here]
  rfl

structure StartsNone (k t : Speaker) : Prop where
  current : t.currentSong = k.currentSong
  state : t.currentSongState = .PLAYING → k.currentSongState = .PLAYING
  songEnd : k.songEnd.status ≠ .Playing → t.songEnd.status ≠ .Playing
  playings : t.playings = k.playings

theorem StartsNone.refl (k : Speaker) : StartsNone k k :=
  ⟨rfl, fun playing => playing, fun other => other, rfl⟩

theorem startsNone_message (songID : Int) {status : MessageStatus} (other : status ≠ .Playing) :
    StartsNone k (k.message songID status) := by
  refine ⟨rfl, fun playing => playing, fun kept => kept, ?_⟩
  exact playings_silent _ (playing_of_status other) rfl rfl

theorem startsNone_fetchSong (k : Speaker) (songID : Int) : StartsNone k (k.fetchSong songID) := by
  unfold fetchSong
  split
  · dsimp only
    split
    · refine ⟨rfl, fun playing => playing, fun kept => kept, ?_⟩
      apply playings_silent (.own { id := songID, status := .Ready }) <;> rfl
    · exact ⟨rfl, fun playing => playing, fun kept => kept, rfl⟩
  · exact startsNone_message songID (by simp)

theorem startsNone_upcoming (songID : Int) : StartsNone k (k.handleUpcomingSongUpdate songID) := by
  unfold handleUpcomingSongUpdate
  split
  · exact .refl k
  · split
    · obtain ⟨current, state, songEnd, playings⟩ :=
        startsNone_fetchSong { k with nextSong := songID, nextSongState := .UNKNOWN } songID
      exact ⟨current, state, songEnd, playings⟩
    · split
      · exact startsNone_fetchSong k songID
      · exact .refl k

theorem startsNone_stop (songID : Int) : StartsNone k (k.handleStopCommand songID) := by
  unfold handleStopCommand
  split
  · refine ⟨rfl, fun no => ?_, fun kept => kept, ?_⟩
    · cases no
    · apply playings_silent (.own { id := songID, status := .Stopped }) <;> rfl
  · exact .refl k

theorem startsNone_poll (found : Bool) : StartsNone k (k.poll found) := by
  unfold poll
  split
  · split
    · refine ⟨rfl, fun no => ?_, fun _ => ?_, ?_⟩
      · cases no
      · simp [put]
      · apply playings_silent .songEnd <;> rfl
    · exact .refl k
  · exact .refl k

theorem startsNone_endMusic : StartsNone k k.endMusic :=
  ⟨rfl, fun playing => playing, fun kept => kept, rfl⟩

theorem songEnd_communicate (ok : Bool) (songEnd : k.songEnd.status ≠ .Playing) :
    (k.communicate ok).songEnd.status ≠ .Playing := by
  unfold communicate
  cases k.comm with
  | idle => cases k.playbackConnectionQueue <;> exact songEnd
  | rewriting entry ready songID =>
    cases entry with
    | own message => exact songEnd
    | songEnd => cases ready <;> simp [setContent, setComm, renewed]
  | _ => exact songEnd

theorem startsNone_communicate (ok : Bool)
    (other : ∀ message, k.posts = some message → message.status ≠ .Playing) :
    StartsNone k (k.communicate ok) := by
  obtain ⟨current, state, -⟩ := communicate_songs k ok
  refine ⟨current, ?_, songEnd_communicate ok, playings_communicate ok other⟩
  intro playing
  rw [← state]
  exact playing

theorem play_cases (songID : Int) (loads : Bool) :
    StartsNone k (k.handlePlayCommand songID loads) ∨
      songID ≠ k.currentSong ∧ (k.handlePlayCommand songID loads).currentSong = songID ∧
        (k.handlePlayCommand songID loads).songEnd = k.songEnd ∧
        ((k.handlePlayCommand songID loads).playings = k.playings ++ [songID] ∨
          (k.handlePlayCommand songID loads).playings = k.playings) := by
  unfold handlePlayCommand
  by_cases current : songID = k.currentSong
  · rw [if_pos current]
    exact Or.inl (.refl k)
  rw [if_neg current]
  by_cases starts : songID = k.nextSong ∧ k.currentSongState ≠ .PLAYING ∧ k.nextSongState = .READY
  · rw [if_pos starts]
    right
    have next : k.started.currentSong = songID := starts.1.symm
    split
    · refine ⟨current, next, rfl, Or.inl ?_⟩
      apply playings_put (.own { id := songID, status := .Playing }) <;> rfl
    · exact ⟨current, next, rfl, Or.inr rfl⟩
  · rw [if_neg starts]
    left
    split
    · exact startsNone_message songID (by simp)
    · exact .refl k

end Speaker

def Situation.plays (σ : Situation) : List Int :=
  σ.commands.filterMap fun command => if command.command = .Play then some command.id else none

/-- The speaker plays a song of the server, and so it will do when it has heard
    the commands and sent the reports. -/
structure Agreed (σ : Situation) (k : Speaker) : Prop where
  song : k.currentSongState = .PLAYING →
    σ.active = some k.currentSong ∨ σ.next = some k.currentSong
  playings : k.playings = [] ∨ k.playings = [k.currentSong] ∧ σ.next = some k.currentSong
  plays : ∀ songID ∈ σ.plays, songID = k.currentSong ∨ σ.next = some songID
  order : σ.plays.Pairwise fun first second => second = k.currentSong → first = k.currentSong
  songEnd : k.songEnd.status ≠ .Playing

namespace Agreed
variable {σ τ : Situation} {k t : Speaker}

theorem of_startsNone (h : Agreed σ k) (same : Speaker.StartsNone k t) : Agreed σ t := by
  obtain ⟨song, playings, plays, order, songEnd⟩ := h
  constructor
  · intro playing
    rw [same.current]
    exact song (same.state playing)
  · rw [same.playings, same.current]
    exact playings
  · rw [same.current]
    exact plays
  · rw [same.current]
    exact order
  · exact same.songEnd songEnd

theorem of_fewer (h : Agreed σ k) (active : τ.active = σ.active) (next : τ.next = σ.next)
    (fewer : τ.plays.Sublist σ.plays) : Agreed τ k := by
  obtain ⟨song, playings, plays, order, songEnd⟩ := h
  constructor
  · rw [active, next]
    exact song
  · rw [next]
    exact playings
  · rw [next]
    intro songID listed
    exact plays songID (fewer.subset listed)
  · exact order.sublist fewer
  · exact songEnd

theorem move {lost : PlaybackCommand → Prop} {ready : Int → Prop} (h : Agreed σ k) (move : Situation.Move lost ready σ τ) :
    Agreed τ k := by
  cases move with
  | announce songID older selected kept => exact h.of_fewer rfl rfl (List.Sublist.refl _)
  | select songID older unset other kept =>
    obtain ⟨song, playings, plays, order, songEnd⟩ := h
    have current : ∀ songID ∈ σ.plays, songID = k.currentSong := by
      intro songID listed
      rcases plays songID listed with same | selected
      · exact same
      · rw [unset] at selected
        cases selected
    refine ⟨?_, ?_, fun songID listed => Or.inl (current songID listed), order, songEnd⟩
    · intro playing
      rcases song playing with active | selected
      · exact Or.inl active
      · rw [unset] at selected
        cases selected
    · rcases playings with none | ⟨-, selected⟩
      · exact Or.inl none
      · rw [unset] at selected
        cases selected
  | play songID older selected _ kept =>
    have fewer : Agreed { σ with commands := older } k :=
      h.of_fewer rfl rfl (kept.sublist.filterMap _)
    obtain ⟨song, playings, plays, order, songEnd⟩ := fewer
    have grown : ({ σ with commands := older ++ [{ command := .Play, id := songID }] } :
        Situation).plays = ({ σ with commands := older } : Situation).plays ++ [songID] := by
      simp [Situation.plays]
    refine ⟨song, playings, ?_, ?_, songEnd⟩
    · rw [grown]
      intro other listed
      rcases List.mem_append.mp listed with old | new
      · exact plays other old
      · rw [List.mem_singleton.mp new]
        exact Or.inr selected
    · rw [grown, List.pairwise_append]
      refine ⟨order, List.pairwise_singleton _ _, ?_⟩
      intro first before second new current
      rw [List.mem_singleton.mp new] at current
      rcases plays first before with same | next
      · exact same
      · have same : some songID = some first := selected.symm.trans next
        cases same
        exact current
  | stop songID older running kept =>
    have dropped : ({ σ with commands := older ++ [{ command := .Stop, id := songID }] } :
        Situation).plays = ({ σ with commands := older } : Situation).plays := by
      simp [Situation.plays]
    have fewer : ({ σ with commands := older ++ [{ command := .Stop, id := songID }] } :
        Situation).plays.Sublist σ.plays := by
      rw [dropped]
      exact kept.sublist.filterMap _
    exact h.of_fewer rfl rfl fewer

theorem moves {lost : PlaybackCommand → Prop} {ready : Int → Prop} (h : Agreed σ k) (moves : Situation.Moves lost ready σ τ) :
    Agreed τ k := by
  induction moves with
  | refl => exact h
  | tail _ move ih => exact ih.move move

theorem started (h : Agreed σ k) (named : σ.next = some k.currentSong) (none : t.playings = [])
    (same : t.currentSong = k.currentSong) (songEnd : t.songEnd.status ≠ .Playing) :
    Agreed σ.started t := by
  have current : ∀ songID ∈ σ.plays, songID = k.currentSong := by
    intro songID listed
    rcases h.plays songID listed with same | next
    · exact same
    · rw [named] at next
      exact (Option.some.inj next).symm
  refine ⟨?_, Or.inl none, ?_, ?_, songEnd⟩
  · intro _
    rw [same]
    exact Or.inl named
  · intro songID listed
    rw [same]
    exact Or.inl (current songID listed)
  · rw [same]
    exact h.order

theorem play {songID : Int} (h : Agreed σ k) (loads : Bool) (active : τ.active = σ.active)
    (next : τ.next = σ.next) (heard : σ.plays = songID :: τ.plays) :
    Agreed τ (k.handlePlayCommand songID loads) := by
  have fewer : τ.plays.Sublist σ.plays := by
    rw [heard]
    exact List.sublist_cons_self songID τ.plays
  have before := h.of_fewer active next fewer
  rcases Speaker.play_cases (k := k) songID loads with same | ⟨other, current, songEnd, playings⟩
  · exact before.of_startsNone same
  -- the command is for the next song, and so are all that follow it
  have first : songID ∈ σ.plays := by
    rw [heard]
    exact List.mem_cons_self
  have selected : τ.next = some songID := by
    rw [next]
    rcases h.plays songID first with same | selected
    · exact absurd same other
    · exact selected
  have order := h.order
  rw [heard, List.pairwise_cons] at order
  have rest : ∀ later ∈ τ.plays, later = songID := by
    intro later listed
    rcases before.plays later listed with same | next
    · exact absurd (order.1 later listed same) other
    · rw [selected] at next
      exact (Option.some.inj next).symm
  have none : k.playings = [] := by
    rcases before.playings with none | ⟨-, named⟩
    · exact none
    · rw [selected] at named
      exact absurd (Option.some.inj named) other
  constructor
  · intro _
    rw [current]
    exact Or.inr selected
  · rw [current]
    rcases playings with grown | same
    · right
      rw [grown, none]
      exact ⟨rfl, selected⟩
    · left
      rw [same, none]
  · intro later listed
    rw [current]
    exact Or.inl (rest later listed)
  · rw [current]
    apply List.pairwise_of_forall_mem_list
    intro a ha b _ _
    exact rest a ha
  · rw [songEnd]
    exact h.songEnd

theorem hears {update : SessionUpdate} (h : Agreed σ k) (loads : Bool)
    (hears : Situation.Hears update σ τ) : Agreed τ (k.handle update loads) := by
  obtain ⟨active, next, commands, -⟩ := hears
  have silent : (∀ songID, update ≠ .playback_command { command := .Play, id := songID }) →
      Agreed τ k := by
    intro other
    apply h.of_fewer active next
    unfold Situation.plays
    rw [commands, List.filterMap_append]
    exact List.sublist_append_right _ _
  cases update with
  | playback_command command =>
    obtain ⟨action, songID⟩ := command
    cases action with
    | Play =>
      apply h.play loads active next
      unfold Situation.plays
      rw [commands]
      rfl
    | Stop => exact (silent (by simp)).of_startsNone (Speaker.startsNone_stop songID)
  | upcoming_song song => exact (silent (by simp)).of_startsNone (Speaker.startsNone_upcoming song.id)
  | current_song active => exact silent (by simp)
  | likes stats => exact silent (by simp)
  | votes votes => exact silent (by simp)
  | song_list songs => exact silent (by simp)

end Agreed

namespace Party
variable {p : Party} {id : Int}

/-- The current song of the speaker is the active or the next song of the server. -/
def PlaysSongOfServer (p : Party) : Prop :=
  p.server.activeSong.map (fun a => a.id) = some p.speaker.currentSong ∨
    p.server.nextSong.map Song.id = some p.speaker.currentSong

theorem genuine_of_agreed (h : Agreed (p.situation id) p.speaker) : ∀ message,
    p.speaker.posts = some message → message.status = .Playing →
      (p.situation id).next = some message.id := by
  intro message posts playing
  have first := Speaker.playings_posted false h.songEnd posts playing
  rcases h.playings with none | ⟨one, named⟩
  · rw [none] at first
    cases first
  · rw [one] at first
    obtain ⟨same, -⟩ := List.cons.inj first
    rw [← same]
    exact named

theorem agreed_happens {e : PartyEvent} (h : Agreed (p.situation id) p.speaker)
    (happens : p.Happens id e) : Agreed ((p.step e).situation id) (p.step e).speaker := by
  cases happens with
  | calls c _ speaker moves =>
    rw [speaker]
    exact h.moves moves
  | waits speaker situation =>
    rw [speaker, situation]
    exact h
  | hears update loads _ _ speaker situation =>
    rw [speaker]
    exact h.hears loads situation
  | listens found speaker situation =>
    rw [speaker, situation]
    exact h.of_startsNone (Speaker.startsNone_poll found)
  | ends speaker situation =>
    rw [speaker, situation]
    exact h.of_startsNone Speaker.startsNone_endMusic
  | works readable _ _ silent speaker situation =>
    rw [speaker, situation]
    apply h.of_startsNone
    apply Speaker.startsNone_communicate
    intro message posts
    rw [silent] at posts
    cases posts
  | reports message _ posts speaker moves =>
    rw [speaker]
    apply Agreed.moves _ moves
    by_cases playing : message.status = .Playing
    · have first := Speaker.playings_posted false h.songEnd posts playing
      have none : (p.speaker.communicate false).playings = [] := by
        rcases h.playings with none | ⟨one, -⟩
        · rw [none] at first
          cases first
        · rw [one] at first
          exact (List.cons.inj first).2.symm
      obtain ⟨current, state, -⟩ := Speaker.communicate_songs p.speaker false
      constructor
      · rw [current, state]
        exact h.song
      · exact Or.inl none
      · rw [current]
        exact h.plays
      · rw [current]
        exact h.order
      · exact Speaker.songEnd_communicate false h.songEnd
    · apply h.of_startsNone
      apply Speaker.startsNone_communicate
      intro other same
      rw [posts] at same
      cases same
      exact playing
  | starts message posts playing named speaker situation =>
    have first := Speaker.playings_posted false h.songEnd posts playing
    rcases h.playings with none | ⟨one, next⟩
    · rw [none] at first
      cases first
    · rw [one] at first
      rw [speaker, situation]
      apply h.started next
      · exact (List.cons.inj first).2.symm
      · exact (Speaker.communicate_songs p.speaker false).1
      · exact Speaker.songEnd_communicate false h.songEnd

def Agrees (files : Int → SongFile) (p : Party) : Prop :=
  p.Sound ∧ (p.Unjoined files ∨ ∃ id, p.Linked id ∧ Agreed (p.situation id) p.speaker)

theorem agrees_step {files : Int → SongFile} (h : p.Agrees files) (e : PartyEvent) :
    (p.step e).Agrees files := by
  obtain ⟨sound, unjoined | ⟨id, linked, agreed⟩⟩ := h
  · refine ⟨sound.step e, ?_⟩
    rcases unjoined.step sound e with still | ⟨id, welcomed⟩
    · exact Or.inl still
    · right
      refine ⟨id, welcomed.linked, ?_⟩
      rw [welcomed.speaker]
      refine Agreed.moves ⟨?_, Or.inl rfl, ?_, List.Pairwise.nil, ?_⟩ welcomed.moves
      · intro no
        cases no
      · intro songID no
        cases no
      · intro no
        cases no
  · obtain ⟨what, still⟩ := happens sound linked (genuine_of_agreed agreed) e
    exact ⟨sound.step e, Or.inr ⟨id, still, agreed_happens agreed what⟩⟩

end Party

/-- Whatever the users, the timer, the polls, the downloads and the song ends do,
    the song that the speaker plays is the active or the next song of the server. -/
theorem speaker_plays_song_of_server (music : List MusicRow) (clock : Nat)
    (files : Int → SongFile) (events : List PartyEvent)
    (playing : (run Party.step (.start music clock files) events).speaker.currentSongState = .PLAYING) :
    (run Party.step (.start music clock files) events).PlaysSongOfServer := by
  have agrees : (run Party.step (.start music clock files) events).Agrees files := by
    apply invariant_of_run
    · intro p e h
      exact Party.agrees_step h e
    · exact ⟨Party.sound_start music clock files, Or.inl (Party.unjoined_start music clock files)⟩
  obtain ⟨-, unjoined | ⟨id, -, agreed⟩⟩ := agrees
  · rw [unjoined.speaker] at playing
    cases playing
  · exact agreed.song playing

def firstSongEvents : List PartyEvent :=
  [.authenticates "10.0.0.2", .polls 1, .receives, .handles true] ++
    List.replicate 8 (.communicates true) ++
    [.polls 2, .receives, .handles true, .communicates true, .communicates true]

theorem first_song_is_servers :
    (run Party.step (.start twoSongs 0 fun _ => .missing) firstSongEvents).speaker.currentSongState =
        .PLAYING ∧
      (run Party.step (.start twoSongs 0 fun _ => .missing) firstSongEvents).PlaysSongOfServer := by
  have playing : (run Party.step (.start twoSongs 0 fun _ => .missing)
      firstSongEvents).speaker.currentSongState = .PLAYING := by decide +kernel
  exact ⟨playing, speaker_plays_song_of_server twoSongs 0 _ firstSongEvents playing⟩

end MusicCloud
