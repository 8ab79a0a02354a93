import MusicCloud.Runs
import MusicCloud.Songs

/-!
The speaker (`raspi.py`). The playback thread handles the updates of the server
and polls the song-end events of pygame; each handler runs from start to end. The
communication thread works off `playback_connection_queue`: one step of it reads or
writes one of the variables that the threads share, makes one request, or does one
operation on a file. Three things are one step although the code does them one after
the other: it takes a message and looks at what the message asks for; it writes the
entries of a dictionary; and a request is answered with what its dictionary holds
then. An exception in a handler ends that handler alone.
-/
namespace MusicCloud
open Runs

def UNKNOWN : Int := -1

inductive SongState where
  | UNKNOWN | PLAYING | STOPPED | DOWNLOADING | READY
  deriving DecidableEq, Repr

inductive MessageStatus where
  | need_song | Ready | Playing | Stopped
  deriving DecidableEq, Repr

structure Message where
  id : Int
  status : MessageStatus
  deriving DecidableEq, Repr

/-- An entry of `playback_connection_queue`. `playback_func` puts one and the same
    dictionary at every song end; every other message has a dictionary of its own. -/
inductive Entry where
  | own (message : Message)
  | songEnd
  deriving DecidableEq, Repr

inductive SongFile where
  | missing | writing | complete
  deriving DecidableEq, Repr

inductive Comm where
  | idle
  | marking (songID : Int)
  | requesting (songID : Int)
  | opening (songID : Int)
  | writing (songID : Int)
  | saved (songID : Int)
  | failed
  | testing (songID : Int)
  | announcing (songID : Int)
  | sending (entry : Entry)
  | sent (entry : Entry)
  | checkingNext (entry : Entry)
  | checkingReady (entry : Entry)
  | checkingUnknown (entry : Entry)
  | renewing (entry : Entry) (ready : Bool)
  | rewriting (entry : Entry) (ready : Bool) (songID : Int)
  | resending (entry : Entry) (songID : Int)
  | requeueing (entry : Entry) (songID : Int)
  deriving DecidableEq, Repr

/-- `playbacks` numbers the songs that the speaker starts; pygame knows the number
    of the music it plays, and queues the numbers of those that have ended. -/
structure Speaker where
  currentSong : Int
  currentSongState : SongState
  nextSong : Int
  nextSongState : SongState
  playbackConnectionQueue : List Entry
  songEnd : Message
  comm : Comm
  files : Int → SongFile
  playbacks : Nat
  music : Option Nat
  songEnds : List Nat

inductive SpeakerEvent where
  | handles (update : SessionUpdate) (loads : Bool)
  | polls (found : Bool)
  | songEnds
  | communicates (ok : Bool)

namespace Speaker

def start (files : Int → SongFile) : Speaker :=
  { currentSong := MusicCloud.UNKNOWN, currentSongState := .UNKNOWN
    nextSong := MusicCloud.UNKNOWN, nextSongState := .UNKNOWN, playbackConnectionQueue := []
    songEnd := { id := MusicCloud.UNKNOWN, status := .Stopped }, comm := .idle, files := files
    playbacks := 0, music := none, songEnds := [] }

section Playback

def put (entry : Entry) (s : Speaker) : Speaker :=
  { s with playbackConnectionQueue := s.playbackConnectionQueue ++ [entry] }

def message (songID : Int) (status : MessageStatus) (s : Speaker) : Speaker :=
  s.put (.own { id := songID, status := status })

def checkForSong (songID : Int) (s : Speaker) : Bool := s.files songID ≠ .missing

def endMusic (s : Speaker) : Speaker :=
  { s with songEnds := s.songEnds ++ s.music.toList, music := none }

def playMusic (s : Speaker) : Speaker := { s.endMusic with music := some s.playbacks }

/-- Whether `pygame.mixer.music.load` returns; `loads` decides for a file that is
    not completely written. -/
def canLoad (songID : Int) (loads : Bool) (s : Speaker) : Bool :=
  match s.files songID with
  | .missing => false
  | .writing => loads
  | .complete => true

def started (s : Speaker) : Speaker :=
  { s with
    currentSong := s.nextSong
    currentSongState := .PLAYING
    nextSong := MusicCloud.UNKNOWN
    nextSongState := .UNKNOWN
    playbacks := s.playbacks + 1 }

def handlePlayCommand (songID : Int) (loads : Bool) (s : Speaker) : Speaker :=
  if songID = s.currentSong then s
  else if songID = s.nextSong ∧ s.currentSongState ≠ .PLAYING ∧ s.nextSongState = .READY then
    if s.canLoad songID loads then s.started.playMusic.message songID .Playing else s.started
  else if songID = s.nextSong ∧ s.nextSongState = .UNKNOWN then s.message songID .need_song
  else s

def handleStopCommand (songID : Int) (s : Speaker) : Speaker :=
  if songID = s.currentSong ∧ s.currentSongState = .PLAYING then
    { s.endMusic with currentSongState := .STOPPED }.message songID .Stopped
  else s

def fetchSong (songID : Int) (s : Speaker) : Speaker :=
  if s.checkForSong songID then
    let s := { s with nextSongState := .READY }
    if s.currentSongState ≠ .PLAYING then s.message songID .Ready else s
  else s.message songID .need_song

def handleUpcomingSongUpdate (songID : Int) (s : Speaker) : Speaker :=
  if songID = s.currentSong then s
  else if songID ≠ s.nextSong then
    { s with nextSong := songID, nextSongState := .UNKNOWN }.fetchSong songID
  else if s.nextSongState = .UNKNOWN ∧ s.nextSong ≠ MusicCloud.UNKNOWN then s.fetchSong songID
  else s

def handle (update : SessionUpdate) (loads : Bool) (s : Speaker) : Speaker :=
  match update with
  | .playback_command { command := .Play, id := songID } => s.handlePlayCommand songID loads
  | .playback_command { command := .Stop, id := songID } => s.handleStopCommand songID
  | .upcoming_song song => s.handleUpcomingSongUpdate song.id
  | _ => s

/-- The body of the loop of `playback_func` when there is no update. `found` says
    that the polled event is a song end; pygame queues events of its own too. -/
def poll (found : Bool) (s : Speaker) : Speaker :=
  if s.currentSongState = .PLAYING ∧ found then
    match s.songEnds with
    | _ :: rest =>
      { s with
        songEnds := rest
        currentSongState := .STOPPED
        songEnd := { id := s.currentSong, status := .Stopped } }.put .songEnd
    | [] => s
  else s

end Playback

section Communication

def content (s : Speaker) : Entry → Message
  | .own message => message
  | .songEnd => s.songEnd

def setComm (comm : Comm) (s : Speaker) : Speaker := { s with comm := comm }

def setContent (entry : Entry) (message : Message) (s : Speaker) : Speaker :=
  match entry with
  | .own _ => s
  | .songEnd => { s with songEnd := message }

def rewritten (entry : Entry) (message : Message) : Entry :=
  match entry with
  | .own _ => .own message
  | .songEnd => .songEnd

/-- The message that a Stopped message becomes: the next song is ready, or asked for. -/
def renewed (ready : Bool) (songID : Int) : Message :=
  { id := songID, status := if ready then .Ready else .need_song }

/-- The next step of `communicate_func`, `handle_need_song` included. `ok` says
    that the server answers a song request with the song. -/
def communicate (ok : Bool) (s : Speaker) : Speaker :=
  match s.comm with
  | .idle =>
    match s.playbackConnectionQueue with
    | [] => s
    | entry :: rest =>
      { s with
        playbackConnectionQueue := rest
        comm := if (s.content entry).status = .need_song then .marking (s.content entry).id
          else .sending entry }
  | .marking songID => { s with nextSongState := .DOWNLOADING, comm := .requesting songID }
  | .requesting songID => { s with comm := if ok then .opening songID else .failed }
  | .opening songID =>
    { s with files := Function.update s.files songID .writing, comm := .writing songID }
  | .writing songID =>
    { s with files := Function.update s.files songID .complete, comm := .saved songID }
  | .saved songID => { s with nextSongState := .READY, comm := .testing songID }
  | .failed => { s with nextSongState := .UNKNOWN, comm := .idle }
  | .testing songID =>
    { s with comm := if s.currentSongState ≠ .PLAYING then .announcing songID else .idle }
  | .announcing _ => { s with comm := .idle }
  | .sending entry => { s with comm := .sent entry }
  | .sent entry =>
    { s with comm := if (s.content entry).status = .Stopped then .checkingNext entry else .idle }
  | .checkingNext entry =>
    -- the result of `check_for_song` is not used
    { s with comm := if s.nextSong ≠ MusicCloud.UNKNOWN then .checkingReady entry else .idle }
  | .checkingReady entry =>
    { s with comm := if s.nextSongState = .READY then .renewing entry true
        else .checkingUnknown entry }
  | .checkingUnknown entry =>
    { s with comm := if s.nextSongState = .UNKNOWN then .renewing entry false else .idle }
  | .renewing entry ready => { s with comm := .rewriting entry ready s.nextSong }
  | .rewriting entry ready songID =>
    (s.setContent entry (renewed ready songID)).setComm <|
      if ready then .resending entry songID else .requeueing entry songID
  | .resending _ _ => { s with comm := .idle }
  | .requeueing entry songID => (s.put (rewritten entry (renewed false songID))).setComm .idle

/-- The message about the next song that is yet to be put on the queue. -/
def renewal (s : Speaker) : Option Message :=
  match s.comm with
  | .rewriting _ false songID => some (renewed false songID)
  | .requeueing entry songID => some (s.content (rewritten entry (renewed false songID)))
  | _ => none

def posts (s : Speaker) : Option Message :=
  match s.comm with
  | .announcing songID => some { id := songID, status := .Ready }
  | .sending entry => some (s.content entry)
  | .resending entry songID => some (s.content (rewritten entry (renewed true songID)))
  | _ => none

end Communication

section Stages
variable {s : Speaker} (ok : Bool) {songID : Int} {entry : Entry}

theorem communicate_resting (here : s.comm = .idle) (empty : s.playbackConnectionQueue = []) :
    s.communicate ok = s := by
  unfold communicate
  rw [here, empty]

theorem communicate_takes (here : s.comm = .idle) {rest : List Entry}
    (queued : s.playbackConnectionQueue = entry :: rest)
    (asks : (s.content entry).status = .need_song) : s.communicate ok = { s with
      playbackConnectionQueue := rest
      comm := .marking (s.content entry).id } := by
  unfold communicate
  rw [here, queued]
  dsimp only
  rw [if_pos asks]

theorem communicate_picks (here : s.comm = .idle) {rest : List Entry}
    (queued : s.playbackConnectionQueue = entry :: rest)
    (other : (s.content entry).status ≠ .need_song) : s.communicate ok = { s with
      playbackConnectionQueue := rest
      comm := .sending entry } := by
  unfold communicate
  rw [here, queued]
  dsimp only
  rw [if_neg other]

theorem communicate_marking (here : s.comm = .marking songID) :
    s.communicate ok = { s with nextSongState := .DOWNLOADING, comm := .requesting songID } := by
  unfold communicate
  rw [here]

theorem communicate_requesting (here : s.comm = .requesting songID) :
    s.communicate ok = { s with comm := if ok then .opening songID else .failed } := by
  unfold communicate
  rw [here]

theorem communicate_opening (here : s.comm = .opening songID) : s.communicate ok =
    { s with files := Function.update s.files songID .writing, comm := .writing songID } := by
  unfold communicate
  rw [here]

theorem communicate_writing (here : s.comm = .writing songID) : s.communicate ok =
    { s with files := Function.update s.files songID .complete, comm := .saved songID } := by
  unfold communicate
  rw [here]

theorem communicate_saved (here : s.comm = .saved songID) :
    s.communicate ok = { s with nextSongState := .READY, comm := .testing songID } := by
  unfold communicate
  rw [here]

theorem communicate_failed (here : s.comm = .failed) :
    s.communicate ok = { s with nextSongState := .UNKNOWN, comm := .idle } := by
  unfold communicate
  rw [here]

theorem communicate_testing (here : s.comm = .testing songID) : s.communicate ok =
    { s with comm := if s.currentSongState ≠ .PLAYING then .announcing songID else .idle } := by
  unfold communicate
  rw [here]

theorem communicate_announcing (here : s.comm = .announcing songID) :
    s.communicate ok = { s with comm := .idle } := by
  unfold communicate
  rw [here]

theorem communicate_sending (here : s.comm = .sending entry) :
    s.communicate ok = { s with comm := .sent entry } := by
  unfold communicate
  rw [here]

theorem communicate_sent (here : s.comm = .sent entry) : s.communicate ok =
    { s with comm := if (s.content entry).status = .Stopped then .checkingNext entry else .idle } := by
  unfold communicate
  rw [here]

theorem communicate_checkingNext (here : s.comm = .checkingNext entry) : s.communicate ok =
    { s with comm := if s.nextSong ≠ MusicCloud.UNKNOWN then .checkingReady entry else .idle } := by
  unfold communicate
  rw [here]

theorem communicate_checkingReady (here : s.comm = .checkingReady entry) : s.communicate ok =
    { s with comm := if s.nextSongState = .READY then .renewing entry true
        else .checkingUnknown entry } := by
  unfold communicate
  rw [here]

theorem communicate_checkingUnknown (here : s.comm = .checkingUnknown entry) : s.communicate ok =
    { s with comm := if s.nextSongState = .UNKNOWN then .renewing entry false else .idle } := by
  unfold communicate
  rw [here]

theorem communicate_renewing {ready : Bool} (here : s.comm = .renewing entry ready) :
    s.communicate ok = { s with comm := .rewriting entry ready s.nextSong } := by
  unfold communicate
  rw [here]

theorem communicate_rewriting {ready : Bool} (here : s.comm = .rewriting entry ready songID) :
    s.communicate ok = (s.setContent entry (renewed ready songID)).setComm
      (if ready then .resending entry songID else .requeueing entry songID) := by
  unfold communicate
  rw [here]

theorem communicate_resending (here : s.comm = .resending entry songID) :
    s.communicate ok = { s with comm := .idle } := by
  unfold communicate
  rw [here]

theorem communicate_requeueing (here : s.comm = .requeueing entry songID) : s.communicate ok =
    (s.put (rewritten entry (renewed false songID))).setComm .idle := by
  unfold communicate
  rw [here]

/-- The stage that follows a stage, and what it depends on. -/
inductive Passes (s : Speaker) : Comm → Comm → Prop
  | rests : Passes s .idle .idle
  | takes {entry : Entry} (listed : entry ∈ s.playbackConnectionQueue)
    (asks : (s.content entry).status = .need_song) : Passes s .idle (.marking (s.content entry).id)
  | picks {entry : Entry} (listed : entry ∈ s.playbackConnectionQueue)
    (other : (s.content entry).status ≠ .need_song) : Passes s .idle (.sending entry)
  | marks (songID : Int) : Passes s (.marking songID) (.requesting songID)
  | answered (songID : Int) : Passes s (.requesting songID) (.opening songID)
  | refused (songID : Int) : Passes s (.requesting songID) .failed
  | opens (songID : Int) : Passes s (.opening songID) (.writing songID)
  | writes (songID : Int) : Passes s (.writing songID) (.saved songID)
  | saves (songID : Int) : Passes s (.saved songID) (.testing songID)
  | fails : Passes s .failed .idle
  | waits (songID : Int) (silent : s.currentSongState ≠ .PLAYING) :
    Passes s (.testing songID) (.announcing songID)
  | plays (songID : Int) : Passes s (.testing songID) .idle
  | announces (songID : Int) : Passes s (.announcing songID) .idle
  | sends (entry : Entry) : Passes s (.sending entry) (.sent entry)
  | stops (entry : Entry) (stopped : (s.content entry).status = .Stopped) :
    Passes s (.sent entry) (.checkingNext entry)
  | reports (entry : Entry) : Passes s (.sent entry) .idle
  | follows (entry : Entry) (some : s.nextSong ≠ MusicCloud.UNKNOWN) :
    Passes s (.checkingNext entry) (.checkingReady entry)
  | ends (entry : Entry) : Passes s (.checkingNext entry) .idle
  | readies (entry : Entry) (ready : s.nextSongState = .READY) :
    Passes s (.checkingReady entry) (.renewing entry true)
  | misses (entry : Entry) : Passes s (.checkingReady entry) (.checkingUnknown entry)
  | asks (entry : Entry) (unknown : s.nextSongState = .UNKNOWN) :
    Passes s (.checkingUnknown entry) (.renewing entry false)
  | loads (entry : Entry) : Passes s (.checkingUnknown entry) .idle
  | reads (entry : Entry) (ready : Bool) :
    Passes s (.renewing entry ready) (.rewriting entry ready s.nextSong)
  | readied (entry : Entry) (songID : Int) : Passes s (.rewriting entry true songID) (.resending entry songID)
  | asked (entry : Entry) (songID : Int) : Passes s (.rewriting entry false songID) (.requeueing entry songID)
  | resends (entry : Entry) (songID : Int) : Passes s (.resending entry songID) .idle
  | requeues (entry : Entry) (songID : Int) : Passes s (.requeueing entry songID) .idle

theorem passes_communicate : s.Passes s.comm (s.communicate ok).comm := by
  cases here : s.comm with
  | idle =>
    cases queue : s.playbackConnectionQueue with
    | nil =>
      rw [communicate_resting ok here queue, here]
      exact .rests
    | cons entry rest =>
      have listed : entry ∈ s.playbackConnectionQueue := by
        rw [queue]
        exact List.mem_cons_self
      by_cases asks : (s.content entry).status = .need_song
      · rw [communicate_takes ok here queue asks]
        exact .takes listed asks
      · rw [communicate_picks ok here queue asks]
        exact .picks listed asks
  | marking songID =>
    rw [communicate_marking ok here]
    exact .marks songID
  | requesting songID =>
    rw [communicate_requesting ok here]
    cases ok with
    | true => exact .answered songID
    | false => exact .refused songID
  | opening songID =>
    rw [communicate_opening ok here]
    exact .opens songID
  | writing songID =>
    rw [communicate_writing ok here]
    exact .writes songID
  | saved songID =>
    rw [communicate_saved ok here]
    exact .saves songID
  | failed =>
    rw [communicate_failed ok here]
    exact .fails
  | testing songID =>
    rw [communicate_testing ok here]
    dsimp only
    split
    · exact .waits songID ‹_›
    · exact .plays songID
  | announcing songID =>
    rw [communicate_announcing ok here]
    exact .announces songID
  | sending entry =>
    rw [communicate_sending ok here]
    exact .sends entry
  | sent entry =>
    rw [communicate_sent ok here]
    dsimp only
    split
    · exact .stops entry ‹_›
    · exact .reports entry
  | checkingNext entry =>
    rw [communicate_checkingNext ok here]
    dsimp only
    split
    · exact .follows entry ‹_›
    · exact .ends entry
  | checkingReady entry =>
    rw [communicate_checkingReady ok here]
    dsimp only
    split
    · exact .readies entry ‹_›
    · exact .misses entry
  | checkingUnknown entry =>
    rw [communicate_checkingUnknown ok here]
    dsimp only
    split
    · exact .asks entry ‹_›
    · exact .loads entry
  | renewing entry ready =>
    rw [communicate_renewing ok here]
    exact .reads entry ready
  | rewriting entry ready songID =>
    rw [communicate_rewriting ok here]
    cases ready with
    | true => exact .readied entry songID
    | false => exact .asked entry songID
  | resending entry songID =>
    rw [communicate_resending ok here]
    exact .resends entry songID
  | requeueing entry songID =>
    rw [communicate_requeueing ok here]
    exact .requeues entry songID

theorem content_of_same {t : Speaker} (same : t.songEnd = s.songEnd) : t.content = s.content := by
  funext entry
  cases entry with
  | own message => rfl
  | songEnd => exact same

theorem renewal_of_same {t : Speaker} (comm : t.comm = s.comm) (songEnd : t.songEnd = s.songEnd) :
    t.renewal = s.renewal := by
  unfold renewal
  rw [comm, content_of_same songEnd]

theorem content_setContent (entry other : Entry) (message : Message) :
    (s.setContent entry message).content other = s.content other ∨
      (s.setContent entry message).content other = message := by
  cases entry with
  | own m => exact Or.inl rfl
  | songEnd =>
    cases other with
    | own m => exact Or.inl rfl
    | songEnd => exact Or.inr rfl

theorem content_rewritten (entry : Entry) (message : Message) :
    (s.setContent entry message).content (rewritten entry message) = message := by
  cases entry <;> rfl

end Stages

def step (s : Speaker) : SpeakerEvent → Speaker
  | .handles update loads => s.handle update loads
  | .polls found => s.poll found
  | .songEnds => s.endMusic
  | .communicates ok => s.communicate ok

end Speaker
end MusicCloud
