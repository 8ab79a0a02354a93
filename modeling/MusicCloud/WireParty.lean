import MusicCloud.KnownSongs
import MusicCloud.StatusTexts

/-!
The party with what goes over the wire. The queue of the playback thread holds the bodies of
the responses, and the communication thread sends dictionaries that the server reads again.
The texts are a code of the party: each event does to the coded party what it does to the
party, so all that holds of runs of the one holds of runs of the other.
-/
namespace MusicCloud
open Runs SessionUpdateQueue

structure WireParty where
  server : Server
  speaker : Speaker
  updates : Updates
  serverPlaybackQueue : List ByteArray

structure WireEvent where
  event : PartyEvent
  /-- The dictionary of each message that may be sent. -/
  dictionary : ∀ message, Dictionary message

def Server.receiveStatusUpdate (id : Int) (content : List Char) (s : Server) : Server :=
  match (Json.read content).bind StatusUpdateMessage.read with
  | some update => s.call (.speakerStatusUpdate id (some update))
  | none => s

namespace WireParty

def rest (p : WireParty) : Party :=
  { server := p.server, speaker := p.speaker, updates := p.updates, serverPlaybackQueue := [] }

def withRest (p : WireParty) (rest : Party) : WireParty :=
  { p with server := rest.server, speaker := rest.speaker, updates := rest.updates }

def posted (p : WireParty) (dictionary : ∀ message, Dictionary message) : Server :=
  match p.rest.clientID, p.speaker.posts with
  | some id, some message =>
    p.server.receiveStatusUpdate id (Json.dumps (dictionary message).members)
  | _, _ => p.server

variable (texts : DoubleTexts)

def step (p : WireParty) (e : WireEvent) : WireParty :=
  match e.event with
  | .receives =>
    match p.updates with
    | .waiting id ch =>
      match (p.server.queueOf id).answer (some ch) with
      | some update =>
        { p with
          updates := .asking id
          serverPlaybackQueue := p.serverPlaybackQueue ++ [createResponse (update.toJson texts)] }
      | none => p
    | _ => p
  | .handles loads =>
    match p.serverPlaybackQueue with
    | body :: bodies => { p with speaker := p.speaker.hear body loads, serverPlaybackQueue := bodies }
    | [] => p
  | .listens found =>
    if p.serverPlaybackQueue = [] then { p with speaker := p.speaker.poll found } else p
  | .communicates readable =>
    if p.rest.clientID = none then p
    else
      { p with
        server := p.posted e.dictionary
        speaker := p.speaker.communicate (p.rest.serves readable) }
  | other => p.withRest (p.rest.step other)

end WireParty

namespace Party
variable (texts : DoubleTexts)

def written (p : Party) : WireParty :=
  { server := p.server, speaker := p.speaker, updates := p.updates
    serverPlaybackQueue := p.serverPlaybackQueue.map fun update =>
      createResponse (update.toJson texts) }

variable {p : Party}

theorem call_unknown_status (id songID : Int) (s : Server) :
    s.call (.speakerStatusUpdate id (some { id := songID, status := none })) = s := by
  rw [Server.call, Server.speakerStatusUpdate_apply]
  split <;> rfl

theorem received_dictionary {message : Message} (fits : FitsLong message.id)
    (d : Dictionary message) (id : Int) (s : Server) :
    s.receiveStatusUpdate id (Json.dumps d.members) =
      s.call (.speakerStatusUpdate id
        (some { id := message.id, status := message.status.report })) := by
  unfold Server.receiveStatusUpdate
  rw [read_dictionary, if_pos fits]
  cases message.status.report with
  | none => exact (call_unknown_status id message.id s).symm
  | some status => rfl

theorem posted_written (fits : ∀ message, p.speaker.posts = some message → FitsLong message.id)
    (dictionary : ∀ message, Dictionary message) :
    (p.written texts).posted dictionary = p.posted := by
  have client : (p.written texts).rest.clientID = p.clientID := rfl
  have speaker : (p.written texts).speaker = p.speaker := rfl
  have server : (p.written texts).server = p.server := rfl
  unfold WireParty.posted posted
  rw [client, speaker, server]
  cases p.clientID with
  | none => rfl
  | some id =>
    cases posts : p.speaker.posts with
    | none => rfl
    | some message => exact received_dictionary (fits message posts) (dictionary message) id p.server

/-- The queue of the playback thread is neither read nor written. -/
def Queueless (e : PartyEvent) : Prop := ∀ p : Party,
  (p.step e).serverPlaybackQueue = p.serverPlaybackQueue ∧
    ({ p with serverPlaybackQueue := [] } : Party).step e =
      { p.step e with serverPlaybackQueue := [] }

theorem queueless_calls (c : Call) : Queueless (.calls c) := by
  intro p
  have allows : ({ p with serverPlaybackQueue := [] } : Party).allows c = p.allows c := by
    cases c <;> rfl
  simp only [step, allows]
  split <;> exact ⟨rfl, rfl⟩

theorem queueless_authenticates (ip : String) : Queueless (.authenticates ip) := by
  intro p
  simp only [step]
  split
  · simp only [authenticate]
    split <;> exact ⟨rfl, rfl⟩
  · exact ⟨rfl, rfl⟩

theorem queueless_polls (ch : Channel) : Queueless (.polls ch) := by
  rintro ⟨server, speaker, updates, queue⟩
  simp only [step]
  cases updates with
  | asking id =>
    dsimp only
    split <;> exact ⟨rfl, rfl⟩
  | _ => exact ⟨rfl, rfl⟩

theorem queueless_timesOut : Queueless .timesOut := by
  rintro ⟨server, speaker, updates, queue⟩
  simp only [step]
  cases updates with
  | waiting id ch =>
    dsimp only
    cases (server.queueOf id).answer (some ch) <;> exact ⟨rfl, rfl⟩
  | _ => exact ⟨rfl, rfl⟩

theorem Queueless.written {e : PartyEvent} (h : Queueless e) (p : Party) :
    (p.written texts).withRest ((p.written texts).rest.step e) = (p.step e).written texts := by
  obtain ⟨queue, step⟩ := h p
  have rest : (p.written texts).rest = { p with serverPlaybackQueue := [] } := rfl
  rw [rest, step]
  unfold Party.written WireParty.withRest
  rw [queue]

theorem receives_written (dictionary : ∀ message, Dictionary message) :
    (p.written texts).step texts { event := .receives, dictionary := dictionary } =
      (p.step .receives).written texts := by
  have updates : (p.written texts).updates = p.updates := rfl
  have server : (p.written texts).server = p.server := rfl
  simp only [WireParty.step, step, updates, server]
  cases p.updates with
  | waiting id ch =>
    dsimp only
    cases (p.server.queueOf id).answer (some ch) with
    | none => rfl
    | some update =>
      dsimp only
      unfold written
      rw [List.map_append]
      rfl
  | _ => rfl

theorem handles_written (loads : Bool) (dictionary : ∀ message, Dictionary message) :
    (p.written texts).step texts { event := .handles loads, dictionary := dictionary } =
      (p.step (.handles loads)).written texts := by
  simp only [WireParty.step, step]
  cases queue : p.serverPlaybackQueue with
  | nil =>
    have bodies : (p.written texts).serverPlaybackQueue = [] := by
      unfold written
      rw [queue]
      rfl
    rw [bodies]
  | cons update updates =>
    have bodies : (p.written texts).serverPlaybackQueue = createResponse (update.toJson texts) ::
        updates.map fun u => createResponse (u.toJson texts) := by
      unfold written
      rw [queue]
      rfl
    have speaker : (p.written texts).speaker = p.speaker := rfl
    rw [bodies]
    dsimp only
    rw [speaker, Speaker.hear_createResponse]
    rfl

theorem listens_written (found : Bool) (dictionary : ∀ message, Dictionary message) :
    (p.written texts).step texts { event := .listens found, dictionary := dictionary } =
      (p.step (.listens found)).written texts := by
  have empty : (p.written texts).serverPlaybackQueue = [] ↔ p.serverPlaybackQueue = [] :=
    List.map_eq_nil_iff
  simp only [WireParty.step, step, empty]
  split <;> rfl

theorem communicates_written
    (fits : ∀ message, p.speaker.posts = some message → FitsLong message.id) (readable : Bool)
    (dictionary : ∀ message, Dictionary message) :
    (p.written texts).step texts { event := .communicates readable, dictionary := dictionary } =
      (p.step (.communicates readable)).written texts := by
  have client : (p.written texts).rest.clientID = p.clientID := rfl
  have serves : (p.written texts).rest.serves readable = p.serves readable := rfl
  simp only [WireParty.step, step, client, serves, posted_written texts fits]
  split <;> rfl

theorem step_written (fits : ∀ message, p.speaker.posts = some message → FitsLong message.id)
    (e : WireEvent) : (p.written texts).step texts e = (p.step e.event).written texts := by
  obtain ⟨event, dictionary⟩ := e
  cases event with
  | calls c => exact (queueless_calls c).written texts p
  | authenticates ip => exact (queueless_authenticates ip).written texts p
  | polls ch => exact (queueless_polls ch).written texts p
  | timesOut => exact queueless_timesOut.written texts p
  | receives => exact receives_written texts dictionary
  | handles loads => exact handles_written texts loads dictionary
  | listens found => exact listens_written texts found dictionary
  | songEnds => rfl
  | communicates readable => exact communicates_written texts fits readable dictionary

theorem fits_posted {files : Int → SongFile} {music : List MusicRow} {clock : Nat}
    (bounded : music.length < 2 ^ 63)
    (h : p.KnowsSongs files ((start music clock files).server.db.songs.map SongRow.id)) :
    ∀ message, p.speaker.posts = some message → FitsLong message.id := by
  intro message posts
  have fits : ∀ songID, InLibrary ((start music clock files).server.db.songs.map SongRow.id) songID →
      FitsLong songID := by
    intro songID known
    unfold FitsLong
    rcases inLibrary_start known with unknown | ⟨least, most⟩
    · rw [unknown]
      decide
    · omega
  obtain ⟨-, -, unjoined | ⟨id, -, -, -, speaker⟩⟩ := h
  · rw [unjoined.speaker] at posts
    cases posts
  · exact fits _ (speaker.posts posts)

end Party

/-- The party on the wire does in every run what the party does: every update and every
    report arrives as it was sent, however the dictionaries are spelled. -/
theorem wire_party_refines (texts : DoubleTexts) (music : List MusicRow) (clock : Nat)
    (files : Int → SongFile) (events : List WireEvent) (bounded : music.length < 2 ^ 63) :
    run (WireParty.step texts) ((Party.start music clock files).written texts) events =
      (run Party.step (.start music clock files) (events.map WireEvent.event)).written texts := by
  apply run_coded Party.step (WireParty.step texts) (Party.written texts) WireEvent.event
    (Party.KnowsSongs files ((Party.start music clock files).server.db.songs.map SongRow.id))
  · intro p e h
    exact Party.knowsSongs_step h e
  · intro p e h
    exact Party.step_written texts (Party.fits_posted bounded h) e
  · exact ⟨Party.sound_start music clock files, rfl, Or.inl (Party.unjoined_start music clock files)⟩

def plainDictionary (message : Message) : Dictionary message where
  id := .string (toString message.id)
  position := .string "0"
  offset := 0
  members := _
  named := .string
  placed := by
    have zero : "0" = toString (0 : Int) := rfl
    rw [zero]
    exact .string
  fits := by decide
  order := .refl _

theorem first_song_over_wire :
    (run (WireParty.step allDigits) ((Party.start twoSongs 0 fun _ => .missing).written allDigits)
      (firstSongEvents.map fun e => { event := e, dictionary := plainDictionary
        })).speaker.currentSongState = .PLAYING := by
  rw [wire_party_refines allDigits twoSongs 0 _ _ (by decide), List.map_map]
  change (run Party.step (.start twoSongs 0 fun _ => .missing)
    (firstSongEvents.map id)).speaker.currentSongState = .PLAYING
  rw [List.map_id]
  decide +kernel

end MusicCloud
