import MusicCloud.OneSpeaker
import MusicCloud.Speaker

/-!
The server together with one speaker. The update thread of the speaker keeps one
long poll open at a time and hands the answers to the playback thread; the
communication thread posts its messages to the server. A response that has been
written arrives. The users, the timer and the environment call the server in any order,
with two exceptions: nobody else acts under `/speaker` or closes the channel of the
speaker, and no user names the session of the speaker in a request that ends or polls
it, which the server would serve from the address of the speaker. `step` leaves such
calls out, and `stepAll` does not.
-/
namespace MusicCloud
open Runs SessionUpdateQueue

inductive Updates where
  | authenticating
  | asking (clientID : Int)
  | waiting (clientID : Int) (ch : Channel)
  | exited
  deriving DecidableEq, Repr

structure Party where
  server : Server
  speaker : Speaker
  updates : Updates
  serverPlaybackQueue : List SessionUpdate

inductive PartyEvent where
  | calls (c : Call)
  | authenticates (ip : String)
  | polls (ch : Channel)
  | receives
  | timesOut
  | handles (loads : Bool)
  | listens (found : Bool)
  | songEnds
  | communicates (readable : Bool)

/-- The status of a posted message; `need_song` is not one that the server knows. -/
def MessageStatus.report : MessageStatus → Option Status
  | .need_song => none
  | .Ready => some .Ready
  | .Playing => some .Playing
  | .Stopped => some .Stopped

def Server.queueOf (s : Server) (id : Int) : SessionUpdateQueue SessionUpdate :=
  match s.sessionMap id with
  | some session => session.updateQueue
  | none => .empty

namespace Party

def start (music : List MusicRow) (clock : Nat) (files : Int → SongFile) : Party :=
  { server := .start music clock, speaker := .start files, updates := .authenticating
    serverPlaybackQueue := [] }

def clientID (p : Party) : Option Int :=
  match p.updates with
  | .asking id => some id
  | .waiting id _ => some id
  | _ => none

def poll (p : Party) : Option Channel :=
  match p.updates with
  | .waiting _ ch => some ch
  | _ => none

/-- The speaker is the only one under `/speaker`, and closes its channels itself. -/
def solitary (p : Party) : Call → Bool
  | .authenticateSpeaker _ _ => false
  | .speakerStatusUpdate _ _ => false
  | .channelClosed ch => p.poll ≠ some ch
  | _ => true

/-- The session of the speaker is not ended, and its updates are not polled. -/
def sparesSession (p : Party) : Call → Bool
  | .destroySession sessionID => p.clientID ≠ some sessionID
  | .registerRequest sessionID _ => p.clientID ≠ some sessionID
  | _ => true

def allows (p : Party) (c : Call) : Bool := p.solitary c && p.sparesSession c

section Threads

def authenticate (ip : String) (p : Party) : Party :=
  match p.server.speakerAuthenticate (some "1234") ip with
  | .ok (.session id) s => { p with server := s, updates := .asking id }
  | result => { p with server := finalState result, updates := .exited }

def serves (p : Party) (readable : Bool) : Bool :=
  match p.speaker.comm with
  | .requesting songID =>
    match Server.getSongData songID readable p.server with
    | .ok _ _ => true
    | .error _ _ => false
  | _ => false

def posted (p : Party) : Server :=
  match p.clientID, p.speaker.posts with
  | some id, some message =>
    p.server.call (.speakerStatusUpdate id
      (some { id := message.id, status := message.status.report }))
  | _, _ => p.server

end Threads

def step (p : Party) : PartyEvent → Party
  | .calls c => if p.allows c then { p with server := p.server.call c } else p
  | .authenticates ip => if p.updates = .authenticating then p.authenticate ip else p
  | .polls ch =>
    match p.updates with
    | .asking id =>
      if (p.server.queueOf id).Unused ch ∧ p.server.isActive ch then
        { p with server := p.server.call (.registerRequest id ch), updates := .waiting id ch }
      else p
    | _ => p
  | .receives =>
    match p.updates with
    | .waiting id ch =>
      match (p.server.queueOf id).answer (some ch) with
      | some update =>
        { p with updates := .asking id, serverPlaybackQueue := p.serverPlaybackQueue ++ [update] }
      | none => p
    | _ => p
  | .timesOut =>
    match p.updates with
    | .waiting id ch =>
      match (p.server.queueOf id).answer (some ch) with
      | some _ => p
      | none => { p with server := p.server.call (.channelClosed ch), updates := .asking id }
    | _ => p
  | .handles loads =>
    match p.serverPlaybackQueue with
    | update :: rest =>
      { p with speaker := p.speaker.handle update loads, serverPlaybackQueue := rest }
    | [] => p
  | .listens found =>
    if p.serverPlaybackQueue = [] then { p with speaker := p.speaker.poll found } else p
  | .songEnds => { p with speaker := p.speaker.endMusic }
  | .communicates readable =>
    if p.clientID = none then p
    else { p with server := p.posted, speaker := p.speaker.communicate (p.serves readable) }

/-- Like `step`, but no call is left out. -/
def stepAll (p : Party) : PartyEvent → Party
  | .calls c => { p with server := p.server.call c }
  | e => p.step e

end Party
end MusicCloud
