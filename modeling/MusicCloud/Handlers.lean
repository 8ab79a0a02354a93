import MusicCloud.SongManager

/-!
The request handlers (`ClientHandler`, `SpeakerHandler`) for requests with the
right HTTP method and a body of the right type. A handler that ends with an
exception writes no response. `Call` lists the manager methods with any
arguments; a request is at most one such call.
-/
namespace MusicCloud

inductive HttpStatus where
  | BAD_REQUEST | FORBIDDEN | NOT_FOUND | METHOD_NOT_ALLOWED | NOT_ACCEPTABLE | INTERNAL_SERVER_ERROR
  deriving DecidableEq, Repr

inductive Response where
  | error (status : HttpStatus)
  | ok
  | session (id : Int)
  | update (update : SessionUpdate)
  | photo (image : List UInt8) (imageType : String)
  | songData (songID : Int)
  /-- No response yet: the channel waits in a session's queue or was served there. -/
  | parked
  deriving DecidableEq, Repr

inductive HeaderState where
  | text | carriageReturn | lineFeed
  deriving DecidableEq, Repr

def HeaderState.next : HeaderState → Char → Option HeaderState
  | _, '\x0b' => none
  | _, '\x0c' => none
  | text, '\r' => some carriageReturn
  | text, '\n' => some lineFeed
  | text, _ => some text
  | carriageReturn, '\n' => some lineFeed
  | carriageReturn, _ => none
  | lineFeed, '\t' => some text
  | lineFeed, ' ' => some text
  | lineFeed, _ => none

/-- netty's check of a header value; a value that fails it makes the header throw. -/
def validateHeaderValue (headerValue : String) : Bool :=
  headerValue.toList.foldlM HeaderState.next .text = some .text

inductive Request where
  | clientAuthenticate (pin : Option String)
  | clientDeauthenticate (id : Int)
  | vote (clientID id : Int)
  | like (clientID id : Int)
  | dislike (clientID id : Int)
  | requestUpdate (clientID : Int) (ch : Channel)
  | requestLikeUpdate (clientID : Int)
  | requestVoteUpdate (clientID : Int)
  | requestSongUpdate (clientID : Int)
  | requestSongList (clientID : Int)
  | requestPhoto (clientID songID : Int)
  | speakerAuthenticate (pin : Option String)
  | speakerDeauthenticate (id : Int)
  | statusUpdate (clientID : Int) (update : Option StatusUpdateMessage)
  /-- `readable` tells whether the song's file can be read. -/
  | requestSong (clientID songID : Int) (readable : Bool)
  deriving DecidableEq, Repr

namespace Server

/-- `try { x = m; } catch (…) { sendError(…); return; }`, then the rest. -/
def catching {α : Type} (m : ServerM α) (handler : JavaException → HttpStatus)
    (next : α → ServerM Response) : ServerM Response := fun s =>
  match m s with
  | .ok a s => next a s
  | .error e s => .ok (.error (handler e)) s

def internalError : JavaException → HttpStatus := fun _ => .INTERNAL_SERVER_ERROR

def orNotFound : JavaException → HttpStatus
  | .noSuchElement => .NOT_FOUND
  | _ => .INTERNAL_SERVER_ERROR

def orForbidden : JavaException → HttpStatus
  | .security => .FORBIDDEN
  | _ => .INTERNAL_SERVER_ERROR

def validateSession (sessionID : Int) (ipAddress : String) (next : ServerM Response) :
    ServerM Response :=
  catching (validSession sessionID ipAddress) (fun _ => .FORBIDDEN) fun valid =>
    if valid then next else return .error .FORBIDDEN

section ClientHandler

def clientAuthenticate (pin : Option String) (ipAddress : String) : ServerM Response :=
  catching (createSession pin ipAddress .User) orForbidden fun session =>
    return .session session.id

def deauthenticate (id : Int) (ipAddress : String) : ServerM Response :=
  validateSession id ipAddress <|
    catching (destroySession id) orForbidden fun _ => return .ok

def voteRequest (sessionID : Int) (ipAddress : String) (id : Int) : ServerM Response :=
  validateSession sessionID ipAddress do
    tryCatch (do vote id sessionID; return .ok) fun
      | .sql => return .error .INTERNAL_SERVER_ERROR
      | e => throw e

def likeRequest (sessionID : Int) (ipAddress : String) (id : Int) : ServerM Response :=
  validateSession sessionID ipAddress <|
    catching (like id sessionID) internalError fun _ => return .ok

def dislikeRequest (sessionID : Int) (ipAddress : String) (id : Int) : ServerM Response :=
  validateSession sessionID ipAddress <|
    catching (dislike id sessionID) internalError fun _ => return .ok

def requestUpdate (sessionID : Int) (ipAddress : String) (ch : Channel) : ServerM Response :=
  validateSession sessionID ipAddress <|
    catching (registerRequest sessionID ch) internalError fun _ => return .parked

def requestLikeUpdate (sessionID : Int) (ipAddress : String) : ServerM Response :=
  validateSession sessionID ipAddress <|
    catching getStats orNotFound fun stats => return .update (.likes stats)

def requestVoteUpdate (sessionID : Int) (ipAddress : String) : ServerM Response :=
  validateSession sessionID ipAddress do
    return .update (.votes (← get).db.getVotes)

def requestSongUpdate (sessionID : Int) (ipAddress : String) : ServerM Response :=
  validateSession sessionID ipAddress <|
    catching getActiveSong orNotFound fun active => return .update (.current_song active)

def requestSongList (sessionID : Int) (ipAddress : String) : ServerM Response :=
  validateSession sessionID ipAddress do
    return .update (.song_list (← get).db.getSongList)

def getSongPhoto (songID : Int) : ServerM (List UInt8 × Option String) := do
  if songID < 0 then throw .illegalArgument
  match (← get).db.songs.find? (fun r => r.id = songID) with
  | some row =>
    match row.image with
    | some image => return (image, row.image_type)
    | none => throw .noSuchElement
  | none => throw .noSuchElement

def requestPhoto (sessionID : Int) (ipAddress : String) (songID : Int) : ServerM Response :=
  validateSession sessionID ipAddress <|
    catching (getSongPhoto songID) orNotFound fun (image, imageType) =>
      -- `sendResponse` takes no image without its type, and the type is a header
      match imageType with
      | some imageType =>
        if validateHeaderValue imageType then return .photo image imageType
        else throw .illegalArgument
      | none => throw .illegalArgument

end ClientHandler

section SpeakerHandler

/-- The block after `createSession`: a speaker that joins while a song is
    active is told to play it, otherwise a song is scheduled. -/
def welcomeSpeaker (session : Session) : ServerM Response := fun s =>
  match getActiveSong s with
  | .ok currentSong s =>
    .ok (.session session.id)
      (s.sendUpdate (.playback_command { command := .Play, id := currentSong.id }) session.id)
  | .error .noSuchElement s =>
    catching (newSpeakerAuthenticated session.id) internalError
      (fun _ => return .session session.id) s
  | .error _ s => .ok (.error .INTERNAL_SERVER_ERROR) s

def speakerAuthenticate (pin : Option String) (ipAddress : String) : ServerM Response :=
  catching (createSession pin ipAddress .Speaker) orForbidden welcomeSpeaker

def statusUpdate (sessionID : Int) (ipAddress : String) (update : Option StatusUpdateMessage) :
    ServerM Response :=
  validateSession sessionID ipAddress <|
    catching (speakerStatusUpdate sessionID update) internalError fun _ => return .ok

def getSongData (songID : Int) (readable : Bool) : ServerM Response := do
  if songID < 0 then throw .illegalArgument
  match (← get).db.songs.find? (fun r => r.id = songID) with
  | some row => if readable then return .songData row.id else throw .sql
  | none => throw .noSuchElement

def requestSong (sessionID : Int) (ipAddress : String) (songID : Int) (readable : Bool) :
    ServerM Response :=
  validateSession sessionID ipAddress <|
    catching (getSongData songID readable) orNotFound fun data => return data

end SpeakerHandler

def handle (ip : String) : Request → ServerM Response
  | .clientAuthenticate pin => clientAuthenticate pin ip
  | .clientDeauthenticate id => deauthenticate id ip
  | .vote clientID id => voteRequest clientID ip id
  | .like clientID id => likeRequest clientID ip id
  | .dislike clientID id => dislikeRequest clientID ip id
  | .requestUpdate clientID ch => requestUpdate clientID ip ch
  | .requestLikeUpdate clientID => requestLikeUpdate clientID ip
  | .requestVoteUpdate clientID => requestVoteUpdate clientID ip
  | .requestSongUpdate clientID => requestSongUpdate clientID ip
  | .requestSongList clientID => requestSongList clientID ip
  | .requestPhoto clientID songID => requestPhoto clientID ip songID
  | .speakerAuthenticate pin => speakerAuthenticate pin ip
  | .speakerDeauthenticate id => deauthenticate id ip
  | .statusUpdate clientID update => statusUpdate clientID ip update
  | .requestSong clientID songID readable => requestSong clientID ip songID readable

end Server

/-- One atomic event at the server: a manager method with any arguments, the
    run of a timer task, or a change of its environment. -/
inductive Call where
  | authenticateUser (pin : Option String) (ip : String)
  | authenticateSpeaker (pin : Option String) (ip : String)
  | destroySession (id : Int)
  | vote (songID sessionID : Int)
  | like (songID sessionID : Int)
  | dislike (songID sessionID : Int)
  | getActiveSong
  | getStats
  | registerRequest (sessionID : Int) (ch : Channel)
  | speakerStatusUpdate (sessionID : Int) (update : Option StatusUpdateMessage)
  | fireTask (task : TimerTask)
  | channelClosed (ch : Channel)
  | clockAdvanced (ms : Nat)
  | rescanned (rank : Int → Nat)

namespace Server

def call (s : Server) : Call → Server
  | .authenticateUser pin ip => finalState (clientAuthenticate pin ip s)
  | .authenticateSpeaker pin ip => finalState (speakerAuthenticate pin ip s)
  | .destroySession id => finalState (destroySession id s)
  | .vote songID sessionID => finalState (vote songID sessionID s)
  | .like songID sessionID => finalState (like songID sessionID s)
  | .dislike songID sessionID => finalState (dislike songID sessionID s)
  | .getActiveSong => finalState (getActiveSong s)
  | .getStats => finalState (getStats s)
  | .registerRequest sessionID ch => finalState (registerRequest sessionID ch s)
  | .speakerStatusUpdate sessionID update => finalState (speakerStatusUpdate sessionID update s)
  | .fireTask task => s.fireTask task
  | .channelClosed ch => { s with closedChannels := ch :: s.closedChannels }
  | .clockAdvanced ms => { s with clock := s.clock + ms }
  | .rescanned rank => { s with db := { s.db with scanRank := rank } }

end Server
end MusicCloud
