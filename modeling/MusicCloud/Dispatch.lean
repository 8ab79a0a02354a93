import MusicCloud.RequestNames

/-!
Dispatch of requests (`ProtocolMessageHandler`) to the handlers. A request is found its
handler and method by name, its session id, its address and its message, and each step
may answer it with an error. Here the handlers write their responses to the request's
channel themselves, with the try blocks of the source; `respond_` equations say that what
they write is the response of the handlers of the server.
-/
namespace MusicCloud

inductive HttpMethod where
  | GET | POST | other
  deriving DecidableEq, Repr

inductive MessageClass where
  | AuthenticateMessage | DeauthenticateMessage | LikeMessage | DislikeMessage | ReadyMessage
  | StatusUpdateMessage | VoteMessage | Message
  deriving DecidableEq, Repr

inductive RequestMessage where
  | AuthenticateMessage (pin : Option String)
  | DeauthenticateMessage (id : Int)
  | LikeMessage (id : Int)
  | DislikeMessage (id : Int)
  | ReadyMessage (id : Int)
  | StatusUpdateMessage (update : StatusUpdateMessage)
  | VoteMessage (id : Int)
  deriving DecidableEq, Repr

structure HttpRequest where
  method : HttpMethod
  uri : String
  content : String
  remoteAddress : Option String
  channel : Channel

/-- What lies outside of the program. -/
structure Libraries where
  tables : CharacterTables
  path : String → List Char
  /-- `QueryStringDecoder.parameters`, with the first value of each parameter. It throws
      at a malformed escape sequence. -/
  parameters : String → Except JavaException (String → Option (List Char))
  /-- `ObjectMapper.readValue`, which may read a null. -/
  readValue : MessageClass → String → Except JavaException (Option RequestMessage)
  readable : Int → Bool

/-- The server, and what has been written to the channel of the request. `parked` stands
    for a channel that was registered with a session. -/
structure RequestState where
  server : Server
  responses : List Response

abbrev DispatchM := EStateM JavaException RequestState

namespace Dispatch
open Server

section RequestHandler
variable {α : Type}

def onServer (m : ServerM α) : DispatchM α := fun c =>
  match m c.server with
  | .ok a s => .ok a { c with server := s }
  | .error e s => .error e { c with server := s }

def sendResponse (response : Response) : DispatchM Unit :=
  modify fun c => { c with responses := c.responses ++ [response] }

def sendError (status : HttpStatus) : DispatchM Unit := sendResponse (.error status)

/-- `try { x = m; } catch (…) { sendError(…); return; }`, then the rest; an exception that
    no clause catches is passed on. -/
def attempt (m : DispatchM α) (caught : JavaException → Option HttpStatus)
    (next : α → DispatchM Unit) : DispatchM Unit := fun c =>
  match m c with
  | .ok a c => next a c
  | .error e c => match caught e with
    | some status => sendError status c
    | none => .error e c

def exception (status : HttpStatus) : JavaException → Option HttpStatus := fun _ => some status

def classCast : JavaException → Option HttpStatus
  | .classCast => some .BAD_REQUEST
  | _ => none

def sqlException : JavaException → Option HttpStatus
  | .sql => some .INTERNAL_SERVER_ERROR
  | _ => none

def nonNull (object : Option α) : DispatchM α :=
  match object with
  | some a => pure a
  | none => throw .nullPointer

def cast (view : RequestMessage → Option α) (body : Option RequestMessage) : DispatchM (Option α) :=
  match body with
  | none => pure none
  | some message => match view message with
    | some a => pure (some a)
    | none => throw .classCast

def validateMethod (request : HttpRequest) (method : HttpMethod) (next : DispatchM Unit) :
    DispatchM Unit :=
  if request.method ≠ method then sendError .METHOD_NOT_ALLOWED else next

def validateSession (sessionID : Int) (ipAddress : String) (next : DispatchM Unit) : DispatchM Unit :=
  attempt (onServer (validSession sessionID ipAddress)) (exception .FORBIDDEN) fun valid =>
    if valid then next else sendError .FORBIDDEN

def sendObject (response : Response) : DispatchM Unit :=
  attempt (sendResponse response) (exception .INTERNAL_SERVER_ERROR) fun _ => pure ()

def songParameter (lib : Libraries) (request : HttpRequest) : Except JavaException (Option Int) := do
  match (← lib.parameters request.uri) "songID" with
  | none => return none
  | some value => match parseLong lib.tables value with
    | some songID => return some songID
    | none => throw .illegalArgument

end RequestHandler

section Views

def authenticateMessage : RequestMessage → Option (Option String)
  | .AuthenticateMessage pin => some pin
  | _ => none

def deauthenticateMessage : RequestMessage → Option Int
  | .DeauthenticateMessage id => some id
  | _ => none

def voteMessage : RequestMessage → Option Int
  | .VoteMessage id => some id
  | _ => none

def likeMessage : RequestMessage → Option Int
  | .LikeMessage id => some id
  | _ => none

def dislikeMessage : RequestMessage → Option Int
  | .DislikeMessage id => some id
  | _ => none

def statusUpdateMessage : RequestMessage → Option StatusUpdateMessage
  | .StatusUpdateMessage update => some update
  | _ => none

end Views

section Handlers
variable (lib : Libraries) (request : HttpRequest) (sessionID : Int) (ipAddress : String)
  (body : Option RequestMessage)

def clientAuthenticate : DispatchM Unit :=
  validateMethod request .POST <|
    attempt (cast authenticateMessage body) classCast fun message =>
      attempt (do onServer (createSession (← nonNull message) ipAddress .User))
          (fun e => some (orForbidden e)) fun session =>
        sendObject (.session session.id)

def welcome (session : Session) : DispatchM Unit := fun c =>
  match onServer getActiveSong c with
  | .ok currentSong c =>
    (do
      onServer (modify
        (sendUpdate (.playback_command { command := .Play, id := currentSong.id }) session.id))
      sendObject (.session session.id)) c
  | .error .noSuchElement c =>
    attempt (onServer (newSpeakerAuthenticated session.id)) (exception .INTERNAL_SERVER_ERROR)
      (fun _ => sendObject (.session session.id)) c
  | .error _ c => sendError .INTERNAL_SERVER_ERROR c

def speakerAuthenticate : DispatchM Unit :=
  validateMethod request .POST <|
    attempt (cast authenticateMessage body) classCast fun message =>
      attempt (do onServer (createSession (← nonNull message) ipAddress .Speaker))
        (fun e => some (orForbidden e)) welcome

/-- `deauthenticate` of both handlers; `caught` are the clauses around `destroySession`.
    The message is used outside of the try blocks. -/
def deauthenticate (caught : JavaException → HttpStatus) : DispatchM Unit :=
  validateMethod request .POST <|
    attempt (cast deauthenticateMessage body) classCast fun message => do
      let id ← nonNull message
      validateSession id ipAddress <|
        attempt (onServer (destroySession id)) (fun e => some (caught e)) fun _ => sendResponse .ok

def clientDeauthenticate : DispatchM Unit :=
  deauthenticate request ipAddress body fun
    | .security => .FORBIDDEN
    | .classCast => .BAD_REQUEST
    | _ => .INTERNAL_SERVER_ERROR

def speakerDeauthenticate : DispatchM Unit := deauthenticate request ipAddress body orForbidden

/-- Only an SQL exception of the vote itself is caught. -/
def vote : DispatchM Unit :=
  validateMethod request .POST <| validateSession sessionID ipAddress <|
    attempt (cast voteMessage body) (exception .BAD_REQUEST) fun message =>
      attempt (do onServer (Server.vote (← nonNull message) sessionID)) sqlException fun _ =>
        sendResponse .ok

def react (view : RequestMessage → Option Int) (reaction : Int → Int → ServerM Unit) :
    DispatchM Unit :=
  validateMethod request .POST <| validateSession sessionID ipAddress <|
    attempt (cast view body) classCast fun message =>
      attempt (do onServer (reaction (← nonNull message) sessionID))
        (exception .INTERNAL_SERVER_ERROR) fun _ => sendResponse .ok

def like : DispatchM Unit := react request sessionID ipAddress body likeMessage Server.like

def dislike : DispatchM Unit := react request sessionID ipAddress body dislikeMessage Server.dislike

def statusUpdate : DispatchM Unit :=
  validateMethod request .POST <| validateSession sessionID ipAddress <|
    attempt (cast statusUpdateMessage body) classCast fun message =>
      attempt (onServer (speakerStatusUpdate sessionID message))
        (exception .INTERNAL_SERVER_ERROR) fun _ => sendResponse .ok

def requestUpdate : DispatchM Unit :=
  validateMethod request .GET <| validateSession sessionID ipAddress <|
    attempt (onServer (registerRequest sessionID request.channel))
      (exception .INTERNAL_SERVER_ERROR) fun _ => sendResponse .parked

def requestLikeUpdate : DispatchM Unit :=
  validateMethod request .GET <| validateSession sessionID ipAddress <|
    attempt (onServer getStats) (fun e => some (orNotFound e)) fun stats =>
      sendObject (.update (.likes stats))

def requestVoteUpdate : DispatchM Unit :=
  validateMethod request .GET <| validateSession sessionID ipAddress <|
    attempt (onServer do return (← get).db.getVotes) (exception .INTERNAL_SERVER_ERROR) fun votes =>
      sendObject (.update (.votes votes))

def requestSongUpdate : DispatchM Unit :=
  validateMethod request .GET <| validateSession sessionID ipAddress <|
    attempt (onServer getActiveSong) (fun e => some (orNotFound e)) fun activeSong =>
      sendObject (.update (.current_song activeSong))

def requestSongList : DispatchM Unit :=
  validateMethod request .GET <| validateSession sessionID ipAddress <|
    attempt (onServer do return (← get).db.getSongList) sqlException fun songList =>
      sendObject (.update (.song_list songList))

/-- `sendResponse` with an image throws when its type is null, or no header value. -/
def sendImage (image : List UInt8) (imageType : Option String) : DispatchM Unit :=
  match imageType with
  | some imageType =>
    if validateHeaderValue imageType then sendResponse (.photo image imageType)
    else throw .illegalArgument
  | none => throw .illegalArgument

def requestPhoto : DispatchM Unit :=
  validateMethod request .GET <| validateSession sessionID ipAddress <|
    attempt (do nonNull (← MonadExcept.ofExcept (songParameter lib request)))
        (exception .BAD_REQUEST) fun songID =>
      attempt (onServer (getSongPhoto songID)) (fun e => some (orNotFound e)) fun photo =>
        sendImage photo.1 photo.2

def requestSong : DispatchM Unit :=
  validateMethod request .GET <| validateSession sessionID ipAddress <|
    attempt (MonadExcept.ofExcept (songParameter lib request)) (exception .BAD_REQUEST) fun
      | none => sendError .BAD_REQUEST
      | some songID =>
        attempt (onServer (getSongData songID (lib.readable songID))) (fun e => some (orNotFound e))
          sendResponse

end Handlers

section ProtocolMessageHandler

inductive HandlerClass where
  | ClientHandler | SpeakerHandler | RequestHandler | ProtocolMessageHandler
  deriving DecidableEq, Repr

def handlerClasses : List (List Char × HandlerClass) :=
  [("beatboxserver.ClientHandler".toList, .ClientHandler),
    ("beatboxserver.SpeakerHandler".toList, .SpeakerHandler),
    ("beatboxserver.RequestHandler".toList, .RequestHandler),
    ("beatboxserver.ProtocolMessageHandler".toList, .ProtocolMessageHandler)]

/-- The last class is no `RequestHandler`, and `RequestHandler` is abstract. -/
def HandlerClass.instantiable : HandlerClass → Bool
  | .ClientHandler => true
  | .SpeakerHandler => true
  | .RequestHandler => false
  | .ProtocolMessageHandler => false

def messageClasses : List (List Char × MessageClass) :=
  [("beatboxserver.messages.AuthenticateMessage".toList, .AuthenticateMessage),
    ("beatboxserver.messages.DeauthenticateMessage".toList, .DeauthenticateMessage),
    ("beatboxserver.messages.LikeMessage".toList, .LikeMessage),
    ("beatboxserver.messages.DislikeMessage".toList, .DislikeMessage),
    ("beatboxserver.messages.ReadyMessage".toList, .ReadyMessage),
    ("beatboxserver.messages.StatusUpdateMessage".toList, .StatusUpdateMessage),
    ("beatboxserver.messages.VoteMessage".toList, .VoteMessage),
    ("beatboxserver.messages.Message".toList, .Message)]

inductive GetMethod where
  | requestUpdate | requestLikeUpdate | requestVoteUpdate | requestSongUpdate | requestSongList
  | requestPhoto | requestSong
  deriving DecidableEq, Repr

inductive PostMethod where
  | authenticate | deauthenticate | vote | like | dislike | statusUpdate
  deriving DecidableEq, Repr

def getMethods : HandlerClass → List (List Char × GetMethod)
  | .ClientHandler =>
    [("requestUpdate".toList, .requestUpdate), ("requestLikeUpdate".toList, .requestLikeUpdate),
      ("requestVoteUpdate".toList, .requestVoteUpdate),
      ("requestSongUpdate".toList, .requestSongUpdate),
      ("requestSongList".toList, .requestSongList), ("requestPhoto".toList, .requestPhoto)]
  | .SpeakerHandler =>
    [("requestUpdate".toList, .requestUpdate), ("requestSong".toList, .requestSong)]
  | _ => []

def postMethods : HandlerClass → List (List Char × PostMethod)
  | .ClientHandler =>
    [("authenticate".toList, .authenticate), ("deauthenticate".toList, .deauthenticate),
      ("vote".toList, .vote), ("like".toList, .like), ("dislike".toList, .dislike)]
  | .SpeakerHandler =>
    [("authenticate".toList, .authenticate), ("deauthenticate".toList, .deauthenticate),
      ("statusUpdate".toList, .statusUpdate)]
  | _ => []

variable (lib : Libraries) (request : HttpRequest)

def getMethod (sessionID : Int) (ipAddress : String) : GetMethod → DispatchM Unit
  | .requestUpdate => requestUpdate request sessionID ipAddress
  | .requestLikeUpdate => requestLikeUpdate request sessionID ipAddress
  | .requestVoteUpdate => requestVoteUpdate request sessionID ipAddress
  | .requestSongUpdate => requestSongUpdate request sessionID ipAddress
  | .requestSongList => requestSongList request sessionID ipAddress
  | .requestPhoto => requestPhoto lib request sessionID ipAddress
  | .requestSong => requestSong lib request sessionID ipAddress

def postMethod (handler : HandlerClass) (sessionID : Int) (ipAddress : String)
    (body : Option RequestMessage) : PostMethod → DispatchM Unit
  | .authenticate =>
    if handler = .SpeakerHandler then speakerAuthenticate request ipAddress body
    else clientAuthenticate request ipAddress body
  | .deauthenticate =>
    if handler = .SpeakerHandler then speakerDeauthenticate request ipAddress body
    else clientDeauthenticate request ipAddress body
  | .vote => vote request sessionID ipAddress body
  | .like => like request sessionID ipAddress body
  | .dislike => dislike request sessionID ipAddress body
  | .statusUpdate => statusUpdate request sessionID ipAddress body

def constructMessage (name : List Char) (json : String) :
    Except JavaException (Option RequestMessage) :=
  match messageClasses.lookup name with
  | some messageClass => lib.readValue messageClass json
  | none => .error .classNotFound

/-- The session id, -1 if none is given; no number is refused. -/
def sessionParameter (parameters : String → Option (List Char)) : Option Int :=
  match parameters "clientID" with
  | some value => parseLong lib.tables value
  | none => some (-1)

/-- An exception of the handler is logged, and that is all. -/
def invoke (method : DispatchM Unit) : DispatchM Unit := fun c =>
  match method c with
  | .ok _ c => .ok () c
  | .error _ c => .ok () c

def identified (parameters : String → Option (List Char))
    (next : Int → String → DispatchM Unit) : DispatchM Unit :=
  match sessionParameter lib parameters with
  | none => sendError .BAD_REQUEST
  | some sessionID => match request.remoteAddress with
    | none => sendError .INTERNAL_SERVER_ERROR
    | some ipAddress => next sessionID ipAddress

def dispatchNamed (handlerName methodName messageName : List Char)
    (parameters : String → Option (List Char)) : DispatchM Unit :=
  match handlerClasses.lookup handlerName with
  | none => sendError .NOT_FOUND
  | some handler =>
    if ¬ handler.instantiable then sendError .NOT_FOUND
    else match request.method with
      | .other => sendError .NOT_ACCEPTABLE
      | .GET => match (getMethods handler).lookup methodName with
        | none => sendError .NOT_FOUND
        | some method =>
          identified lib request parameters fun sessionID ipAddress =>
            invoke (getMethod lib request sessionID ipAddress method)
      | .POST => match (postMethods handler).lookup methodName with
        | none => sendError .NOT_FOUND
        | some method =>
          identified lib request parameters fun sessionID ipAddress =>
            attempt (MonadExcept.ofExcept (constructMessage lib messageName request.content))
                (exception .BAD_REQUEST) fun body =>
              invoke (postMethod request handler sessionID ipAddress body method)

def dispatchRequest : DispatchM Unit :=
  match javaSplit '/' (lib.path request.uri) with
  | [_, handler, method] => do
    let handlerName ← MonadExcept.ofExcept (normalizeHandler lib.tables handler)
    let methodName ← MonadExcept.ofExcept (normalizeMethod lib.tables method)
    let messageName ← MonadExcept.ofExcept (normalizeName lib.tables method)
    -- asked for `Connection` first, whose value is not used
    let parameters ← MonadExcept.ofExcept (lib.parameters request.uri)
    dispatchNamed lib request handlerName methodName messageName parameters
  | _ => sendError .NOT_FOUND

end ProtocolMessageHandler
end Dispatch
end MusicCloud
