import MusicCloud.Dispatch

/-!
The responses of the handlers. What a handler writes to the channel is what the handler
of the server returns: one response, or the registration of the channel, or nothing if
an exception gets past the try blocks.
-/
namespace MusicCloud
namespace Dispatch
open Server

/-- The channel waits in the queue of one session, or was given an update of it. -/
def PlacedOnce (s t : Server) (ch : Channel) : Prop :=
  ∃ id session queue, s.sessionMap id = some session ∧
    t = { s with sessionMap :=
      Function.update s.sessionMap id (some { session with updateQueue := queue }) } ∧
    (queue.channelQueue = session.updateQueue.channelQueue ++ [ch] ∧
        queue.sent = session.updateQueue.sent ∨
      queue.channelQueue = session.updateQueue.channelQueue ∧
        ∃ update, queue.sent = session.updateQueue.sent ++ [(ch, update)])

section Respond
variable {α : Type}

def respond (m : ServerM Response) : DispatchM Unit := fun c =>
  match m c.server with
  | .ok response s => .ok () { server := s, responses := c.responses ++ [response] }
  | .error e s => .error e { c with server := s }

theorem sendObject_eq (response : Response) : sendObject response = respond (pure response) := rfl

theorem attempt_eq (m : ServerM α) (handler : JavaException → HttpStatus)
    (next : α → ServerM Response) :
    attempt (onServer m) (fun e => some (handler e)) (fun a => respond (next a)) =
      respond (catching m handler next) := by
  funext c
  unfold attempt onServer respond catching
  cases m c.server <;> rfl

theorem validateSession_eq (sessionID : Int) (ip : String) (next : ServerM Response) :
    Dispatch.validateSession sessionID ip (respond next) =
      respond (Server.validateSession sessionID ip next) := by
  have same := attempt_eq (validSession sessionID ip) (fun _ => .FORBIDDEN) fun valid =>
    if valid then next else pure (.error .FORBIDDEN)
  unfold Server.validateSession
  rw [← same]
  unfold Dispatch.validateSession
  congr 1
  funext valid
  cases valid <;> rfl

end Respond

section Handlers
variable (lib : Libraries) (request : HttpRequest) (sessionID : Int) (ip : String)

def getRequest : GetMethod → Option Request
  | .requestUpdate => some (.requestUpdate sessionID request.channel)
  | .requestLikeUpdate => some (.requestLikeUpdate sessionID)
  | .requestVoteUpdate => some (.requestVoteUpdate sessionID)
  | .requestSongUpdate => some (.requestSongUpdate sessionID)
  | .requestSongList => some (.requestSongList sessionID)
  | .requestPhoto => match songParameter lib request with
    | .ok (some songID) => some (.requestPhoto sessionID songID)
    | _ => none
  | .requestSong => match songParameter lib request with
    | .ok (some songID) => some (.requestSong sessionID songID (lib.readable songID))
    | _ => none

def postRequest (handler : HandlerClass) (body : Option RequestMessage) : PostMethod → Option Request
  | .authenticate => match body with
    | some (.AuthenticateMessage pin) =>
      if handler = .SpeakerHandler then some (.speakerAuthenticate pin)
      else some (.clientAuthenticate pin)
    | _ => none
  | .deauthenticate => match body with
    | some (.DeauthenticateMessage id) =>
      if handler = .SpeakerHandler then some (.speakerDeauthenticate id)
      else some (.clientDeauthenticate id)
    | _ => none
  | .vote => match body with
    | some (.VoteMessage id) => some (.vote sessionID id)
    | _ => none
  | .like => match body with
    | some (.LikeMessage id) => some (.like sessionID id)
    | _ => none
  | .dislike => match body with
    | some (.DislikeMessage id) => some (.dislike sessionID id)
    | _ => none
  | .statusUpdate => match body with
    | none => some (.statusUpdate sessionID none)
    | some (.StatusUpdateMessage update) => some (.statusUpdate sessionID (some update))
    | _ => none

def unsuitable (body : Option RequestMessage) : PostMethod → ServerM Response
  | .authenticate =>
    pure (.error (if body = none then .INTERNAL_SERVER_ERROR else .BAD_REQUEST))
  | .deauthenticate => if body = none then throw .nullPointer else pure (.error .BAD_REQUEST)
  | .vote => Server.validateSession sessionID ip
    (if body = none then throw .nullPointer else pure (.error .BAD_REQUEST))
  | .statusUpdate => Server.validateSession sessionID ip (pure (.error .BAD_REQUEST))
  | _ => Server.validateSession sessionID ip
    (pure (.error (if body = none then .INTERNAL_SERVER_ERROR else .BAD_REQUEST)))

variable {lib request} {method : HttpMethod}

theorem validateMethod_eq (same : request.method = method) (next : DispatchM Unit) :
    validateMethod request method next = next := by
  rw [validateMethod, if_neg (not_not_intro same)]

theorem validated_eq (same : request.method = method) {next : DispatchM Unit} {m : ServerM Response}
    (eq : next = respond m) :
    validateMethod request method (Dispatch.validateSession sessionID ip next) =
      respond (Server.validateSession sessionID ip m) := by
  rw [validateMethod_eq same, eq, validateSession_eq]

theorem sendImage_eq (photo : List UInt8 × Option String) : sendImage photo.1 photo.2 =
    respond (match photo with
      | (image, imageType) => match imageType with
        | some imageType =>
          if validateHeaderValue imageType then pure (.photo image imageType)
          else throw JavaException.illegalArgument
        | none => throw JavaException.illegalArgument) := by
  rcases photo with ⟨image, _ | imageType⟩
  · rfl
  · unfold sendImage
    dsimp only
    split <;> rfl

theorem getMethod_eq (get : request.method = .GET) (method : GetMethod) :
    getMethod lib request sessionID ip method =
      respond (match getRequest lib request sessionID method with
        | some req => handle ip req
        | none => Server.validateSession sessionID ip (pure (.error .BAD_REQUEST))) := by
  cases method with
  | requestUpdate =>
    exact validated_eq sessionID ip get
      (attempt_eq (registerRequest sessionID request.channel) internalError fun _ => pure .parked)
  | requestLikeUpdate =>
    exact validated_eq sessionID ip get
      (attempt_eq getStats orNotFound fun stats => pure (.update (.likes stats)))
  | requestVoteUpdate => exact validated_eq sessionID ip get rfl
  | requestSongUpdate =>
    exact validated_eq sessionID ip get
      (attempt_eq getActiveSong orNotFound fun active => pure (.update (.current_song active)))
  | requestSongList => exact validated_eq sessionID ip get rfl
  | requestPhoto =>
    unfold getMethod Dispatch.requestPhoto getRequest
    rcases songParameter lib request with e | _ | songID
    · exact validated_eq sessionID ip get rfl
    · exact validated_eq sessionID ip get rfl
    · apply validated_eq sessionID ip get
      change attempt (onServer (getSongPhoto songID)) (fun e => some (orNotFound e))
        (fun photo => sendImage photo.1 photo.2) = _
      rw [funext sendImage_eq]
      exact attempt_eq _ _ _
  | requestSong =>
    unfold getMethod Dispatch.requestSong getRequest
    rcases songParameter lib request with e | _ | songID
    · exact validated_eq sessionID ip get rfl
    · exact validated_eq sessionID ip get rfl
    · exact validated_eq sessionID ip get
        (attempt_eq (getSongData songID (lib.readable songID)) orNotFound fun data => pure data)

theorem cast_eq {α : Type} {view : RequestMessage → Option α} {message : RequestMessage} {a : α}
    (right : view message = some a) (caught : JavaException → Option HttpStatus)
    (next : Option α → DispatchM Unit) :
    attempt (cast view (some message)) caught next = next (some a) := by
  have read : cast view (some message) = pure (some a) := by
    unfold cast
    simp only [right]
  rw [read]
  rfl

theorem attempt_throw {α : Type} (e : JavaException) (caught : JavaException → Option HttpStatus)
    (next : α → DispatchM Unit) (c : RequestState) :
    attempt (throw e) caught next c = match caught e with
      | some status => sendError status c
      | none => .error e c := rfl

theorem cast_fails_eq {α : Type} {view : RequestMessage → Option α} {message : RequestMessage}
    (wrong : view message = none) {caught : JavaException → Option HttpStatus}
    (bad : caught .classCast = some .BAD_REQUEST) (next : Option α → DispatchM Unit) :
    attempt (cast view (some message)) caught next = respond (pure (.error .BAD_REQUEST)) := by
  have read : cast view (some message) = throw .classCast := by
    unfold cast
    simp only [wrong]
  rw [read]
  funext c
  rw [attempt_throw, bad]
  rfl

theorem welcome_eq (session : Session) :
    welcome session = respond (welcomeSpeaker session) := by
  funext c
  unfold welcome respond welcomeSpeaker onServer
  cases getActiveSong c.server with
  | ok currentSong s => rfl
  | error e s =>
    cases e with
    | noSuchElement =>
      have same := attempt_eq (newSpeakerAuthenticated session.id) internalError
        (fun _ => pure (.session session.id))
      exact congrFun same { c with server := s }
    | _ => rfl

theorem authenticate_eq (post : request.method = .POST) (type : SessionType)
    (next : Session → DispatchM Unit) (answer : Session → ServerM Response)
    (same : ∀ session, next session = respond (answer session)) (pin : Option String) :
    validateMethod request .POST
        (attempt (cast authenticateMessage (some (.AuthenticateMessage pin))) classCast fun message =>
          attempt (do onServer (createSession (← nonNull message) ip type))
            (fun e => some (orForbidden e)) next) =
      respond (catching (createSession pin ip type) orForbidden answer) := by
  rw [validateMethod_eq post, cast_eq (a := pin) rfl, ← attempt_eq, ← funext same]
  rfl

theorem deauthenticate_eq (post : request.method = .POST) (caught : JavaException → HttpStatus)
    (id : Int) :
    Dispatch.deauthenticate request ip (some (.DeauthenticateMessage id)) caught =
      respond (Server.validateSession id ip
        (catching (destroySession id) caught fun _ => pure .ok)) := by
  rw [Dispatch.deauthenticate, validateMethod_eq post, cast_eq (a := id) rfl,
    ← validateSession_eq, ← attempt_eq]
  rfl

theorem react_eq (post : request.method = .POST) {view : RequestMessage → Option Int}
    {message : RequestMessage} {id : Int} (right : view message = some id)
    (reaction : Int → Int → ServerM Unit) :
    react request sessionID ip (some message) view reaction =
      respond (Server.validateSession sessionID ip
        (catching (reaction id sessionID) internalError fun _ => pure .ok)) := by
  apply validated_eq sessionID ip post
  rw [cast_eq right, ← attempt_eq]
  rfl

theorem vote_eq (post : request.method = .POST) (id : Int) :
    Dispatch.vote request sessionID ip (some (.VoteMessage id)) =
      respond (voteRequest sessionID ip id) := by
  apply validated_eq sessionID ip post
  rw [cast_eq (a := id) rfl]
  funext c
  change attempt (onServer (Server.vote id sessionID)) sqlException (fun _ => sendResponse .ok) c = _
  unfold attempt onServer respond
  rw [tryCatch_apply, bind_apply]
  cases Server.vote id sessionID c.server with
  | ok a s => rfl
  | error e s => cases e <;> rfl

theorem clientDeauthenticate_eq (post : request.method = .POST) (id : Int) :
    clientDeauthenticate request ip (some (.DeauthenticateMessage id)) =
      respond (Server.deauthenticate id ip) := by
  rw [clientDeauthenticate, deauthenticate_eq ip post, Server.deauthenticate]
  congr 2
  funext s
  unfold catching
  rw [destroySession_apply]
  by_cases negative : id < 0
  · rw [if_pos negative]
    rfl
  · rw [if_neg negative]

theorem postMethod_eq (post : request.method = .POST) (handler : HandlerClass)
    (body : Option RequestMessage) (method : PostMethod) :
    postMethod request handler sessionID ip body method =
      respond (match postRequest sessionID handler body method with
        | some req => handle ip req
        | none => unsuitable sessionID ip body method) := by
  cases method with
  | authenticate =>
    by_cases speaker : handler = .SpeakerHandler
    · rcases body with _ | message
      · rw [postMethod, if_pos speaker, speakerAuthenticate, validateMethod_eq post]
        rfl
      · rw [postMethod, if_pos speaker, speakerAuthenticate]
        cases message with
        | AuthenticateMessage pin =>
          rw [authenticate_eq ip post .Speaker welcome welcomeSpeaker welcome_eq]
          simp only [postRequest, if_pos speaker]
          rfl
        | _ =>
          rw [validateMethod_eq post, cast_fails_eq rfl rfl]
          rfl
    · rcases body with _ | message
      · rw [postMethod, if_neg speaker, clientAuthenticate, validateMethod_eq post]
        rfl
      · rw [postMethod, if_neg speaker, clientAuthenticate]
        cases message with
        | AuthenticateMessage pin =>
          rw [authenticate_eq ip post .User (fun session => sendObject (.session session.id))
            (fun session => pure (.session session.id)) (fun session => sendObject_eq _)]
          simp only [postRequest, if_neg speaker]
          rfl
        | _ =>
          rw [validateMethod_eq post, cast_fails_eq rfl rfl]
          rfl
  | deauthenticate =>
    by_cases speaker : handler = .SpeakerHandler
    · rcases body with _ | message
      · rw [postMethod, if_pos speaker, speakerDeauthenticate, Dispatch.deauthenticate,
          validateMethod_eq post]
        rfl
      · rw [postMethod, if_pos speaker, speakerDeauthenticate]
        cases message with
        | DeauthenticateMessage id =>
          rw [deauthenticate_eq ip post]
          simp only [postRequest, if_pos speaker]
          rfl
        | _ =>
          rw [Dispatch.deauthenticate, validateMethod_eq post, cast_fails_eq rfl rfl]
          rfl
    · rcases body with _ | message
      · rw [postMethod, if_neg speaker, clientDeauthenticate, Dispatch.deauthenticate,
          validateMethod_eq post]
        rfl
      · rw [postMethod, if_neg speaker]
        cases message with
        | DeauthenticateMessage id =>
          rw [clientDeauthenticate_eq ip post]
          simp only [postRequest, if_neg speaker]
          rfl
        | _ =>
          rw [clientDeauthenticate, Dispatch.deauthenticate, validateMethod_eq post,
            cast_fails_eq rfl rfl]
          rfl
  | vote =>
    rcases body with _ | message
    · exact validated_eq sessionID ip post rfl
    · cases message with
      | VoteMessage id => exact vote_eq sessionID ip post id
      | _ => exact validated_eq sessionID ip post (cast_fails_eq rfl rfl _)
  | like =>
    rcases body with _ | message
    · exact validated_eq sessionID ip post rfl
    · cases message with
      | LikeMessage id => exact react_eq sessionID ip post rfl Server.like
      | _ => exact validated_eq sessionID ip post (cast_fails_eq rfl rfl _)
  | dislike =>
    rcases body with _ | message
    · exact validated_eq sessionID ip post rfl
    · cases message with
      | DislikeMessage id => exact react_eq sessionID ip post rfl Server.dislike
      | _ => exact validated_eq sessionID ip post (cast_fails_eq rfl rfl _)
  | statusUpdate =>
    rcases body with _ | message
    · exact validated_eq sessionID ip post
        (attempt_eq (speakerStatusUpdate sessionID none) internalError fun _ => pure .ok)
    · cases message with
      | StatusUpdateMessage update =>
        apply validated_eq sessionID ip post
        rw [cast_eq (a := update) rfl]
        exact attempt_eq (speakerStatusUpdate sessionID (some update)) internalError fun _ => pure .ok
      | _ => exact validated_eq sessionID ip post (cast_fails_eq rfl rfl _)

end Handlers

section Outcomes
variable {α : Type} {s : Server}

def Returns (m : ServerM Response) (s : Server) : Prop := ∃ response t, m s = .ok response t

theorem returns_pure (response : Response) : Returns (pure response) s := ⟨response, s, rfl⟩

theorem returns_catching (m : ServerM α) (handler : JavaException → HttpStatus)
    {next : α → ServerM Response} (rest : ∀ a t, m s = .ok a t → Returns (next a) t) :
    Returns (catching m handler next) s := by
  unfold Returns catching
  cases ran : m s with
  | ok a t => exact rest a t ran
  | error e t => exact ⟨_, t, rfl⟩

theorem returns_validateSession (sessionID : Int) (ip : String) (next : ServerM Response) :
    Returns (Server.validateSession sessionID ip next) s ↔
      (s.admits sessionID ip = true → Returns next s) := by
  unfold Returns
  rw [validateSession_apply]
  cases s.admits sessionID ip with
  | true => simp
  | false => simp

/-- The requests whose exception gets past the try blocks of the handler. -/
def Throws (s : Server) (ip : String) : Request → Prop
  | .vote clientID id => s.admits clientID ip = true ∧ id < 0
  | .requestPhoto clientID songID =>
    s.admits clientID ip = true ∧ 0 ≤ songID ∧ ∃ image imageType,
      s.imageOf songID = some (image, imageType) ∧ sendable imageType = false
  | _ => False

theorem returns_welcome (session : Session) : Returns (welcomeSpeaker session) s := by
  unfold Returns welcomeSpeaker
  cases getActiveSong s with
  | ok currentSong t => exact ⟨_, _, rfl⟩
  | error e t =>
    cases e with
    | noSuchElement => exact returns_catching _ _ fun _ t _ => returns_pure _
    | _ => exact ⟨_, _, rfl⟩

theorem returns_vote {sessionID : Int} (known : 0 ≤ sessionID) (id : Int) :
    Returns (tryCatch (do Server.vote id sessionID; return Response.ok) fun
      | .sql => return .error .INTERNAL_SERVER_ERROR
      | e => throw e) s ↔ ¬ id < 0 := by
  unfold Returns
  rw [tryCatch_apply, bind_apply, vote_apply]
  by_cases negative : id < 0
  · rw [if_pos (Or.inl negative)]
    apply iff_of_false _ (not_not_intro negative)
    rintro ⟨response, t, no⟩
    cases no
  · have works : ¬ (id < 0 ∨ sessionID < 0) := by omega
    rw [if_neg works]
    exact iff_of_true ⟨_, _, rfl⟩ negative

theorem returns_requestPhoto (sessionID : Int) (ip : String) (songID : Int) :
    Returns (Server.requestPhoto sessionID ip songID) s ↔
      ¬ Throws s ip (.requestPhoto sessionID songID) := by
  rw [Server.requestPhoto, returns_validateSession]
  unfold Returns Throws catching
  rw [getSongPhoto_apply]
  by_cases negative : songID < 0
  · have low : ¬ 0 ≤ songID := by omega
    simp [negative, low]
  · have high : 0 ≤ songID := by omega
    rw [if_neg negative]
    rcases found : s.imageOf songID with _ | ⟨image, _ | imageType⟩
    · simp [found]
    · simp [found, high, sendable]
    · by_cases legal : validateHeaderValue imageType = true
      · simp [found, sendable, legal]
      · simp [found, high, sendable, legal]

theorem returns_call (sessionID : Int) (ip : String) (m : ServerM α)
    (handler : JavaException → HttpStatus) (response : α → Response) :
    Returns (Server.validateSession sessionID ip (catching m handler fun a => pure (response a))) s :=
  (returns_validateSession sessionID ip _).mpr fun _ =>
    returns_catching m handler fun _ _ _ => returns_pure _

theorem handle_returns_iff (ip : String) (req : Request) :
    Returns (handle ip req) s ↔ ¬ Throws s ip req := by
  cases req with
  | vote clientID id =>
    rw [handle, voteRequest, returns_validateSession, Throws, not_and]
    apply imp_congr_right
    intro admitted
    apply returns_vote
    simp only [admits, Bool.and_eq_true, decide_eq_true_eq] at admitted
    exact admitted.1
  | requestPhoto clientID songID => exact returns_requestPhoto clientID ip songID
  | clientAuthenticate pin =>
    exact iff_of_true (returns_catching _ _ fun _ _ _ => returns_pure _) not_false
  | speakerAuthenticate pin =>
    exact iff_of_true (returns_catching _ _ fun session _ _ => returns_welcome session) not_false
  | clientDeauthenticate id => exact iff_of_true (returns_call id ip _ _ _) not_false
  | speakerDeauthenticate id => exact iff_of_true (returns_call id ip _ _ _) not_false
  | like clientID id => exact iff_of_true (returns_call clientID ip _ _ _) not_false
  | dislike clientID id => exact iff_of_true (returns_call clientID ip _ _ _) not_false
  | requestUpdate clientID ch => exact iff_of_true (returns_call clientID ip _ _ _) not_false
  | requestLikeUpdate clientID => exact iff_of_true (returns_call clientID ip _ _ _) not_false
  | requestSongUpdate clientID => exact iff_of_true (returns_call clientID ip _ _ _) not_false
  | statusUpdate clientID update => exact iff_of_true (returns_call clientID ip _ _ _) not_false
  | requestSong clientID songID readable =>
    exact iff_of_true (returns_call clientID ip _ _ _) not_false
  | requestVoteUpdate clientID =>
    exact iff_of_true ((returns_validateSession clientID ip _).mpr fun _ => ⟨_, _, rfl⟩) not_false
  | requestSongList clientID =>
    exact iff_of_true ((returns_validateSession clientID ip _).mpr fun _ => ⟨_, _, rfl⟩) not_false

def Writes (m : ServerM Response) : Prop := ∀ s t, m s ≠ .ok .parked t

theorem writes_pure {response : Response} (other : response ≠ .parked) : Writes (pure response) := by
  intro s t ran
  cases ran
  exact other rfl

theorem writes_catching {m : ServerM α} (handler : JavaException → HttpStatus)
    {next : α → ServerM Response} (rest : ∀ s a u, m s = .ok a u → Writes (next a)) :
    Writes (catching m handler next) := by
  intro s t ran
  unfold catching at ran
  cases first : m s with
  | ok a u =>
    rw [first] at ran
    exact rest s a u first u t ran
  | error e u =>
    rw [first] at ran
    cases ran

theorem writes_validateSession (sessionID : Int) (ip : String) {next : ServerM Response}
    (rest : Writes next) : Writes (Server.validateSession sessionID ip next) := by
  intro s t ran
  rw [validateSession_apply] at ran
  split at ran
  · exact rest s t ran
  · cases ran

theorem writes_call (sessionID : Int) (ip : String) {m : ServerM α}
    (handler : JavaException → HttpStatus) {response : α → Response}
    (other : ∀ a, response a ≠ .parked) :
    Writes (Server.validateSession sessionID ip (catching m handler fun a => pure (response a))) :=
  writes_validateSession sessionID ip (writes_catching handler fun _ a _ _ => writes_pure (other a))

theorem writes_vote (sessionID id : Int) :
    Writes (tryCatch (do Server.vote id sessionID; return Response.ok) fun
      | .sql => return .error .INTERNAL_SERVER_ERROR
      | e => throw e) := by
  intro s t ran
  rw [tryCatch_apply, bind_apply, vote_apply] at ran
  by_cases negative : id < 0 ∨ sessionID < 0
  · rw [if_pos negative] at ran
    cases ran
  · rw [if_neg negative] at ran
    cases ran

theorem writes_welcome (session : Session) : Writes (welcomeSpeaker session) := by
  intro s t ran
  unfold welcomeSpeaker at ran
  cases active : getActiveSong s with
  | ok currentSong u =>
    rw [active] at ran
    cases ran
  | error e u =>
    rw [active] at ran
    cases e with
    | noSuchElement =>
      exact writes_catching internalError (fun _ _ _ _ => writes_pure (by simp)) u t ran
    | _ => cases ran

theorem getSongData_response {songID : Int} {readable : Bool} {response : Response} {t : Server}
    (ran : getSongData songID readable s = .ok response t) : response ≠ .parked := by
  rw [getSongData] at ran
  split at ran
  · cases ran
  · dsimp only at ran
    rw [bind_apply, get_apply] at ran
    dsimp only at ran
    revert ran
    generalize s.db.songs.find? _ = found
    rcases found with _ | row
    · nofun
    · cases readable with
      | false => nofun
      | true =>
        rintro ⟨⟩
        simp

theorem handle_writes (ip : String) {req : Request} (other : ∀ id ch, req ≠ .requestUpdate id ch) :
    Writes (handle ip req) := by
  cases req with
  | requestUpdate id ch => exact absurd rfl (other id ch)
  | clientAuthenticate pin => exact writes_catching _ fun _ _ _ _ => writes_pure (by simp)
  | speakerAuthenticate pin => exact writes_catching _ fun _ session _ _ => writes_welcome session
  | clientDeauthenticate id => exact writes_call id ip _ (by simp)
  | speakerDeauthenticate id => exact writes_call id ip _ (by simp)
  | vote clientID id => exact writes_validateSession clientID ip (writes_vote clientID id)
  | like clientID id => exact writes_call clientID ip _ (by simp)
  | dislike clientID id => exact writes_call clientID ip _ (by simp)
  | requestLikeUpdate clientID => exact writes_call clientID ip _ (by simp)
  | requestSongUpdate clientID => exact writes_call clientID ip _ (by simp)
  | statusUpdate clientID update => exact writes_call clientID ip _ (by simp)
  | requestVoteUpdate clientID => exact writes_validateSession clientID ip fun s t no => by cases no
  | requestSongList clientID => exact writes_validateSession clientID ip fun s t no => by cases no
  | requestPhoto clientID songID =>
    apply writes_validateSession
    apply writes_catching
    rintro s ⟨image, _ | imageType⟩ u -
    · intro s t no
      cases no
    · dsimp only
      split
      · exact writes_pure (by simp)
      · intro s t no
        cases no
  | requestSong clientID songID readable =>
    apply writes_validateSession
    exact writes_catching _ fun s response u ran => writes_pure (getSongData_response ran)

end Outcomes

section Placement
variable {s : Server}

theorem queueRequest_places {Update : Type} (q : SessionUpdateQueue Update) (ch : Channel) :
    (q.queueRequest ch).channelQueue = q.channelQueue ++ [ch] ∧ (q.queueRequest ch).sent = q.sent ∨
      (q.queueRequest ch).channelQueue = q.channelQueue ∧
        ∃ update, (q.queueRequest ch).sent = q.sent ++ [(ch, update)] := by
  unfold SessionUpdateQueue.queueRequest
  cases q.updateTypeQueue with
  | nil => exact Or.inl ⟨rfl, rfl⟩
  | cons updateType rest =>
    dsimp only
    cases q.updates updateType with
    | none => exact Or.inl ⟨rfl, rfl⟩
    | some update => exact Or.inr ⟨rfl, update, rfl⟩

theorem requestUpdate_places {id : Int} {ch : Channel} {ip : String} {t : Server}
    (ran : handle ip (.requestUpdate id ch) s = .ok .parked t) : PlacedOnce s t ch := by
  rw [handle, Server.requestUpdate, validateSession_apply] at ran
  split at ran
  · rw [catching, registerRequest_apply] at ran
    cases found : s.sessionMap id with
    | none =>
      rw [found] at ran
      cases ran
    | some session =>
      rw [found] at ran
      cases ran
      exact ⟨id, session, session.updateQueue.queueRequest ch, found, rfl,
        queueRequest_places session.updateQueue ch⟩
  · cases ran

theorem handle_places {req : Request} {ch : Channel} {ip : String} {t : Server}
    (ran : handle ip req s = .ok .parked t) (own : ∀ id other, req = .requestUpdate id other → other = ch) :
    PlacedOnce s t ch := by
  by_cases update : ∃ id other, req = .requestUpdate id other
  · obtain ⟨id, other, rfl⟩ := update
    rw [← own id other rfl]
    exact requestUpdate_places ran
  · apply absurd ran
    apply handle_writes
    intro id other same
    exact update ⟨id, other, same⟩

def Once (s : Server) (ch : Channel) (c : RequestState) : Prop :=
  ∃ response, c.responses = [response] ∧ (response = .parked → PlacedOnce s c.server ch)

theorem once_iff {m : ServerM Response} {ch : Channel}
    (placed : ∀ t, m s = .ok .parked t → PlacedOnce s t ch) :
    Once s ch (finalState (respond m { server := s, responses := [] })) ↔ Returns m s := by
  unfold Once Returns respond
  cases ran : m s with
  | ok response t =>
    apply iff_of_true _ ⟨response, t, rfl⟩
    refine ⟨response, rfl, ?_⟩
    rintro rfl
    exact placed t ran
  | error e t => simp

theorem finalState_invoke (method : DispatchM Unit) (c : RequestState) :
    finalState (invoke method c) = finalState (method c) := by
  unfold invoke
  cases method c <;> rfl

end Placement

end Dispatch
end MusicCloud
