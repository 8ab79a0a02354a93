import MusicCloud.Responses

/-!
The answers to requests. A request is answered with one response, or its channel is
registered with one session, unless an exception is caught nowhere or only where it is
logged: a path or a query that cannot be read, a message that is null, a vote for no song
and a photo whose type is no header value leave the client without an answer.
-/
namespace MusicCloud
namespace Dispatch
open Server

section Dispatching
variable (lib : Libraries) (request : HttpRequest)

/-- The components of the path are the names of this handler and this method, and the
    query and the channel tell the session id and the address. -/
structure Reaches (handler : HandlerClass) (methodName messageName : List Char) (sessionID : Int)
    (ip : String) : Prop where
  named : ∃ first handlerPart methodPart handlerName parameters,
    javaSplit '/' (lib.path request.uri) = [first, handlerPart, methodPart] ∧
      normalizeHandler lib.tables handlerPart = .ok handlerName ∧
      normalizeMethod lib.tables methodPart = .ok methodName ∧
      normalizeName lib.tables methodPart = .ok messageName ∧
      lib.parameters request.uri = .ok parameters ∧
      handlerClasses.lookup handlerName = some handler ∧
      sessionParameter lib parameters = some sessionID
  instantiable : handler.instantiable = true
  address : request.remoteAddress = some ip

structure CallsGet (method : GetMethod) (sessionID : Int) (ip : String) : Prop where
  get : request.method = .GET
  reaches : ∃ handler methodName messageName,
    Reaches lib request handler methodName messageName sessionID ip ∧
      (getMethods handler).lookup methodName = some method

structure CallsPost (handler : HandlerClass) (method : PostMethod) (sessionID : Int) (ip : String)
    (body : Option RequestMessage) : Prop where
  post : request.method = .POST
  reaches : ∃ methodName messageName,
    Reaches lib request handler methodName messageName sessionID ip ∧
      (postMethods handler).lookup methodName = some method ∧
      constructMessage lib messageName request.content = .ok body

/-- The requests that are not answered. -/
inductive Unanswered (s : Server) : Prop where
  | name {first handler method : List Char}
    (path : javaSplit '/' (lib.path request.uri) = [first, handler, method])
    (rejected : ¬ (Acceptable handler ∧ Acceptable method))
  | query {first handler method : List Char} {e : JavaException}
    (path : javaSplit '/' (lib.path request.uri) = [first, handler, method])
    (malformed : lib.parameters request.uri = .error e)
  | deauthenticate {handler : HandlerClass} {sessionID : Int} {ip : String}
    (called : CallsPost lib request handler .deauthenticate sessionID ip none)
  | vote {handler : HandlerClass} {sessionID : Int} {ip : String} {body : Option RequestMessage}
    (called : CallsPost lib request handler .vote sessionID ip body)
    (admitted : s.admits sessionID ip = true)
    (invalid : body = none ∨ ∃ id, body = some (.VoteMessage id) ∧ id < 0)
  | photo {sessionID : Int} {ip : String} {songID : Int} {image : List UInt8}
    {imageType : Option String} (called : CallsGet lib request .requestPhoto sessionID ip)
    (admitted : s.admits sessionID ip = true)
    (song : songParameter lib request = .ok (some songID)) (known : 0 ≤ songID)
    (found : s.imageOf songID = some (image, imageType)) (unsendable : sendable imageType = false)

inductive Course : Prop where
  | refused (status : HttpStatus) (refused : dispatchRequest lib request = sendError status)
  | thrown {first handler method : List Char}
    (path : javaSplit '/' (lib.path request.uri) = [first, handler, method])
    (throws : ¬ (Acceptable handler ∧ Acceptable method) ∨
      ∃ e, lib.parameters request.uri = .error e)
  | get {method : GetMethod} {sessionID : Int} {ip : String}
    (called : CallsGet lib request method sessionID ip)
  | post {handler : HandlerClass} {method : PostMethod} {sessionID : Int} {ip : String}
    {body : Option RequestMessage} (called : CallsPost lib request handler method sessionID ip body)

variable {lib request}

theorem dispatch_named {first handlerPart methodPart handlerName methodName messageName : List Char}
    {parameters : String → Option (List Char)}
    (path : javaSplit '/' (lib.path request.uri) = [first, handlerPart, methodPart])
    (handler : normalizeHandler lib.tables handlerPart = .ok handlerName)
    (method : normalizeMethod lib.tables methodPart = .ok methodName)
    (message : normalizeName lib.tables methodPart = .ok messageName)
    (query : lib.parameters request.uri = .ok parameters) :
    dispatchRequest lib request =
      dispatchNamed lib request handlerName methodName messageName parameters := by
  unfold dispatchRequest
  rw [path]
  dsimp only
  rw [handler, method, message, query]
  rfl

theorem dispatch_throws {first handlerPart methodPart : List Char}
    (path : javaSplit '/' (lib.path request.uri) = [first, handlerPart, methodPart])
    (throws : ¬ (Acceptable handlerPart ∧ Acceptable methodPart) ∨
      ∃ e, lib.parameters request.uri = .error e) (c : RequestState) :
    ∃ e, dispatchRequest lib request c = .error e c := by
  unfold dispatchRequest
  rw [path]
  dsimp only
  cases handler : normalizeHandler lib.tables handlerPart with
  | error e => exact ⟨e, rfl⟩
  | ok handlerName =>
    cases method : normalizeMethod lib.tables methodPart with
    | error e => exact ⟨e, rfl⟩
    | ok methodName =>
      cases message : normalizeName lib.tables methodPart with
      | error e => exact ⟨e, rfl⟩
      | ok messageName =>
        rcases throws with rejected | ⟨e, malformed⟩
        · exact absurd ⟨(normalizeHandler_iff lib.tables handlerPart).mp ⟨_, handler⟩,
            (normalizeMethod_iff lib.tables methodPart).mp ⟨_, method⟩⟩ rejected
        · rw [malformed]
          exact ⟨e, rfl⟩

theorem dispatch_get {method : GetMethod} {sessionID : Int} {ip : String}
    (called : CallsGet lib request method sessionID ip) :
    dispatchRequest lib request = invoke (getMethod lib request sessionID ip method) := by
  obtain ⟨get, handler, methodName, messageName, ⟨named, instantiable, address⟩, lookup⟩ := called
  obtain ⟨first, handlerPart, methodPart, handlerName, parameters, path, normalized, method', message,
    query, found, session⟩ := named
  rw [dispatch_named path normalized method' message query]
  simp [dispatchNamed, found, instantiable, get, lookup, identified, session, address]

theorem dispatch_post {handler : HandlerClass} {method : PostMethod} {sessionID : Int} {ip : String}
    {body : Option RequestMessage} (called : CallsPost lib request handler method sessionID ip body) :
    dispatchRequest lib request = invoke (postMethod request handler sessionID ip body method) := by
  obtain ⟨post, methodName, messageName, ⟨named, instantiable, address⟩, lookup, read⟩ := called
  obtain ⟨first, handlerPart, methodPart, handlerName, parameters, path, normalized, method', message,
    query, found, session⟩ := named
  rw [dispatch_named path normalized method' message query]
  simp [dispatchNamed, found, instantiable, post, lookup, identified, session, address, read]
  rfl

theorem identified_cases (parameters : String → Option (List Char))
    (next : Int → String → DispatchM Unit) :
    (∃ status, identified lib request parameters next = sendError status) ∨
      ∃ sessionID ip, sessionParameter lib parameters = some sessionID ∧
        request.remoteAddress = some ip ∧
          identified lib request parameters next = next sessionID ip := by
  unfold identified
  cases sessionParameter lib parameters with
  | none => exact Or.inl ⟨_, rfl⟩
  | some sessionID =>
    cases request.remoteAddress with
    | none => exact Or.inl ⟨_, rfl⟩
    | some ip => exact Or.inr ⟨sessionID, ip, rfl, rfl, rfl⟩

theorem course_named {first handlerPart methodPart handlerName methodName messageName : List Char}
    {parameters : String → Option (List Char)}
    (path : javaSplit '/' (lib.path request.uri) = [first, handlerPart, methodPart])
    (normalized : normalizeHandler lib.tables handlerPart = .ok handlerName)
    (method : normalizeMethod lib.tables methodPart = .ok methodName)
    (message : normalizeName lib.tables methodPart = .ok messageName)
    (query : lib.parameters request.uri = .ok parameters) : Course lib request := by
  have dispatched := dispatch_named path normalized method message query
  unfold dispatchNamed at dispatched
  cases found : handlerClasses.lookup handlerName with
  | none =>
    rw [found] at dispatched
    exact .refused _ dispatched
  | some handler =>
    rw [found] at dispatched
    dsimp only at dispatched
    by_cases instantiable : handler.instantiable = true
    · rw [if_neg (not_not_intro instantiable)] at dispatched
      have reaches : ∀ {sessionID ip}, sessionParameter lib parameters = some sessionID →
          request.remoteAddress = some ip →
            Reaches lib request handler methodName messageName sessionID ip :=
        fun session address => ⟨⟨first, handlerPart, methodPart, handlerName, parameters, path,
          normalized, method, message, query, found, session⟩, instantiable, address⟩
      cases verb : request.method with
      | other =>
        rw [verb] at dispatched
        exact .refused _ dispatched
      | GET =>
        rw [verb] at dispatched
        dsimp only at dispatched
        cases lookup : (getMethods handler).lookup methodName with
        | none =>
          rw [lookup] at dispatched
          exact .refused _ dispatched
        | some called =>
          rw [lookup] at dispatched
          rcases identified_cases parameters _ with ⟨status, refused⟩ | ⟨sessionID, ip, session, address, _⟩
          · exact .refused status (dispatched.trans refused)
          · exact .get ⟨verb, _, _, _, reaches session address, lookup⟩
      | POST =>
        rw [verb] at dispatched
        dsimp only at dispatched
        cases lookup : (postMethods handler).lookup methodName with
        | none =>
          rw [lookup] at dispatched
          exact .refused _ dispatched
        | some called =>
          rw [lookup] at dispatched
          rcases identified_cases parameters _ with
            ⟨status, refused⟩ | ⟨sessionID, ip, session, address, called⟩
          · exact .refused status (dispatched.trans refused)
          · have dispatched := dispatched.trans called
            cases read : constructMessage lib messageName request.content with
            | error e =>
              rw [read] at dispatched
              exact .refused .BAD_REQUEST dispatched
            | ok body => exact .post ⟨verb, _, _, reaches session address, lookup, read⟩
    · rw [if_pos instantiable] at dispatched
      exact .refused _ dispatched

theorem course (lib : Libraries) (request : HttpRequest) : Course lib request := by
  have other : (∀ first handler method,
      javaSplit '/' (lib.path request.uri) ≠ [first, handler, method]) → Course lib request := by
    intro other
    apply Course.refused .NOT_FOUND
    unfold dispatchRequest
    split
    · rename_i first handler method path
      exact absurd path (other first handler method)
    · rfl
  by_cases three : ∃ first handler method,
      javaSplit '/' (lib.path request.uri) = [first, handler, method]
  · obtain ⟨first, handlerPart, methodPart, path⟩ := three
    by_cases acceptable : Acceptable handlerPart ∧ Acceptable methodPart
    · cases query : lib.parameters request.uri with
      | error e => exact .thrown path (Or.inr ⟨e, query⟩)
      | ok parameters =>
        obtain ⟨handlerName, normalized⟩ := (normalizeHandler_iff lib.tables handlerPart).mpr acceptable.1
        obtain ⟨methodName, method⟩ := (normalizeMethod_iff lib.tables methodPart).mpr acceptable.2
        obtain ⟨messageName, message⟩ := (normalizeName_iff lib.tables methodPart).mpr acceptable.2
        exact course_named path normalized method message query
    · exact .thrown path (Or.inl acceptable)
  · apply other
    intro first handler method path
    exact three ⟨first, handler, method, path⟩

end Dispatching

section Answers
variable {lib : Libraries} {request : HttpRequest} {s : Server}

def fresh (s : Server) : RequestState := { server := s, responses := [] }

theorem getRequest_channel {method : GetMethod} {sessionID id : Int} {ch : Channel}
    (found : getRequest lib request sessionID method = some (.requestUpdate id ch)) :
    ch = request.channel := by
  unfold getRequest at found
  cases method with
  | requestUpdate =>
    have same : id = sessionID ∧ ch = request.channel := by simpa using found.symm
    exact same.2
  | requestPhoto =>
    dsimp only at found
    split at found <;> simp at found
  | requestSong =>
    dsimp only at found
    split at found <;> simp at found
  | _ => simp at found

theorem postRequest_cases {handler : HandlerClass} {method : PostMethod} {sessionID : Int}
    {body : Option RequestMessage} {req : Request}
    (found : postRequest sessionID handler body method = some req) :
    (∃ id, method = .vote ∧ body = some (.VoteMessage id) ∧ req = .vote sessionID id) ∨
      (∀ ip, ¬ Throws s ip req) ∧ (∀ id ch, req ≠ .requestUpdate id ch) ∧ method ≠ .vote ∧
        (method = .deauthenticate → body ≠ none) := by
  unfold postRequest at found
  cases method with
  | authenticate | deauthenticate =>
    dsimp only at found
    split at found
    · split at found <;> cases found <;> simp [Throws]
    · cases found
  | vote =>
    dsimp only at found
    split at found
    · cases found
      exact Or.inl ⟨_, rfl, rfl, rfl⟩
    · cases found
  | like | dislike =>
    dsimp only at found
    split at found
    · cases found
      simp [Throws]
    · cases found
  | statusUpdate =>
    dsimp only at found
    split at found
    · cases found
      simp [Throws]
    · cases found
      simp [Throws]
    · cases found

theorem getMethod_once {method : GetMethod} {sessionID : Int} {ip : String}
    (get : request.method = .GET) :
    Once s request.channel (finalState (getMethod lib request sessionID ip method (fresh s))) ↔
      ¬ (method = .requestPhoto ∧ s.admits sessionID ip = true ∧ ∃ songID image imageType,
        songParameter lib request = .ok (some songID) ∧ 0 ≤ songID ∧
          s.imageOf songID = some (image, imageType) ∧ sendable imageType = false) := by
  have refused : Writes (Server.validateSession sessionID ip (pure (.error .BAD_REQUEST))) :=
    writes_validateSession sessionID ip (writes_pure (by simp))
  have validated : Returns (Server.validateSession sessionID ip (pure (.error .BAD_REQUEST))) s :=
    (returns_validateSession sessionID ip _).mpr fun _ => returns_pure _
  rw [getMethod_eq sessionID ip get method, fresh, once_iff]
  · cases method with
    | requestPhoto =>
      unfold getRequest
      rcases songParameter lib request with e | _ | songID
      · exact iff_of_true validated (by simp)
      · exact iff_of_true validated (by simp)
      · dsimp only
        rw [handle_returns_iff, Throws]
        simp
    | requestSong =>
      unfold getRequest
      rcases songParameter lib request with e | _ | songID
      · exact iff_of_true validated (by simp)
      · exact iff_of_true validated (by simp)
      · exact iff_of_true ((handle_returns_iff ip _).mpr id) (by simp)
    | _ => exact iff_of_true ((handle_returns_iff ip _).mpr id) (by simp)
  · intro t ran
    cases found : getRequest lib request sessionID method with
    | none =>
      rw [found] at ran
      exact absurd ran (refused s t)
    | some req =>
      rw [found] at ran
      apply handle_places ran
      rintro id other rfl
      exact getRequest_channel found

theorem unsuitable_returns (sessionID : Int) (ip : String) (body : Option RequestMessage)
    (method : PostMethod) : Returns (unsuitable sessionID ip body method) s ↔
      ¬ (method = .deauthenticate ∧ body = none ∨
        method = .vote ∧ s.admits sessionID ip = true ∧ body = none) := by
  have throws : ¬ Returns (throw .nullPointer) s := by
    rintro ⟨response, t, no⟩
    cases no
  cases method with
  | authenticate => exact iff_of_true (returns_pure _) (by simp)
  | deauthenticate =>
    cases body with
    | none => exact iff_of_false throws (by simp)
    | some message => exact iff_of_true (returns_pure _) (by simp)
  | vote =>
    rw [unsuitable, returns_validateSession]
    cases body with
    | none => simp [throws]
    | some message => exact iff_of_true (fun _ => returns_pure _) (by simp)
  | like => exact iff_of_true ((returns_validateSession sessionID ip _).mpr fun _ => returns_pure _) (by simp)
  | dislike =>
    exact iff_of_true ((returns_validateSession sessionID ip _).mpr fun _ => returns_pure _) (by simp)
  | statusUpdate =>
    exact iff_of_true ((returns_validateSession sessionID ip _).mpr fun _ => returns_pure _) (by simp)

theorem unsuitable_writes (sessionID : Int) (ip : String) (body : Option RequestMessage)
    (method : PostMethod) : Writes (unsuitable sessionID ip body method) := by
  have throws : Writes (throw .nullPointer) := by
    intro s t no
    cases no
  cases method with
  | authenticate => exact writes_pure (by simp)
  | deauthenticate =>
    cases body with
    | none => exact throws
    | some message => exact writes_pure (by simp)
  | vote =>
    apply writes_validateSession
    cases body with
    | none => exact throws
    | some message => exact writes_pure (by simp)
  | like => exact writes_validateSession sessionID ip (writes_pure (by simp))
  | dislike => exact writes_validateSession sessionID ip (writes_pure (by simp))
  | statusUpdate => exact writes_validateSession sessionID ip (writes_pure (by simp))

theorem postMethod_once {handler : HandlerClass} {method : PostMethod} {sessionID : Int}
    {ip : String} {body : Option RequestMessage} (post : request.method = .POST) :
    Once s request.channel
        (finalState (postMethod request handler sessionID ip body method (fresh s))) ↔
      ¬ (method = .deauthenticate ∧ body = none ∨
        method = .vote ∧ s.admits sessionID ip = true ∧
          (body = none ∨ ∃ id, body = some (.VoteMessage id) ∧ id < 0)) := by
  rw [postMethod_eq sessionID ip post, fresh, once_iff]
  · cases found : postRequest sessionID handler body method with
    | none =>
      have other : ∀ id, ¬ (method = .vote ∧ body = some (.VoteMessage id)) := by
        rintro id ⟨rfl, rfl⟩
        cases found
      dsimp only
      rw [unsuitable_returns]
      apply not_congr
      apply or_congr_right
      constructor
      · rintro ⟨vote, admitted, null⟩
        exact ⟨vote, admitted, Or.inl null⟩
      · rintro ⟨vote, admitted, null | ⟨id, message, _⟩⟩
        · exact ⟨vote, admitted, null⟩
        · exact absurd ⟨vote, message⟩ (other id)
    | some req =>
      dsimp only
      rw [handle_returns_iff]
      apply not_congr
      rcases postRequest_cases (s := s) found with ⟨id, rfl, rfl, rfl⟩ | ⟨works, _, other, message⟩
      · simp [Throws]
      · apply iff_of_false (works ip)
        rintro (⟨deauthenticate, null⟩ | ⟨vote, _⟩)
        · exact message deauthenticate null
        · exact other vote
  · intro t ran
    cases found : postRequest sessionID handler body method with
    | none =>
      rw [found] at ran
      exact absurd ran (unsuitable_writes sessionID ip body method s t)
    | some req =>
      rw [found] at ran
      apply handle_places ran
      intro id ch update
      rcases postRequest_cases (s := s) found with ⟨_, _, _, rfl⟩ | ⟨_, other, _⟩
      · cases update
      · exact absurd update (other id ch)

theorem not_once_fresh (s : Server) (ch : Channel) : ¬ Once s ch (fresh s) := by
  rintro ⟨response, no, _⟩
  cases no

end Answers
end Dispatch

/-- Exactly one response is written to the channel of the request, or the channel is
    registered with one session. -/
def AnsweredOnce (lib : Libraries) (s : Server) (request : HttpRequest) : Prop :=
  Dispatch.Once s request.channel
    (finalState (Dispatch.dispatchRequest lib request (Dispatch.fresh s)))

/-- A request is answered exactly once unless an exception gets past the handler: at the
    names, at the query, at a null message, at a vote or at a photo. -/
theorem request_answered_once_iff (lib : Libraries) (s : Server) (request : HttpRequest) :
    AnsweredOnce lib s request ↔ ¬ Dispatch.Unanswered lib request s := by
  unfold AnsweredOnce
  constructor
  · intro answered unanswered
    cases unanswered with
    | name path rejected =>
      obtain ⟨e, thrown⟩ := Dispatch.dispatch_throws path (Or.inl rejected) (Dispatch.fresh s)
      rw [thrown] at answered
      exact Dispatch.not_once_fresh s _ answered
    | query path malformed =>
      obtain ⟨e, thrown⟩ :=
        Dispatch.dispatch_throws path (Or.inr ⟨_, malformed⟩) (Dispatch.fresh s)
      rw [thrown] at answered
      exact Dispatch.not_once_fresh s _ answered
    | deauthenticate called =>
      rw [Dispatch.dispatch_post called, Dispatch.finalState_invoke,
        Dispatch.postMethod_once called.post] at answered
      exact answered (Or.inl ⟨rfl, rfl⟩)
    | vote called admitted invalid =>
      rw [Dispatch.dispatch_post called, Dispatch.finalState_invoke,
        Dispatch.postMethod_once called.post] at answered
      exact answered (Or.inr ⟨rfl, admitted, invalid⟩)
    | photo called admitted song known found unsendable =>
      rw [Dispatch.dispatch_get called, Dispatch.finalState_invoke,
        Dispatch.getMethod_once called.get] at answered
      exact answered ⟨rfl, admitted, _, _, _, song, known, found, unsendable⟩
  · intro answered
    cases Dispatch.course lib request with
    | refused status refused =>
      rw [refused]
      exact ⟨.error status, rfl, nofun⟩
    | thrown path throws =>
      rcases throws with rejected | ⟨e, malformed⟩
      · exact absurd (.name path rejected) answered
      · exact absurd (.query path malformed) answered
    | get called =>
      rw [Dispatch.dispatch_get called, Dispatch.finalState_invoke,
        Dispatch.getMethod_once called.get]
      rintro ⟨rfl, admitted, songID, image, imageType, song, known, found, unsendable⟩
      exact answered (.photo called admitted song known found unsendable)
    | post called =>
      rw [Dispatch.dispatch_post called, Dispatch.finalState_invoke,
        Dispatch.postMethod_once called.post]
      rintro (⟨rfl, rfl⟩ | ⟨rfl, admitted, invalid⟩)
      · exact answered (.deauthenticate called)
      · exact answered (.vote called admitted invalid)

def voteLibraries : Libraries where
  tables := {
    toUpperCase := fun c => [c.toUpper]
    toLowerCase := fun c => [c.toLower]
    digit := fun c => if c.isDigit then some (c.toNat - 48) else none }
  path := fun uri => uri.toList.takeWhile fun c => c ≠ '?'
  parameters := fun _ => .ok fun name => if name = "clientID" then some ['1'] else none
  readValue := fun messageClass _ => match messageClass with
    | .VoteMessage => .ok (some (.VoteMessage (-1)))
    | _ => .error .io
  readable := fun _ => true

def invalidVote : HttpRequest where
  method := .POST
  uri := "/client/vote?clientID=1"
  content := "\x7b\"id\":-1\x7d"
  remoteAddress := some "10.0.0.1"
  channel := 1

def phoneServer : Server := (Server.start [] 0).joined "10.0.0.1" .User

theorem invalid_vote_not_answered :
    ¬ ∀ (lib : Libraries) (s : Server) (request : HttpRequest), AnsweredOnce lib s request := by
  intro always
  obtain ⟨response, one, _⟩ := always voteLibraries phoneServer invalidVote
  have nothing : (finalState (Dispatch.dispatchRequest voteLibraries invalidVote
      (Dispatch.fresh phoneServer))).responses = [] := by
    decide +kernel
  rw [nothing] at one
  cases one

end MusicCloud
