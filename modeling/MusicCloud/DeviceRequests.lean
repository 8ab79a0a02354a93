import MusicCloud.Answers
import MusicCloud.StatusTexts

/-!
The requests that the app (`ClientSession`) and the program of the speaker (`raspi.py`) make
of the server. The paths of the app start at the root; the speaker writes the address of the
server in front of its paths, and the dispatcher takes that for the first component. Each
request reaches the method that it is meant for, but for one path of the app.
-/
namespace MusicCloud
open Json Dispatch Server Runs

section Uris

def uriOf (path : String) (vars : List (String × Int)) : String :=
  if vars = [] then path
  else path ++ String.ofList ('?' :: ['&'].intercalate
    (vars.map fun v => v.1.toList ++ '=' :: (toString v.2).toList))

def plainPath (path : String) : Bool :=
  path.toList.all fun c => c.isAlphanum || c ∈ ['/', '.', ':', '_']

/-- The queries of the devices: the session, and the song with it in either order. -/
def plainVars (vars : List (String × Int)) : Bool :=
  vars.map Prod.fst ∈ [[], ["clientID"], ["clientID", "songID"], ["songID", "clientID"]]

end Uris

section Messages

def onlyProperty (name : String) : Value → Bool
  | .object ms => ms.all fun m => m.1 = name
  | _ => false

/-- A string from a string or from the text of a number; the devices send nothing else. -/
def readPin (v : Value) : Option String :=
  match objectForKey "pin" v with
  | some (.string s) => some s
  | some (.number n) => some (String.ofList n.chars)
  | _ => none

def readId (v : Value) : Option Int := if onlyProperty "id" v then longForKey "id" v else none

def readProperties (v : Value) : MessageClass → Option RequestMessage
  | .AuthenticateMessage =>
    if onlyProperty "pin" v then (readPin v).map fun pin => .AuthenticateMessage (some pin) else none
  | .DeauthenticateMessage => (readId v).map .DeauthenticateMessage
  | .VoteMessage => (readId v).map .VoteMessage
  | .LikeMessage => (readId v).map .LikeMessage
  | .DislikeMessage => (readId v).map .DislikeMessage
  | .StatusUpdateMessage => (StatusUpdateMessage.read v).map .StatusUpdateMessage
  | _ => none

/-- The bodies of the devices: a pin or an id, or the dictionary of the playback. -/
inductive SentBody : MessageClass → List (String × Value) → Prop
  | pin {n : Int} (fits : FitsLong n) : SentBody .AuthenticateMessage [("pin", longValue n)]
  | deauthenticate {n : Int} (fits : FitsLong n) : SentBody .DeauthenticateMessage [("id", longValue n)]
  | vote {n : Int} (fits : FitsLong n) : SentBody .VoteMessage [("id", longValue n)]
  | like {n : Int} (fits : FitsLong n) : SentBody .LikeMessage [("id", longValue n)]
  | dislike {n : Int} (fits : FitsLong n) : SentBody .DislikeMessage [("id", longValue n)]
  | status {message : Message} (d : Dictionary message) (fits : FitsLong message.id) :
    SentBody .StatusUpdateMessage d.members

def sentTexts (ms : List (String × Value)) : List String :=
  [String.ofList (Value.object ms).chars, String.ofList (dumps ms)]

/-- What the devices rely on: letters and digits, and the URIs and bodies that they send, are
    what they are. Nothing is said of other URIs and bodies. -/
structure Expected (lib : Libraries) : Prop where
  upper : ∀ c, c.isLower = true → lib.tables.toUpperCase c = [c.toUpper]
  lower : ∀ c, c.isLower = true → lib.tables.toLowerCase c = [c]
  digit : ∀ c, c.isDigit = true → lib.tables.digit c = some (c.toNat - '0'.toNat)
  path : ∀ path vars, plainPath path = true → plainVars vars = true →
    lib.path (uriOf path vars) = path.toList
  parameters : ∀ path vars, plainPath path = true → plainVars vars = true →
    ∃ parameters, lib.parameters (uriOf path vars) = .ok parameters ∧
      ∀ key, parameters key = (vars.lookup key).map fun n => (toString n).toList
  read : ∀ messageClass ms text message, SentBody messageClass ms → text ∈ sentTexts ms →
    readProperties (.object ms) messageClass = some message →
      lib.readValue messageClass text = .ok (some message)

end Messages

section App

inductive ClientRequest where
  | authenticateClient (pin : Int)
  | deauthenticateClient
  | requestSongList
  | sendVote (songID : Int)
  | sendLike (songID : Int)
  | sendDislike (songID : Int)
  | requestLikeUpdate
  | updateRequestLoop
  | requestVoteUpdate
  | requestSongUpdate
  | requestAlbumArtForSong (songID : Int)
  deriving DecidableEq, Repr

def createURLQuery (clientID : Int) (query : String) : String :=
  query ++ "?clientID=" ++ toString clientID

namespace ClientRequest

def url (clientID : Int) : ClientRequest → String
  | authenticateClient _ => "client/authenticate"
  | deauthenticateClient => "client/deauthenticate"
  | requestSongList => createURLQuery clientID "client/request_song_list"
  | sendVote _ => createURLQuery clientID "client/vote"
  | sendLike _ => createURLQuery clientID "client/like"
  | sendDislike _ => createURLQuery clientID "client/dislike"
  | requestLikeUpdate => createURLQuery clientID "client/request_like_update"
  | updateRequestLoop => createURLQuery clientID "client/request_update"
  | requestVoteUpdate => createURLQuery clientID "request_vote_update"
  | requestSongUpdate => createURLQuery clientID "client/request_song_update"
  | requestAlbumArtForSong songID =>
    createURLQuery clientID "client/request_photo" ++ "&songID=" ++ toString songID

def params (clientID : Int) : ClientRequest → Option (List (String × Value))
  | authenticateClient pin => some [("pin", longValue pin)]
  | deauthenticateClient => some [("id", longValue clientID)]
  | sendVote songID => some [("id", longValue songID)]
  | sendLike songID => some [("id", longValue songID)]
  | sendDislike songID => some [("id", longValue songID)]
  | _ => none

def http (clientID : Int) (ip : String) (ch : Channel) (r : ClientRequest) : HttpRequest :=
  { method := if (r.params clientID).isSome then .POST else .GET
    uri := "/" ++ r.url clientID
    content := ((r.params clientID).map fun ms => String.ofList (Value.object ms).chars).getD ""
    remoteAddress := some ip, channel := ch }

/-- What the app asks for; there is no path `request_vote_update`. -/
def asks (clientID : Int) (ch : Channel) : ClientRequest → Option Request
  | authenticateClient pin => some (.clientAuthenticate (some (toString pin)))
  | deauthenticateClient => some (.clientDeauthenticate clientID)
  | requestSongList => some (.requestSongList clientID)
  | sendVote songID => some (.vote clientID songID)
  | sendLike songID => some (.like clientID songID)
  | sendDislike songID => some (.dislike clientID songID)
  | requestLikeUpdate => some (.requestLikeUpdate clientID)
  | updateRequestLoop => some (.requestUpdate clientID ch)
  | requestVoteUpdate => none
  | requestSongUpdate => some (.requestSongUpdate clientID)
  | requestAlbumArtForSong songID => some (.requestPhoto clientID songID)

def Fits : ClientRequest → Prop
  | authenticateClient pin => FitsLong pin
  | sendVote songID => FitsLong songID
  | sendLike songID => FitsLong songID
  | sendDislike songID => FitsLong songID
  | requestAlbumArtForSong songID => FitsLong songID
  | _ => True

end ClientRequest

end App

section Program

def server_url : String := "klamath.dnsdynamic.com"

def server_port : String := "5050"

def addVars : Nat → List (String × Int) → String
  | _, [] => ""
  | count, (key, value) :: vars =>
    (if count ≠ 0 then "&" else "") ++ key ++ "=" ++ toString value ++ addVars (count + 1) vars

/-- The variables stand in the order of the interpreter. -/
def create_url (request : String) (query_vars : List (String × Int)) : String :=
  server_url ++ ":" ++ server_port ++ "/speaker/" ++ request ++
    if query_vars.length > 0 then "?" ++ addVars 0 query_vars else ""

inductive SpeakerRequest where
  | authenticate
  | deauthenticate
  | request_update
  | request_song (songID : Int) (query_vars : List (String × Int))
  | status_update (playback_message : Message) (body_params : Dictionary playback_message)

namespace SpeakerRequest

def url (client_id : Int) : SpeakerRequest → String
  | authenticate => create_url "authenticate" []
  | deauthenticate => create_url "deauthenticate" [("clientID", client_id)]
  | request_update => create_url "request_update" [("clientID", client_id)]
  | request_song _ query_vars => create_url "request_song" query_vars
  | status_update _ _ => create_url "status_update" [("clientID", client_id)]

def method : SpeakerRequest → HttpMethod
  | request_update => .GET
  | request_song _ _ => .GET
  | _ => .POST

def body (client_id : Int) : SpeakerRequest → List (String × Value)
  | authenticate => [("pin", longValue 1234)]
  | deauthenticate => [("id", longValue client_id)]
  | status_update _ body_params => body_params.members
  | _ => []

def http (client_id : Int) (ip : String) (ch : Channel) (r : SpeakerRequest) : HttpRequest :=
  { method := r.method, uri := r.url client_id, content := String.ofList (dumps (r.body client_id))
    remoteAddress := some ip, channel := ch }

def asks (lib : Libraries) (client_id : Int) (ch : Channel) : SpeakerRequest → Option Request
  | authenticate => some (.speakerAuthenticate (some "1234"))
  | deauthenticate => some (.speakerDeauthenticate client_id)
  | request_update => some (.requestUpdate client_id ch)
  | request_song songID _ => some (.requestSong client_id songID (lib.readable songID))
  | status_update playback_message _ => playback_message.status.report.map fun status =>
      .statusUpdate client_id (some { id := playback_message.id, status := some status })

/-- `need_song` is no report, and the query names the speaker and the song. -/
def Fits (client_id : Int) : SpeakerRequest → Prop
  | request_song songID query_vars =>
    FitsLong songID ∧ (query_vars = [("clientID", client_id), ("songID", songID)] ∨
      query_vars = [("songID", songID), ("clientID", client_id)])
  | status_update playback_message _ =>
    FitsLong playback_message.id ∧ playback_message.status ≠ .need_song
  | _ => True

end SpeakerRequest

end Program

section Numbers
variable {lib : Libraries} (expected : Expected lib)
include expected

omit expected in
theorem foldlM_digits {step : Int → Char → Option Int}
    (steps : ∀ n c, c.isDigit = true → step n c = some (10 * n + (c.toNat - '0'.toNat : Nat)))
    {ds : List Char} (digits : ∀ c ∈ ds, c.isDigit = true) (n : Nat) :
    ds.foldlM step (n : Int) = some ((Nat.ofDigitChars 10 ds n : Nat) : Int) := by
  induction ds generalizing n with
  | nil => rfl
  | cons d ds ih =>
    obtain ⟨first, rest⟩ := List.forall_mem_cons.mp digits
    have next := ih rest (10 * n + (d.toNat - '0'.toNat))
    have first_digit : Nat.ofDigitChars 10 (d :: ds) n =
        Nat.ofDigitChars 10 ds (10 * n + (d.toNat - '0'.toNat)) := rfl
    rw [List.foldlM_cons, steps n d first, first_digit, ← next]
    push_cast
    rfl

theorem parseLong_toString {n : Int} (fits : FitsLong n) :
    parseLong lib.tables (toString n).toList = some n := by
  have digits : ∀ c ∈ Nat.toDigits 10 n.natAbs, c.isDigit = true := fun c there =>
    Nat.isDigit_of_mem_toDigits (by decide) (by decide) there
  have some_digit : Nat.toDigits 10 n.natAbs ≠ [] := Nat.toDigits_ne_nil
  have value : (Nat.toDigits 10 n.natAbs).foldlM (fun (n : Int) d => Option.map (fun k => 10 * n + k)
      (do let a ← lib.tables.digit d; pure (a : Int))) 0 = some (n.natAbs : Int) := by
    have folded := @foldlM_digits (fun (n : Int) d => Option.map (fun k => 10 * n + k)
      (do let a ← lib.tables.digit d; pure (a : Int))) (by
        intro n c digit
        rw [expected.digit c digit]
        rfl) _ digits 0
    rw [Nat.ofDigitChars_ten_toDigits] at folded
    exact folded
  obtain ⟨least, most⟩ := fits
  rw [← Decimals.Literal.chars_ofInt]
  by_cases negative : n < 0
  · have chars : (Decimals.Literal.ofInt n).chars = '-' :: Nat.toDigits 10 n.natAbs := by
      simp [Decimals.Literal.chars, Decimals.Literal.middle, Decimals.Literal.tail,
        Decimals.Literal.ofInt, negative, Decimals.Sign.chars]
    have small : (n.natAbs : Int) ≤ 2 ^ 63 := by omega
    have back : -(n.natAbs : Int) = n := by omega
    rw [chars]
    change ((if Nat.toDigits 10 n.natAbs = [] then none else _).bind _) = _
    rw [if_neg some_digit, value, Option.bind_some, if_pos small, back]
  · have chars : (Decimals.Literal.ofInt n).chars = Nat.toDigits 10 n.natAbs := by
      simp [Decimals.Literal.chars, Decimals.Literal.middle, Decimals.Literal.tail,
        Decimals.Literal.ofInt, negative, Decimals.Sign.chars]
    have small : (n.natAbs : Int) < 2 ^ 63 := by omega
    have back : (n.natAbs : Int) = n := by omega
    rw [chars]
    unfold parseLong
    dsimp only
    split
    · rename_i signed
      have minus := digits '-' (signed ▸ List.mem_cons_self)
      exact absurd minus (by decide)
    · rename_i signed
      have plus := digits '+' (signed ▸ List.mem_cons_self)
      exact absurd plus (by decide)
    · rw [if_neg some_digit, value, Option.bind_some, if_pos small, back]

end Numbers

section Names
variable {lib : Libraries} (expected : Expected lib)
include expected

def smallParts (name : List Char) : Bool :=
  (javaSplit '_' name).all fun part => part.head?.all Char.isLower

omit expected in
theorem smallParts_iff {name : List Char} (small : smallParts name = true) :
    ∀ part ∈ javaSplit '_' name, ∀ c ∈ part.head?, c.isLower = true := by
  intro part listed c head
  have lower := List.all_eq_true.mp small part listed
  rw [Option.mem_def.mp head] at lower
  exact lower

omit expected in
theorem normalizePart_same {mapping mapping' : Char → List Char} {part : List Char}
    (same : ∀ c ∈ part.head?, mapping c = mapping' c) :
    normalizePart mapping part = normalizePart mapping' part := by
  cases part with
  | nil => rfl
  | cons c rest =>
    have one : mapping c = mapping' c := same c rfl
    simp only [normalizePart, one]

omit expected in
theorem normalizeParts_same {mapping mapping' : Char → List Char} {parts : List (List Char)}
    (same : ∀ part ∈ parts, ∀ c ∈ part.head?, mapping c = mapping' c) :
    normalizeParts mapping parts = normalizeParts mapping' parts := by
  induction parts with
  | nil => rfl
  | cons part parts ih =>
    obtain ⟨first, rest⟩ := List.forall_mem_cons.mp same
    rw [normalizeParts, normalizeParts, normalizePart_same first, ih rest]

theorem upper_ascii {c : Char} (small : c.isLower = true) :
    lib.tables.toUpperCase c = asciiTables.toUpperCase c := expected.upper c small

omit expected in
theorem toLower_lower {c : Char} (small : c.isLower = true) : c.toLower = c := by
  have letter : 'a'.val ≤ c.val := by
    simp only [Char.isLower, Bool.and_eq_true, decide_eq_true_eq] at small
    exact small.1
  unfold Char.toLower
  rw [dif_neg]
  rintro ⟨-, capital⟩
  exact absurd (UInt32.le_trans letter capital) (by decide)

theorem lower_ascii {c : Char} (small : c.isLower = true) :
    lib.tables.toLowerCase c = asciiTables.toLowerCase c := by
  rw [expected.lower c small]
  change [c] = [c.toLower]
  rw [toLower_lower small]

theorem normalizeHandler_ascii {name : List Char} (small : smallParts name = true) :
    normalizeHandler lib.tables name = normalizeHandler asciiTables name := by
  unfold normalizeHandler
  rw [normalizeParts_same fun part listed c head => upper_ascii expected (smallParts_iff small part listed c head)]

theorem normalizeName_ascii {name : List Char} (small : smallParts name = true) :
    normalizeName lib.tables name = normalizeName asciiTables name := by
  unfold normalizeName
  rw [normalizeParts_same fun part listed c head => upper_ascii expected (smallParts_iff small part listed c head)]

theorem normalizeMethod_ascii {name : List Char} (small : smallParts name = true) :
    normalizeMethod lib.tables name = normalizeMethod asciiTables name := by
  have small := smallParts_iff small
  unfold normalizeMethod
  cases parts : javaSplit '_' name with
  | nil => rfl
  | cons part parts =>
    rw [parts] at small
    obtain ⟨first, rest⟩ := List.forall_mem_cons.mp small
    dsimp only
    rw [normalizePart_same fun c head => lower_ascii expected (first c head),
      normalizeParts_same fun part listed c head => upper_ascii expected (rest part listed c head)]

end Names

section Reaching
variable {lib : Libraries} (expected : Expected lib) {request : HttpRequest} {path : String}
  {vars : List (String × Int)}
include expected

def route (path : String) : Option (HandlerClass × List Char × List Char) :=
  match javaSplit '/' path.toList with
  | [_, handlerPart, methodPart] =>
    if plainPath path && smallParts handlerPart && smallParts methodPart then
      match normalizeHandler asciiTables handlerPart, normalizeMethod asciiTables methodPart,
          normalizeName asciiTables methodPart with
      | .ok handlerName, .ok methodName, .ok messageName =>
        (handlerClasses.lookup handlerName).map fun handler => (handler, methodName, messageName)
      | _, _, _ => none
    else none
  | _ => none

def getRoute (path : String) : Option (HandlerClass × GetMethod) :=
  (route path).bind fun (handler, methodName, _) =>
    if handler.instantiable then
      ((getMethods handler).lookup methodName).map fun method => (handler, method)
    else none

def postRoute (path : String) : Option (HandlerClass × PostMethod × MessageClass) :=
  (route path).bind fun (handler, methodName, messageName) =>
    if handler.instantiable then
      ((postMethods handler).lookup methodName).bind fun method =>
        (messageClasses.lookup messageName).map fun messageClass => (handler, method, messageClass)
    else none

def sessionOf (vars : List (String × Int)) : Int := (vars.lookup "clientID").getD (-1)

theorem parameters_decoded (plain : plainPath path = true) (names : plainVars vars = true)
    (fits : ∀ v ∈ vars, FitsLong v.2) :
    ∃ parameters, lib.parameters (uriOf path vars) = .ok parameters ∧
      sessionParameter lib parameters = some (sessionOf vars) ∧
      ∀ key n, vars.lookup key = some n →
        ∃ text, parameters key = some text ∧ parseLong lib.tables text = some n := by
  obtain ⟨parameters, decoded, values⟩ := expected.parameters path vars plain names
  have parsed : ∀ key n, vars.lookup key = some n → parseLong lib.tables (toString n).toList = some n := by
    intro key n found
    obtain ⟨front, back, same, -⟩ := List.lookup_eq_some_iff.mp found
    apply parseLong_toString expected (fits (key, n) _)
    rw [same]
    simp
  refine ⟨parameters, decoded, ?_, ?_⟩
  · unfold sessionParameter sessionOf
    rw [values]
    cases found : vars.lookup "clientID" with
    | none => rfl
    | some n => exact parsed "clientID" n found
  · intro key n found
    exact ⟨_, by rw [values, found]; rfl, parsed key n found⟩

theorem reaches_route (uri : request.uri = uriOf path vars) (names : plainVars vars = true)
    (fits : ∀ v ∈ vars, FitsLong v.2) {handler : HandlerClass} {methodName messageName : List Char}
    {ip : String} (found : route path = some (handler, methodName, messageName))
    (instantiable : handler.instantiable = true) (address : request.remoteAddress = some ip) :
    Reaches lib request handler methodName messageName (sessionOf vars) ip := by
  unfold route at found
  split at found
  · rename_i first handlerPart methodPart split
    split at found
    · rename_i plain
      simp only [Bool.and_eq_true] at plain
      obtain ⟨⟨plain, small⟩, small'⟩ := plain
      obtain ⟨parameters, decoded, session, -⟩ := parameters_decoded expected plain names fits
      split at found
      · rename_i handlerName method message normalized method' message'
        obtain ⟨class', looked, same⟩ := Option.map_eq_some_iff.mp found
        cases same
        refine ⟨⟨first, handlerPart, methodPart, handlerName, parameters, ?_, ?_, ?_, ?_, ?_, looked,
          session⟩, instantiable, address⟩
        · rw [uri, expected.path path vars plain names]
          exact split
        · rw [normalizeHandler_ascii expected small]
          exact normalized
        · rw [normalizeMethod_ascii expected small']
          exact method'
        · rw [normalizeName_ascii expected small']
          exact message'
        · rw [uri]
          exact decoded
      · cases found
    · cases found
  · cases found

end Reaching

section Texts

theorem uri_query (clientID : Int) (query : String) :
    "/" ++ createURLQuery clientID query = uriOf ("/" ++ query) [("clientID", clientID)] := by
  apply String.toList_injective
  simp [createURLQuery, uriOf, List.intercalate]

theorem uri_photo (clientID songID : Int) (query : String) :
    "/" ++ (createURLQuery clientID query ++ "&songID=" ++ toString songID) =
      uriOf ("/" ++ query) [("clientID", clientID), ("songID", songID)] := by
  apply String.toList_injective
  simp [createURLQuery, uriOf, List.intercalate]

theorem addVars_succ (count : Nat) (vars : List (String × Int)) :
    (addVars (count + 1) vars).toList =
      vars.flatMap fun v => '&' :: (v.1.toList ++ '=' :: (toString v.2).toList) := by
  induction vars generalizing count with
  | nil => rfl
  | cons v vars ih =>
    obtain ⟨key, value⟩ := v
    simp [addVars, ih (count + 1)]

theorem intercalate_cons (separator : Char) (first : List Char) (rest : List (List Char)) :
    [separator].intercalate (first :: rest) = first ++ rest.flatMap fun l => separator :: l := by
  induction rest generalizing first with
  | nil => simp [List.intercalate]
  | cons second rest ih =>
    have later := ih second
    simp only [List.intercalate, List.intersperse_cons_cons, List.flatten_cons] at later ⊢
    rw [later]
    simp

theorem create_url_eq (request : String) (vars : List (String × Int)) :
    create_url request vars = uriOf (server_url ++ ":" ++ server_port ++ "/speaker/" ++ request) vars := by
  apply String.toList_injective
  unfold create_url uriOf
  cases vars with
  | nil => simp
  | cons v vars =>
    obtain ⟨key, value⟩ := v
    have more : (addVars 0 ((key, value) :: vars)).toList =
        key.toList ++ '=' :: (toString value).toList ++ (addVars 1 vars).toList := by
      simp [addVars]
    have later := addVars_succ 0 vars
    rw [if_pos (by simp), if_neg (by simp)]
    simp only [String.toList_append, String.toList_ofList, more, later, List.map_cons, intercalate_cons,
      List.flatMap_map]
    rfl

theorem params_sent (ms : List (String × Value)) :
    String.ofList (Value.object ms).chars ∈ sentTexts ms :=
  List.mem_cons_self

theorem body_sent (ms : List (String × Value)) : String.ofList (dumps ms) ∈ sentTexts ms :=
  List.mem_cons_of_mem _ List.mem_cons_self

theorem readId_long {n : Int} (fits : FitsLong n) : readId (.object [("id", longValue n)]) = some n := by
  have value := readLong_spells (Spells.number (n := n))
  rw [if_pos fits] at value
  exact value

theorem readPin_long (n : Int) : readPin (.object [("pin", longValue n)]) = some (toString n) :=
  congrArg some String.ofList_toList

end Texts

section Dispatched
variable {lib : Libraries} (expected : Expected lib) {request : HttpRequest} {path : String}
  {vars : List (String × Int)} (uri : request.uri = uriOf path vars) (names : plainVars vars = true)
  (fits : ∀ v ∈ vars, FitsLong v.2) {ip : String} (address : request.remoteAddress = some ip)
include expected uri names fits address

theorem dispatch_get_route (get : request.method = .GET) {handler : HandlerClass} {method : GetMethod}
    {req : Request} (found : getRoute path = some (handler, method))
    (asks : getRequest lib request (sessionOf vars) method = some req) :
    dispatchRequest lib request = invoke (respond (handle ip req)) := by
  obtain ⟨⟨handler', methodName, messageName⟩, routed, found⟩ := Option.bind_eq_some_iff.mp found
  dsimp only at found
  split at found
  · rename_i instantiable
    obtain ⟨method', looked, same⟩ := Option.map_eq_some_iff.mp found
    cases same
    have reaches := reaches_route expected uri names fits routed instantiable address
    rw [dispatch_get ⟨get, _, _, _, reaches, looked⟩, getMethod_eq _ _ get, asks]
  · cases found

theorem dispatch_post_route (post : request.method = .POST) {handler : HandlerClass} {method : PostMethod}
    {req : Request} {messageClass : MessageClass} {ms : List (String × Value)} {message : RequestMessage}
    (found : postRoute path = some (handler, method, messageClass))
    (body : SentBody messageClass ms) (text : request.content ∈ sentTexts ms)
    (properties : readProperties (.object ms) messageClass = some message)
    (asks : postRequest (sessionOf vars) handler (some message) method = some req) :
    dispatchRequest lib request = invoke (respond (handle ip req)) := by
  obtain ⟨⟨handler', methodName, messageName⟩, routed, found⟩ := Option.bind_eq_some_iff.mp found
  dsimp only at found
  split at found
  · rename_i instantiable
    obtain ⟨method', looked, found⟩ := Option.bind_eq_some_iff.mp found
    obtain ⟨messageClass', class_found, same⟩ := Option.map_eq_some_iff.mp found
    cases same
    have reaches := reaches_route expected uri names fits routed instantiable address
    have constructed : constructMessage lib messageName request.content = .ok (some message) := by
      unfold constructMessage
      rw [class_found]
      exact expected.read messageClass ms request.content message body text properties
    rw [dispatch_post ⟨post, _, _, reaches, looked, constructed⟩, postMethod_eq _ _ post, asks]
  · cases found

omit address in
theorem songParameter_vars (plain : plainPath path = true) {songID : Int}
    (song : vars.lookup "songID" = some songID) : songParameter lib request = .ok (some songID) := by
  obtain ⟨parameters, decoded, -, values⟩ := parameters_decoded expected plain names fits
  obtain ⟨text, found, parsed⟩ := values "songID" songID song
  unfold songParameter
  rw [uri, decoded]
  simp only [bind, Except.bind, found, parsed]
  rfl

end Dispatched

section Devices

theorem fits_vars {clientID : Int} (fits : FitsLong clientID) :
    ∀ v ∈ [("clientID", clientID)], FitsLong v.2 := by
  intro v listed
  rw [List.mem_singleton.mp listed]
  exact fits

theorem no_vars : ∀ v ∈ ([] : List (String × Int)), FitsLong v.2 := by simp

theorem plain_session (clientID : Int) : plainVars [("clientID", clientID)] = true := rfl

theorem plain_song (clientID songID : Int) :
    plainVars [("clientID", clientID), ("songID", songID)] = true := rfl

theorem readProperties_pin (pin : Int) :
    readProperties (.object [("pin", longValue pin)]) .AuthenticateMessage =
      some (.AuthenticateMessage (some (toString pin))) := by
  have only : onlyProperty "pin" (.object [("pin", longValue pin)]) = true := rfl
  unfold readProperties
  rw [if_pos only, readPin_long]
  rfl

theorem map_readId {n : Int} (fits : FitsLong n) (message : Int → RequestMessage) :
    (readId (.object [("id", longValue n)])).map message = some (message n) := by
  rw [readId_long fits]
  rfl

variable {lib : Libraries} (expected : Expected lib)
include expected

theorem client_dispatched {clientID : Int} (fits : FitsLong clientID) (ip : String) (ch : Channel)
    {r : ClientRequest} (ints : r.Fits) :
    dispatchRequest lib (r.http clientID ip ch) = match r.asks clientID ch with
      | some req => invoke (respond (handle ip req))
      | none => sendError .NOT_FOUND := by
  have session := fits_vars fits
  have plain := plain_session clientID
  have uri := uri_query clientID
  cases r with
  | authenticateClient pin =>
    exact dispatch_post_route expected (rfl : _ = uriOf "/client/authenticate" []) rfl no_vars rfl rfl
      (by decide +kernel : postRoute _ = some (.ClientHandler, .authenticate, .AuthenticateMessage))
      (.pin ints) (params_sent _) (readProperties_pin pin) rfl
  | deauthenticateClient =>
    exact dispatch_post_route expected (rfl : _ = uriOf "/client/deauthenticate" []) rfl no_vars rfl rfl
      (by decide +kernel : postRoute _ = some (.ClientHandler, .deauthenticate, .DeauthenticateMessage))
      (.deauthenticate fits) (params_sent _) (map_readId fits RequestMessage.DeauthenticateMessage) rfl
  | requestSongList =>
    exact dispatch_get_route expected (uri "client/request_song_list") plain session rfl rfl
      (by decide +kernel : getRoute _ = some (.ClientHandler, .requestSongList)) rfl
  | sendVote songID =>
    exact dispatch_post_route expected (uri "client/vote") plain session rfl rfl
      (by decide +kernel : postRoute _ = some (.ClientHandler, .vote, .VoteMessage))
      (.vote ints) (params_sent _) (map_readId ints RequestMessage.VoteMessage) rfl
  | sendLike songID =>
    exact dispatch_post_route expected (uri "client/like") plain session rfl rfl
      (by decide +kernel : postRoute _ = some (.ClientHandler, .like, .LikeMessage))
      (.like ints) (params_sent _) (map_readId ints RequestMessage.LikeMessage) rfl
  | sendDislike songID =>
    exact dispatch_post_route expected (uri "client/dislike") plain session rfl rfl
      (by decide +kernel : postRoute _ = some (.ClientHandler, .dislike, .DislikeMessage))
      (.dislike ints) (params_sent _) (map_readId ints RequestMessage.DislikeMessage) rfl
  | requestLikeUpdate =>
    exact dispatch_get_route expected (uri "client/request_like_update") plain session rfl rfl
      (by decide +kernel : getRoute _ = some (.ClientHandler, .requestLikeUpdate)) rfl
  | updateRequestLoop =>
    exact dispatch_get_route expected (uri "client/request_update") plain session rfl rfl
      (by decide +kernel : getRoute _ = some (.ClientHandler, .requestUpdate)) rfl
  | requestVoteUpdate =>
    have path : lib.path ((ClientRequest.requestVoteUpdate.http clientID ip ch).uri) =
        ("/" ++ "request_vote_update").toList := by
      have uri' : (ClientRequest.requestVoteUpdate.http clientID ip ch).uri = _ := uri "request_vote_update"
      rw [uri', expected.path _ _ (by decide) plain]
    have parts : javaSplit '/' ("/" ++ "request_vote_update").toList =
        ["".toList, "request_vote_update".toList] := by decide +kernel
    unfold dispatchRequest
    rw [path, parts]
    rfl
  | requestSongUpdate =>
    exact dispatch_get_route expected (uri "client/request_song_update") plain session rfl rfl
      (by decide +kernel : getRoute _ = some (.ClientHandler, .requestSongUpdate)) rfl
  | requestAlbumArtForSong songID =>
    have numbers : ∀ v ∈ [("clientID", clientID), ("songID", songID)], FitsLong v.2 := by
      intro v listed
      rcases List.mem_cons.mp listed with rfl | last
      · exact fits
      · rw [List.mem_singleton.mp last]
        exact ints
    have asked : (ClientRequest.http clientID ip ch (.requestAlbumArtForSong songID)).uri = _ :=
      uri_photo clientID songID "client/request_photo"
    have song := songParameter_vars expected asked (plain_song clientID songID) numbers (by decide) rfl
    exact dispatch_get_route expected asked (plain_song clientID songID) numbers rfl rfl
      (by decide +kernel : getRoute _ = some (.ClientHandler, .requestPhoto)) (by
        unfold getRequest
        rw [song]
        rfl)

theorem speaker_dispatched {client_id : Int} (fits : FitsLong client_id) (ip : String) (ch : Channel)
    {r : SpeakerRequest} (ints : r.Fits client_id) :
    ∃ req, r.asks lib client_id ch = some req ∧
      dispatchRequest lib (r.http client_id ip ch) = invoke (respond (handle ip req)) := by
  have session := fits_vars fits
  have plain := plain_session client_id
  cases r with
  | authenticate =>
    exact ⟨_, rfl, dispatch_post_route expected (create_url_eq "authenticate" []) rfl no_vars rfl rfl
      (by decide +kernel : postRoute _ = some (.SpeakerHandler, .authenticate, .AuthenticateMessage))
      (.pin (by decide)) (body_sent _) (readProperties_pin 1234) rfl⟩
  | deauthenticate =>
    exact ⟨_, rfl, dispatch_post_route expected (create_url_eq "deauthenticate" _) plain session rfl rfl
      (by decide +kernel : postRoute _ = some (.SpeakerHandler, .deauthenticate, .DeauthenticateMessage))
      (.deauthenticate fits) (body_sent _) (map_readId fits RequestMessage.DeauthenticateMessage) rfl⟩
  | request_update =>
    exact ⟨_, rfl, dispatch_get_route expected (create_url_eq "request_update" _) plain session rfl rfl
      (by decide +kernel : getRoute _ = some (.SpeakerHandler, .requestUpdate)) rfl⟩
  | request_song songID query_vars =>
    obtain ⟨song, order⟩ := ints
    have names : plainVars query_vars = true := by
      rcases order with rfl | rfl <;> rfl
    have numbers : ∀ v ∈ query_vars, FitsLong v.2 := by
      rcases order with rfl | rfl <;> simp [fits, song]
    have found : sessionOf query_vars = client_id ∧ query_vars.lookup "songID" = some songID := by
      rcases order with rfl | rfl <;> exact ⟨rfl, rfl⟩
    have asked : (SpeakerRequest.http client_id ip ch (.request_song songID query_vars)).uri = _ :=
      create_url_eq "request_song" query_vars
    have parameter := songParameter_vars expected asked names numbers (by decide) found.2
    refine ⟨_, rfl, dispatch_get_route expected asked names numbers rfl rfl
      (by decide +kernel : getRoute _ = some (.SpeakerHandler, .requestSong)) ?_⟩
    unfold getRequest
    rw [parameter, found.1]
  | status_update playback_message body_params =>
    obtain ⟨song, other⟩ := ints
    have reported : playback_message.status.report ≠ none := by
      intro none
      apply other
      cases status : playback_message.status with
      | need_song => rfl
      | _ =>
        rw [status] at none
        cases none
    obtain ⟨status, report⟩ := Option.ne_none_iff_exists'.mp reported
    have read := read_dictionary body_params
    rw [read_dumps, Option.bind_some, if_pos song, report, Option.map_some] at read
    refine ⟨.statusUpdate client_id (some { id := playback_message.id, status := some status }), ?_,
      dispatch_post_route expected (create_url_eq "status_update" _) plain session rfl rfl
      (by decide +kernel : postRoute _ = some (.SpeakerHandler, .statusUpdate, .StatusUpdateMessage))
      (.status body_params song) (body_sent _)
      (congrArg (Option.map RequestMessage.StatusUpdateMessage) read) rfl⟩
    unfold SpeakerRequest.asks
    dsimp only
    rw [report]
    rfl

end Devices

end MusicCloud
