import MusicCloud.DeviceRequests

/-!
Runs of the server whose requests come from devices, as HTTP requests. What the dispatcher
does with them, and what it answers, is what the handlers do and answer.
-/
namespace MusicCloud
open Json Dispatch Server Runs

structure Arrival where
  ip : String
  channel : Channel
  id : Int
  request : ClientRequest ⊕ SpeakerRequest

namespace Arrival

def http (a : Arrival) : HttpRequest :=
  match a.request with
  | .inl r => r.http a.id a.ip a.channel
  | .inr r => r.http a.id a.ip a.channel

def asks (lib : Libraries) (a : Arrival) : Option Request :=
  match a.request with
  | .inl r => r.asks a.id a.channel
  | .inr r => r.asks lib a.id a.channel

def Fits (a : Arrival) : Prop :=
  FitsLong a.id ∧ match a.request with
    | .inl r => r.Fits
    | .inr r => r.Fits a.id

end Arrival

structure Answered where
  server : Server
  answers : List (List Response)

theorem finalState_handled {lib : Libraries} {http : HttpRequest} {ip : String} {req : Request}
    (dispatched : dispatchRequest lib http = invoke (respond (handle ip req))) (s : Server) :
    finalState (dispatchRequest lib http (fresh s)) =
      { server := s.serve (.request ip req)
        responses := match handle ip req s with
          | .ok response _ => [response]
          | .error _ _ => [] } := by
  rw [dispatched, finalState_invoke]
  unfold respond Server.serve fresh
  dsimp only
  cases handle ip req s <;> rfl

namespace Answered

def receive (lib : Libraries) (w : Answered) (a : Arrival) : Answered :=
  let c := finalState (dispatchRequest lib a.http (fresh w.server))
  { server := c.server, answers := w.answers ++ [c.responses] }

/-- The handler gets what the device asks for. A request that nothing is asked with is not found. -/
def serve (lib : Libraries) (w : Answered) (a : Arrival) : Answered :=
  match a.asks lib with
  | some req =>
    { server := w.server.serve (.request a.ip req)
      answers := w.answers ++ [match handle a.ip req w.server with
        | .ok response _ => [response]
        | .error _ _ => []] }
  | none => { w with answers := w.answers ++ [[.error .NOT_FOUND]] }

theorem receive_eq {lib : Libraries} (expected : Expected lib) (w : Answered) {a : Arrival}
    (fits : a.Fits) : w.receive lib a = w.serve lib a := by
  obtain ⟨ip, channel, id, request⟩ := a
  obtain ⟨long, ints⟩ := fits
  cases request with
  | inl r =>
    have dispatched := client_dispatched expected long ip channel ints
    unfold receive serve Arrival.http Arrival.asks
    dsimp only at dispatched ⊢
    cases asked : r.asks id channel with
    | some req =>
      rw [asked] at dispatched
      rw [finalState_handled dispatched]
    | none =>
      rw [asked] at dispatched
      rw [dispatched]
      rfl
  | inr r =>
    obtain ⟨req, asked, dispatched⟩ := speaker_dispatched expected long ip channel ints
    unfold receive serve Arrival.http Arrival.asks
    dsimp only
    rw [finalState_handled dispatched, asked]

end Answered

/-- Over a run of requests of phones and speakers, the server does what its handlers do and
    gives their answers; only `requestVoteUpdate` of the app is not found. -/
theorem device_requests_served (lib : Libraries) (expected : Expected lib) (s : Server)
    (arrivals : List Arrival) (fits : ∀ a ∈ arrivals, a.Fits) :
    run (Answered.receive lib) { server := s, answers := [] } arrivals =
      run (Answered.serve lib) { server := s, answers := [] } arrivals := by
  generalize ({ server := s, answers := [] } : Answered) = w
  induction arrivals generalizing w with
  | nil => rfl
  | cons a arrivals ih =>
    obtain ⟨first, rest⟩ := List.forall_mem_cons.mp fits
    rw [run_cons, run_cons, Answered.receive_eq expected w first]
    exact ih rest _

section Plain

def keyed (key : String) (part : List Char) : Bool :=
  '=' ∈ part ∧ part.takeWhile (· ≠ '=') = key.toList

def queryValue (query : List Char) (key : String) : Option (List Char) :=
  ((query.splitOn '&').find? (keyed key)).map fun part => (part.dropWhile (· ≠ '=')).drop 1

def plainLibraries : Libraries where
  tables := asciiTables
  path := fun uri => uri.toList.takeWhile (· ≠ '?')
  parameters := fun uri => .ok (queryValue ((uri.toList.dropWhile (· ≠ '?')).drop 1))
  readValue := fun messageClass text =>
    match (Json.read text.toList).bind fun v => readProperties v messageClass with
    | some message => .ok (some message)
    | none => .error .io
  readable := fun _ => true

theorem not_mem_plain {c : Char} {path : String} (plain : plainPath path = true)
    (special : (c.isAlphanum || c ∈ ['/', '.', ':', '_']) = false) : c ∉ path.toList := by
  intro there
  have fine := List.all_eq_true.mp plain c there
  rw [special] at fine
  cases fine

theorem not_mem_int {c : Char} (n : Int) (other : c.isDigit = false) (minus : c ≠ '-') :
    c ∉ (toString n).toList := by
  rw [← Decimals.Literal.chars_ofInt]
  intro there
  have digits : c ∈ Nat.toDigits 10 n.natAbs → False := fun digit => by
    rw [Nat.isDigit_of_mem_toDigits (by decide) (by decide) digit] at other
    cases other
  by_cases negative : n < 0
  · simp [Decimals.Literal.chars, Decimals.Literal.middle, Decimals.Literal.tail,
      Decimals.Literal.ofInt, negative, Decimals.Sign.chars, minus] at there
    exact digits there
  · simp [Decimals.Literal.chars, Decimals.Literal.middle, Decimals.Literal.tail,
      Decimals.Literal.ofInt, negative, Decimals.Sign.chars] at there
    exact digits there

theorem plainVars_alphanum {vars : List (String × Int)} (plain : plainVars vars = true) :
    ∀ v ∈ vars, v.1.toList.all Char.isAlphanum = true := by
  intro v listed
  have name : v.1 ∈ vars.map Prod.fst := List.mem_map_of_mem listed
  have known : v.1 = "clientID" ∨ v.1 = "songID" := by
    simp only [plainVars, decide_eq_true_eq, List.mem_cons, List.not_mem_nil, or_false] at plain
    rcases plain with names | names | names | names <;> rw [names] at name <;> simp at name <;> tauto
  rcases known with same | same <;> rw [same] <;> decide

theorem not_mem_name {c : Char} {name : String} (plain : name.toList.all Char.isAlphanum = true)
    (special : c.isAlphanum = false) : c ∉ name.toList := by
  intro there
  have fine := List.all_eq_true.mp plain c there
  rw [special] at fine
  cases fine

theorem splitOn_parts (first : List Char) {rest : List (List Char)}
    (absent : ∀ part ∈ first :: rest, '&' ∉ part) :
    (first ++ rest.flatMap fun part => '&' :: part).splitOn '&' = first :: rest := by
  induction rest generalizing first with
  | nil =>
    rw [List.flatMap_nil, List.append_nil]
    exact List.splitOn_eq_singleton (absent first List.mem_cons_self)
  | cons second rest ih =>
    obtain ⟨here, later⟩ := List.forall_mem_cons.mp absent
    rw [List.flatMap_cons, List.cons_append, List.splitOn_append_cons_self,
      List.splitOn_eq_singleton here, ih second later]
    rfl

def varText (v : String × Int) : List Char := v.1.toList ++ '=' :: (toString v.2).toList

theorem span_var {name : String} (plain : name.toList.all Char.isAlphanum = true) (n : Int) :
    (varText (name, n)).takeWhile (· ≠ '=') = name.toList ∧
      (varText (name, n)).dropWhile (· ≠ '=') = '=' :: (toString n).toList := by
  have others : ∀ c ∈ name.toList, decide (c ≠ '=') = true := fun c there =>
    decide_eq_true fun same => not_mem_name plain (by decide : ('=' : Char).isAlphanum = false) (same ▸ there)
  unfold varText
  rw [List.takeWhile_append_of_pos others, List.dropWhile_append_of_pos others]
  exact ⟨List.append_nil _, rfl⟩

theorem keyed_var {name : String} (plain : name.toList.all Char.isAlphanum = true) (n : Int)
    (key : String) : keyed key (varText (name, n)) = (key == name) := by
  have there : '=' ∈ varText (name, n) := by simp [varText]
  unfold keyed
  rw [(span_var plain n).1, Bool.eq_iff_iff, decide_eq_true_eq, beq_iff_eq]
  exact ⟨fun same => (String.toList_injective same.2).symm, fun same => ⟨there, by rw [same]⟩⟩

theorem find_var {vars : List (String × Int)}
    (plain : ∀ v ∈ vars, v.1.toList.all Char.isAlphanum = true) (key : String) :
    ((vars.map varText).find? (keyed key)).map (fun part => (part.dropWhile (· ≠ '=')).drop 1) =
      (vars.lookup key).map fun n => (toString n).toList := by
  induction vars with
  | nil => rfl
  | cons v vars ih =>
    obtain ⟨name, n⟩ := v
    obtain ⟨first, rest⟩ := List.forall_mem_cons.mp plain
    have known := keyed_var first n key
    rw [List.map_cons, List.lookup_cons]
    by_cases same : key = name
    · have equal : (key == name) = true := beq_iff_eq.mpr same
      rw [List.find?_cons_of_pos (known.trans equal), equal, Option.map_some, (span_var first n).2]
      rfl
    · have other : (key == name) = false := beq_false_of_ne same
      have differs : ¬ keyed key (varText (name, n)) = true := by
        rw [known, other]
        exact Bool.false_ne_true
      rw [List.find?_cons_of_neg differs, other]
      exact ih rest

theorem span_uri {path : String} (plain : plainPath path = true) {vars : List (String × Int)} :
    (uriOf path vars).toList.takeWhile (· ≠ '?') = path.toList ∧
      ((uriOf path vars).toList.dropWhile (· ≠ '?')).drop 1 = ['&'].intercalate (vars.map varText) := by
  have others : ∀ c ∈ path.toList, decide (c ≠ '?') = true := fun c there =>
    decide_eq_true fun same => not_mem_plain plain (by decide) (same ▸ there)
  unfold uriOf
  by_cases none : vars = []
  · rw [if_pos none, none, List.takeWhile_eq_self_iff.mpr others, List.dropWhile_eq_nil_iff.mpr others]
    exact ⟨rfl, rfl⟩
  · rw [if_neg none, String.toList_append, String.toList_ofList, List.takeWhile_append_of_pos others,
      List.dropWhile_append_of_pos others]
    exact ⟨List.append_nil _, rfl⟩

theorem not_mem_var {v : String × Int} {vars : List (String × Int)} (names : plainVars vars = true)
    (listed : v ∈ vars) : '&' ∉ varText v := by
  have fine := plainVars_alphanum names v listed
  intro there
  rcases List.mem_append.mp there with name | value
  · exact not_mem_name fine (by decide) name
  · rcases List.mem_cons.mp value with sign | number
    · cases sign
    · exact not_mem_int v.2 (by decide) (by decide) number

theorem queryValue_vars {vars : List (String × Int)} (names : plainVars vars = true) (key : String) :
    queryValue (['&'].intercalate (vars.map varText)) key =
      (vars.lookup key).map fun n => (toString n).toList := by
  unfold queryValue
  cases vars with
  | nil => rfl
  | cons v vars =>
    have absent : ∀ part ∈ (v :: vars).map varText, '&' ∉ part := by
      intro part listed
      obtain ⟨w, there, rfl⟩ := List.mem_map.mp listed
      exact not_mem_var names there
    have parts := splitOn_parts _ absent
    rw [List.map_cons, intercalate_cons, parts]
    exact find_var (plainVars_alphanum names) key

theorem expected_plain : Expected plainLibraries where
  upper := fun c small => rfl
  lower := fun c small => congrArg (fun c => [c]) (toLower_lower small)
  digit := fun c digit => if_pos digit
  path := fun path vars plain names => (span_uri plain).1
  parameters := fun path vars plain names => ⟨_, rfl, fun key => by
    rw [(span_uri plain).2]
    exact queryValue_vars names key⟩
  read := fun messageClass ms text message body sent properties => by
    have json : Json.read text.toList = some (.object ms) := by
      rcases List.mem_cons.mp sent with rfl | last
      · rw [String.toList_ofList]
        exact Json.read_chars (.object ms)
      · rw [List.mem_singleton.mp last, String.toList_ofList]
        exact Json.read_dumps ms
    simp only [plainLibraries]
    rw [json, Option.bind_some, properties]

def houseArrivals : List Arrival :=
  [{ ip := "10.0.0.1", channel := 1, id := 0, request := .inr .authenticate },
    { ip := "10.0.0.2", channel := 2, id := 0, request := .inl (.authenticateClient 1234) },
    { ip := "10.0.0.3", channel := 3, id := 0, request := .inl (.authenticateClient 123) },
    { ip := "10.0.0.2", channel := 4, id := 2, request := .inl (.sendVote 1) },
    { ip := "10.0.0.2", channel := 5, id := 2, request := .inl .requestVoteUpdate },
    { ip := "10.0.0.1", channel := 6, id := 1, request := .inr .request_update }]

theorem house_requests_served :
    (run (Answered.receive plainLibraries) { server := .start twoSongs 0, answers := [] }
      houseArrivals).answers =
        [[.session 1], [.session 2], [.error .FORBIDDEN], [.ok], [.error .NOT_FOUND], [.parked]] := by
  have fits : ∀ a ∈ houseArrivals, a.Fits := by
    simp [houseArrivals, Arrival.Fits, ClientRequest.Fits, SpeakerRequest.Fits, FitsLong]
  rw [device_requests_served plainLibraries expected_plain (.start twoSongs 0) houseArrivals fits]
  decide +kernel

end Plain

end MusicCloud
