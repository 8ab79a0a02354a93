import MusicCloud.DeviceRuns
import MusicCloud.PhoneVotes

/-!
The phone and the server with HTTP requests between them. The phone logs in, polls and asks its
questions with the requests of `ClientSession`, the votes are requests as well, and the
dispatcher of the server finds the method for each. The phone that calls the server itself is
the same, as long as its number is a `long`.
-/
namespace MusicCloud
open Comparisons Dispatch Runs

namespace PhoneParty
variable (lib : Libraries)

def request (p : PhoneParty) (id : Int) (ch : Channel) (r : ClientRequest) : RequestState :=
  finalState (dispatchRequest lib (r.http id p.ip ch) (fresh p.server))

/-- The login and the questions have channels of their own. -/
def handleWire (hears : PhoneParty → SessionUpdate → Option PartyScreen) (p : PhoneParty) :
    PhoneEvent → PhoneParty
  | .logsIn =>
    if p.clientID = none then
      let c := p.request lib 0 0 (.authenticateClient 1234)
      match c.responses with
      | [.session id] =>
        { p with server := c.server, clientID := some id, screen := some .viewDidLoad, loop := .asking
                 songList := .sent, songUpdate := .sent }
      | _ => { p with server := c.server }
    else p
  | .polls ch =>
    match p.clientID, p.screen, p.loop with
    | some id, some _, .asking =>
      if p.queue.Unused ch ∧ p.server.isActive ch then
        { p with server := (p.request lib id ch .updateRequestLoop).server, loop := .waiting ch }
      else p
    | _, _, _ => p
  | .songListServed =>
    match p.clientID, p.songList with
    | some id, .sent =>
      let c := p.request lib id 0 .requestSongList
      match c.responses with
      | [response] => { p with server := c.server, songList := .answered (replyOf response) }
      | _ => { p with server := c.server }
    | _, _ => p
  | .songUpdateServed =>
    match p.clientID, p.songUpdate with
    | some id, .sent =>
      let c := p.request lib id 0 .requestSongUpdate
      match c.responses with
      | [response] => { p with server := c.server, songUpdate := .answered (replyOf response) }
      | _ => { p with server := c.server }
    | _, _ => p
  | e => p.handle hears e

section Requests
variable {lib} (expected : Expected lib) {hears : PhoneParty → SessionUpdate → Option PartyScreen}
  {p : PhoneParty} {ids : List Int}
include expected

theorem request_eq {id : Int} (long : FitsLong id) (ch : Channel) {r : ClientRequest} (ints : r.Fits)
    {req : Request} (asks : r.asks id ch = some req) : p.request lib id ch r =
      { server := p.server.serve (.request p.ip req)
        responses := match Server.handle p.ip req p.server with
          | .ok response _ => [response]
          | .error _ _ => [] } := by
  have dispatched := client_dispatched expected long p.ip ch ints
  rw [asks] at dispatched
  exact finalState_handled dispatched p.server

theorem request_answered {id : Int} (long : FitsLong id) (ch : Channel) {r : ClientRequest} (ints : r.Fits)
    {req : Request} (asks : r.asks id ch = some req) {reply : Response} {s : Server}
    (answers : Server.handle p.ip req p.server = .ok reply s) :
    p.request lib id ch r = { server := s, responses := [reply] } := by
  rw [p.request_eq expected long ch ints asks, Server.serve, answers]
  rfl

theorem handleWire_eq (h : p.Sound ids)
    (stays : ∀ id, p.clientID = some id → p.server.PhoneAt id p.ip)
    (long : ∀ id, p.clientID = some id → FitsLong id) (e : PhoneEvent) :
    p.handleWire lib hears e = p.handle hears e := by
  cases e with
  | logsIn =>
    have zero : FitsLong 0 := ⟨by decide, by decide⟩
    have pin : (ClientRequest.authenticateClient 1234).Fits := ⟨by decide, by decide⟩
    have asked : Server.handle p.ip (.clientAuthenticate (some "1234")) p.server =
        .ok (.session (p.server.db.sessionSequence + 1)) (p.server.joined p.ip .User) :=
      pin_accepted p.server p.ip
    have answered := p.request_answered expected zero 0 pin rfl asked
    unfold handleWire handle
    dsimp only
    rw [answered, logIn_eq]
  | polls ch =>
    unfold handleWire handle
    dsimp only
    cases client : p.clientID with
    | none => rfl
    | some id =>
      cases shows : p.screen with
      | none => rfl
      | some screen =>
        cases asks : p.loop with
        | asking =>
          have admitted := (stays id client).admitted h.roster
          have ints : ClientRequest.updateRequestLoop.Fits := trivial
          have asked := p.request_eq expected (long id client) ch ints
            (rfl : _ = some (Request.requestUpdate id ch))
          have served : p.server.serve (.request p.ip (.requestUpdate id ch)) =
              p.server.call (.registerRequest id ch) := by
            rw [Server.serve_eq]
            unfold Server.comesTo Server.requested
            dsimp only
            rw [if_pos admitted]
          dsimp only
          rw [asked, served]
        | waiting _ => rfl
        | stopped => rfl
  | songListServed =>
    unfold handleWire handle
    dsimp only
    cases client : p.clientID with
    | none => rfl
    | some id =>
      cases pending : p.songList with
      | sent =>
        have ints : ClientRequest.requestSongList.Fits := trivial
        obtain ⟨reply, answers, -⟩ := songList_served p.server id p.ip
        have asked : Server.handle p.ip (.requestSongList id) p.server = .ok reply p.server := answers
        have answered := p.request_answered expected (long id client) 0 ints rfl asked
        dsimp only
        rw [answered, answers]
      | _ => rfl
  | songUpdateServed =>
    unfold handleWire handle
    dsimp only
    cases client : p.clientID with
    | none => rfl
    | some id =>
      cases pending : p.songUpdate with
      | sent =>
        have ints : ClientRequest.requestSongUpdate.Fits := trivial
        obtain ⟨reply, s, answers, -⟩ := songUpdate_served p.server id p.ip
        have asked : Server.handle p.ip (.requestSongUpdate id) p.server = .ok reply s := answers
        have answered := p.request_answered expected (long id client) 0 ints rfl asked
        dsimp only
        rw [answered, answers]
      | _ => rfl
  | _ => rfl

end Requests

end PhoneParty

namespace VotingPhone
variable (lib : Libraries) (texts : DoubleTexts) (sorter : Sorter Nat)
  (compareNames : String → String → Ordering)

def stepWire (v : VotingPhone) : VotingEvent → VotingPhone
  | .phone e =>
    { v with party := v.party.handleWire lib (PhoneParty.hears texts sorter compareNames) e
             sent := v.sent ++ (v.party.touched e).toList }
  | .voteArrives i =>
    match v.party.clientID, v.sent[i]? with
    | some id, some songID =>
      let c := v.party.request lib id 0 (.sendVote songID)
      { party := { v.party with server := c.server }, sent := v.sent.eraseIdx i
        answers := v.answers ++ [c.responses.head?] }
    | _, _ => v

def Numbered (v : VotingPhone) : Prop := ∀ id, v.party.clientID = some id → FitsLong id

variable {lib} {v : VotingPhone} {ids : List Int}

theorem numbered_back (e : VotingEvent) (after : (v.step texts sorter compareNames e).Numbered) :
    v.Numbered := by
  intro id client
  apply after id
  have joined : v.party.clientID ≠ none := by
    rw [client]
    exact Option.some_ne_none id
  cases e with
  | phone e => exact (PhoneParty.clientID_step texts joined e).trans client
  | voteArrives i =>
    unfold step handle
    dsimp only
    split
    · split <;> exact client
    · exact client

theorem stepWire_eq (expected : Expected lib) (h : v.Sound ids) (songs : ∀ songID ∈ ids, FitsLong songID)
    (long : v.Numbered) (e : VotingEvent) :
    v.stepWire lib texts sorter compareNames e = v.step texts sorter compareNames e := by
  cases e with
  | phone e =>
    unfold stepWire step handle PhoneParty.step
    dsimp only
    rw [PhoneParty.handleWire_eq expected h.party h.stays long e]
  | voteArrives i =>
    unfold stepWire step handle
    dsimp only
    cases client : v.party.clientID with
    | none => rfl
    | some id =>
      cases vote : v.sent[i]? with
      | none => rfl
      | some songID =>
        have listed := h.library songID (List.mem_of_getElem? vote)
        have ints : (ClientRequest.sendVote songID).Fits := songs songID listed
        have asked := v.party.request_eq expected (long id client) 0 ints
          (rfl : _ = some (Request.vote id songID))
        have served : Server.handle v.party.ip (.vote id songID) v.party.server =
            Server.voteRequest id v.party.ip songID v.party.server := rfl
        dsimp only
        rw [asked, Server.serve, served]
        cases Server.voteRequest id v.party.ip songID v.party.server <;> rfl

end VotingPhone

/-- The phone that sends HTTP requests, votes included, is the phone that calls the server. -/
theorem wire_phone_refines (lib : Libraries) (expected : Expected lib) (texts : DoubleTexts)
    (sorter : Sorter Nat) (compareNames : String → String → Ordering) (music : List MusicRow)
    (songs : ∀ songID ∈ PhoneParty.library music, FitsLong songID) (clock : Nat) (ip : String)
    (events : List VotingEvent)
    (long : (run (VotingPhone.step texts sorter compareNames) (.start music clock ip) events).Numbered) :
    run (VotingPhone.stepWire lib texts sorter compareNames) (.start music clock ip) events =
      run (VotingPhone.step texts sorter compareNames) (.start music clock ip) events :=
  run_same (VotingPhone.step texts sorter compareNames)
    (fun _ e (h : VotingPhone.Sound _ (PhoneParty.library music)) =>
      VotingPhone.sound_step texts sorter compareNames h e)
    (fun _ e _ after => VotingPhone.numbered_back texts sorter compareNames e after)
    (fun _ e h numbered => VotingPhone.stepWire_eq texts sorter compareNames expected h songs numbered e)
    events _ (VotingPhone.sound_start music clock ip) long

def pollingEvents : List VotingEvent :=
  [.phone .logsIn, .phone .songListServed, .phone (.polls 5), .phone .songListArrives]

theorem guest_polls_over_wire :
    (run (VotingPhone.stepWire plainLibraries allDigits (Sorter.merge Nat) compare)
      (.start twoSongs 0 "10.0.0.1") pollingEvents).party.loop = .waiting 5 := by
  have songs : ∀ songID ∈ PhoneParty.library twoSongs, FitsLong songID := by
    decide
  have told : VotingPhone.step allDigits (Sorter.merge Nat) compare =
      VotingPhone.handle (PhoneParty.handle (PhoneParty.heard (Sorter.merge Nat) compare)) :=
    congrArg VotingPhone.handle (PhoneParty.step_heard allDigits (Sorter.merge Nat) compare)
  have joined : (run (VotingPhone.step allDigits (Sorter.merge Nat) compare)
      (.start twoSongs 0 "10.0.0.1") pollingEvents).party.clientID = some 1 := by
    rw [told]
    decide +kernel
  have long : (run (VotingPhone.step allDigits (Sorter.merge Nat) compare)
      (.start twoSongs 0 "10.0.0.1") pollingEvents).Numbered := by
    intro id client
    rw [joined] at client
    cases client
    exact ⟨by decide, by decide⟩
  rw [wire_phone_refines plainLibraries expected_plain allDigits (Sorter.merge Nat) compare twoSongs songs 0
    "10.0.0.1" pollingEvents long, told]
  decide +kernel

end MusicCloud
