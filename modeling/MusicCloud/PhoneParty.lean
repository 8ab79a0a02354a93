import MusicCloud.PartyScreen
import MusicCloud.SongList
import MusicCloud.Situations

/-!
The server together with one phone, for one stay on the party screen: from the login on, and
without the button that leaves the screen. The party screen asks for the song list and for the
current song, and keeps one long poll open at a time; each update comes as the bytes of its
response. The server answers the two questions at some time, and the answers arrive at some
other time. A response to a long poll that has been written arrives. The other clients, the
timer and the environment may do what they like, but for this: nobody ends the session of the
phone, polls for it or closes the channel of its poll. `allows` leaves such calls out.
-/
namespace MusicCloud
open Comparisons Mirrors Runs SessionUpdateQueue

inductive RequestLoop where
  | asking
  | waiting (ch : Channel)
  | stopped
  deriving DecidableEq, Repr

/-- A request of `viewDidLoad` and its answer, which is an update or an error. -/
inductive Exchange where
  | unsent
  | sent
  | answered (reply : Option SessionUpdate)
  | finished
  deriving DecidableEq, Repr

structure PhoneParty where
  server : Server
  ip : String
  clientID : Option Int
  /-- The party screen; there is none before the login, and none after an exception. -/
  screen : Option PartyScreen
  loop : RequestLoop
  songList : Exchange
  songUpdate : Exchange

inductive PhoneEvent where
  | calls (c : Call)
  | logsIn
  | polls (ch : Channel)
  | receives
  | timesOut
  | fails
  | songListServed
  | songListArrives
  | songUpdateServed
  | songUpdateArrives
  | likeUpdateFails
  | ticks
  | selects (row : Nat)

namespace PhoneParty

def start (music : List MusicRow) (clock : Nat) (ip : String) : PhoneParty :=
  { server := .start music clock, ip := ip, clientID := none, screen := none, loop := .stopped
    songList := .unsent, songUpdate := .unsent }

def poll (p : PhoneParty) : Option Channel :=
  match p.loop with
  | .waiting ch => some ch
  | _ => none

def queue (p : PhoneParty) : SessionUpdateQueue SessionUpdate :=
  match p.clientID with
  | some id => p.server.queueOf id
  | none => .empty

/-- What the others may call: nothing that uses the session or the channel of the phone. -/
def allows (p : PhoneParty) : Call → Bool
  | .destroySession sessionID => p.clientID ≠ some sessionID
  | .registerRequest sessionID _ => p.clientID ≠ some sessionID
  | .channelClosed ch => p.poll ≠ some ch
  | _ => true

def logIn (p : PhoneParty) : PhoneParty :=
  match p.server.clientAuthenticate (some "1234") p.ip with
  | .ok (.session id) s =>
    { p with server := s, clientID := some id, screen := some .viewDidLoad, loop := .asking
             songList := .sent, songUpdate := .sent }
  | result => { p with server := finalState result }

def replyOf : Response → Option SessionUpdate
  | .update u => some u
  | _ => none

section Steps
variable (hears : PhoneParty → SessionUpdate → Option PartyScreen)

def arrives (p : PhoneParty) (reply : Option SessionUpdate) : Option PartyScreen :=
  match reply with
  | some u => hears p u
  | none => p.screen

def handle (p : PhoneParty) : PhoneEvent → PhoneParty
  | .calls c => if p.allows c then { p with server := p.server.call c } else p
  | .logsIn => if p.clientID = none then p.logIn else p
  | .polls ch =>
    match p.clientID, p.screen, p.loop with
    | some id, some _, .asking =>
      if p.queue.Unused ch ∧ p.server.isActive ch then
        { p with server := p.server.call (.registerRequest id ch), loop := .waiting ch }
      else p
    | _, _, _ => p
  | .receives =>
    match p.queue.answer p.poll with
    | some update => { p with loop := .asking, screen := hears p update }
    | none => p
  | .timesOut =>
    match p.loop, p.queue.answer p.poll with
    | .waiting ch, none => { p with server := p.server.call (.channelClosed ch), loop := .asking }
    | _, _ => p
  | .fails =>
    match p.loop, p.queue.answer p.poll with
    | .waiting ch, none => { p with server := p.server.call (.channelClosed ch), loop := .stopped }
    | _, _ => p
  | .songListServed =>
    match p.clientID, p.songList with
    | some id, .sent =>
      match Server.requestSongList id p.ip p.server with
      | .ok response s => { p with server := s, songList := .answered (replyOf response) }
      | .error _ s => { p with server := s }
    | _, _ => p
  | .songListArrives =>
    match p.songList with
    | .answered reply => { p with songList := .finished, screen := p.arrives hears reply }
    | _ => p
  | .songUpdateServed =>
    match p.clientID, p.songUpdate with
    | some id, .sent =>
      match Server.requestSongUpdate id p.ip p.server with
      | .ok response s => { p with server := s, songUpdate := .answered (replyOf response) }
      | .error _ s => { p with server := s }
    | _, _ => p
  | .songUpdateArrives =>
    match p.songUpdate with
    | .answered reply => { p with songUpdate := .finished, screen := p.arrives hears reply }
    | _ => p
  -- the response to `requestLikeUpdate` is not looked at
  | .likeUpdateFails => { p with screen := p.screen.map PartyScreen.likeUpdateFailed }
  | .ticks => { p with screen := p.screen.map PartyScreen.tick }
  | .selects row =>
    { p with screen := p.screen.map fun screen =>
        if screen.allowsSelection ∧ row < screen.songList.length then (screen.didSelectRow row).1
        else screen }

end Steps

section Bytes
variable (texts : DoubleTexts) (sorter : Sorter Nat) (compareNames : String → String → Ordering)

def hears (p : PhoneParty) (u : SessionUpdate) : Option PartyScreen :=
  p.screen.bind (PartyScreen.hear sorter compareNames texts (createResponse (u.toJson texts)))

def step : PhoneParty → PhoneEvent → PhoneParty := handle (hears texts sorter compareNames)

end Bytes

end PhoneParty

/-- What updates of one type tell, the server has and the screen shows. -/
inductive Topic where
  | votes | song | balance
  deriving DecidableEq, Repr

namespace Topic

def Value : Topic → Type
  | votes => Int → Option Int
  | song => Int
  | balance => ℚ

def type : Topic → UpdateType
  | votes => .votes
  | song => .current_song
  | balance => .likes

def told : (τ : Topic) → SessionUpdate → Option τ.Value
  | votes => SessionUpdate.votesTold
  | song => SessionUpdate.songTold
  | balance => SessionUpdate.balanceTold

def now : (τ : Topic) → Server → Option τ.Value
  | votes => Server.votesNow
  | song => Server.activeID
  | balance => Server.balanceNow

def shown : (τ : Topic) → PartyScreen → Option τ.Value
  | votes => PartyScreen.votesShown
  | song => PartyScreen.songShown
  | balance => PartyScreen.balance

theorem told_iff (τ : Topic) (u : SessionUpdate) : τ.told u ≠ none ↔ getUpdateType u = τ.type := by
  cases τ with
  | votes =>
    change u.votesTold ≠ none ↔ _
    cases u <;> simp [type, getUpdateType, SessionUpdate.votesTold]
  | song =>
    change u.songTold ≠ none ↔ _
    cases u <;> simp [type, getUpdateType, SessionUpdate.songTold]
  | balance =>
    change u.balanceTold ≠ none ↔ _
    cases u <;> simp [type, getUpdateType, SessionUpdate.balanceTold]

theorem silent {τ : Topic} {u : SessionUpdate} (other : getUpdateType u ≠ τ.type) : τ.told u = none := by
  by_contra told
  exact other ((τ.told_iff u).mp told)

end Topic

theorem Server.Informs.leads {id : Int} {us : List SessionUpdate} {s t : Server}
    (h : Server.Informs id us s t) (τ : Topic) : Leads τ.told us (τ.now s) (τ.now t) := by
  cases τ with
  | votes => exact h.votes
  | song => exact h.song
  | balance => exact h.balance

section Queue
variable (τ : Topic) {isActive : Channel → Bool} {poll : Option Channel}
  {q : SessionUpdateQueue SessionUpdate}

theorem lastTold_queueUpdate (h : q.Polled isActive poll) (u : SessionUpdate) :
    lastTold τ.told ((q.queueUpdate isActive u).unread poll τ.type) =
      (τ.told u).or (lastTold τ.told (q.unread poll τ.type)) := by
  by_cases same : getUpdateType u = τ.type
  · obtain ⟨older, grown, -⟩ := h.unread_queueUpdate u
    rw [same] at grown
    obtain ⟨v, told⟩ := Option.ne_none_iff_exists'.mp ((τ.told_iff u).mpr same)
    rw [grown, lastTold_append, lastTold_singleton, told, Option.some_or, Option.some_or]
  · rw [h.unread_other u (Ne.symm same), Topic.silent same, Option.none_or]

theorem lastTold_queueUpdates (h : q.Polled isActive poll) (us : List SessionUpdate) :
    lastTold τ.told ((us.foldl (fun q u => q.queueUpdate isActive u) q).unread poll τ.type) =
      (lastTold τ.told us).or (lastTold τ.told (q.unread poll τ.type)) := by
  induction us generalizing q with
  | nil => rfl
  | cons u us ih =>
    rw [List.foldl_cons, ih (h.queueUpdate u), lastTold_queueUpdate τ h, lastTold_cons, Option.or_assoc]

end Queue

section Screen
variable (texts : DoubleTexts) {sorter : Sorter Nat} {compareNames : String → String → Ordering}
  {screen screen' : PartyScreen} {u : SessionUpdate}

theorem PartyScreen.hear_createResponse :
    screen.hear sorter compareNames texts (createResponse (u.toJson texts)) =
      u.delegation.map (screen.tell sorter compareNames) := by
  unfold PartyScreen.hear
  rw [decodeBody_update]
  dsimp only
  rw [handleUpdateResponse_update]

variable {d : Delegation} (told : u.delegation = some d)
include told

variable (sorter compareNames screen) in
theorem songShown_tell : (screen.tell sorter compareNames d).songShown =
    u.songTold.or screen.songShown := by
  cases u with
  | current_song song =>
    obtain ⟨current, arrived, rfl⟩ := Option.map_eq_some_iff.mp told
    obtain ⟨songName, -, rfl⟩ := Option.map_eq_some_iff.mp arrived
    unfold PartyScreen.tell
    dsimp only [SessionUpdate.songTold]
    rw [PartyScreen.clientDidReceiveSongUpdate_eq, Option.some_or]
    split
    · assumption
    · rfl
  | likes l =>
    cases told
    unfold PartyScreen.tell PartyScreen.clientDidReceiveLikeUpdate PartyScreen.songShown
    dsimp only [SessionUpdate.songTold]
    rw [Option.none_or, Option.map_map]
    rfl
  | votes vs =>
    cases told
    rfl
  | song_list songs =>
    obtain ⟨list, -, rfl⟩ := Option.map_eq_some_iff.mp told
    rfl
  | upcoming_song song =>
    cases told
    rfl
  | playback_command c =>
    cases told
    rfl

variable (sorter compareNames screen) in
theorem balance_tell : (screen.tell sorter compareNames d).balance =
    (u.balanceTold.map fun b => if screen.currentSong = none then 0 else b).or screen.balance := by
  cases u with
  | likes l =>
    cases told
    unfold PartyScreen.tell PartyScreen.clientDidReceiveLikeUpdate
    dsimp only [SessionUpdate.balanceTold]
    cases screen.currentSong <;> rfl
  | current_song song =>
    obtain ⟨current, -, rfl⟩ := Option.map_eq_some_iff.mp told
    unfold PartyScreen.tell
    dsimp only [SessionUpdate.balanceTold]
    rw [PartyScreen.clientDidReceiveSongUpdate_eq, Option.map_none, Option.none_or]
    split <;> rfl
  | votes vs =>
    cases told
    rfl
  | song_list songs =>
    obtain ⟨list, -, rfl⟩ := Option.map_eq_some_iff.mp told
    rfl
  | upcoming_song song =>
    cases told
    rfl
  | playback_command c =>
    cases told
    rfl

variable (sorter compareNames screen) in
theorem toPartyViewController_tell (votes : getUpdateType u ≠ .votes)
    (list : getUpdateType u ≠ .song_list) :
    (screen.tell sorter compareNames d).toPartyViewController = screen.toPartyViewController ∧
      (screen.tell sorter compareNames d).listed = screen.listed := by
  cases u with
  | likes l =>
    cases told
    exact ⟨rfl, rfl⟩
  | current_song song =>
    obtain ⟨current, -, rfl⟩ := Option.map_eq_some_iff.mp told
    unfold PartyScreen.tell
    dsimp only
    rw [PartyScreen.clientDidReceiveSongUpdate_eq]
    split <;> exact ⟨rfl, rfl⟩
  | votes vs => exact absurd rfl votes
  | song_list songs => exact absurd rfl list
  | upcoming_song song =>
    cases told
    exact ⟨rfl, rfl⟩
  | playback_command c =>
    cases told
    exact ⟨rfl, rfl⟩

end Screen

end MusicCloud
