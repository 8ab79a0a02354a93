import MusicCloud.PhoneRuns
import MusicCloud.PhonesApart

/-!
The votes of a phone. A row that is touched is voted for, and no other row can be touched
until another song is shown; the votes come to the server in any order and take any time. A
touch that is still allowed is worth one vote, and only a song that is shown anew allows one
again, so that the songs that have been shown bound the votes.
-/
namespace MusicCloud
open Comparisons Runs

namespace Server
variable {s : Server} {id : Int} {ip : String}

theorem mem_sessions_call (agrees : s.playback.Agrees) {r : SessionRow} (listed : r ∈ s.db.sessions)
    {c : Call} (stays : c ≠ .destroySession r.id) : r ∈ (s.call c).db.sessions := by
  have handed := handed_of_acts (acts_call agrees c)
  rw [handed.sessions]
  have joined : ∀ ip type, r ∈ (s.joined ip type).db.sessions := by
    intro ip type
    have rows : (s.joined ip type).db.sessions = s.db.sessions ++
        [{ id := s.db.sessionSequence + 1, ipAddress := ip, sessionType := type
           timeStarted := toInt (s.clock / 1000) }] := by
      cases type <;> rfl
    rw [rows]
    exact List.mem_append_left _ listed
  unfold written
  split
  · split
    · exact joined _ _
    · exact listed
  · split
    · exact joined _ _
    · exact listed
  · rename_i id
    split
    · exact listed
    · refine List.mem_filter.mpr ⟨listed, decide_eq_true fun same => stays ?_⟩
      rw [same]
  any_goals split
  all_goals exact listed

theorem PhoneAt.call (agrees : s.playback.Agrees) (at_phone : s.PhoneAt id ip) {c : Call}
    (stays : c ≠ .destroySession id) : (s.call c).PhoneAt id ip := by
  obtain ⟨r, listed, rfl, address, type⟩ := at_phone
  exact ⟨r, mem_sessions_call agrees listed stays, rfl, address, type⟩

theorem phoneAt_joined (s : Server) (ip : String) :
    (s.joined ip .User).PhoneAt (s.db.sessionSequence + 1) ip :=
  ⟨_, List.mem_append_right _ (List.mem_singleton.mpr rfl), rfl, rfl, rfl⟩

theorem voteRequest_apply (roster : s.RosterAgrees) (at_phone : s.PhoneAt id ip) {songID : Int}
    (positive : 0 < songID) : voteRequest id ip songID s = .ok .ok (s.call (.vote songID id)) := by
  have valid : ¬ (songID < 0 ∨ id < 0) := by
    obtain ⟨r, listed, same, -⟩ := at_phone
    have bounds := roster.numbered r listed
    omega
  unfold voteRequest
  rw [validateSession_apply, if_pos (at_phone.admitted roster), tryCatch_apply, bind_apply, Server.call,
    vote_apply, if_neg valid]
  rfl

end Server

namespace PhoneParty

def touched (p : PhoneParty) : PhoneEvent → Option Int
  | .selects row => p.screen.bind fun screen =>
    if screen.allowsSelection ∧ row < screen.songList.length then (screen.didSelectRow row).2
    else none
  | _ => none

section Screens
variable (sorter : Sorter Nat) (compareNames : String → String → Ordering)

inductive Redraw (p : PhoneParty) : Option Int → Option PartyScreen → Prop
  | kept : Redraw p none p.screen
  | ended : Redraw p none none
  | loggedIn (guest : p.clientID = none) : Redraw p none (some .viewDidLoad)
  | told {before : PartyScreen} (d : Delegation) (shows : p.screen = some before) :
    Redraw p none (some (before.tell sorter compareNames d))
  | drawn {before after : PartyScreen} (shows : p.screen = some before)
    (rows : after.infos = before.infos) (listed : after.listed = before.listed)
    (allowed : after.allowsSelection = before.allowsSelection) : Redraw p none (some after)
  | touched {before : PartyScreen} (row : Nat) (shows : p.screen = some before)
    (allowed : before.allowsSelection = true) (there : row < before.songList.length) :
    Redraw p (before.didSelectRow row).2 (some (before.didSelectRow row).1)

end Screens

inductive Calls (p q : PhoneParty) : Prop
  | silent (server : q.server = p.server) (ip : q.ip = p.ip) (client : q.clientID = p.clientID)
  | called (c : Call) (spares : ∀ id, p.clientID = some id → c ≠ .destroySession id)
    (server : q.server = p.server.call c) (ip : q.ip = p.ip) (client : q.clientID = p.clientID)
  | joined (guest : p.clientID = none) (server : q.server = p.server.joined p.ip .User)
    (ip : q.ip = p.ip) (client : q.clientID = some (p.server.db.sessionSequence + 1))

section Steps
variable (texts : DoubleTexts) {sorter : Sorter Nat} {compareNames : String → String → Ordering}
  {p : PhoneParty}

theorem redraw_hears (p : PhoneParty) (u : SessionUpdate) :
    Redraw sorter compareNames p none (p.hears texts sorter compareNames u) := by
  cases heard : p.hears texts sorter compareNames u with
  | none => exact .ended
  | some screen =>
    obtain ⟨before, d, shows, -, rfl⟩ := hears_cases texts sorter compareNames heard
    exact .told d shows

theorem redraw_arrives (p : PhoneParty) (reply : Option SessionUpdate) :
    Redraw sorter compareNames p none (p.arrives (hears texts sorter compareNames) reply) := by
  cases reply with
  | none => exact .kept
  | some u => exact redraw_hears texts p u

theorem redraw_map (p : PhoneParty) (touch : PartyScreen → PartyScreen)
    (rows : ∀ s, (touch s).infos = s.infos) (listed : ∀ s, (touch s).listed = s.listed)
    (allowed : ∀ s, (touch s).allowsSelection = s.allowsSelection) :
    Redraw sorter compareNames p none (p.screen.map touch) := by
  cases shows : p.screen with
  | none => exact .ended
  | some before => exact .drawn shows (rows before) (listed before) (allowed before)

variable (sorter compareNames) in
theorem step_comes_to (p : PhoneParty) (e : PhoneEvent) :
    Calls p (p.step texts sorter compareNames e) ∧
      Redraw sorter compareNames p (p.touched e) (p.step texts sorter compareNames e).screen := by
  have silent : Calls p p := .silent rfl rfl rfl
  cases e with
  | calls c =>
    unfold step handle
    dsimp only
    split
    · rename_i allowed
      refine ⟨.called c ?_ rfl rfl rfl, .kept⟩
      intro id client destroys
      rw [destroys] at allowed
      simp [allows, client] at allowed
    · exact ⟨silent, .kept⟩
  | logsIn =>
    unfold step handle
    dsimp only
    split
    · rename_i guest
      rw [logIn_eq]
      exact ⟨.joined guest rfl rfl rfl, .loggedIn guest⟩
    · exact ⟨silent, .kept⟩
  | polls ch =>
    unfold step handle
    dsimp only
    split
    · rename_i id screen client shows asks
      split
      · exact ⟨.called (.registerRequest id ch) (by simp) rfl rfl rfl, .kept⟩
      · exact ⟨silent, .kept⟩
    · exact ⟨silent, .kept⟩
  | receives =>
    unfold step handle
    dsimp only
    split
    · exact ⟨.silent rfl rfl rfl, redraw_hears texts p _⟩
    · exact ⟨silent, .kept⟩
  | timesOut =>
    unfold step handle
    dsimp only
    split
    · rename_i ch waits unanswered
      exact ⟨.called (.channelClosed ch) (by simp) rfl rfl rfl, .kept⟩
    · exact ⟨silent, .kept⟩
  | fails =>
    unfold step handle
    dsimp only
    split
    · rename_i ch waits unanswered
      exact ⟨.called (.channelClosed ch) (by simp) rfl rfl rfl, .kept⟩
    · exact ⟨silent, .kept⟩
  | songListServed =>
    unfold step handle
    dsimp only
    split
    · rename_i id client pending
      obtain ⟨reply, answers, -⟩ := songList_served p.server id p.ip
      rw [answers]
      exact ⟨.silent rfl rfl rfl, .kept⟩
    · exact ⟨silent, .kept⟩
  | songListArrives =>
    unfold step handle
    dsimp only
    split
    · exact ⟨.silent rfl rfl rfl, redraw_arrives texts p _⟩
    · exact ⟨silent, .kept⟩
  | songUpdateServed =>
    unfold step handle
    dsimp only
    split
    · rename_i id client pending
      obtain ⟨reply, s, answers, state, -⟩ := songUpdate_served p.server id p.ip
      rw [answers]
      rcases state with rfl | rfl
      · exact ⟨.silent rfl rfl rfl, .kept⟩
      · exact ⟨.called .getActiveSong (by simp) rfl rfl rfl, .kept⟩
    · exact ⟨silent, .kept⟩
  | songUpdateArrives =>
    unfold step handle
    dsimp only
    split
    · exact ⟨.silent rfl rfl rfl, redraw_arrives texts p _⟩
    · exact ⟨silent, .kept⟩
  | likeUpdateFails =>
    exact ⟨.silent rfl rfl rfl, redraw_map p _ (fun _ => rfl) (fun _ => rfl) (fun _ => rfl)⟩
  | ticks => exact ⟨.silent rfl rfl rfl, redraw_map p _ (fun _ => rfl) (fun _ => rfl) (fun _ => rfl)⟩
  | selects row =>
    refine ⟨.silent rfl rfl rfl, ?_⟩
    unfold step handle touched
    dsimp only
    cases shows : p.screen with
    | none => exact .ended
    | some before =>
      rw [Option.bind_some, Option.map_some]
      by_cases allowed : before.allowsSelection = true ∧ row < before.songList.length
      · rw [if_pos allowed, if_pos allowed]
        exact .touched row shows allowed.1 allowed.2
      · rw [if_neg allowed, if_neg allowed, ← shows]
        exact .kept

theorem redraw_step (p : PhoneParty) (e : PhoneEvent) :
    Redraw sorter compareNames p (p.touched e) (p.step texts sorter compareNames e).screen :=
  (step_comes_to texts sorter compareNames p e).2

theorem phoneAt_step {ids : List Int} (h : p.Sound ids)
    (stays : ∀ id, p.clientID = some id → p.server.PhoneAt id p.ip) (e : PhoneEvent) :
    ∀ id, (p.step texts sorter compareNames e).clientID = some id →
      (p.step texts sorter compareNames e).server.PhoneAt id (p.step texts sorter compareNames e).ip := by
  intro id client'
  cases (step_comes_to texts sorter compareNames p e).1 with
  | silent server ip client =>
    rw [server, ip]
    exact stays id (client.symm.trans client')
  | called c spares server ip client =>
    have before := client.symm.trans client'
    rw [server, ip]
    exact (stays id before).call h.agrees (spares id before)
  | joined guest server ip client =>
    cases client.symm.trans client'
    rw [server, ip]
    exact Server.phoneAt_joined p.server p.ip

theorem clientID_step (client : p.clientID ≠ none) (e : PhoneEvent) :
    (p.step texts sorter compareNames e).clientID = p.clientID := by
  cases (step_comes_to texts sorter compareNames p e).1 with
  | silent _ _ same => exact same
  | called _ _ _ _ same => exact same
  | joined guest => exact absurd guest client

end Steps

section Touches
variable (texts : DoubleTexts) {sorter : Sorter Nat} {compareNames : String → String → Ordering}
  {p : PhoneParty}

def songShown (p : PhoneParty) : Option Int := p.screen.bind PartyScreen.songShown

/-- A touch that the screen allows, or will allow after the login. -/
def touches (p : PhoneParty) : Nat :=
  match p.screen with
  | some screen => if screen.allowsSelection then 1 else 0
  | none => if p.clientID = none then 1 else 0

def shownAnew (p q : PhoneParty) : Bool := q.songShown ≠ none ∧ q.songShown ≠ p.songShown

variable (sorter compareNames) in
theorem tell_allows (before : PartyScreen) (d : Delegation) :
    (before.tell sorter compareNames d).allowsSelection = before.allowsSelection ∨
      ((before.tell sorter compareNames d).songShown ≠ none ∧
        (before.tell sorter compareNames d).songShown ≠ before.songShown) := by
  cases d with
  | clientDidReceiveSongUpdate song =>
    unfold PartyScreen.tell
    dsimp only
    rw [PartyScreen.clientDidReceiveSongUpdate_eq]
    by_cases same : before.songShown = some song.songID
    · rw [if_pos same]
      exact Or.inl rfl
    · rw [if_neg same]
      have shown : ({ before with currentSong := some song, allowsSelection := true } :
          PartyScreen).songShown = some song.songID := rfl
      rw [shown]
      exact Or.inr ⟨by simp, Ne.symm same⟩
  | _ => exact Or.inl rfl

theorem touches_shown {screen : PartyScreen} (shows : p.screen = some screen) :
    touches p = if screen.allowsSelection then 1 else 0 := by
  unfold touches
  rw [shows]

theorem touches_blank (blank : p.screen = none) : touches p = if p.clientID = none then 1 else 0 := by
  unfold touches
  rw [blank]

theorem touches_redraw {ids : List Int} (h : p.Sound ids) {q : PhoneParty} {vote : Option Int}
    {after : Option PartyScreen} (redraw : Redraw sorter compareNames p vote after)
    (shows' : q.screen = after) (client : q.clientID = none → p.clientID = none) :
    vote.toList.length + touches q ≤ touches p + if shownAnew p q then 1 else 0 := by
  cases redraw with
  | kept =>
    cases shows : p.screen with
    | none =>
      rw [touches_blank shows, touches_blank (shows'.trans shows)]
      by_cases guest : q.clientID = none
      · simp [guest, client guest]
      · simp [guest]
    | some screen =>
      rw [touches_shown shows, touches_shown (shows'.trans shows)]
      simp
  | ended =>
    rw [touches_blank shows']
    by_cases guest : q.clientID = none
    · have was := client guest
      rw [touches_blank (h.guest was).1, if_pos guest, if_pos was]
      simp
    · simp [guest]
  | loggedIn guest =>
    rw [touches_shown shows', touches_blank (h.guest guest).1, if_pos guest]
    simp [PartyScreen.viewDidLoad]
  | told d shows =>
    rename_i before
    rw [touches_shown shows, touches_shown shows']
    have anew : shownAnew p q = decide ((before.tell sorter compareNames d).songShown ≠ none ∧
        (before.tell sorter compareNames d).songShown ≠ before.songShown) := by
      unfold shownAnew songShown
      rw [shows, shows']
      rfl
    rw [anew]
    rcases tell_allows sorter compareNames before d with same | other
    · rw [same]
      simp
    · rw [decide_eq_true other]
      split <;> simp
  | drawn shows rows listed allowed =>
    rw [touches_shown shows, touches_shown shows', allowed]
    simp
  | touched row shows allowed there =>
    rename_i before
    have spent : (before.didSelectRow row).1.allowsSelection = false := rfl
    rw [touches_shown shows, touches_shown shows', allowed, spent]
    cases (before.didSelectRow row).2 <;> simp

variable (sorter compareNames) in
theorem touches_step {ids : List Int} (h : p.Sound ids) (e : PhoneEvent) :
    (p.touched e).toList.length + touches (p.step texts sorter compareNames e) ≤
      touches p + if shownAnew p (p.step texts sorter compareNames e) then 1 else 0 :=
  touches_redraw h (redraw_step texts p e) rfl fun guest =>
    by_contra fun client => client ((clientID_step texts client e).symm.trans guest)

end Touches

section Rows
variable (texts : DoubleTexts) {sorter : Sorter Nat} {compareNames : String → String → Ordering}
  {p : PhoneParty} {ids : List Int}

def Unlisted (p : PhoneParty) : Prop :=
  ∀ screen, p.screen = some screen → screen.listed = false → screen.infos = []

variable (sorter compareNames) in
theorem infos_unlisted {before : PartyScreen} (empty : before.listed = false → before.infos = [])
    (d : Delegation) (listed : (before.tell sorter compareNames d).listed = false) :
    (before.tell sorter compareNames d).infos = [] := by
  cases d with
  | clientDidReceiveSongList list => cases listed
  | clientDidReceiveVoteUpdate song =>
    have blank : before.songList = [] := List.map_eq_nil_iff.mp (empty listed)
    have order := before.toPartyViewController.resorted_perm sorter compareNames song
    rw [blank] at order
    apply List.map_eq_nil_iff.mpr
    change (before.toPartyViewController.clientDidReceiveVoteUpdate sorter compareNames song).1.songList = []
    rw [before.toPartyViewController.clientDidReceiveVoteUpdate_eq]
    exact order.eq_nil
  | clientDidReceiveSongUpdate song =>
    unfold PartyScreen.tell at listed ⊢
    dsimp only at listed ⊢
    rw [PartyScreen.clientDidReceiveSongUpdate_eq] at listed ⊢
    split at listed
    · rw [if_pos ‹_›]
      exact empty listed
    · rw [if_neg ‹_›]
      exact empty listed
  | _ => exact empty listed

theorem unlisted_redraw (h : p.Unlisted) {vote : Option Int} {after : Option PartyScreen}
    (redraw : Redraw sorter compareNames p vote after) {screen : PartyScreen}
    (shows' : after = some screen) (unlisted : screen.listed = false) : screen.infos = [] := by
  cases redraw with
  | kept => exact h screen shows' unlisted
  | ended => cases shows'
  | loggedIn guest =>
    cases shows'
    rfl
  | told d shows =>
    cases shows'
    exact infos_unlisted sorter compareNames (h _ shows) d unlisted
  | drawn shows rows listed allowed =>
    cases shows'
    rw [rows]
    exact h _ shows (listed ▸ unlisted)
  | touched row shows allowed there =>
    rename_i before
    cases shows'
    exact h before shows unlisted

theorem unlisted_step (h : p.Unlisted) (e : PhoneEvent) :
    (p.step texts sorter compareNames e).Unlisted :=
  fun _ shows' unlisted => unlisted_redraw h (redraw_step texts p e) shows' unlisted

theorem touched_library (h : p.Sound ids) (empty : p.Unlisted) {e : PhoneEvent} {songID : Int}
    (vote : p.touched e = some songID) : songID ∈ ids := by
  cases e with
  | selects row =>
    obtain ⟨screen, shows, vote⟩ := Option.bind_eq_some_iff.mp vote
    split at vote
    · obtain ⟨song, there, same⟩ := Option.map_eq_some_iff.mp vote
      have shown : song ∈ screen.songList := List.mem_of_getElem? there
      have row : songID ∈ screen.infos.map SongInfo.songID := by
        rw [← same]
        exact List.mem_map_of_mem (List.mem_map_of_mem shown)
      cases listed : screen.listed with
      | false =>
        rw [empty screen shows listed] at row
        cases row
      | true => exact (h.lists.rows screen shows listed).mem_iff.mp row
    · cases vote
  | _ => cases vote

end Rows

end PhoneParty

structure VotingPhone where
  party : PhoneParty
  sent : List Int
  /-- What the server has answered to the others; `none` is no answer. -/
  answers : List (Option Response)

inductive VotingEvent where
  | phone (e : PhoneEvent)
  | voteArrives (i : Nat)

namespace VotingPhone
variable (texts : DoubleTexts) (sorter : Sorter Nat) (compareNames : String → String → Ordering)

def start (music : List MusicRow) (clock : Nat) (ip : String) : VotingPhone :=
  { party := .start music clock ip, sent := [], answers := [] }

/-- A row that is touched is voted for; the vote comes to the server some time. -/
def handle (happens : PhoneParty → PhoneEvent → PhoneParty) (v : VotingPhone) : VotingEvent → VotingPhone
  | .phone e =>
    { v with party := happens v.party e, sent := v.sent ++ (v.party.touched e).toList }
  | .voteArrives i =>
    match v.party.clientID, v.sent[i]? with
    | some id, some songID =>
      match Server.voteRequest id v.party.ip songID v.party.server with
      | .ok response s =>
        { party := { v.party with server := s }, sent := v.sent.eraseIdx i
          answers := v.answers ++ [some response] }
      | .error _ s =>
        { party := { v.party with server := s }, sent := v.sent.eraseIdx i
          answers := v.answers ++ [none] }
    | _, _ => v

def step : VotingPhone → VotingEvent → VotingPhone := handle (PhoneParty.step texts sorter compareNames)

def worth (v : VotingPhone) : Nat := v.sent.length + v.answers.length + v.party.touches

def shownAnew (v : VotingPhone) (e : VotingEvent) : Bool :=
  v.party.shownAnew (v.step texts sorter compareNames e).party

structure Sound (v : VotingPhone) (ids : List Int) : Prop where
  party : v.party.Sound ids
  stays : ∀ id, v.party.clientID = some id → v.party.server.PhoneAt id v.party.ip
  unlisted : v.party.Unlisted
  library : ∀ songID ∈ v.sent, songID ∈ ids
  accepted : ∀ answer ∈ v.answers, answer = some .ok

variable {v : VotingPhone} {ids : List Int}

theorem voteArrives_eq (h : v.Sound ids) (i : Nat) :
    v.step texts sorter compareNames (.voteArrives i) = v ∨
      ∃ id songID, v.party.clientID = some id ∧ v.sent[i]? = some songID ∧
        v.step texts sorter compareNames (.voteArrives i) =
          { party := v.party.step texts sorter compareNames (.calls (.vote songID id))
            sent := v.sent.eraseIdx i, answers := v.answers ++ [some .ok] } := by
  cases client : v.party.clientID with
  | none =>
    left
    unfold step handle
    dsimp only
    rw [client]
  | some id =>
    cases vote : v.sent[i]? with
    | none =>
      left
      unfold step handle
      dsimp only
      rw [client, vote]
    | some songID =>
      refine Or.inr ⟨id, songID, rfl, rfl, ?_⟩
      have listed := h.library songID (List.mem_of_getElem? vote)
      rw [← h.party.lists.library] at listed
      obtain ⟨r, there, same⟩ := List.mem_map.mp listed
      have positive : 0 < songID := same ▸ h.party.positive r there
      have accepted := Server.voteRequest_apply h.party.roster (h.stays id client) positive
      unfold step handle
      dsimp only
      rw [client, vote]
      dsimp only
      rw [accepted]
      dsimp only
      rw [← client]
      rfl

theorem sound_step (h : v.Sound ids) (e : VotingEvent) :
    (v.step texts sorter compareNames e).Sound ids := by
  cases e with
  | phone e =>
    refine ⟨(PhoneParty.mirrors_step texts sorter compareNames h.party e).1,
      PhoneParty.phoneAt_step texts h.party h.stays e, PhoneParty.unlisted_step texts h.unlisted e, ?_,
      h.accepted⟩
    intro songID sent
    rcases List.mem_append.mp sent with before | vote
    · exact h.library songID before
    · exact PhoneParty.touched_library h.party h.unlisted (Option.mem_toList.mp vote)
  | voteArrives i =>
    rcases voteArrives_eq texts sorter compareNames h i with same | ⟨id, songID, -, -, arrived⟩
    · rw [same]
      exact h
    · rw [arrived]
      have called := PhoneParty.mirrors_step texts sorter compareNames h.party (.calls (.vote songID id))
      refine ⟨called.1, PhoneParty.phoneAt_step texts h.party h.stays _,
        PhoneParty.unlisted_step texts h.unlisted _,
        fun songID sent => h.library songID (List.mem_of_mem_eraseIdx sent), ?_⟩
      intro answer there
      rcases List.mem_append.mp there with before | last
      · exact h.accepted answer before
      · exact List.mem_singleton.mp last

theorem worth_step (h : v.Sound ids) (e : VotingEvent) :
    (v.step texts sorter compareNames e).worth ≤
      v.worth + if v.shownAnew texts sorter compareNames e then 1 else 0 := by
  cases e with
  | phone e =>
    have costs := PhoneParty.touches_step texts sorter compareNames h.party e
    unfold worth shownAnew step handle
    dsimp only
    rw [List.length_append]
    omega
  | voteArrives i =>
    rcases voteArrives_eq texts sorter compareNames h i with same | ⟨id, songID, -, vote, arrived⟩
    · rw [same]
      omega
    · have there : i < v.sent.length := (List.getElem?_eq_some_iff.mp vote).1
      have costs := PhoneParty.touches_step texts sorter compareNames h.party (.calls (.vote songID id))
      unfold worth shownAnew
      rw [arrived]
      dsimp only
      rw [List.length_append, List.length_singleton, List.length_eraseIdx_of_lt there]
      omega

theorem sound_start (music : List MusicRow) (clock : Nat) (ip : String) :
    (start music clock ip).Sound (PhoneParty.library music) :=
  ⟨PhoneParty.sound_start music clock ip, by simp [start, PhoneParty.start],
    by simp [start, PhoneParty.start, PhoneParty.Unlisted], by simp [start], by simp [start]⟩

end VotingPhone

/-- In one stay on the party screen, a phone whose session nobody ends votes once more at most
    than other songs have been shown on it; it votes for songs of the library, and no vote that
    comes to the server is refused. -/
theorem songs_shown_bound_votes (texts : DoubleTexts) (sorter : Sorter Nat)
    (compareNames : String → String → Ordering) (music : List MusicRow) (clock : Nat) (ip : String)
    (events : List VotingEvent) :
    let v := run (VotingPhone.step texts sorter compareNames) (.start music clock ip) events
    v.sent.length + v.answers.length ≤
        1 + (trace (VotingPhone.step texts sorter compareNames) (.start music clock ip) events).countP
          (fun x => x.1.shownAnew texts sorter compareNames x.2) ∧
      (∀ songID ∈ v.sent, songID ∈ PhoneParty.library music) ∧
      ∀ answer ∈ v.answers, answer = some .ok := by
  have start := VotingPhone.sound_start music clock ip
  have keep : ∀ (v : VotingPhone) (e : VotingEvent), v.Sound (PhoneParty.library music) →
      (v.step texts sorter compareNames e).Sound (PhoneParty.library music) :=
    fun _ e h => VotingPhone.sound_step texts sorter compareNames h e
  have sound := invariant_of_run _ _ keep events _ start
  have paid := run_le_paid (VotingPhone.step texts sorter compareNames) _ keep VotingPhone.worth
    (VotingPhone.shownAnew texts sorter compareNames)
    (fun _ e h => VotingPhone.worth_step texts sorter compareNames h e) events _ start
  have first : (VotingPhone.start music clock ip).worth = 1 := rfl
  rw [first] at paid
  exact ⟨le_trans (Nat.le_add_right _ _) paid, sound.library, sound.accepted⟩

end MusicCloud
