import MusicCloud.PhoneParty
import MusicCloud.Requests

/-!
What one event does to the phone: the screen follows the server, topic by topic. What a call
tells the session leads to the new state of the server, a poll changes nothing, and an update
that is read is shown. A reply and the first like updates are the exceptions: they may come
too late, or too early. `InTime` says when they do not.
-/
namespace MusicCloud
open Comparisons Mirrors Runs SessionUpdateQueue

namespace PhoneParty

def unread (p : PhoneParty) (t : UpdateType) : List SessionUpdate := p.queue.unread p.poll t

def shown (p : PhoneParty) (τ : Topic) : Option τ.Value := p.screen.bind τ.shown

/-- A phone that shows this comes to what the server has, with what is unread. -/
def Will (p : PhoneParty) (τ : Topic) (shown : Option τ.Value) : Prop :=
  Mirrors.Follows τ.told (p.unread τ.type) (τ.now p.server) shown

def MirrorsServer (p : PhoneParty) : Prop := ∀ τ, p.Will τ (p.shown τ)

def Reaches (p : PhoneParty) (u : SessionUpdate) : Prop := p.screen ≠ none ∧ u.delegation ≠ none

/-- A reply still holds, or something newer is unread; and a like update is read before there
    is a current song only if its balance is zero, or something newer is unread. -/
def InTime (p : PhoneParty) : PhoneEvent → Prop
  | .songListArrives => ∀ songs, p.songList = .answered (some (.song_list songs)) →
    p.Reaches (.song_list songs) → Leads SessionUpdate.votesTold (p.unread .votes)
      (some (countOf (songs.map fun s => { id := s.id, votes := s.votes }))) p.server.votesNow
  | .songUpdateArrives => ∀ song, p.songUpdate = .answered (some (.current_song song)) →
    p.Reaches (.current_song song) →
      Leads SessionUpdate.songTold (p.unread .current_song) (some song.id) p.server.activeID
  | .receives => ∀ l screen, p.queue.answer p.poll = some (.likes l) → p.screen = some screen →
    screen.currentSong = none →
      Leads SessionUpdate.balanceTold (p.queue.unread none .likes) (some 0) p.server.balanceNow
  | _ => True

structure Linked (p : PhoneParty) (id : Int) : Prop where
  phone : p.server.isPhone id
  polled : p.queue.Polled p.server.isActive p.poll

structure Lists (p : PhoneParty) (ids : List Int) : Prop where
  library : p.server.db.songs.map SongRow.id = ids
  totals : ∀ vs, .votes vs ∈ p.unread .votes → vs.map VoteData.id = ids
  noList : p.unread .song_list = []
  rows : ∀ screen, p.screen = some screen → screen.listed = true → screen.Rows ids
  songs : ∀ u, p.songList = .answered (some u) →
    ∃ songs, u = .song_list songs ∧ (songs.map Song.id).Perm ids
  song : ∀ u, p.songUpdate = .answered (some u) → ∃ song, u = .current_song song

/-- What holds whatever arrives when. -/
structure Sound (p : PhoneParty) (ids : List Int) : Prop where
  agrees : p.server.playback.Agrees
  roster : p.server.RosterAgrees
  positive : ∀ r ∈ p.server.db.songs, 0 < r.id
  lists : p.Lists ids
  guest : p.clientID = none → p.screen = none ∧ p.loop = .stopped ∧ p.songList = .unsent ∧ p.songUpdate = .unsent
  linked : ∀ id, p.clientID = some id → p.Linked id
  current : ∀ τ, p.Will τ none

variable {p : PhoneParty} {ids : List Int}

section Telling

theorem unread_guest (guest : p.clientID = none) (t : UpdateType) : p.unread t = [] := by
  unfold unread queue
  rw [guest]
  cases poll : p.poll <;> rfl

theorem queue_told {id : Int} (client : p.clientID = some id) (phone : p.server.isPhone id)
    {us : List SessionUpdate} {t : Server} (tells : Server.Tells id us p.server t) :
    ({ p with server := t } : PhoneParty).queue =
      us.foldl (fun q u => q.queueUpdate p.server.isActive u) p.queue := by
  obtain ⟨session, live, -⟩ := phone
  have after := tells.session
  rw [live, Option.map_some] at after
  unfold queue Server.queueOf
  rw [client]
  dsimp only
  rw [after, live]
  exact Server.sendUpdates_updateQueue _ us session

theorem isPhone_told {id : Int} {us : List SessionUpdate} {s t : Server} (phone : s.isPhone id)
    (tells : Server.Tells id us s t) : t.isPhone id := by
  obtain ⟨session, live, type⟩ := phone
  have after := tells.session
  rw [live, Option.map_some] at after
  exact ⟨_, after, by simpa using type⟩

theorem mem_queueUpdates {isActive : Channel → Bool} {poll : Option Channel}
    {q : SessionUpdateQueue SessionUpdate} (h : q.Polled isActive poll) {us : List SessionUpdate}
    {t : UpdateType} {u : SessionUpdate}
    (there : u ∈ (us.foldl (fun q u => q.queueUpdate isActive u) q).unread poll t) :
    u ∈ q.unread poll t ∨ u ∈ us := by
  induction us generalizing q with
  | nil => exact Or.inl there
  | cons first us ih =>
    rcases ih (h.queueUpdate first) there with before | after
    · by_cases same : t = getUpdateType first
      · subst same
        obtain ⟨older, grown, was⟩ := h.unread_queueUpdate first
        rw [grown, List.mem_append, List.mem_singleton] at before
        rcases before with old | rfl
        · left
          rcases was with eq | ⟨replaced, -, eq⟩
          · rw [eq]
            exact old
          · rw [eq]
            exact List.mem_append_left _ old
        · exact Or.inr List.mem_cons_self
      · rw [h.unread_other first same] at before
        exact Or.inl before
    · exact Or.inr (List.mem_cons_of_mem first after)

theorem mem_unread_type (h : p.queue.Consistent) {t : UpdateType} {u : SessionUpdate}
    (there : u ∈ p.unread t) : getUpdateType u = t := by
  unfold unread SessionUpdateQueue.unread at there
  rcases List.mem_append.mp there with answered | waits
  · simpa [ofType] using (List.mem_filter.mp answered).2
  · exact h.typed t u (by simpa using waits)

theorem shown_guest (h : p.Sound ids) (guest : p.clientID = none) (τ : Topic) : p.shown τ = none := by
  unfold shown
  rw [(h.guest guest).1]
  rfl

theorem Sound.told (h : p.Sound ids) {t : Server} (agrees : t.playback.Agrees) (roster : t.RosterAgrees)
    (songs : t.db.songs.map SongRow.id = p.server.db.songs.map SongRow.id)
    (informs : ∀ id, p.clientID = some id → ∃ us, Server.Informs id us p.server t) :
    ({ p with server := t } : PhoneParty).Sound ids ∧
      ∀ τ, p.Will τ (p.shown τ) → ({ p with server := t } : PhoneParty).Will τ (p.shown τ) := by
  have positive := Server.positive_of_songIds songs h.positive
  have library := songs.trans h.lists.library
  by_cases guest : p.clientID = none
  · have nothing := unread_guest (p := { p with server := t }) guest
    have current : ∀ τ, ({ p with server := t } : PhoneParty).Will τ none := by
      intro τ
      unfold Will
      rw [nothing]
      exact follows_start
    refine ⟨⟨agrees, roster, positive, ⟨library, ?_, nothing _, h.lists.rows, h.lists.songs, h.lists.song⟩,
      h.guest, ?_, current⟩, ?_⟩
    · intro vs there
      rw [nothing] at there
      cases there
    · intro id known
      have same : p.clientID = some id := known
      rw [guest] at same
      cases same
    · intro τ _
      rw [shown_guest h guest τ]
      exact current τ
  · obtain ⟨id, client⟩ := Option.ne_none_iff_exists'.mp guest
    have linked := h.linked id client
    obtain ⟨us, informs⟩ := informs id client
    have queue := queue_told client linked.phone informs.tells
    have poll : ({ p with server := t } : PhoneParty).poll = p.poll := rfl
    have polled := linked.polled
    have follows : ∀ τ shown, p.Will τ shown → ({ p with server := t } : PhoneParty).Will τ shown := by
      intro τ shown will
      apply will.announce (informs.leads τ)
      unfold unread
      rw [queue, poll]
      exact lastTold_queueUpdates τ polled us
    have heard : ∀ {type : UpdateType} {u : SessionUpdate},
        u ∈ ({ p with server := t } : PhoneParty).unread type → u ∈ p.unread type ∨ u ∈ us := by
      intro type u there
      unfold unread at there
      rw [queue, poll] at there
      exact mem_queueUpdates polled there
    have polled' : ({ p with server := t } : PhoneParty).queue.Polled t.isActive p.poll := by
      rw [queue, informs.tells.isActive]
      exact polled_foldl polled us
    refine ⟨⟨agrees, roster, positive, ⟨library, ?_, ?_, h.lists.rows, h.lists.songs, h.lists.song⟩,
      h.guest, ?_, fun τ => follows τ none (h.current τ)⟩, fun τ => follows τ _⟩
    · intro vs there
      rcases heard there with before | now
      · exact h.lists.totals vs before
      · exact (informs.library vs now).trans h.lists.library
    · rw [List.eq_nil_iff_forall_not_mem]
      intro u there
      have type := mem_unread_type polled'.consistent there
      rcases heard there with before | now
      · rw [h.lists.noList] at before
        cases before
      · exact informs.noList u now type
    · intro other known
      have same : p.clientID = some other := known
      rw [client] at same
      cases same
      exact ⟨isPhone_told linked.phone informs.tells, polled'⟩

end Telling

section Polling

theorem now_of_same {s t : Server} (agrees : s.playback.Agrees) (agrees' : t.playback.Agrees)
    (db : t.db = s.db) (active : t.activeSong = s.activeSong) (τ : Topic) : τ.now t = τ.now s := by
  have named : t.activeID = s.activeID := by
    unfold Server.activeID
    rw [active]
  cases τ with
  | votes =>
    change t.votesNow = s.votesNow
    unfold Server.votesNow
    rw [db]
  | song => exact named
  | balance =>
    change t.balanceNow = s.balanceNow
    unfold Server.balanceNow
    rw [Server.stats_of_same agrees agrees' (by rw [db]) named]

theorem Sound.quiet (h : p.Sound ids) {q : PhoneParty} (agrees : q.server.playback.Agrees)
    (roster : q.server.RosterAgrees)
    (songs : q.server.db.songs.map SongRow.id = p.server.db.songs.map SongRow.id)
    (same : ∀ τ : Topic, τ.now q.server = τ.now p.server) (unread : ∀ t, q.unread t = p.unread t)
    (rows : ∀ screen, q.screen = some screen → screen.listed = true → screen.Rows ids)
    (list : ∀ u, q.songList = .answered (some u) →
      ∃ songs, u = .song_list songs ∧ (songs.map Song.id).Perm ids)
    (song : ∀ u, q.songUpdate = .answered (some u) → ∃ song, u = .current_song song)
    (client : ∀ id, q.clientID = some id → q.Linked id)
    (guest : q.clientID = none → q.screen = none ∧ q.loop = .stopped ∧ q.songList = .unsent ∧
      q.songUpdate = .unsent) :
    q.Sound ids ∧ ∀ τ shown, p.Will τ shown → q.Will τ shown := by
  have follows : ∀ τ shown, p.Will τ shown → q.Will τ shown := by
    intro τ shown will
    unfold Will
    rw [unread, same]
    exact will
  refine ⟨⟨agrees, roster, Server.positive_of_songIds songs h.positive,
    ⟨songs.trans h.lists.library, ?_, ?_, rows, list, song⟩, guest, client,
    fun τ => follows τ none (h.current τ)⟩, follows⟩
  · intro vs there
    rw [unread] at there
    exact h.lists.totals vs there
  · rw [unread]
    exact h.lists.noList

theorem Sound.closed (h : p.Sound ids) (ch : Channel) (other : p.poll ≠ some ch) :
    ({ p with server := p.server.call (.channelClosed ch) } : PhoneParty).Sound ids ∧
      ∀ τ shown, p.Will τ shown →
        ({ p with server := p.server.call (.channelClosed ch) } : PhoneParty).Will τ shown := by
  have agrees := Server.agrees_call h.agrees (.channelClosed ch)
  refine h.quiet agrees (Server.rosterAgrees_call h.agrees h.roster (.channelClosed ch)) rfl ?_ (fun _ => rfl)
    h.lists.rows h.lists.songs h.lists.song ?_ h.guest
  · exact now_of_same h.agrees agrees rfl rfl
  · intro id client
    have linked := h.linked id client
    refine ⟨linked.phone, ?_⟩
    apply linked.polled.closed
    · intro c
      simp [Server.call, Server.isActive]
    · intro c polls
      have active := linked.polled.active c polls
      have differs : c ≠ ch := by
        rintro rfl
        exact other polls
      simp only [Server.isActive, Bool.not_eq_true'] at active
      simp only [Server.call, Server.isActive, List.contains_cons, active, Bool.or_false,
        Bool.not_eq_true']
      simpa using differs

theorem Sound.abandoned (h : p.Sound ids) {ch : Channel} (waits : p.loop = .waiting ch)
    (unanswered : p.queue.answer p.poll = none) (loop : RequestLoop) (quiet : ∀ ch, loop ≠ .waiting ch) :
    ({ p with server := p.server.call (.channelClosed ch), loop := loop } : PhoneParty).Sound ids ∧
      ∀ τ shown, p.Will τ shown →
        ({ p with server := p.server.call (.channelClosed ch), loop := loop } : PhoneParty).Will τ shown := by
  have agrees := Server.agrees_call h.agrees (.channelClosed ch)
  have poll : p.poll = some ch := by
    unfold PhoneParty.poll
    rw [waits]
  have silent : ({ p with server := p.server.call (.channelClosed ch), loop := loop } : PhoneParty).poll =
      none := by
    unfold PhoneParty.poll
    dsimp only
    split
    · exact absurd rfl (quiet _)
    · rfl
  refine h.quiet agrees (Server.rosterAgrees_call h.agrees h.roster (.channelClosed ch)) rfl ?_ ?_
    h.lists.rows h.lists.songs h.lists.song ?_ ?_
  · exact now_of_same h.agrees agrees rfl rfl
  · intro t
    have none : p.queue.answer Option.none = Option.none := rfl
    unfold unread SessionUpdateQueue.unread
    rw [silent, unanswered]
    rfl
  · intro id client
    have linked := h.linked id client
    refine ⟨linked.phone, ?_⟩
    rw [silent]
    apply linked.polled.ended
    · intro other
      simp [Server.call, Server.isActive]
    · intro other polls _
      rw [poll] at polls
      cases polls
      simp [Server.call, Server.isActive]
  · intro guest
    have stopped := (h.guest guest).2.1
    rw [waits] at stopped
    cases stopped

theorem polled_state {id : Int} (client : p.clientID = some id) (phone : p.server.isPhone id)
    (ch : Channel) :
    ({ p with server := p.server.call (.registerRequest id ch), loop := .waiting ch } : PhoneParty).queue =
        p.queue.queueRequest ch ∧
      (p.server.call (.registerRequest id ch)).db = p.server.db ∧
      (p.server.call (.registerRequest id ch)).activeSong = p.server.activeSong ∧
      (p.server.call (.registerRequest id ch)).isActive = p.server.isActive ∧
      (p.server.call (.registerRequest id ch)).isPhone id := by
  obtain ⟨session, live, type⟩ := phone
  have registered : p.server.call (.registerRequest id ch) = p.server.parked id session ch := by
    rw [Server.call, Server.registerRequest_apply, live, finalState_ok]
  have before : p.queue = session.updateQueue := by
    unfold queue Server.queueOf
    rw [client]
    dsimp only
    rw [live]
  rw [before, registered]
  refine ⟨?_, rfl, rfl, rfl, ⟨session.assignRequest ch, ?_, type⟩⟩
  · unfold queue Server.queueOf
    dsimp only
    rw [client]
    simp [Server.parked, Session.assignRequest]
  · simp [Server.parked]

theorem Sound.polled (h : p.Sound ids) {id : Int} (client : p.clientID = some id)
    (asks : p.loop = .asking) {ch : Channel} (unused : p.queue.Unused ch)
    (active : p.server.isActive ch = true) :
    ({ p with server := p.server.call (.registerRequest id ch), loop := .waiting ch } : PhoneParty).Sound
        ids ∧ ∀ τ shown, p.Will τ shown → ({ p with
          server := p.server.call (.registerRequest id ch), loop := .waiting ch } : PhoneParty).Will τ shown := by
  have agrees := Server.agrees_call h.agrees (.registerRequest id ch)
  have linked := h.linked id client
  have none : p.poll = none := by
    unfold PhoneParty.poll
    rw [asks]
  obtain ⟨after, db, active', isActive, phone⟩ := polled_state client linked.phone ch
  have polled := linked.polled
  rw [none] at polled
  refine h.quiet agrees (Server.rosterAgrees_call h.agrees h.roster (.registerRequest id ch)) ?_ ?_ ?_
    h.lists.rows h.lists.songs h.lists.song ?_ ?_
  · dsimp only
    rw [db]
  · exact now_of_same h.agrees agrees db active'
  · intro t
    unfold unread
    rw [after, none]
    exact polled.unread_queueRequest unused t
  · intro other known
    have same : p.clientID = some other := known
    rw [client] at same
    cases same
    refine ⟨phone, ?_⟩
    rw [after]
    dsimp only
    rw [isActive]
    exact polled.queueRequest active unused
  · intro guest
    have same : p.clientID = Option.none := guest
    rw [client] at same
    cases same

end Polling

section Reading
variable (texts : DoubleTexts) (sorter : Sorter Nat) (compareNames : String → String → Ordering)

theorem hears_eq (p : PhoneParty) (u : SessionUpdate) : p.hears texts sorter compareNames u =
    p.screen.bind fun screen => u.delegation.map (screen.tell sorter compareNames) := by
  unfold hears
  congr 1
  funext screen
  exact PartyScreen.hear_createResponse texts

def heard (p : PhoneParty) (u : SessionUpdate) : Option PartyScreen :=
  p.screen.bind fun screen => u.delegation.map (screen.tell sorter compareNames)

theorem step_heard : step texts sorter compareNames = handle (heard sorter compareNames) := by
  unfold step
  congr 1
  funext p u
  exact p.hears_eq texts sorter compareNames u

variable {u : SessionUpdate}

theorem hears_cases {screen : PartyScreen} (heard : p.hears texts sorter compareNames u = some screen) :
    ∃ before d, p.screen = some before ∧ u.delegation = some d ∧
      screen = before.tell sorter compareNames d := by
  rw [hears_eq] at heard
  obtain ⟨before, shows, heard⟩ := Option.bind_eq_some_iff.mp heard
  obtain ⟨d, told, rfl⟩ := Option.map_eq_some_iff.mp heard
  exact ⟨before, d, shows, told, rfl⟩

theorem rows_heard (h : p.Sound ids) (list : getUpdateType u ≠ .song_list)
    (totals : ∀ vs, u = .votes vs → vs.map VoteData.id = ids) {screen : PartyScreen}
    (heard : p.hears texts sorter compareNames u = some screen) (listed : screen.listed = true) :
    screen.Rows ids := by
  obtain ⟨before, d, shows, told, rfl⟩ := hears_cases texts sorter compareNames heard
  have distinct : ids.Nodup := h.lists.library ▸ h.agrees.nodup
  by_cases votes : getUpdateType u = .votes
  · cases u with
    | votes vs =>
      cases told
      have rows := h.lists.rows before shows listed
      exact (PartyScreen.votesShown_voted distinct rows (List.Perm.of_eq (totals vs rfl)) listed).1
    | _ => cases votes
  · obtain ⟨kept, same⟩ := toPartyViewController_tell sorter compareNames before told votes list
    have rows := h.lists.rows before shows (same ▸ listed)
    unfold PartyScreen.Rows at rows ⊢
    rw [kept]
    exact rows

theorem votesShown_heard (h : p.Sound ids) (list : getUpdateType u ≠ .song_list)
    (totals : ∀ vs, u = .votes vs → vs.map VoteData.id = ids) {before : PartyScreen} {d : Delegation}
    (shows : p.screen = some before) (told : u.delegation = some d) :
    (before.tell sorter compareNames d).votesShown =
      if before.listed then u.votesTold.or before.votesShown else none := by
  have distinct : ids.Nodup := h.lists.library ▸ h.agrees.nodup
  by_cases votes : getUpdateType u = .votes
  · cases u with
    | votes vs =>
      cases told
      by_cases listed : before.listed = true
      · rw [if_pos listed]
        have rows := h.lists.rows before shows listed
        exact (PartyScreen.votesShown_voted distinct rows (List.Perm.of_eq (totals vs rfl)) listed).2
      · rw [if_neg listed]
        exact if_neg listed
    | _ => cases votes
  · obtain ⟨kept, same⟩ := toPartyViewController_tell sorter compareNames before told votes list
    have silent : Topic.votes.told u = none := Topic.silent votes
    change u.votesTold = none at silent
    rw [silent, Option.none_or]
    unfold PartyScreen.votesShown
    rw [kept, same]
    by_cases listed : before.listed = true <;> simp [listed]

end Reading

end PhoneParty
end MusicCloud
