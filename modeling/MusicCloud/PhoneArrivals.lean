import MusicCloud.PhoneSteps
import MusicCloud.SongList

/-!
The updates that arrive at a phone: the answer to its poll, the song list and the current
song. Whether the screen still follows the server after one of them comes down to one topic,
and there to what `InTime` says.
-/
namespace MusicCloud
open Comparisons Mirrors Runs SessionUpdateQueue

namespace PhoneParty
variable (texts : DoubleTexts) (sorter : Sorter Nat) (compareNames : String → String → Ordering)
  {p q : PhoneParty} {ids : List Int}

section Shown

theorem mirrors_blank (h : q.Sound ids) (gone : q.screen = none) : q.MirrorsServer := by
  intro τ
  have blank : q.shown τ = none := by
    unfold shown
    rw [gone]
    rfl
  rw [blank]
  exact h.current τ

theorem shown_screen {screen : PartyScreen} (shows : q.screen = some screen) (τ : Topic) :
    q.shown τ = τ.shown screen := by
  unfold shown
  rw [shows]
  rfl

theorem mirrors_iff (τ : Topic) (others : ∀ σ, σ ≠ τ → q.Will σ (q.shown σ)) :
    q.MirrorsServer ↔ q.Will τ (q.shown τ) := by
  constructor
  · intro mirrors
    exact mirrors τ
  · intro will σ
    by_cases same : σ = τ
    · rw [same]
      exact will
    · exact others σ same

theorem will_reply_iff (h : q.Sound ids) {τ : Topic} {reply : τ.Value} (shows : q.shown τ = some reply) :
    q.Will τ (q.shown τ) ↔ Leads τ.told (q.unread τ.type) (some reply) (τ.now q.server) := by
  rw [shows]
  exact (h.current τ).show_iff reply

end Shown

section Answer

def reading (p : PhoneParty) (screen : Option PartyScreen) : PhoneParty :=
  { p with loop := .asking, screen := screen }

variable {u : SessionUpdate} (answered : p.queue.answer p.poll = some u) (screen : Option PartyScreen)
include answered

theorem unread_answered (t : UpdateType) :
    p.unread t = ofType t [u] ++ (p.reading screen).unread t := by
  unfold unread SessionUpdateQueue.unread
  rw [answered]
  rfl

theorem will_read {τ : Topic} {shown : Option τ.Value} (will : p.Will τ shown) :
    (p.reading screen).Will τ ((τ.told u).or shown) := by
  unfold Will at will
  rw [unread_answered answered screen] at will
  by_cases same : getUpdateType u = τ.type
  · rw [← same, ofType_singleton_same, same] at will
    exact will.read
  · rw [ofType_singleton_other (Ne.symm same)] at will
    rw [Topic.silent same, Option.none_or]
    exact will

theorem will_skip {τ : Topic} (will : p.Will τ none) :
    (p.reading screen).Will τ none := by
  have read := will_read answered screen will
  exact ⟨read.current, fun some => absurd rfl some⟩

theorem answer_other (h : p.Sound ids) : getUpdateType u ≠ .song_list := by
  intro type
  have there := unread_answered answered none .song_list
  rw [h.lists.noList, ← type, ofType_singleton_same] at there
  cases there

theorem answer_totals (h : p.Sound ids) : ∀ vs, u = .votes vs → vs.map VoteData.id = ids := by
  rintro vs rfl
  apply h.lists.totals
  rw [unread_answered answered none]
  exact List.mem_append_left _ (by simp [ofType, getUpdateType])

theorem sound_read (h : p.Sound ids)
    (rows : ∀ s, screen = some s → s.listed = true → s.Rows ids) :
    (p.reading screen).Sound ids := by
  have waits : p.poll ≠ none := by
    intro none
    rw [none] at answered
    cases answered
  have fewer : ∀ {t v}, v ∈ (p.reading screen).unread t →
      v ∈ p.unread t := by
    intro t v there
    rw [unread_answered answered screen]
    exact List.mem_append_right _ there
  refine ⟨h.agrees, h.roster, h.positive, ⟨h.lists.library, fun vs there => h.lists.totals vs (fewer there),
    ?_, rows, h.lists.songs, h.lists.song⟩, ?_, ?_, fun τ => will_skip answered screen (h.current τ)⟩
  · rw [List.eq_nil_iff_forall_not_mem]
    intro v there
    have before := fewer there
    rw [h.lists.noList] at before
    cases before
  · intro guest
    have stopped := (h.guest guest).2.1
    unfold poll at waits
    rw [stopped] at waits
    exact absurd rfl waits
  · intro id client
    have linked := h.linked id client
    refine ⟨linked.phone, ?_⟩
    apply linked.polled.ended fun ch active => active
    intro ch polls unanswered
    rw [answered] at unanswered
    cases unanswered

end Answer

theorem mirrors_receives (h : p.Sound ids) {u : SessionUpdate}
    (answered : p.queue.answer p.poll = some u) :
    (p.reading (p.hears texts sorter compareNames u)).Sound ids ∧ (p.MirrorsServer →
      ((p.reading (p.hears texts sorter compareNames u)).MirrorsServer ↔ p.InTime .receives)) := by
  have other := answer_other answered h
  have totals := answer_totals answered h
  have sound := sound_read answered (p.hears texts sorter compareNames u) h fun s heard listed =>
    rows_heard texts sorter compareNames h other totals heard listed
  refine ⟨sound, fun good => ?_⟩
  have heard := p.hears_eq texts sorter compareNames u
  have read := fun (τ : Topic) => will_read answered (p.hears texts sorter compareNames u) (good τ)
  generalize p.hears texts sorter compareNames u = screen at heard sound read ⊢
  by_cases gone : p.screen = none
  · rw [gone] at heard
    refine iff_of_true (mirrors_blank sound heard) ?_
    intro l screen _ shows
    rw [gone] at shows
    cases shows
  obtain ⟨before, shows⟩ := Option.ne_none_iff_exists'.mp gone
  rw [shows, Option.bind_some] at heard
  by_cases silent : u.delegation = none
  · rw [silent] at heard
    refine iff_of_true (mirrors_blank sound heard) ?_
    intro l screen likes
    rw [answered] at likes
    cases likes
    exact absurd silent (Option.some_ne_none _)
  obtain ⟨d, told⟩ := Option.ne_none_iff_exists'.mp silent
  rw [told, Option.map_some] at heard
  have shown := shown_screen (q := p.reading screen) heard
  have was := shown_screen shows
  have votes : (p.reading screen).Will .votes
      ((p.reading screen).shown .votes) := by
    have now := votesShown_heard sorter compareNames h other totals shows told
    rw [shown]
    have kept := read .votes
    rw [was] at kept
    change Mirrors.Follows _ _ _ (before.tell sorter compareNames d).votesShown
    rw [now]
    by_cases listed : before.listed = true
    · rw [if_pos listed]
      exact kept
    · rw [if_neg listed]
      exact sound.current .votes
  have song : (p.reading screen).Will .song
      ((p.reading screen).shown .song) := by
    have now := songShown_tell sorter compareNames before told
    rw [shown]
    have kept := read .song
    rw [was] at kept
    change Mirrors.Follows _ _ _ (before.tell sorter compareNames d).songShown
    rw [now]
    exact kept
  have others : ∀ σ : Topic, σ ≠ .balance → (p.reading screen).Will σ ((p.reading screen).shown σ) := by
    intro σ differs
    cases σ with
    | votes => exact votes
    | song => exact song
    | balance => exact absurd rfl differs
  rw [mirrors_iff .balance others]
  have now := balance_tell sorter compareNames before told
  by_cases early : before.currentSong = none ∧ ∃ l, u = .likes l
  · -- without a current song the meter is set to zero
    obtain ⟨blank, l, rfl⟩ := early
    have zero : (p.reading screen).shown .balance = some (0 : ℚ) := by
      rw [shown]
      change (before.tell sorter compareNames d).balance = _
      rw [now]
      simp [SessionUpdate.balanceTold, blank]
    rw [will_reply_iff sound zero]
    constructor
    · intro leads l' screen' likes shows' blank'
      exact leads
    · intro inTime
      exact inTime l before answered shows blank
  · have same : (u.balanceTold.map fun b => if before.currentSong = none then 0 else b) =
        u.balanceTold := by
      cases u with
      | likes l =>
        have current : before.currentSong ≠ none := fun blank => early ⟨blank, l, rfl⟩
        simp [SessionUpdate.balanceTold, current]
      | _ => rfl
    apply iff_of_true
    · rw [shown]
      have kept := read .balance
      rw [was] at kept
      change Mirrors.Follows _ _ _ (before.tell sorter compareNames d).balance
      rw [now, same]
      exact kept
    · intro l screen' likes shows' blank
      rw [answered] at likes
      rw [shows] at shows'
      cases likes
      cases shows'
      exact absurd ⟨blank, l, rfl⟩ early

section Replies

theorem sound_beside (h : p.Sound ids) (server : q.server = p.server) (clientID : q.clientID = p.clientID)
    (loop : q.loop = p.loop) (rows : ∀ s, q.screen = some s → s.listed = true → s.Rows ids)
    (list : ∀ u, q.songList = .answered (some u) →
      ∃ songs, u = .song_list songs ∧ (songs.map Song.id).Perm ids)
    (song : ∀ u, q.songUpdate = .answered (some u) → ∃ song, u = .current_song song)
    (guest : q.clientID = none → q.screen = none ∧ q.loop = .stopped ∧ q.songList = .unsent ∧
      q.songUpdate = .unsent) :
    q.Sound ids ∧ ∀ τ shown, p.Will τ shown → q.Will τ shown := by
  have queue : q.queue = p.queue := by
    unfold queue
    rw [server, clientID]
  have poll : q.poll = p.poll := by
    unfold poll
    rw [loop]
  refine h.quiet ?_ ?_ ?_ ?_ ?_ rows list song ?_ guest
  · rw [server]
    exact h.agrees
  · rw [server]
    exact h.roster
  · rw [server]
  · intro τ
    rw [server]
  · intro t
    unfold unread
    rw [queue, poll]
  · intro id client
    obtain ⟨phone, polled⟩ := h.linked id (clientID ▸ client)
    refine ⟨server ▸ phone, ?_⟩
    rw [queue, poll, server]
    exact polled

theorem arrives_cases {reply : Option SessionUpdate} {screen : PartyScreen}
    (arrives : p.arrives (hears texts sorter compareNames) reply = some screen) :
    (reply = none ∧ p.screen = some screen) ∨
      ∃ u before d, reply = some u ∧ p.screen = some before ∧ u.delegation = some d ∧
        screen = before.tell sorter compareNames d := by
  cases reply with
  | none => exact Or.inl ⟨rfl, arrives⟩
  | some u =>
    obtain ⟨before, d, shows, told, rfl⟩ := hears_cases texts sorter compareNames arrives
    exact Or.inr ⟨u, before, d, rfl, shows, told, rfl⟩

theorem reply_iff (sound : q.Sound ids) (follows : ∀ σ shown, p.Will σ shown → q.Will σ shown)
    (good : p.MirrorsServer) {u : SessionUpdate}
    (heard : q.screen = p.hears texts sorter compareNames u) (τ : Topic) (value : τ.Value)
    (tells : ∀ before d, p.screen = some before → u.delegation = some d →
      τ.shown (before.tell sorter compareNames d) = some value ∧
        ∀ σ, σ ≠ τ → σ.shown (before.tell sorter compareNames d) = σ.shown before) :
    q.MirrorsServer ↔
      (p.Reaches u → Leads τ.told (q.unread τ.type) (some value) (τ.now q.server)) := by
  rw [hears_eq] at heard
  by_cases gone : p.screen = none
  · rw [gone] at heard
    exact iff_of_true (mirrors_blank sound heard) fun reaches => absurd gone reaches.1
  obtain ⟨before, shows⟩ := Option.ne_none_iff_exists'.mp gone
  rw [shows, Option.bind_some] at heard
  by_cases silent : u.delegation = none
  · rw [silent] at heard
    exact iff_of_true (mirrors_blank sound heard) fun reaches => absurd silent reaches.2
  obtain ⟨d, told⟩ := Option.ne_none_iff_exists'.mp silent
  rw [told, Option.map_some] at heard
  obtain ⟨sets, others⟩ := tells before d shows told
  have shown := shown_screen heard
  have kept : ∀ σ, σ ≠ τ → q.Will σ (q.shown σ) := by
    intro σ differs
    rw [shown, others σ differs, ← shown_screen shows]
    exact follows σ _ (good σ)
  rw [mirrors_iff τ kept, will_reply_iff sound ((shown τ).trans sets)]
  exact ⟨fun leads _ => leads, fun leads => leads ⟨gone, silent⟩⟩

theorem mirrors_unanswered (follows : ∀ σ shown, p.Will σ shown → q.Will σ shown)
    (good : p.MirrorsServer) (same : q.screen = p.screen) : q.MirrorsServer := by
  intro τ
  have kept : q.shown τ = p.shown τ := by
    unfold shown
    rw [same]
  rw [kept]
  exact follows τ _ (good τ)

theorem mirrors_songListArrives (h : p.Sound ids) {reply : Option SessionUpdate}
    (pending : p.songList = .answered reply) :
    (p.step texts sorter compareNames .songListArrives).Sound ids ∧ (p.MirrorsServer →
      ((p.step texts sorter compareNames .songListArrives).MirrorsServer ↔ p.InTime .songListArrives)) := by
  have next : p.step texts sorter compareNames .songListArrives =
      { p with songList := .finished, screen := p.arrives (hears texts sorter compareNames) reply } := by
    unfold step handle
    rw [pending]
  rw [next]
  have distinct : ids.Nodup := h.lists.library ▸ h.agrees.nodup
  have known : ∀ u, reply = some u → ∃ songs, u = .song_list songs ∧ (songs.map Song.id).Perm ids := by
    rintro u rfl
    exact h.lists.songs u pending
  have listing : ∀ songs d, (SessionUpdate.song_list songs).delegation = some d →
      ∃ list, songs.mapM Song.listing = some list ∧ d = .clientDidReceiveSongList list := by
    intro songs d told
    obtain ⟨list, arrived, rfl⟩ := Option.map_eq_some_iff.mp told
    exact ⟨list, arrived, rfl⟩
  obtain ⟨sound, follows⟩ := sound_beside h
    (q := { p with songList := .finished, screen := p.arrives (hears texts sorter compareNames) reply })
    rfl rfl rfl
    (by
      intro s arrives listed
      rcases arrives_cases texts sorter compareNames arrives with
        ⟨-, shows⟩ | ⟨u, before, d, asked, -, told, rfl⟩
      · exact h.lists.rows s shows listed
      · obtain ⟨songs, rfl, library⟩ := known u asked
        obtain ⟨list, arrived, rfl⟩ := listing songs d told
        exact (PartyScreen.votesShown_received distinct library arrived).1)
    (fun u no => nomatch no) h.lists.song
    (by
      intro guest
      have unsent := (h.guest guest).2.2.1
      rw [pending] at unsent
      cases unsent)
  refine ⟨sound, fun good => ?_⟩
  cases reply with
  | none =>
    refine iff_of_true (mirrors_unanswered follows good rfl) ?_
    intro songs asked
    rw [pending] at asked
    cases asked
  | some u =>
    obtain ⟨songs, rfl, library⟩ := known u rfl
    rw [reply_iff texts sorter compareNames sound follows good rfl .votes
      (countOf (songs.map fun s => { id := s.id, votes := s.votes }))]
    · constructor
      · intro leads others asked
        rw [pending] at asked
        cases asked
        exact leads
      · intro inTime
        exact inTime songs pending
    · intro before d shows told
      obtain ⟨list, arrived, rfl⟩ := listing songs d told
      refine ⟨(PartyScreen.votesShown_received distinct library arrived).2, ?_⟩
      intro σ differs
      cases σ with
      | votes => exact absurd rfl differs
      | song => exact songShown_tell sorter compareNames before told
      | balance => exact balance_tell sorter compareNames before told

theorem mirrors_songUpdateArrives (h : p.Sound ids) {reply : Option SessionUpdate}
    (pending : p.songUpdate = .answered reply) :
    (p.step texts sorter compareNames .songUpdateArrives).Sound ids ∧ (p.MirrorsServer →
      ((p.step texts sorter compareNames .songUpdateArrives).MirrorsServer ↔ p.InTime .songUpdateArrives)) := by
  have next : p.step texts sorter compareNames .songUpdateArrives =
      { p with songUpdate := .finished, screen := p.arrives (hears texts sorter compareNames) reply } := by
    unfold step handle
    rw [pending]
  rw [next]
  have known : ∀ u, reply = some u → ∃ song, u = .current_song song := by
    rintro u rfl
    exact h.lists.song u pending
  obtain ⟨sound, follows⟩ := sound_beside h
    (q := { p with songUpdate := .finished, screen := p.arrives (hears texts sorter compareNames) reply })
    rfl rfl rfl
    (by
      intro s arrives listed
      rcases arrives_cases texts sorter compareNames arrives with
        ⟨-, shows⟩ | ⟨u, before, d, asked, shows, told, rfl⟩
      · exact h.lists.rows s shows listed
      · obtain ⟨song, rfl⟩ := known u asked
        obtain ⟨kept, same⟩ := toPartyViewController_tell sorter compareNames before told
          (by simp [getUpdateType]) (by simp [getUpdateType])
        have rows := h.lists.rows before shows (same ▸ listed)
        unfold PartyScreen.Rows at rows ⊢
        rw [kept]
        exact rows)
    h.lists.songs (fun u no => nomatch no)
    (by
      intro guest
      have unsent := (h.guest guest).2.2.2
      rw [pending] at unsent
      cases unsent)
  refine ⟨sound, fun good => ?_⟩
  cases reply with
  | none =>
    refine iff_of_true (mirrors_unanswered follows good rfl) ?_
    intro song asked
    rw [pending] at asked
    cases asked
  | some u =>
    obtain ⟨song, rfl⟩ := known u rfl
    rw [reply_iff texts sorter compareNames sound follows good rfl .song song.id]
    · constructor
      · intro leads others asked
        rw [pending] at asked
        cases asked
        exact leads
      · intro inTime
        exact inTime song pending
    · intro before d shows told
      refine ⟨songShown_tell sorter compareNames before told, ?_⟩
      obtain ⟨kept, same⟩ := toPartyViewController_tell sorter compareNames before told
        (by simp [getUpdateType]) (by simp [getUpdateType])
      intro σ differs
      cases σ with
      | votes =>
        change PartyScreen.votesShown _ = PartyScreen.votesShown _
        unfold PartyScreen.votesShown
        rw [kept, same]
      | song => exact absurd rfl differs
      | balance => exact balance_tell sorter compareNames before told

end Replies

end PhoneParty
end MusicCloud
