import MusicCloud.PhoneRuns

/-!
A phone that goes on asking while nobody else calls the server. Each poll brings the first
pending update, until one is parked: then nothing is unread, and whatever a screen whose replies
were in time shows is what the server has, row by row.
-/
namespace MusicCloud
open Comparisons Mirrors Runs SessionUpdateQueue

/-- Whatever the screen shows of the votes, the active song and the balance is the server's. A
    screen to which nothing has come yet shows nothing. -/
structure PartyScreen.Shows (screen : PartyScreen) (s : Server) : Prop where
  rows : screen.listed = true → (screen.infos.map SongInfo.songID).Perm (s.db.songs.map SongRow.id)
  votes : screen.listed = true → ∀ info ∈ screen.infos, info.votes = s.db.voteCount info.songID
  song : ∀ current, screen.currentSong = some current → s.activeID = some current.songID
  balance : ∀ b, screen.balance = some b → s.balanceNow = some b

theorem PartyScreen.Shows.of_same {screen : PartyScreen} {s t : Server} (h : screen.Shows t)
    (db : t.db = s.db) (now : ∀ τ : Topic, τ.now t = τ.now s) : screen.Shows s := by
  constructor
  · rw [← db]
    exact h.rows
  · rw [← db]
    exact h.votes
  · intro current playing
    exact (now .song).symm.trans (h.song current playing)
  · intro b metered
    exact (now .balance).symm.trans (h.balance b metered)

namespace PhoneParty
variable (texts : DoubleTexts) (sorter : Sorter Nat) (compareNames : String → String → Ordering)
  {p q : PhoneParty} {ids : List Int}

section Settled

theorem countOf_getVotes {db : Database} (distinct : (db.songs.map SongRow.id).Nodup) {songID votes : Int}
    (counted : countOf db.getVotes songID = some votes) : votes = db.voteCount songID := by
  rw [countOf_iff (by rw [Database.getVotes_eq, List.map_map]; exact distinct)] at counted
  obtain ⟨v, told, rfl, rfl⟩ := counted
  rw [Database.getVotes_eq] at told
  obtain ⟨r, -, rfl⟩ := List.mem_map.mp told
  unfold Database.voteCount List.count
  rw [List.countP_map]
  congr 2

theorem shown_settled (mirrors : p.MirrorsServer) (read : ∀ t, p.unread t = []) {τ : Topic}
    {v : τ.Value} (shows : p.shown τ = some v) : τ.now p.server = some v := by
  have will := mirrors τ
  unfold Will at will
  rw [read, shows] at will
  exact (will.settled (by simp) (Option.some_ne_none v)).symm

theorem shows_settled (h : p.Sound ids) (mirrors : p.MirrorsServer) (read : ∀ t, p.unread t = [])
    {screen : PartyScreen} (shows : p.screen = some screen) : screen.Shows p.server := by
  have distinct : ids.Nodup := h.lists.library ▸ h.agrees.nodup
  constructor
  · intro listed
    rw [h.lists.library]
    exact h.lists.rows screen shows listed
  · intro listed info row
    have rows := h.lists.rows screen shows listed
    have apart : (screen.infos.map SongInfo.songID).Nodup := rows.nodup_iff.mpr distinct
    have shown : p.shown .votes = some fun songID =>
        (screen.songForSongID songID).map fun song => (screen.songs song).votes := by
      rw [shown_screen shows]
      exact if_pos listed
    have now := shown_settled mirrors read shown
    have same := congrFun (Option.some.inj now) info.songID
    have there := (PartyViewController.votes_shown_iff apart).mpr ⟨info, row, rfl, rfl⟩
    apply countOf_getVotes (h.lists.library ▸ distinct)
    exact same.trans there
  · intro current playing
    apply shown_settled (τ := .song) mirrors read
    rw [shown_screen shows]
    change screen.currentSong.map _ = _
    rw [playing]
    rfl
  · intro b metered
    apply shown_settled (τ := .balance) mirrors read
    rw [shown_screen shows]
    exact metered

end Settled

section Asking

def asks (chs : List Channel) : List PhoneEvent := chs.flatMap fun ch => [.polls ch, .receives]

theorem run_asks_still (blank : p.screen = none ∨ ∃ ch, p.loop = .waiting ch)
    (unanswered : p.queue.answer p.poll = none) (chs : List Channel) :
    run (step texts sorter compareNames) p (asks chs) = p := by
  induction chs with
  | nil => rfl
  | cons ch chs ih =>
    have polls : p.step texts sorter compareNames (.polls ch) = p := by
      unfold step handle
      dsimp only
      split
      · rename_i id screen client shows asking
        rcases blank with gone | ⟨ch, waits⟩
        · rw [gone] at shows
          cases shows
        · rw [waits] at asking
          cases asking
      · rfl
    have receives : p.step texts sorter compareNames .receives = p := by
      unfold step handle
      dsimp only
      rw [unanswered]
    have rest : asks (ch :: chs) = .polls ch :: .receives :: asks chs := rfl
    rw [rest, run_cons, run_cons, polls, receives]
    exact ih

structure AskedOnce (p q : PhoneParty) (ch : Channel) : Prop where
  db : q.server.db = p.server.db
  active : q.server.activeSong = p.server.activeSong
  channels : q.server.isActive = p.server.isActive
  after : (q.loop = .asking ∧ q.queue.updateTypeQueue.length + 1 = p.queue.updateTypeQueue.length ∧
      ∀ other, other ≠ ch → p.queue.Unused other → q.queue.Unused other) ∨
    (q.loop = .waiting ch ∧ q.queue.answer q.poll = none ∧ ∀ t, q.unread t = [])

theorem asked_once (h : p.Sound ids) {id : Int} (client : p.clientID = some id)
    (asking : p.loop = .asking) {screen : PartyScreen} (shows : p.screen = some screen) {ch : Channel}
    (unused : p.queue.Unused ch) (active : p.server.isActive ch = true) :
    p.AskedOnce (run (step texts sorter compareNames) p [.polls ch, .receives]) ch := by
  have linked := h.linked id client
  obtain ⟨queued, db, playing, isActive, -⟩ := polled_state client linked.phone ch
  have polls : p.step texts sorter compareNames (.polls ch) =
      { p with server := p.server.call (.registerRequest id ch), loop := .waiting ch } := by
    unfold step handle
    rw [client, shows, asking]
    exact if_pos ⟨unused, active⟩
  rw [run_cons, run_cons, run_nil, polls]
  have consistent := linked.polled.consistent
  rcases queueRequest_cases consistent ch with ⟨t, rest, u, first, pending, eq⟩ | ⟨empty, eq⟩
  · -- the first pending update answers the poll
    rw [eq] at queued
    have answered : ({ p with server := p.server.call (.registerRequest id ch), loop := .waiting ch } :
        PhoneParty).queue.answer (some ch) = some u := by
      rw [queued]
      unfold SessionUpdateQueue.answer
      simp [List.lookup_append, unused.2]
    have receives : step texts sorter compareNames
        { p with server := p.server.call (.registerRequest id ch), loop := .waiting ch } .receives =
        reading { p with server := p.server.call (.registerRequest id ch), loop := .waiting ch }
          (p.hears texts sorter compareNames u) := by
      unfold step handle
      dsimp only
      have poll : ({ p with server := p.server.call (.registerRequest id ch), loop := .waiting ch } :
        PhoneParty).poll = some ch := rfl
      rw [poll, answered]
      rfl
    rw [receives]
    have after : (reading { p with server := p.server.call (.registerRequest id ch), loop := .waiting ch }
        (p.hears texts sorter compareNames u)).queue = _ := queued
    refine ⟨db, playing, isActive, Or.inl ⟨rfl, ?_, ?_⟩⟩
    · rw [after, first]
      rfl
    · rintro other differs ⟨fresh, unsent⟩
      rw [after]
      refine ⟨fresh, ?_⟩
      dsimp only
      rw [List.lookup_append, unsent]
      simp [differs]
  · rw [eq] at queued
    have poll : ({ p with server := p.server.call (.registerRequest id ch), loop := .waiting ch } :
      PhoneParty).poll = some ch := rfl
    have unanswered : ({ p with server := p.server.call (.registerRequest id ch), loop := .waiting ch } :
        PhoneParty).queue.answer (some ch) = none := by
      rw [queued]
      exact unused.2
    have receives : step texts sorter compareNames
        { p with server := p.server.call (.registerRequest id ch), loop := .waiting ch } .receives =
        { p with server := p.server.call (.registerRequest id ch), loop := .waiting ch } := by
      unfold step handle
      dsimp only
      rw [poll, unanswered]
    rw [receives]
    refine ⟨db, playing, isActive, Or.inr ⟨rfl, unanswered, ?_⟩⟩
    intro t
    have absent := consistent.no_updates empty t
    unfold unread SessionUpdateQueue.unread
    rw [poll, unanswered, queued]
    dsimp only
    rw [absent]
    rfl

structure CaughtUp (p q : PhoneParty) : Prop where
  db : q.server.db = p.server.db
  active : q.server.activeSong = p.server.activeSong
  read : q.screen = none ∨ ∀ t, q.unread t = []

theorem caught_up (h : p.Sound ids) (asking : p.loop = .asking) {chs : List Channel} (nodup : chs.Nodup)
    (fresh : ∀ ch ∈ chs, p.queue.Unused ch ∧ p.server.isActive ch = true)
    (enough : p.queue.updateTypeQueue.length < chs.length) :
    p.CaughtUp (run (step texts sorter compareNames) p (asks chs)) := by
  induction chs generalizing p with
  | nil => simp at enough
  | cons ch chs ih =>
    have poll : p.poll = none := by
      unfold PhoneParty.poll
      rw [asking]
    by_cases gone : p.screen = none
    · rw [run_asks_still texts sorter compareNames (Or.inl gone) (by rw [poll]; rfl)]
      exact ⟨rfl, rfl, Or.inl gone⟩
    obtain ⟨screen, shows⟩ := Option.ne_none_iff_exists'.mp gone
    have known : p.clientID ≠ none := by
      intro guest
      exact gone (h.guest guest).1
    obtain ⟨id, client⟩ := Option.ne_none_iff_exists'.mp known
    obtain ⟨first, nodup⟩ := List.nodup_cons.mp nodup
    obtain ⟨unused, active⟩ := fresh ch List.mem_cons_self
    obtain ⟨db, playing, channels, after⟩ :=
      asked_once texts sorter compareNames h client asking shows unused active
    have sound : (run (step texts sorter compareNames) p [.polls ch, .receives]).Sound ids :=
      (mirrors_step texts sorter compareNames
        (mirrors_step texts sorter compareNames h (.polls ch)).1 .receives).1
    have rest : asks (ch :: chs) = [.polls ch, .receives] ++ asks chs := rfl
    rw [rest, run_append]
    generalize run (step texts sorter compareNames) p [.polls ch, .receives] = q at *
    rcases after with ⟨asks, fewer, others⟩ | ⟨waits, unanswered, read⟩
    · have later := ih sound asks nodup (by
        intro other there
        obtain ⟨unused, active⟩ := fresh other (List.mem_cons_of_mem ch there)
        have differs : other ≠ ch := fun same => first (same ▸ there)
        exact ⟨others other differs unused, channels ▸ active⟩) (by
        rw [List.length_cons] at enough
        omega)
      exact ⟨later.db.trans db, later.active.trans playing, later.read⟩
    · rw [run_asks_still texts sorter compareNames (Or.inr ⟨ch, waits⟩) unanswered]
      exact ⟨db, playing, Or.inr read⟩

end Asking

theorem countOf_getSongList {s : Server} (distinct : (s.db.songs.map SongRow.id).Nodup) :
    some (countOf (s.db.getSongList.map fun song => { id := song.id, votes := song.votes })) =
      s.votesNow := by
  have sent : s.db.getSongList.map (fun song => ({ id := song.id, votes := song.votes } : VoteData)) =
      (s.db.listRows.map Prod.fst).map fun r => { id := r.id, votes := s.db.voteCount r.id } := by
    rw [Database.getSongList_eq, List.map_map]
    rfl
  have told : s.db.getVotes = s.db.songs.map fun r => { id := r.id, votes := s.db.voteCount r.id } := by
    rw [Database.getVotes_eq]
    apply List.map_congr_left
    intro r _
    unfold Database.voteCount List.count
    rw [List.countP_map]
    congr 2
  have perm : (s.db.getSongList.map fun song => ({ id := song.id, votes := song.votes } : VoteData)).Perm
      s.db.getVotes := by
    rw [sent, told]
    exact s.db.listRows_perm.map _
  have keys : (s.db.getVotes.map VoteData.id).Nodup := by
    rw [Server.getVotes_ids]
    exact distinct
  unfold Server.votesNow
  congr 1
  funext songID
  apply Option.ext
  intro votes
  rw [countOf_iff ((perm.map VoteData.id).nodup_iff.mpr keys), countOf_iff keys]
  simp only [perm.mem_iff]

theorem inTime_songList (distinct : (p.server.db.songs.map SongRow.id).Nodup)
    (served : p.songList = .answered (some (.song_list p.server.db.getSongList)))
    (nothing : p.unread .votes = []) : p.InTime .songListArrives := by
  intro songs answered _
  rw [served] at answered
  cases answered
  rw [nothing, countOf_getSongList distinct]
  rfl

theorem inTime_answer {u : SessionUpdate} (answered : p.queue.answer p.poll = some u)
    (other : getUpdateType u ≠ .likes) : p.InTime .receives := by
  intro l screen likes
  rw [answered] at likes
  cases likes
  exact absurd rfl other

theorem inTime_unanswered (unanswered : p.queue.answer p.poll = none) : p.InTime .receives := by
  intro l screen likes
  rw [unanswered] at likes
  cases likes

end PhoneParty

/-- While nobody else calls the server, a phone that goes on asking catches up: when every
    reply and every first like update is in time, whatever its screen shows in the end is the
    server's: the rows with their numbers of votes, the active song and the balance. -/
theorem asking_phone_shows_server (texts : DoubleTexts) (sorter : Sorter Nat)
    (compareNames : String → String → Ordering) (music : List MusicRow) (clock : Nat) (ip : String)
    (events : List PhoneEvent) (chs : List Channel) :
    let p := run (PhoneParty.step texts sorter compareNames) (.start music clock ip) events
    p.loop = .asking → chs.Nodup → (∀ ch ∈ chs, p.queue.Unused ch ∧ p.server.isActive ch = true) →
    p.queue.updateTypeQueue.length < chs.length →
    StepsMeet (PhoneParty.step texts sorter compareNames) PhoneParty.InTime (.start music clock ip)
      (events ++ PhoneParty.asks chs) →
    ∀ screen, (run (PhoneParty.step texts sorter compareNames) p (PhoneParty.asks chs)).screen =
      some screen → screen.Shows p.server := by
  intro p asking nodup fresh enough inTime screen shows
  have sound := PhoneParty.sound_run texts sorter compareNames music clock ip events
  have sound' := PhoneParty.sound_run texts sorter compareNames music clock ip (events ++ PhoneParty.asks chs)
  have mirrors := PhoneParty.mirrors_run texts sorter compareNames music clock ip inTime
  obtain ⟨db, active, read⟩ := PhoneParty.caught_up texts sorter compareNames sound asking nodup fresh enough
  rw [run_append] at sound' mirrors
  change PhoneParty.Sound (run _ p _) _ at sound'
  change PhoneParty.MirrorsServer (run _ p _) at mirrors
  have settled : ∀ t, (run (PhoneParty.step texts sorter compareNames) p (PhoneParty.asks chs)).unread t =
      [] := by
    rcases read with gone | read
    · rw [gone] at shows
      cases shows
    · exact read
  have now := PhoneParty.shows_settled sound' mirrors settled shows
  exact now.of_same db (PhoneParty.now_of_same sound.agrees sound'.agrees db active)

def guestEvents : List PhoneEvent := [.logsIn, .songListServed, .songListArrives, .calls (.vote 1 1)]

theorem asking_guest_shows_vote :
    ∃ screen, (run (PhoneParty.step allDigits (Sorter.merge Nat) compare)
        (run (PhoneParty.step allDigits (Sorter.merge Nat) compare) (.start twoSongs 0 "10.0.0.1")
          guestEvents) (PhoneParty.asks [1, 2])).screen = some screen ∧ screen.listed = true ∧
      screen.Shows (run (PhoneParty.step allDigits (Sorter.merge Nat) compare)
        (.start twoSongs 0 "10.0.0.1") guestEvents).server := by
  have told := PhoneParty.step_heard allDigits (Sorter.merge Nat) compare
  have distinct : ((Database.create twoSongs).songs.map SongRow.id).Nodup := by decide
  have inTime : StepsMeet (PhoneParty.step allDigits (Sorter.merge Nat) compare) PhoneParty.InTime
      (.start twoSongs 0 "10.0.0.1") (guestEvents ++ PhoneParty.asks [1, 2]) := by
    rw [told]
    refine ⟨trivial, trivial, ?_, trivial, trivial, ?_, trivial, ?_, trivial⟩
    · exact PhoneParty.inTime_songList distinct rfl rfl
    · exact PhoneParty.inTime_answer rfl (by decide)
    · exact PhoneParty.inTime_unanswered rfl
  have shown : (run (PhoneParty.step allDigits (Sorter.merge Nat) compare)
      (run (PhoneParty.step allDigits (Sorter.merge Nat) compare) (.start twoSongs 0 "10.0.0.1")
        guestEvents) (PhoneParty.asks [1, 2])).screen.any PartyScreen.listed := by
    rw [told]
    decide +kernel
  obtain ⟨screen, shows, listed⟩ := (Option.any_eq_true _ _).mp shown
  refine ⟨screen, shows, listed, ?_⟩
  apply asking_phone_shows_server allDigits (Sorter.merge Nat) compare twoSongs 0 "10.0.0.1" guestEvents
    [1, 2] _ _ _ _ inTime screen shows
  · rw [told]
    decide +kernel
  · decide
  · rw [told]
    decide +kernel
  · rw [told]
    decide +kernel

end MusicCloud
