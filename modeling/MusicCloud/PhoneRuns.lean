import MusicCloud.PhoneArrivals

/-!
Whole runs of the server and its phone: what the screen shows follows the votes, the active
song and the balance of the server exactly in the runs in which every reply and every first
like update is in time.
-/
namespace MusicCloud
open Comparisons Mirrors Runs SessionUpdateQueue

namespace PhoneParty
variable (texts : DoubleTexts) (sorter : Sorter Nat) (compareNames : String → String → Ordering)
  {p q : PhoneParty} {ids : List Int}

section Events

theorem mirrors_calls (h : p.Sound ids) (c : Call) :
    (p.step texts sorter compareNames (.calls c)).Sound ids ∧
      (p.MirrorsServer → (p.step texts sorter compareNames (.calls c)).MirrorsServer) := by
  unfold step handle
  dsimp only
  by_cases allowed : p.allows c = true
  · rw [if_pos allowed]
    by_cases closes : ∃ ch, c = .channelClosed ch
    · obtain ⟨ch, rfl⟩ := closes
      obtain ⟨sound, follows⟩ := h.closed ch (of_decide_eq_true allowed)
      exact ⟨sound, fun good => mirrors_unanswered follows good rfl⟩
    · obtain ⟨sound, follows⟩ := h.told (Server.agrees_call h.agrees c)
        (Server.rosterAgrees_call h.agrees h.roster c)
        (Server.songIds_of_changes (Server.changes_call h.agrees c))
        (by
          intro id client
          apply Server.informs_call h.agrees h.roster (h.linked id client).phone h.positive
          cases c with
          | destroySession sessionID =>
            have other : p.clientID ≠ some sessionID := of_decide_eq_true allowed
            rw [client] at other
            exact decide_eq_true fun same => other (congrArg some same.symm)
          | registerRequest sessionID ch =>
            have other : p.clientID ≠ some sessionID := of_decide_eq_true allowed
            rw [client] at other
            exact decide_eq_true fun same => other (congrArg some same.symm)
          | channelClosed ch => exact absurd ⟨ch, rfl⟩ closes
          | _ => rfl)
      exact ⟨sound, fun good τ => follows τ (good τ)⟩
  · rw [if_neg allowed]
    exact ⟨h, id⟩

theorem pin_accepted (s : Server) (ip : String) : Server.clientAuthenticate (some "1234") ip s =
    .ok (.session (s.db.sessionSequence + 1)) (s.joined ip .User) := by
  rw [Server.clientAuthenticate_apply]
  rfl

theorem logIn_eq (p : PhoneParty) : p.logIn = { p with
    server := p.server.joined p.ip .User, clientID := some (p.server.db.sessionSequence + 1)
    screen := some .viewDidLoad, loop := .asking, songList := .sent, songUpdate := .sent } := by
  unfold logIn
  rw [pin_accepted]

theorem mirrors_logIn (h : p.Sound ids) : p.logIn.Sound ids ∧ p.logIn.MirrorsServer := by
  have next := p.logIn_eq
  have session : (p.server.joined p.ip .User).sessionMap (p.server.db.sessionSequence + 1) =
      some (Session.create (p.server.db.sessionSequence + 1) p.ip .User) := Function.update_self ..
  have called : p.server.joined p.ip .User = p.server.call (.authenticateUser (some "1234") p.ip) := by
    rw [Server.call, pin_accepted, finalState_ok]
  have empty : p.logIn.queue = .empty := by
    rw [next]
    unfold queue Server.queueOf
    dsimp only
    rw [session]
    rfl
  have poll : p.logIn.poll = none := by rw [next]; rfl
  have nothing : ∀ t, p.logIn.unread t = [] := by
    intro t
    unfold unread
    rw [empty, poll]
    rfl
  have current : ∀ τ, p.logIn.Will τ none := by
    intro τ
    unfold Will
    rw [nothing]
    exact follows_start
  have blank : ∀ τ, p.logIn.shown τ = none := by
    intro τ
    rw [next]
    cases τ <;> rfl
  have agrees : (p.server.joined p.ip .User).playback.Agrees := by
    rw [called]
    exact Server.agrees_call h.agrees _
  have roster := h.roster.joined p.ip .User
  have songs : (p.server.joined p.ip .User).db.songs.map SongRow.id =
      p.server.db.songs.map SongRow.id := by
    rw [called]
    exact Server.songIds_of_changes (Server.changes_call h.agrees _)
  refine ⟨⟨?_, ?_, ?_, ⟨?_, ?_, nothing _, ?_, ?_, ?_⟩, ?_, ?_, current⟩, fun τ => blank τ ▸ current τ⟩
  · rw [next]
    exact agrees
  · rw [next]
    exact roster
  · rw [next]
    exact Server.positive_of_songIds songs h.positive
  · rw [next]
    exact songs.trans h.lists.library
  · intro vs there
    rw [nothing] at there
    cases there
  · rw [next]
    intro screen shows listed
    cases shows
    cases listed
  · rw [next]
    intro u no
    cases no
  · rw [next]
    intro u no
    cases no
  · rw [next]
    intro guest
    cases guest
  · intro id client
    have polled : p.logIn.queue.Polled p.logIn.server.isActive p.logIn.poll := by
      rw [empty, poll]
      exact polled_empty
    refine ⟨?_, polled⟩
    rw [next] at client ⊢
    cases client
    exact ⟨_, session, rfl⟩

theorem songList_library (s : Server) : (s.db.getSongList.map Song.id).Perm (s.db.songs.map SongRow.id) := by
  rw [Database.getSongList_eq, List.map_map]
  exact s.db.listRows_perm.map SongRow.id

theorem songList_served (s : Server) (id : Int) (ip : String) :
    ∃ reply, Server.requestSongList id ip s = .ok reply s ∧
      ∀ u, replyOf reply = some u → u = .song_list s.db.getSongList := by
  unfold Server.requestSongList
  rw [Server.validateSession_apply]
  split
  · refine ⟨_, rfl, ?_⟩
    intro u same
    cases same
    rfl
  · refine ⟨_, rfl, ?_⟩
    intro u same
    cases same

theorem songUpdate_served (s : Server) (id : Int) (ip : String) :
    ∃ reply t, Server.requestSongUpdate id ip s = .ok reply t ∧
      (t = s ∨ t = s.call .getActiveSong) ∧
      ∀ u, replyOf reply = some u → ∃ song, u = .current_song song := by
  unfold Server.requestSongUpdate
  rw [Server.validateSession_apply]
  split
  · rw [Server.catching, Server.call]
    cases Server.getActiveSong s with
    | ok active t =>
      refine ⟨_, _, rfl, Or.inr rfl, ?_⟩
      intro u same
      cases same
      exact ⟨active, rfl⟩
    | error e t =>
      refine ⟨_, _, rfl, Or.inr rfl, ?_⟩
      intro u same
      cases same
  · refine ⟨_, _, rfl, Or.inl rfl, ?_⟩
    intro u same
    cases same

theorem mirrors_songListServed (h : p.Sound ids) :
    (p.step texts sorter compareNames .songListServed).Sound ids ∧
      (p.MirrorsServer → (p.step texts sorter compareNames .songListServed).MirrorsServer) := by
  unfold step handle
  dsimp only
  split
  · rename_i id client pending
    obtain ⟨reply, answers, list⟩ := songList_served p.server id p.ip
    rw [answers]
    obtain ⟨sound, follows⟩ := sound_beside h (q := { p with songList := .answered (replyOf reply) })
      rfl rfl rfl h.lists.rows
      (by
        intro u same
        obtain rfl := list u (Exchange.answered.inj same)
        exact ⟨_, rfl, h.lists.library ▸ songList_library p.server⟩)
      h.lists.song
      (by
        intro guest
        have same : p.clientID = none := guest
        rw [client] at same
        cases same)
    exact ⟨sound, fun good => mirrors_unanswered follows good rfl⟩
  · exact ⟨h, id⟩

theorem mirrors_songUpdateServed (h : p.Sound ids) :
    (p.step texts sorter compareNames .songUpdateServed).Sound ids ∧
      (p.MirrorsServer → (p.step texts sorter compareNames .songUpdateServed).MirrorsServer) := by
  unfold step handle
  dsimp only
  split
  · rename_i id client pending
    obtain ⟨reply, s, answers, state, song⟩ := songUpdate_served p.server id p.ip
    rw [answers]
    have asked : ({ p with server := s } : PhoneParty).Sound ids ∧
        (p.MirrorsServer → ({ p with server := s } : PhoneParty).MirrorsServer) := by
      rcases state with rfl | rfl
      · exact ⟨h, fun good => good⟩
      · exact mirrors_calls texts sorter compareNames h .getActiveSong
    obtain ⟨sound', kept⟩ := asked
    obtain ⟨sound, follows⟩ := sound_beside sound'
      (q := { p with server := s, songUpdate := .answered (replyOf reply) })
      rfl rfl rfl sound'.lists.rows sound'.lists.songs
      (by
        intro u same
        exact song u (Exchange.answered.inj same))
      (by
        intro guest
        have same : p.clientID = none := guest
        rw [client] at same
        cases same)
    exact ⟨sound, fun good => mirrors_unanswered follows (kept good) rfl⟩
  · exact ⟨h, id⟩

theorem mirrors_touched (h : p.Sound ids) (touch : PartyScreen → PartyScreen)
    (songs : ∀ s, (touch s).songs = s.songs) (list : ∀ s, (touch s).songList = s.songList)
    (listed : ∀ s, (touch s).listed = s.listed) (song : ∀ s, (touch s).songShown = s.songShown)
    (balance : ∀ s, (touch s).balance = s.balance ∨ (touch s).balance = none) :
    ({ p with screen := p.screen.map touch } : PhoneParty).Sound ids ∧
      (p.MirrorsServer → ({ p with screen := p.screen.map touch } : PhoneParty).MirrorsServer) := by
  obtain ⟨sound, follows⟩ := sound_beside h (q := { p with screen := p.screen.map touch }) rfl rfl rfl
    (by
      intro after shows had
      obtain ⟨before, there, rfl⟩ := Option.map_eq_some_iff.mp shows
      have rows := h.lists.rows before there (listed before ▸ had)
      unfold PartyScreen.Rows PartyViewController.infos at rows ⊢
      rw [songs, list]
      exact rows)
    h.lists.songs h.lists.song
    (by
      intro guest
      obtain ⟨gone, rest⟩ := h.guest guest
      refine ⟨?_, rest⟩
      dsimp only
      rw [gone]
      rfl)
  refine ⟨sound, fun good τ => ?_⟩
  have kept : ({ p with screen := p.screen.map touch } : PhoneParty).shown τ = p.shown τ ∨
      ({ p with screen := p.screen.map touch } : PhoneParty).shown τ = none := by
    unfold shown
    dsimp only
    by_cases gone : p.screen = none
    · rw [gone]
      exact Or.inl rfl
    · obtain ⟨screen, shows⟩ := Option.ne_none_iff_exists'.mp gone
      rw [shows]
      change τ.shown (touch screen) = τ.shown screen ∨ τ.shown (touch screen) = none
      cases τ with
      | votes =>
        left
        change PartyScreen.votesShown _ = PartyScreen.votesShown _
        unfold PartyScreen.votesShown PartyViewController.songForSongID
        rw [listed, songs, list]
      | song => exact Or.inl (song screen)
      | balance => exact balance screen
  rcases kept with same | off
  · rw [same]
    exact follows τ _ (good τ)
  · rw [off]
    exact sound.current τ

/-- After an event the screen follows the server exactly if what has arrived was in time. -/
theorem mirrors_step (h : p.Sound ids) (e : PhoneEvent) :
    (p.step texts sorter compareNames e).Sound ids ∧ (p.MirrorsServer →
      ((p.step texts sorter compareNames e).MirrorsServer ↔ p.InTime e)) := by
  have always : (p.step texts sorter compareNames e).Sound ids ∧
      (p.MirrorsServer → (p.step texts sorter compareNames e).MirrorsServer) → p.InTime e →
      (p.step texts sorter compareNames e).Sound ids ∧ (p.MirrorsServer →
        ((p.step texts sorter compareNames e).MirrorsServer ↔ p.InTime e)) :=
    fun kept inTime => ⟨kept.1, fun good => iff_of_true (kept.2 good) inTime⟩
  cases e with
  | calls c => exact always (mirrors_calls texts sorter compareNames h c) trivial
  | logsIn =>
    apply always _ trivial
    unfold step handle
    dsimp only
    split
    · obtain ⟨sound, mirrors⟩ := mirrors_logIn h
      exact ⟨sound, fun _ => mirrors⟩
    · exact ⟨h, id⟩
  | polls ch =>
    apply always _ trivial
    unfold step handle
    dsimp only
    split
    · rename_i id screen client shows asks
      split
      · rename_i able
        obtain ⟨sound, follows⟩ := h.polled client asks able.1 able.2
        exact ⟨sound, fun good => mirrors_unanswered follows good rfl⟩
      · exact ⟨h, fun good => good⟩
    · exact ⟨h, id⟩
  | receives =>
    unfold step handle
    dsimp only
    split
    · rename_i u answered
      exact mirrors_receives texts sorter compareNames h answered
    · rename_i unanswered
      refine ⟨h, fun good => iff_of_true good ?_⟩
      intro l screen likes
      rw [unanswered] at likes
      cases likes
  | timesOut =>
    apply always _ trivial
    unfold step handle
    dsimp only
    split
    · rename_i ch waits unanswered
      obtain ⟨sound, follows⟩ := h.abandoned waits unanswered .asking (by simp)
      exact ⟨sound, fun good => mirrors_unanswered follows good rfl⟩
    · exact ⟨h, id⟩
  | fails =>
    apply always _ trivial
    unfold step handle
    dsimp only
    split
    · rename_i ch waits unanswered
      obtain ⟨sound, follows⟩ := h.abandoned waits unanswered .stopped (by simp)
      exact ⟨sound, fun good => mirrors_unanswered follows good rfl⟩
    · exact ⟨h, id⟩
  | songListServed => exact always (mirrors_songListServed texts sorter compareNames h) trivial
  | songListArrives =>
    by_cases pending : ∃ reply, p.songList = .answered reply
    · obtain ⟨reply, pending⟩ := pending
      exact mirrors_songListArrives texts sorter compareNames h pending
    · have still : p.step texts sorter compareNames .songListArrives = p := by
        unfold step handle
        dsimp only
        split
        · exact absurd ⟨_, ‹_›⟩ pending
        · rfl
      rw [still]
      refine ⟨h, fun good => iff_of_true good ?_⟩
      intro songs answered
      exact absurd ⟨_, answered⟩ pending
  | songUpdateServed => exact always (mirrors_songUpdateServed texts sorter compareNames h) trivial
  | songUpdateArrives =>
    by_cases pending : ∃ reply, p.songUpdate = .answered reply
    · obtain ⟨reply, pending⟩ := pending
      exact mirrors_songUpdateArrives texts sorter compareNames h pending
    · have still : p.step texts sorter compareNames .songUpdateArrives = p := by
        unfold step handle
        dsimp only
        split
        · exact absurd ⟨_, ‹_›⟩ pending
        · rfl
      rw [still]
      refine ⟨h, fun good => iff_of_true good ?_⟩
      intro song answered
      exact absurd ⟨_, answered⟩ pending
  | likeUpdateFails =>
    apply always _ trivial
    apply mirrors_touched h
    · exact fun _ => rfl
    · exact fun _ => rfl
    · exact fun _ => rfl
    · exact fun _ => rfl
    · exact fun _ => Or.inr rfl
  | ticks =>
    apply always _ trivial
    apply mirrors_touched h
    · exact fun _ => rfl
    · exact fun _ => rfl
    · exact fun _ => rfl
    · intro s
      unfold PartyScreen.tick PartyScreen.songShown
      cases s.currentSong with
      | none => rfl
      | some c => by_cases runs : c.status = .SS_PLAYING ∧ c.position < c.songLength <;> simp [runs]
    · exact fun _ => Or.inl rfl
  | selects row =>
    apply always _ trivial
    apply mirrors_touched h
    · intro s
      split <;> rfl
    · intro s
      split <;> rfl
    · intro s
      split <;> rfl
    · intro s
      split <;> rfl
    · intro s
      left
      split <;> rfl

end Events

section Start

def library (music : List MusicRow) : List Int := (Database.transferData 1 music).map SongRow.id

theorem sound_start (music : List MusicRow) (clock : Nat) (ip : String) :
    (start music clock ip).Sound (library music) := by
  have nothing : ∀ t, (start music clock ip).unread t = [] := fun _ => rfl
  refine ⟨Server.agrees_start music clock, Server.rosterAgrees_start music clock,
    Server.positive_run music clock [], ⟨rfl, ?_, nothing _, ?_, ?_, ?_⟩, fun _ => ⟨rfl, rfl, rfl, rfl⟩, ?_, ?_⟩
  · intro vs there
    rw [nothing] at there
    cases there
  · intro screen none
    cases none
  · intro u no
    cases no
  · intro u no
    cases no
  · intro id none
    cases none
  · intro τ
    unfold Will
    rw [nothing]
    exact follows_start

theorem sound_run (music : List MusicRow) (clock : Nat) (ip : String) (events : List PhoneEvent) :
    (run (step texts sorter compareNames) (start music clock ip) events).Sound (library music) :=
  invariant_of_run _ (fun p : PhoneParty => p.Sound (library music))
    (fun _ e h => (mirrors_step texts sorter compareNames h e).1) events _
    (sound_start music clock ip)

theorem mirrors_run (music : List MusicRow) (clock : Nat) (ip : String) {events : List PhoneEvent}
    (inTime : StepsMeet (step texts sorter compareNames) InTime (start music clock ip) events) :
    (run (step texts sorter compareNames) (start music clock ip) events).MirrorsServer := by
  have keep : ∀ (p : PhoneParty) (e : PhoneEvent), p.Sound (library music) ∧ p.MirrorsServer → p.InTime e →
      (p.step texts sorter compareNames e).Sound (library music) ∧
        (p.step texts sorter compareNames e).MirrorsServer := by
    rintro p e ⟨h, good⟩ now
    obtain ⟨sound, mirrors⟩ := mirrors_step texts sorter compareNames h e
    exact ⟨sound, (mirrors good).mpr now⟩
  have start := sound_start music clock ip
  exact (invariant_of_stepsMeet _ (fun p : PhoneParty => p.Sound (library music) ∧ p.MirrorsServer)
    keep events _ ⟨start, start.current⟩ inTime).2

end Start

end PhoneParty

/-- In a run of the server and a phone the screen follows the votes, the active song and the
    balance throughout if and only if each reply and each first like update is in time. -/
theorem screen_follows_server_iff (texts : DoubleTexts) (sorter : Sorter Nat)
    (compareNames : String → String → Ordering) (music : List MusicRow) (clock : Nat) (ip : String)
    (events : List PhoneEvent) :
    (∀ n, (run (PhoneParty.step texts sorter compareNames) (.start music clock ip)
        (events.take n)).MirrorsServer) ↔
      StepsMeet (PhoneParty.step texts sorter compareNames) PhoneParty.InTime (.start music clock ip)
        events := by
  apply holds_throughout_iff _ (fun p : PhoneParty => p.Sound (PhoneParty.library music))
    PhoneParty.MirrorsServer
  · intro p e h
    exact (PhoneParty.mirrors_step texts sorter compareNames h e).1
  · intro p e h good
    exact (PhoneParty.mirrors_step texts sorter compareNames h e).2 good
  · exact PhoneParty.sound_start music clock ip
  · intro τ
    exact (PhoneParty.sound_start music clock ip).current τ

end MusicCloud
