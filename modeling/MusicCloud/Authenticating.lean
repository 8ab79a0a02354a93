import MusicCloud.PartySteps

/-!
The party before the speaker has authenticated. The server has no song and no
task, and the speaker waits. The server welcomes the speaker with the song that
it selects then; when it finds none, the speaker gives up.
-/
namespace MusicCloud
open Runs SessionUpdateQueue

namespace Server
variable {s : Server}

/-- No song is active or selected, and nothing is scheduled. -/
structure Dormant (s : Server) : Prop where
  active : s.activeSong = none
  next : s.nextSong = none
  timer : s.songTimer = []

theorem Dormant.unheard (h : s.Dormant) {id : Int} {t : Server} (heard : Unheard id s t) :
    t.Dormant := by
  have silent : t.activeID = none := by
    rw [heard.active, activeID, h.active]
    rfl
  constructor
  · exact Option.map_eq_none_iff.mp silent
  · exact heard.next.trans h.next
  · exact heard.timer.trans h.timer

theorem dormant_start (music : List MusicRow) (clock : Nat) : (start music clock).Dormant := by
  constructor <;> rfl

theorem Dormant.call (h : s.Dormant) (agrees : s.playback.Agrees) (roster : s.RosterAgrees)
    {c : Call} (joins : ∀ pin ip, c ≠ .authenticateSpeaker pin ip)
    (reports : ∀ sessionID update, c ≠ .speakerStatusUpdate sessionID update) :
    (s.call c).Dormant := by
  -- no session has this id, so nothing that is handed out concerns it
  have unlisted : (s.db.sessionIds .User).count (-1) = 0 := by
    rw [List.count_eq_zero]
    intro listed
    obtain ⟨r, hr, named⟩ := List.mem_map.mp listed
    have := (roster.numbered r (List.mem_of_mem_filter hr)).1
    omega
  cases c with
  | authenticateUser pin ip =>
    rw [Server.call, clientAuthenticate_apply]
    cases pin with
    | none => exact h
    | some pin =>
      dsimp only
      split
      · exact ⟨h.active, h.next, h.timer⟩
      · exact h
  | authenticateSpeaker pin ip => exact absurd rfl (joins pin ip)
  | destroySession sessionID =>
    rw [Server.call, destroySession_apply]
    split
    · exact h
    · exact ⟨h.active, h.next, h.timer⟩
  | vote songID sessionID =>
    rw [Server.call, vote_apply]
    split
    · exact h
    · exact ⟨h.active, h.next, h.timer⟩
  | like songID sessionID => exact h.unheard (unheard_like agrees unlisted songID sessionID)
  | dislike songID sessionID =>
    rw [Server.call, dislike_apply]
    split
    · exact h
    · have still : (s.reacted sessionID songID (-1)).playback.Agrees := agrees
      have unknown : getStats (s.reacted sessionID songID (-1)) =
          .error .noSuchElement (s.reacted sessionID songID (-1)) := by
        rcases getActiveSong_cases still with ⟨active, running, -⟩ | ⟨-, eq⟩
        · have silent : (s.reacted sessionID songID (-1)).activeSong = none := h.active
          rw [silent] at running
          cases running
        · rw [getStats_apply, eq]
      rw [unknown]
      exact ⟨h.active, h.next, h.timer⟩
  | getActiveSong => exact h.unheard (unheard_getActiveSong agrees (-1))
  | getStats => exact h.unheard (unheard_getStats agrees (-1))
  | registerRequest sessionID ch =>
    rw [Server.call, registerRequest_apply]
    cases s.sessionMap sessionID with
    | none => exact h
    | some session => exact ⟨h.active, h.next, h.timer⟩
  | speakerStatusUpdate sessionID update => exact absurd rfl (reports sessionID update)
  | fireTask task =>
    have unscheduled : task ∉ s.songTimer := by
      rw [h.timer]
      exact List.not_mem_nil
    rw [Server.call, fireTask, if_neg unscheduled]
    exact h
  | channelClosed ch => exact ⟨h.active, h.next, h.timer⟩
  | clockAdvanced ms => exact ⟨h.active, h.next, h.timer⟩
  | rescanned rank => exact ⟨h.active, h.next, h.timer⟩

theorem Dormant.welcome (h : s.Dormant) (agrees : s.playback.Agrees) (ip : String) :
    speakerAuthenticate (some "1234") ip s = match (s.joined ip .Speaker).candidate with
      | some song => .ok (.session (s.db.sessionSequence + 1))
          (((s.joined ip .Speaker).selected song).broadcastUpdate (.upcoming_song song) .Speaker)
      | none => .ok (.error .INTERNAL_SERVER_ERROR) (s.joined ip .Speaker) := by
  have still : (s.joined ip .Speaker).playback.Agrees := agrees
  have silent : (s.joined ip .Speaker).activeSong = none := h.active
  have unset : (s.joined ip .Speaker).nextSong = none := h.next
  have unknown : getActiveSong (s.joined ip .Speaker) = .error .noSuchElement (s.joined ip .Speaker) := by
    rcases getActiveSong_cases still with ⟨active, running, -⟩ | ⟨-, eq⟩
    · rw [silent] at running
      cases running
    · exact eq
  have accepted : authenticatePin "1234" = true := by decide
  rw [speakerAuthenticate_apply]
  dsimp only
  rw [if_pos accepted, welcomeSpeaker, unknown]
  dsimp only
  rw [catching, newSpeakerAuthenticated_apply, unknown]
  dsimp only
  rw [scheduleNextSong_apply, unset]
  cases (s.joined ip .Speaker).candidate <;> rfl

end Server

namespace Party
variable {p : Party}

structure Unjoined (files : Int → SongFile) (p : Party) : Prop where
  client : p.clientID = none
  dormant : p.server.Dormant
  speaker : p.speaker = .start files
  taken : p.serverPlaybackQueue = []

def unheard : Situation := { active := none, next := none, commands := [], announcements := [] }

structure Welcomed (files : Int → SongFile) (p : Party) (id : Int) : Prop where
  linked : p.Linked id
  speaker : p.speaker = .start files
  moves : Situation.Moves (fun _ => False) (fun _ => False) unheard (p.situation id)
  selected : p.server.nextSong ≠ none

theorem unjoined_start (music : List MusicRow) (clock : Nat) (files : Int → SongFile) :
    (start music clock files).Unjoined files :=
  ⟨rfl, Server.dormant_start music clock, rfl, rfl⟩

theorem sound_start (music : List MusicRow) (clock : Nat) (files : Int → SongFile) :
    (start music clock files).Sound :=
  ⟨Server.agrees_start music clock, Server.rosterAgrees_start music clock,
    fun _ hr => (Server.mem_library (Server.library_run music clock []) hr).1⟩

theorem Unjoined.welcomed {files : Int → SongFile} (h : p.Unjoined files) (sound : p.Sound)
    (ip : String) (pending : p.updates = .authenticating) :
    (p.step (.authenticates ip)).Unjoined files ∨
      ∃ id, (p.step (.authenticates ip)).Welcomed files id := by
  have welcome := h.dormant.welcome sound.agrees ip
  have after : p.step (.authenticates ip) = p.authenticate ip := by
    rw [step, if_pos pending]
  rw [after, authenticate, welcome]
  cases choice : (p.server.joined ip .Speaker).candidate with
  | none =>
    left
    exact ⟨rfl, ⟨h.dormant.active, h.dormant.next, h.dormant.timer⟩, h.speaker, h.taken⟩
  | some song =>
    right
    refine ⟨p.server.db.sessionSequence + 1, ?_⟩
    let id := p.server.db.sessionSequence + 1
    let joined : Party := { p with server := p.server.joined ip .Speaker, updates := .asking id }
    have seated : (p.server.joined ip .Speaker).sessionMap id = some (Session.create id ip .Speaker) := by
      simp [Server.joined, id]
    have queue : (p.server.joined ip .Speaker).queueOf id = .empty := by
      unfold Server.queueOf
      rw [seated]
      rfl
    have linked : joined.Linked id := by
      refine ⟨sound.agrees, sound.roster.joined ip .Speaker, rfl, ⟨_, seated, rfl⟩, ?_⟩
      dsimp only [joined]
      rw [queue]
      exact polled_empty
    have unset : (p.server.joined ip .Speaker).nextSong = none := h.dormant.next
    have listed := Server.listed_speaker linked.roster linked.speaker
    have effect : Server.Effect id .getStats (p.server.joined ip .Speaker)
        (((p.server.joined ip .Speaker).selected song).broadcastUpdate (.upcoming_song song) .Speaker) :=
      Server.effect_select .getStats unset listed
    have heard : joined.situation id = unheard := by
      have silent : joined.server.activeID = none := by
        unfold Server.activeID
        rw [show joined.server.activeSong = none from h.dormant.active]
        rfl
      rw [situation_eq, silent, show joined.server.nextSong = none from unset,
        show joined.serverPlaybackQueue = [] from h.taken]
      dsimp only [joined]
      rw [queue]
      rfl
    have agrees : (((p.server.joined ip .Speaker).selected song).broadcastUpdate (.upcoming_song song)
        .Speaker).playback.Agrees := by
      have called := Server.agrees_call sound.agrees (.authenticateSpeaker (some "1234") ip)
      rw [Server.call, welcome, choice] at called
      exact called
    have roster : (((p.server.joined ip .Speaker).selected song).broadcastUpdate (.upcoming_song song)
        .Speaker).RosterAgrees := by
      have called := Server.rosterAgrees_call sound.agrees sound.roster
        (.authenticateSpeaker (some "1234") ip)
      rw [Server.call, welcome, choice] at called
      exact called
    obtain ⟨us, tells⟩ := effect.tells
    refine ⟨linked.told tells agrees roster, h.speaker, ?_, Option.some_ne_none song⟩
    rcases linked.moves agrees effect with moves | ⟨⟨songID, own⟩, -⟩
    · rw [heard] at moves
      exact Moves.mono (not_overwrites (by simp)) (fun songID report => by cases report) moves
    · cases own

theorem Unjoined.step {files : Int → SongFile} (h : p.Unjoined files) (sound : p.Sound)
    (e : PartyEvent) : (p.step e).Unjoined files ∨ ∃ id, (p.step e).Welcomed files id := by
  obtain ⟨client, dormant, speaker, taken⟩ := h
  have idle : p.step e = p → (p.step e).Unjoined files ∨ ∃ id, (p.step e).Welcomed files id := by
    intro same
    rw [same]
    exact Or.inl ⟨client, dormant, speaker, taken⟩
  have updates : p.updates = .authenticating ∨ p.updates = .exited := by
    unfold clientID at client
    cases updates : p.updates with
    | authenticating => exact Or.inl rfl
    | exited => exact Or.inr rfl
    | asking id =>
      rw [updates] at client
      cases client
    | waiting id ch =>
      rw [updates] at client
      cases client
  cases e with
  | calls c =>
    by_cases allowed : p.allows c = true
    · left
      have after : p.step (.calls c) = { p with server := p.server.call c } := by
        rw [Party.step, if_pos allowed]
      rw [after]
      refine ⟨client, ?_, speaker, taken⟩
      apply dormant.call sound.agrees sound.roster
      · rintro pin ip rfl
        cases allowed
      · rintro sessionID update rfl
        cases allowed
    · apply idle
      rw [Party.step, if_neg allowed]
  | authenticates ip =>
    by_cases pending : p.updates = .authenticating
    · exact Unjoined.welcomed ⟨client, dormant, speaker, taken⟩ sound ip pending
    · apply idle
      rw [Party.step, if_neg pending]
  | polls ch =>
    apply idle
    rcases updates with same | same <;> simp only [Party.step, same]
  | receives =>
    apply idle
    rcases updates with same | same <;> simp only [Party.step, same]
  | timesOut =>
    apply idle
    rcases updates with same | same <;> simp only [Party.step, same]
  | handles loads =>
    apply idle
    simp only [Party.step, taken]
  | listens found =>
    left
    have after : p.step (.listens found) = { p with speaker := p.speaker.poll found } := by
      rw [Party.step, if_pos taken]
    rw [after]
    refine ⟨client, dormant, ?_, taken⟩
    dsimp only
    rw [speaker, Speaker.poll, if_neg]
    rintro ⟨playing, -⟩
    cases playing
  | songEnds =>
    left
    refine ⟨client, dormant, ?_, taken⟩
    change p.speaker.endMusic = .start files
    rw [speaker]
    rfl
  | communicates readable =>
    apply idle
    rw [Party.step, if_pos client]

theorem happens (sound : p.Sound) {id : Int} (linked : p.Linked id)
    (genuine : ∀ message, p.speaker.posts = some message → message.status = .Playing →
      (p.situation id).next = some message.id) (e : PartyEvent) :
    p.Happens id e ∧ (p.step e).Linked id := by
  cases e with
  | calls c => exact calls_happens linked c
  | authenticates ip =>
    have same : p.step (.authenticates ip) = p := by
      rw [step, if_neg]
      intro pending
      have client := linked.client
      rw [clientID, pending] at client
      cases client
    exact idle_happens linked same
  | polls ch => exact polls_happens linked ch
  | receives => exact receives_happens linked
  | timesOut => exact timesOut_happens linked
  | handles loads => exact handles_happens linked loads
  | listens found => exact listens_happens linked found
  | songEnds => exact songEnds_happens linked
  | communicates readable => exact communicates_happens linked sound.positive readable genuine

end Party
end MusicCloud
