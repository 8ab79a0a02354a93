import MusicCloud.Situations

/-!
What one event does to the speaker and to its situation. Once the speaker has
authenticated, `Happens` lists all the cases; the long polls in between change
neither.
-/
namespace MusicCloud
open Runs SessionUpdateQueue

namespace Party

/-- What an event does to the speaker and its situation. -/
inductive Happens (p : Party) (id : Int) (e : PartyEvent) : Prop
  | calls (c : Call) (event : e = .calls c) (speaker : (p.step e).speaker = p.speaker)
      (moves : Situation.Moves (p.Overwrites id c) (fun _ => False) (p.situation id)
        ((p.step e).situation id))
  | waits (speaker : (p.step e).speaker = p.speaker)
      (situation : (p.step e).situation id = p.situation id)
  | hears (update : SessionUpdate) (loads : Bool) (event : e = .handles loads)
      (first : p.serverPlaybackQueue.head? = some update)
      (speaker : (p.step e).speaker = p.speaker.handle update loads)
      (situation : Situation.Hears update (p.situation id) ((p.step e).situation id))
  | listens (found : Bool) (speaker : (p.step e).speaker = p.speaker.poll found)
      (situation : (p.step e).situation id = p.situation id)
  | ends (speaker : (p.step e).speaker = p.speaker.endMusic)
      (situation : (p.step e).situation id = p.situation id)
  | works (readable : Bool) (event : e = .communicates readable)
      (known : p.serves readable = true → ∃ songID, p.speaker.comm = .requesting songID ∧ 0 ≤ songID)
      (silent : p.speaker.posts = none)
      (speaker : (p.step e).speaker = p.speaker.communicate (p.serves readable))
      (situation : (p.step e).situation id = p.situation id)
  | reports (message : Message) (event : ∃ readable, e = .communicates readable)
      (posts : p.speaker.posts = some message)
      (speaker : (p.step e).speaker = p.speaker.communicate false)
      (moves : Situation.Moves (fun _ => False)
        (fun songID => message = { id := songID, status := .Ready }) (p.situation id)
        ((p.step e).situation id))
      (ready : message.status = .Ready → (p.situation id).next = some message.id →
        { command := .Play, id := message.id } ∈ ((p.step e).situation id).commands)
      (refused : message.status = .Playing → ∃ song, p.server.nextSong = some song ∧
        ¬ p.server.accepts (Server.selectionDelay song))
  | starts (message : Message) (posts : p.speaker.posts = some message)
      (playing : message.status = .Playing) (named : (p.situation id).next = some message.id)
      (speaker : (p.step e).speaker = p.speaker.communicate false)
      (situation : (p.step e).situation id = (p.situation id).started)

variable {p : Party} {id : Int}

section Sound

/-- What holds of the server whatever happens. -/
structure Sound (p : Party) : Prop where
  agrees : p.server.playback.Agrees
  roster : p.server.RosterAgrees
  positive : ∀ r ∈ p.server.db.songs, 0 < r.id

theorem step_server (p : Party) (e : PartyEvent) :
    (p.step e).server = p.server ∨ ∃ c, (p.step e).server = p.server.call c := by
  cases e with
  | calls c =>
    unfold step
    dsimp only
    split
    · exact Or.inr ⟨c, rfl⟩
    · exact Or.inl rfl
  | authenticates ip =>
    unfold step
    dsimp only
    split
    · right
      refine ⟨.authenticateSpeaker (some "1234") ip, ?_⟩
      unfold authenticate Server.call
      dsimp only
      cases p.server.speakerAuthenticate (some "1234") ip with
      | ok response s => cases response <;> rfl
      | error e s => rfl
    · exact Or.inl rfl
  | polls ch =>
    unfold step
    dsimp only
    split
    · rename_i id _
      split
      · exact Or.inr ⟨.registerRequest id ch, rfl⟩
      · exact Or.inl rfl
    · exact Or.inl rfl
  | receives =>
    unfold step
    dsimp only
    split
    · split <;> exact Or.inl rfl
    · exact Or.inl rfl
  | timesOut =>
    unfold step
    dsimp only
    split
    · rename_i ch _
      split
      · exact Or.inl rfl
      · exact Or.inr ⟨.channelClosed ch, rfl⟩
    · exact Or.inl rfl
  | handles _ | listens _ =>
    unfold step
    dsimp only
    split <;> exact Or.inl rfl
  | songEnds => exact Or.inl rfl
  | communicates readable =>
    unfold step
    dsimp only
    split
    · exact Or.inl rfl
    · unfold posted
      dsimp only
      split
      · exact Or.inr ⟨_, rfl⟩
      · exact Or.inl rfl

theorem Sound.step (h : p.Sound) (e : PartyEvent) : (p.step e).Sound := by
  rcases step_server p e with same | ⟨c, called⟩
  · constructor
    · rw [same]
      exact h.agrees
    · rw [same]
      exact h.roster
    · rw [same]
      exact h.positive
  · constructor
    · rw [called]
      exact Server.agrees_call h.agrees c
    · rw [called]
      exact Server.rosterAgrees_call h.agrees h.roster c
    · rw [called]
      exact Server.positive_of_songIds (Server.songIds_of_changes (Server.changes_call h.agrees c)) h.positive

end Sound

section Moves

theorem Moves.mono {lost lost' : PlaybackCommand → Prop} {ready ready' : Int → Prop}
    (weaker : ∀ old, lost old → lost' old) (named : ∀ songID, ready songID → ready' songID)
    {σ τ : Situation} (moves : Situation.Moves lost ready σ τ) : Situation.Moves lost' ready' σ τ := by
  have each : ∀ σ τ, Situation.Move lost ready σ τ → Situation.Move lost' ready' σ τ := by
    intro σ τ move
    cases move with
    | announce songID older selected kept => exact .announce σ songID older selected kept
    | select songID older unset other kept => exact .select σ songID older unset other kept
    | play songID older selected isReady kept =>
      exact .play σ songID older selected (named songID isReady) kept
    | stop songID older running kept =>
      apply Situation.Move.stop σ songID older running
      rcases kept with same | ⟨old, gone, same⟩
      · exact Or.inl same
      · exact Or.inr ⟨old, weaker old gone, same⟩
  exact Relation.ReflTransGen.mono each _ _ moves

theorem Moves.next {lost : PlaybackCommand → Prop} {ready : Int → Prop} {σ τ : Situation}
    (moves : Situation.Moves lost ready σ τ) {songID : Int} (selected : σ.next = some songID) :
    τ.next = some songID := by
  induction moves with
  | refl => exact selected
  | tail _ move ih =>
    cases move with
    | announce other older _ kept => exact ih
    | select other older unset _ kept =>
      rw [unset] at ih
      cases ih
    | play other older _ _ kept => exact ih
    | stop other older _ kept => exact ih

end Moves

section Polling
variable (h : p.Linked id)

theorem situation_eq (p : Party) (id : Int) : p.situation id =
    situationOf p.server.activeID (p.server.nextSong.map Song.id) p.serverPlaybackQueue p.poll
      (p.server.queueOf id) := rfl

include h

theorem foreign_of_allowed {c : Call} (allowed : p.allows c = true) :
    Server.Foreign id c = true ∨ ∃ ch, c = .channelClosed ch ∧ p.poll ≠ some ch := by
  obtain ⟨solitary, spares⟩ := (Bool.and_eq_true _ _).mp allowed
  cases c with
  | authenticateSpeaker pin ip => cases solitary
  | speakerStatusUpdate sessionID update => cases solitary
  | destroySession sessionID | registerRequest sessionID _ =>
    left
    have other : p.clientID ≠ some sessionID := of_decide_eq_true spares
    rw [h.client] at other
    apply decide_eq_true
    rintro rfl
    exact other rfl
  | channelClosed ch => exact Or.inr ⟨ch, rfl, of_decide_eq_true solitary⟩
  | _ => exact Or.inl rfl

theorem idle_happens {e : PartyEvent} (same : p.step e = p) :
    p.Happens id e ∧ (p.step e).Linked id := by
  rw [same]
  exact ⟨.waits (by rw [same]) (by rw [same]), h⟩

theorem calls_happens (c : Call) :
    p.Happens id (.calls c) ∧ (p.step (.calls c)).Linked id := by
  by_cases allowed : p.allows c = true
  · have after : p.step (.calls c) = { p with server := p.server.call c } := by
      rw [step, if_pos allowed]
    have agrees := Server.agrees_call h.agrees c
    have roster := Server.rosterAgrees_call h.agrees h.roster c
    rcases foreign_of_allowed h allowed with foreign | ⟨ch, rfl, other⟩
    · have effect := Server.effect_call h.agrees h.roster h.speaker foreign
      obtain ⟨us, tells⟩ := effect.tells
      constructor
      · rcases h.moves agrees effect with moves | ⟨⟨songID, own⟩, -⟩
        · refine .calls c rfl ?_ ?_
          · rw [after]
          · rw [after]
            apply Moves.mono (fun _ gone => gone) _ moves
            rintro songID rfl
            cases foreign
        · rw [own] at foreign
          cases foreign
      · rw [after]
        exact h.told tells agrees roster
    · have fewer : ∀ c, (p.server.call (.channelClosed ch)).isActive c = true →
          p.server.isActive c = true := by
        intro c
        simp [Server.call, Server.isActive]
      constructor
      · refine .waits ?_ ?_
        · rw [after]
        · rw [after]
          rfl
      · rw [after]
        refine ⟨agrees, roster, h.client, h.speaker, h.polled.closed fewer ?_⟩
        intro c polls
        have active := h.polled.active c polls
        have differs : c ≠ ch := by
          rintro rfl
          exact other polls
        simp only [Server.isActive, Bool.not_eq_true'] at active
        simp only [Server.call, Server.isActive, List.contains_cons, active, Bool.or_false,
          Bool.not_eq_true']
        simpa using differs
  · have after : p.step (.calls c) = p := by
      rw [step, if_neg allowed]
    exact idle_happens h after

theorem polls_happens (ch : Channel) :
    p.Happens id (.polls ch) ∧ (p.step (.polls ch)).Linked id := by
  cases updates : p.updates with
  | asking own =>
    have client := h.client
    rw [clientID, updates] at client
    cases client
    have quiet : p.poll = none := by rw [poll, updates]
    by_cases free : (p.server.queueOf id).Unused ch ∧ p.server.isActive ch = true
    · have after : p.step (.polls ch) =
          { p with server := p.server.call (.registerRequest id ch), updates := .waiting id ch } := by
        simp only [step, updates]
        rw [if_pos free]
      obtain ⟨session, live, type⟩ := h.speaker
      have registered : p.server.call (.registerRequest id ch) = p.server.parked id session ch := by
        rw [Server.call, Server.registerRequest_apply, live, finalState_ok]
      have queue : (p.server.call (.registerRequest id ch)).queueOf id =
          (p.server.queueOf id).queueRequest ch := by
        rw [registered]
        unfold Server.queueOf
        rw [live]
        simp [Server.parked, Session.assignRequest]
      have songs : (p.server.call (.registerRequest id ch)).activeID = p.server.activeID ∧
          (p.server.call (.registerRequest id ch)).nextSong = p.server.nextSong ∧
          (p.server.call (.registerRequest id ch)).isActive = p.server.isActive := by
        rw [registered]
        exact ⟨rfl, rfl, rfl⟩
      have polled := h.polled
      rw [quiet] at polled
      constructor
      · refine .waits (by rw [after]) ?_
        rw [after, situation_eq, situation_eq, quiet]
        dsimp only
        rw [queue, songs.1, songs.2.1]
        exact situationOf_requested _ _ _ polled free.1
      · rw [after]
        have roster := Server.rosterAgrees_call h.agrees h.roster (.registerRequest id ch)
        refine ⟨Server.agrees_call h.agrees _, roster, rfl, ?_, ?_⟩
        · refine ⟨session.assignRequest ch, ?_, type⟩
          dsimp only
          rw [registered]
          simp [Server.parked]
        · dsimp only
          rw [queue, songs.2.2]
          exact polled.queueRequest free.2 free.1
    · apply idle_happens h
      simp only [step, updates]
      rw [if_neg free]
  | authenticating => exact idle_happens h (by simp only [step, updates])
  | waiting own other => exact idle_happens h (by simp only [step, updates])
  | exited => exact idle_happens h (by simp only [step, updates])

theorem receives_happens : p.Happens id .receives ∧ (p.step .receives).Linked id := by
  cases updates : p.updates with
  | waiting own ch =>
    have client := h.client
    rw [clientID, updates] at client
    cases client
    have waits : p.poll = some ch := by rw [poll, updates]
    cases answer : (p.server.queueOf id).answer (some ch) with
    | none =>
      apply idle_happens h
      simp only [step, updates]
      rw [answer]
    | some update =>
      have after : p.step .receives = { p with
          updates := .asking id, serverPlaybackQueue := p.serverPlaybackQueue ++ [update] } := by
        simp only [step, updates]
        rw [answer]
      constructor
      · refine .waits (by rw [after]) ?_
        rw [after, situation_eq, situation_eq, waits]
        exact situationOf_received _ _ _ answer
      · rw [after]
        refine ⟨h.agrees, h.roster, rfl, h.speaker, ?_⟩
        apply h.polled.ended (fun _ active => active)
        intro other polls none
        rw [waits, answer] at none
        cases none
  | authenticating => exact idle_happens h (by simp only [step, updates])
  | asking own => exact idle_happens h (by simp only [step, updates])
  | exited => exact idle_happens h (by simp only [step, updates])

theorem timesOut_happens : p.Happens id .timesOut ∧ (p.step .timesOut).Linked id := by
  cases updates : p.updates with
  | waiting own ch =>
    have client := h.client
    rw [clientID, updates] at client
    cases client
    have waits : p.poll = some ch := by rw [poll, updates]
    cases answer : (p.server.queueOf id).answer (some ch) with
    | some update =>
      apply idle_happens h
      simp only [step, updates]
      rw [answer]
    | none =>
      have after : p.step .timesOut =
          { p with server := p.server.call (.channelClosed ch), updates := .asking id } := by
        simp only [step, updates]
        rw [answer]
      constructor
      · refine .waits (by rw [after]) ?_
        rw [after, situation_eq, situation_eq, waits]
        exact situationOf_unanswered _ _ _ answer
      · rw [after]
        have roster := Server.rosterAgrees_call h.agrees h.roster (.channelClosed ch)
        refine ⟨Server.agrees_call h.agrees _, roster, rfl, h.speaker, ?_⟩
        apply h.polled.ended
        · intro other
          simp [Server.call, Server.isActive]
        · intro other polls _
          rw [waits] at polls
          cases polls
          simp [Server.call, Server.isActive]
  | authenticating => exact idle_happens h (by simp only [step, updates])
  | asking own => exact idle_happens h (by simp only [step, updates])
  | exited => exact idle_happens h (by simp only [step, updates])

theorem handles_happens (loads : Bool) :
    p.Happens id (.handles loads) ∧ (p.step (.handles loads)).Linked id := by
  cases taken : p.serverPlaybackQueue with
  | nil =>
    have after : p.step (.handles loads) = p := by simp only [step, taken]
    exact idle_happens h after
  | cons update rest =>
    have after : p.step (.handles loads) =
        { p with speaker := p.speaker.handle update loads, serverPlaybackQueue := rest } := by
      simp only [step, taken]
    constructor
    · refine .hears update loads rfl (by rw [taken]; rfl) (by rw [after]) ?_
      rw [after, situation_eq, situation_eq, taken]
      exact situationOf_heard _ _ update rest
    · rw [after]
      exact ⟨h.agrees, h.roster, h.client, h.speaker, h.polled⟩

theorem listens_happens (found : Bool) :
    p.Happens id (.listens found) ∧ (p.step (.listens found)).Linked id := by
  by_cases empty : p.serverPlaybackQueue = []
  · have after : p.step (.listens found) = { p with speaker := p.speaker.poll found } := by
      rw [step, if_pos empty]
    constructor
    · refine .listens found (by rw [after]) ?_
      rw [after]
      rfl
    · rw [after]
      exact ⟨h.agrees, h.roster, h.client, h.speaker, h.polled⟩
  · have after : p.step (.listens found) = p := by
      rw [step, if_neg empty]
    exact idle_happens h after

theorem songEnds_happens : p.Happens id .songEnds ∧ (p.step .songEnds).Linked id :=
  ⟨.ends rfl rfl, h.agrees, h.roster, h.client, h.speaker, h.polled⟩

end Polling

section Reports

theorem not_overwrites {c : Call} (other : ∀ task, c ≠ .fireTask task) (old : PlaybackCommand) :
    p.Overwrites id c old → False := by
  rintro ⟨⟨task, -, same, -⟩, -⟩
  exact other task same

theorem serves_known {readable : Bool} (served : p.serves readable = true) :
    ∃ songID, p.speaker.comm = .requesting songID ∧ 0 ≤ songID := by
  unfold serves at served
  split at served
  · rename_i songID here
    refine ⟨songID, here, ?_⟩
    by_contra negative
    have below : songID < 0 := by omega
    rw [Server.getSongData, if_pos below] at served
    cases served
  · cases served

theorem serves_posting {readable : Bool} {message : Message}
    (posts : p.speaker.posts = some message) : p.serves readable = false := by
  unfold serves
  split
  · rename_i songID here
    rw [Speaker.posts, here] at posts
    cases posts
  · rfl

variable (h : p.Linked id)
include h

theorem posted_eq {message : Message} (posts : p.speaker.posts = some message) :
    p.posted = p.server.call (.speakerStatusUpdate id
      (some { id := message.id, status := message.status.report })) := by
  unfold posted
  rw [h.client, posts]

theorem effect_posted {message : Message} (posts : p.speaker.posts = some message)
    (other : message.status ≠ .Playing) : Server.Effect id (.speakerStatusUpdate id
      (some { id := message.id, status := message.status.report })) p.server p.posted := by
  rw [posted_eq h posts]
  cases status : message.status with
  | Playing => exact absurd status other
  | Ready => exact Server.effect_ready h.roster h.speaker message.id
  | Stopped => exact Server.effect_stopped h.roster h.speaker _ message.id
  | need_song =>
    have same : p.server.call (.speakerStatusUpdate id (some { id := message.id, status := none })) =
        p.server := by
      rw [Server.call, Server.speakerStatusUpdate_apply]
      split <;> rfl
    rw [MessageStatus.report, same]
    exact (Server.Unheard.refl id p.server).effect _

theorem effect_posted_playing (positive : ∀ r ∈ p.server.db.songs, 0 < r.id) {message : Message}
    (posts : p.speaker.posts = some message) (playing : message.status = .Playing) {song : Song}
    (selected : p.server.nextSong = some song) (same : song.id = message.id) :
    p.posted = p.server.reported id song.id .Playing ∧
      Server.Effect id (Server.statusReport id song.id .Playing) p.server p.posted := by
  have reported : p.posted = p.server.reported id song.id .Playing := by
    rw [posted_eq h posts, playing, ← same]
    rfl
  refine ⟨reported, ?_⟩
  rw [reported]
  exact Server.effect_playing h.agrees h.roster h.speaker positive selected

theorem moves_posted {message : Message} (posts : p.speaker.posts = some message)
    (other : message.status ≠ .Playing) :
    Situation.Moves (fun _ => False) (fun songID => message = { id := songID, status := .Ready })
        (p.situation id) (({ p with server := p.posted } : Party).situation id) ∧
      ∃ us, Server.Tells id us p.server p.posted := by
  have effect := effect_posted h posts other
  refine ⟨?_, effect.tells⟩
  have agrees : p.posted.playback.Agrees := by
    rw [posted_eq h posts]
    exact Server.agrees_call h.agrees _
  obtain ⟨named, status⟩ := message
  rcases h.moves agrees effect with moves | ⟨⟨songID, own⟩, -⟩
  · apply Moves.mono (not_overwrites (by simp)) _ moves
    intro songID report
    cases status <;> cases report
    rfl
  · cases status with
    | Playing => exact absurd rfl other
    | _ => cases own

theorem play_posted {message : Message} (posts : p.speaker.posts = some message)
    (ready : message.status = .Ready) (named : (p.situation id).next = some message.id) :
    { command := .Play, id := message.id } ∈
      (({ p with server := p.posted } : Party).situation id).commands := by
  obtain ⟨song, selected, same⟩ := Option.map_eq_some_iff.mp named
  have tells := Server.ready_plays h.roster h.speaker selected
  have queue := tells.queue h.speaker
  have reported : p.posted = p.server.reported id song.id .Ready := by
    rw [posted_eq h posts, ready, ← same]
    rfl
  obtain ⟨older, -, eq⟩ := commands_queueUpdate p.posted.activeID (p.posted.nextSong.map Song.id)
    p.serverPlaybackQueue h.polled { command := .Play, id := song.id }
  have after : ({ p with server := p.posted } : Party).situation id = situationOf p.posted.activeID
      (p.posted.nextSong.map Song.id) p.serverPlaybackQueue p.poll (p.posted.queueOf id) := rfl
  have answered : p.posted.queueOf id = (p.server.queueOf id).queueUpdate p.server.isActive
      (.playback_command { command := .Play, id := song.id }) := by
    rw [reported, queue]
    rfl
  rw [after, answered, eq, ← same]
  simp

theorem communicates_happens (positive : ∀ r ∈ p.server.db.songs, 0 < r.id) (readable : Bool)
    (genuine : ∀ message, p.speaker.posts = some message → message.status = .Playing →
      (p.situation id).next = some message.id) :
    p.Happens id (.communicates readable) ∧ (p.step (.communicates readable)).Linked id := by
  have after : p.step (.communicates readable) = { p with
      server := p.posted, speaker := p.speaker.communicate (p.serves readable) } := by
    rw [step, if_neg]
    rw [h.client]
    exact Option.some_ne_none id
  have linked : ∀ t : Server, t.playback.Agrees → t.RosterAgrees →
      (∃ us, Server.Tells id us p.server t) → p.posted = t →
        (p.step (.communicates readable)).Linked id := by
    rintro t agrees roster ⟨us, tells⟩ rfl
    have told := h.told tells agrees roster
    rw [after]
    exact ⟨told.agrees, told.roster, told.client, told.speaker, told.polled⟩
  cases posts : p.speaker.posts with
  | none =>
    have silent : p.posted = p.server := by
      unfold posted
      rw [posts]
      split
      · rename_i none
        cases none
      · rfl
    refine ⟨.works readable rfl serves_known posts ?_ ?_, ?_⟩
    · rw [after]
    · rw [after, silent]
      rfl
    · exact linked p.server h.agrees h.roster ⟨[], Server.tells_of_same rfl rfl⟩ silent
  | some message =>
    have agrees : p.posted.playback.Agrees := by
      rw [posted_eq h posts]
      exact Server.agrees_call h.agrees _
    have roster : p.posted.RosterAgrees := by
      rw [posted_eq h posts]
      exact Server.rosterAgrees_call h.agrees h.roster _
    have speaker : (p.step (.communicates readable)).speaker = p.speaker.communicate false := by
      rw [after, serves_posting posts]
    by_cases playing : message.status = .Playing
    · have named := genuine message posts playing
      obtain ⟨song, selected, same⟩ := Option.map_eq_some_iff.mp named
      obtain ⟨reported, effect⟩ := effect_posted_playing h positive posts playing selected same
      refine ⟨?_, linked p.posted agrees roster effect.tells rfl⟩
      rcases h.moves agrees effect with moves | ⟨-, -, started⟩
      · refine .reports message ⟨readable, rfl⟩ posts speaker ?_ ?_ ?_
        · rw [after]
          apply Moves.mono (not_overwrites (by simp [Server.statusReport])) _ moves
          intro songID report
          cases report
        · intro ready
          rw [playing] at ready
          cases ready
        · intro _
          refine ⟨song, selected, ?_⟩
          intro accepted
          have unset := (Server.playing_starts h.agrees h.roster h.speaker positive selected
            accepted).1
          have kept : p.posted.nextSong.map Song.id = some message.id := Moves.next moves named
          rw [reported, unset] at kept
          cases kept
      · refine .starts message posts playing named speaker ?_
        rw [after]
        exact started
    · obtain ⟨moves, tells⟩ := moves_posted h posts playing
      refine ⟨.reports message ⟨readable, rfl⟩ posts speaker ?_ ?_ ?_, linked p.posted agrees roster tells rfl⟩
      · rw [after]
        exact moves
      · intro ready named
        rw [after]
        exact play_posted h posts ready named
      · intro no
        exact absurd no playing

end Reports

end Party
end MusicCloud
