import MusicCloud.Party

/-!
What the server has decided about the songs, and what it has told the speaker
that the speaker has yet to hear. The server changes a situation by moves: it
selects a song, announces it, and sends commands. A new update may take the
place of the last one of its type.
-/
namespace MusicCloud
open Runs SessionUpdateQueue

namespace SessionUpdate

def command : SessionUpdate → Option PlaybackCommand
  | .playback_command command => some command
  | _ => none

def announced : SessionUpdate → Option Int
  | .upcoming_song song => some song.id
  | _ => none

end SessionUpdate

structure Situation where
  active : Option Int
  next : Option Int
  commands : List PlaybackCommand
  announcements : List Int

def Kept {α : Type} (lost : α → Prop) (older l : List α) : Prop :=
  l = older ∨ ∃ old, lost old ∧ l = older ++ [old]

/-- One move of the server other than the start of a song. A command that a Stop
    command takes the place of is one of `lost`, and a Play command is for a song that
    is `ready`. -/
inductive Situation.Move (lost : PlaybackCommand → Prop) (ready : Int → Prop) :
    Situation → Situation → Prop
  | announce (σ : Situation) (songID : Int) (older : List Int) (selected : σ.next = some songID)
      (kept : Kept (fun _ => True) older σ.announcements) :
      Situation.Move lost ready σ { σ with announcements := older ++ [songID] }
  | select (σ : Situation) (songID : Int) (older : List Int) (unset : σ.next = none)
      (other : σ.active ≠ some songID) (kept : Kept (fun _ => True) older σ.announcements) :
      Situation.Move lost ready σ { σ with next := some songID, announcements := older ++ [songID] }
  | play (σ : Situation) (songID : Int) (older : List PlaybackCommand) (selected : σ.next = some songID)
      (named : ready songID) (kept : Kept (fun _ => True) older σ.commands) :
      Situation.Move lost ready σ { σ with commands := older ++ [{ command := .Play, id := songID }] }
  | stop (σ : Situation) (songID : Int) (older : List PlaybackCommand) (running : σ.active = some songID)
      (kept : Kept lost older σ.commands) :
      Situation.Move lost ready σ { σ with commands := older ++ [{ command := .Stop, id := songID }] }

structure Situation.Hears (update : SessionUpdate) (σ τ : Situation) : Prop where
  active : τ.active = σ.active
  next : τ.next = σ.next
  commands : σ.commands = update.command.toList ++ τ.commands
  announcements : σ.announcements = update.announced.toList ++ τ.announcements

abbrev Situation.Moves (lost : PlaybackCommand → Prop) (ready : Int → Prop) :
    Situation → Situation → Prop :=
  Relation.ReflTransGen (Situation.Move lost ready)

def Situation.started (σ : Situation) : Situation := { σ with active := σ.next, next := none }

theorem Kept.sublist {α : Type} {lost : α → Prop} {older l : List α} (kept : Kept lost older l) :
    older.Sublist l := by
  rcases kept with rfl | ⟨old, -, rfl⟩
  · exact List.Sublist.refl l
  · exact List.sublist_append_left older [old]

theorem Kept.filterMap {α β : Type} {f : α → Option β} {older l : List α} {lost : α → Prop}
    {lost' : β → Prop} (kept : Kept lost older l)
    (typed : ∀ old, lost old → ∃ b, f old = some b ∧ lost' b) :
    Kept lost' (older.filterMap f) (l.filterMap f) := by
  rcases kept with rfl | ⟨old, gone, rfl⟩
  · exact Or.inl rfl
  · obtain ⟨b, same, gone'⟩ := typed old gone
    right
    refine ⟨b, gone', ?_⟩
    simp [same]

section Queue

/-- The situation, with what the playback thread has taken from its long polls. -/
def situationOf (active next : Option Int) (taken : List SessionUpdate) (poll : Option Channel)
    (q : SessionUpdateQueue SessionUpdate) : Situation :=
  { active := active, next := next
    commands := (taken ++ q.unread poll .playback_command).filterMap SessionUpdate.command
    announcements := (taken ++ q.unread poll .upcoming_song).filterMap SessionUpdate.announced }

variable (active next : Option Int) (taken : List SessionUpdate) {poll : Option Channel}
  {q : SessionUpdateQueue SessionUpdate} {isActive : Channel → Bool}

theorem heard_queueUpdate {β : Type} (f : SessionUpdate → Option β) (h : q.Polled isActive poll)
    {u : SessionUpdate} {b : β} (named : f u = some b)
    (typed : ∀ old, getUpdateType old = getUpdateType u → ∃ b, f old = some b) :
    ∃ older, Kept (fun b => ∃ old, f old = some b ∧ q.updates (getUpdateType u) = some old) older
        ((taken ++ q.unread poll (getUpdateType u)).filterMap f) ∧
      (taken ++ (q.queueUpdate isActive u).unread poll (getUpdateType u)).filterMap f =
        older ++ [b] := by
  obtain ⟨older, grown, before⟩ := h.unread_queueUpdate u
  refine ⟨(taken ++ older).filterMap f, ?_, ?_⟩
  · have kept : Kept (fun old => q.updates (getUpdateType u) = some old) (taken ++ older)
        (taken ++ q.unread poll (getUpdateType u)) := by
      rcases before with same | ⟨old, pending, same⟩
      · left
        rw [same]
      · right
        refine ⟨old, pending, ?_⟩
        rw [same, List.append_assoc]
    apply kept.filterMap
    intro old pending
    obtain ⟨b, known⟩ := typed old (h.consistent.typed _ old pending)
    exact ⟨b, known, old, known, pending⟩
  · rw [grown]
    simp [named]

theorem announcements_queueUpdate (h : q.Polled isActive poll) (song : Song) :
    ∃ older, Kept (fun _ => True) older (situationOf active next taken poll q).announcements ∧
      situationOf active next taken poll (q.queueUpdate isActive (.upcoming_song song)) =
        { situationOf active next taken poll q with announcements := older ++ [song.id] } := by
  have typed : ∀ old : SessionUpdate, getUpdateType old = .upcoming_song →
      ∃ b, old.announced = some b := by
    intro old type
    cases old with
    | upcoming_song other => exact ⟨other.id, rfl⟩
    | _ => cases type
  have named : SessionUpdate.announced (.upcoming_song song) = some song.id := rfl
  obtain ⟨older, kept, grown⟩ := heard_queueUpdate taken SessionUpdate.announced h named typed
  have others : (q.queueUpdate isActive (.upcoming_song song)).unread poll .playback_command =
      q.unread poll .playback_command := h.unread_other _ (fun same => by cases same)
  refine ⟨older, ?_, ?_⟩
  · rcases kept with same | ⟨old, -, same⟩
    · exact Or.inl same
    · exact Or.inr ⟨old, trivial, same⟩
  · unfold situationOf
    rw [others]
    exact congrArg (Situation.mk active next _) grown

theorem commands_queueUpdate (h : q.Polled isActive poll) (command : PlaybackCommand) :
    ∃ older, Kept (fun old => q.updates .playback_command = some (.playback_command old)) older
        (situationOf active next taken poll q).commands ∧
      situationOf active next taken poll (q.queueUpdate isActive (.playback_command command)) =
        { situationOf active next taken poll q with commands := older ++ [command] } := by
  have typed : ∀ old : SessionUpdate, getUpdateType old = .playback_command →
      ∃ b, old.command = some b := by
    intro old type
    cases old with
    | playback_command other => exact ⟨other, rfl⟩
    | _ => cases type
  have named : SessionUpdate.command (.playback_command command) = some command := rfl
  obtain ⟨older, kept, grown⟩ := heard_queueUpdate taken SessionUpdate.command h named typed
  have others : (q.queueUpdate isActive (.playback_command command)).unread poll .upcoming_song =
      q.unread poll .upcoming_song := h.unread_other _ (fun same => by cases same)
  refine ⟨older, ?_, ?_⟩
  · rcases kept with same | ⟨b, ⟨old, named, pending⟩, same⟩
    · exact Or.inl same
    · right
      refine ⟨b, ?_, same⟩
      cases old with
      | playback_command other =>
        cases named
        exact pending
      | _ => cases named
  · unfold situationOf
    rw [others]
    exact congrArg (fun commands => Situation.mk active next commands _) grown

theorem situationOf_requested (h : q.Polled isActive none) {ch : Channel} (unused : q.Unused ch) :
    situationOf active next taken (some ch) (q.queueRequest ch) =
      situationOf active next taken none q := by
  unfold situationOf
  rw [h.unread_queueRequest unused, h.unread_queueRequest unused]

theorem situationOf_received {update : SessionUpdate} (answered : q.answer poll = some update) :
    situationOf active next (taken ++ [update]) none q = situationOf active next taken poll q := by
  have none : q.answer Option.none = Option.none := rfl
  unfold situationOf unread
  rw [answered, none]
  cases update <;> simp [ofType, HasUpdateType.getUpdateType, SessionUpdate.command,
    SessionUpdate.announced, List.filterMap_cons]

theorem situationOf_unanswered (unanswered : q.answer poll = none) :
    situationOf active next taken none q = situationOf active next taken poll q := by
  have none : q.answer Option.none = Option.none := rfl
  unfold situationOf unread
  rw [unanswered, none]

theorem situationOf_heard (update : SessionUpdate) (rest : List SessionUpdate) :
    Situation.Hears update (situationOf active next (update :: rest) poll q)
      (situationOf active next rest poll q) := by
  refine ⟨rfl, rfl, ?_, ?_⟩
  · unfold situationOf
    cases update <;> simp [SessionUpdate.command, List.filterMap_cons]
  · unfold situationOf
    cases update <;> simp [SessionUpdate.announced, List.filterMap_cons]

theorem moves_announce (lost : PlaybackCommand → Prop) (ready : Int → Prop) (song : Song) (again : Nat)
    (h : q.Polled isActive poll) :
    Situation.Moves lost ready (situationOf active (some song.id) taken poll q)
      (situationOf active (some song.id) taken poll
        ((List.replicate again (SessionUpdate.upcoming_song song)).foldl
          (fun q u => q.queueUpdate isActive u) q)) := by
  induction again generalizing q with
  | zero => exact .refl
  | succ again ih =>
    rw [List.replicate_succ, List.foldl_cons]
    obtain ⟨older, kept, eq⟩ := announcements_queueUpdate active (some song.id) taken h song
    have first : Situation.Move lost ready (situationOf active (some song.id) taken poll q) _ :=
      .announce _ song.id older rfl kept
    rw [← eq] at first
    exact (Relation.ReflTransGen.single first).trans (ih (h.queueUpdate _))

end Queue

namespace Server
variable {s t : Server} {id : Int}

theorem sendUpdates_updateQueue (isActive : Channel → Bool) (us : List SessionUpdate)
    (session : Session) : (session.sendUpdates isActive us).updateQueue =
      us.foldl (fun q u => q.queueUpdate isActive u) session.updateQueue := by
  induction us generalizing session with
  | nil => rfl
  | cons u us ih => exact ih (session.sendUpdate isActive u)

theorem Tells.queue {us : List SessionUpdate} (tells : Tells id us s t) (speaker : s.isSpeaker id) :
    t.queueOf id = us.foldl (fun q u => q.queueUpdate s.isActive u) (s.queueOf id) := by
  obtain ⟨session, live, -⟩ := speaker
  have after := tells.session
  rw [live, Option.map_some] at after
  unfold queueOf
  rw [after, live]
  exact sendUpdates_updateQueue s.isActive us session

theorem Tells.isActive {us : List SessionUpdate} (tells : Tells id us s t) :
    t.isActive = s.isActive := by
  funext ch
  unfold Server.isActive
  rw [tells.channels]

theorem Tells.speaker {us : List SessionUpdate} (tells : Tells id us s t)
    (speaker : s.isSpeaker id) : t.isSpeaker id := by
  obtain ⟨session, live, type⟩ := speaker
  have after := tells.session
  rw [live, Option.map_some] at after
  exact ⟨_, after, by simpa using type⟩

theorem Effect.tells {c : Call} (effect : Effect id c s t) : ∃ us, Tells id us s t := by
  cases effect with
  | quiet tells => exact ⟨_, tells⟩
  | selects song again tells => exact ⟨_, tells⟩
  | repeats song tells => exact ⟨_, tells⟩
  | plays song report tells => exact ⟨_, tells⟩
  | stops songID task _ _ _ tells => exact ⟨_, tells⟩
  | starts song own tells => exact ⟨_, tells⟩

end Server

theorem polled_foldl {isActive : Channel → Bool} {poll : Option Channel}
    {q : SessionUpdateQueue SessionUpdate} (h : q.Polled isActive poll) (us : List SessionUpdate) :
    (us.foldl (fun q u => q.queueUpdate isActive u) q).Polled isActive poll := by
  induction us generalizing q with
  | nil => exact h
  | cons u us ih => exact ih (h.queueUpdate u)

namespace Party

def situation (p : Party) (id : Int) : Situation :=
  situationOf p.server.activeID (p.server.nextSong.map Song.id) p.serverPlaybackQueue p.poll
    (p.server.queueOf id)

structure Linked (p : Party) (id : Int) : Prop where
  agrees : p.server.playback.Agrees
  roster : p.server.RosterAgrees
  client : p.clientID = some id
  speaker : p.server.isSpeaker id
  polled : (p.server.queueOf id).Polled p.server.isActive p.poll

def Overwrites (p : Party) (id : Int) (c : Call) (old : PlaybackCommand) : Prop :=
  (∃ task ∈ p.server.songTimer, c = .fireTask task ∧ task.action = .stopActiveSong) ∧
    (p.server.queueOf id).updates .playback_command = some (.playback_command old)

variable {p : Party} {id : Int}

theorem Linked.told (h : p.Linked id) {us : List SessionUpdate} {t : Server}
    (tells : Server.Tells id us p.server t) (agrees : t.playback.Agrees) (roster : t.RosterAgrees) :
    ({ p with server := t } : Party).Linked id := by
  refine ⟨agrees, roster, h.client, tells.speaker h.speaker, ?_⟩
  rw [tells.queue h.speaker, tells.isActive]
  exact polled_foldl h.polled us

theorem Linked.moves (h : p.Linked id) {c : Call} {t : Server} (agrees : t.playback.Agrees)
    (effect : Server.Effect id c p.server t) :
    Situation.Moves (p.Overwrites id c) (fun songID => c = Server.statusReport id songID .Ready)
        (p.situation id) (({ p with server := t } : Party).situation id) ∨
      (∃ songID, c = Server.statusReport id songID .Playing) ∧ (p.situation id).next ≠ none ∧
        ({ p with server := t } : Party).situation id = (p.situation id).started := by
  have before : ∀ next, p.server.nextSong = next → p.situation id = situationOf p.server.activeID
      (next.map Song.id) p.serverPlaybackQueue p.poll (p.server.queueOf id) := by
    rintro next rfl
    rfl
  have after : ({ p with server := t } : Party).situation id = situationOf t.activeID
      (t.nextSong.map Song.id) p.serverPlaybackQueue p.poll (t.queueOf id) := rfl
  rw [after]
  cases effect with
  | quiet tells active next =>
    left
    rw [active, next, tells.queue h.speaker]
    exact .refl
  | selects song again tells active unset next =>
    left
    have other : p.server.activeID ≠ some song.id := by
      intro same
      rw [← active] at same
      obtain ⟨running, found, named⟩ := Option.map_eq_some_iff.mp same
      exact Server.next_not_active agrees ⟨song, next, rfl⟩ ⟨running, found, named.symm⟩
    obtain ⟨older, kept, eq⟩ := announcements_queueUpdate p.server.activeID (some song.id)
      p.serverPlaybackQueue h.polled song
    have selected : Situation.Move (p.Overwrites id c)
      (fun songID => c = Server.statusReport id songID .Ready) (situationOf p.server.activeID none
      p.serverPlaybackQueue p.poll (p.server.queueOf id)) _ := .select _ song.id older rfl other kept
    have rest := moves_announce p.server.activeID p.serverPlaybackQueue (p.Overwrites id c)
      (fun songID => c = Server.statusReport id songID .Ready) song
      again (h.polled.queueUpdate (.upcoming_song song))
    rw [eq] at rest
    rw [before none unset, active, next, tells.queue h.speaker, List.replicate_succ, List.foldl_cons]
    exact Relation.ReflTransGen.head selected rest
  | repeats song tells active selected next =>
    left
    rw [before _ selected, active, next, tells.queue h.speaker]
    exact moves_announce _ _ _ _ song 1 h.polled
  | plays song report tells active selected next =>
    left
    rw [before _ selected, active, next, tells.queue h.speaker]
    obtain ⟨older, kept, eq⟩ := commands_queueUpdate p.server.activeID (some song.id)
      p.serverPlaybackQueue h.polled { command := .Play, id := song.id }
    apply Relation.ReflTransGen.single
    rw [List.foldl_cons, List.foldl_nil, Option.map_some, eq]
    apply Situation.Move.play _ _ _ rfl report
    rcases kept with same | ⟨old, -, same⟩
    · exact Or.inl same
    · exact Or.inr ⟨old, trivial, same⟩
  | stops songID task fires scheduled stop tells active running next =>
    left
    rw [active, next, tells.queue h.speaker]
    obtain ⟨older, kept, eq⟩ := commands_queueUpdate p.server.activeID
      (p.server.nextSong.map Song.id) p.serverPlaybackQueue h.polled { command := .Stop, id := songID }
    apply Relation.ReflTransGen.single
    rw [List.foldl_cons, List.foldl_nil, eq]
    apply Situation.Move.stop _ _ _ running
    rcases kept with same | ⟨old, pending, same⟩
    · exact Or.inl same
    · exact Or.inr ⟨old, ⟨⟨task, scheduled, fires, stop⟩, pending⟩, same⟩
  | starts song own tells selected active next =>
    right
    rw [before _ selected, active, next, tells.queue h.speaker]
    exact ⟨⟨song.id, own⟩, Option.some_ne_none _, rfl⟩

end Party

end MusicCloud
