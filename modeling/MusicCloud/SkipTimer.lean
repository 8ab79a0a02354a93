import MusicCloud.Skipping

/-!
The timer's thread. It takes a task off the queue, after which `cancel` has no
effect, and runs its body when it gets the lock of `SongManager`; calls and
decisions of `dislike` come in between. The stop task of a skip reads the song
to stop when it runs. `decided` is a history: the song that was active when a
task was scheduled.
-/
namespace MusicCloud
open Runs

structure Timed where
  server : Server
  /-- Taken off the queue, waiting for the lock. -/
  running : Option TimerTask
  decided : TimerTask → Option Int

inductive Tick where
  | call (c : Call)
  | decideSkip (stats : LikeData)
  | takes (task : TimerTask)
  | runs

namespace Timed

def start (music : List MusicRow) (clock : Nat) : Timed :=
  { server := .start music clock, running := none, decided := fun _ => none }

def move (s : Timed) (server : Server) (running : Option TimerTask) : Timed :=
  { server := server
    running := running
    decided := fun task =>
      if task ∈ server.songTimer ∧ task ∉ s.server.songTimer then
        s.server.activeSong.map fun a => a.id
      else s.decided task }

/-- Tasks run in the two steps of the timer's thread only. -/
def step (s : Timed) : Tick → Timed
  | .call (.fireTask _) => s
  | .call c => s.move (s.server.call c) s.running
  | .decideSkip stats => s.move (finalState (Server.decideSkip stats s.server)) s.running
  | .takes task =>
    if task ∈ s.server.songTimer ∧ s.running = none then
      s.move { s.server with songTimer := s.server.songTimer.erase task } (some task)
    else s
  | .runs =>
    match s.running with
    | some task => s.move (finalState (Server.runTask task.action s.server)) none
    | none => s

def Pending (s : Timed) (task : TimerTask) : Prop :=
  task ∈ s.server.songTimer ∨ s.running = some task

/-- What a stop task hands to the sessions is the Stop command for the song that
    was active when its skip was decided. -/
def StopsDecided (s : Timed) (e : Tick) : Prop :=
  ∀ task, e = .runs → s.running = some task → task.action = .stopActiveSong → ∀ id,
    ∀ update ∈ ((s.step e).server.handedTo id).drop (s.server.handedTo id).length,
      ∃ songID, update = .playback_command { command := .Stop, id := songID } ∧
        s.decided task = some songID

/-- When a song starts, the pending stop task is still on the timer's queue, and
    is the task that `songTimerTask` refers to. -/
def CancelsStops (s : Timed) (e : Tick) : Prop :=
  ∀ c next, e = .call c → s.server.startsNext c = some next →
    ∀ task, s.Pending task → task.action = .stopActiveSong →
      s.running ≠ some task ∧ s.server.songTimerTask = some task.id

section Step
variable {s : Timed}

/-- A pending stop task was decided on the song that is active. -/
structure Punctual (s : Timed) : Prop where
  agrees : s.server.playback.Agrees
  positive : ∀ r ∈ s.server.db.songs, 0 < r.id
  decided : ∀ task, s.Pending task → task.action = .stopActiveSong →
    s.decided task = s.server.activeSong.map fun a => a.id

theorem handedTo_broadcastUpdate (server : Server) (update : SessionUpdate) (type : SessionType)
    (id : Int) : ∃ n, (server.broadcastUpdate update type).handedTo id =
      server.handedTo id ++ List.replicate n update := by
  unfold Server.handedTo
  rw [Server.broadcastUpdate_sessionMap]
  cases server.sessionMap id with
  | none => exact ⟨0, rfl⟩
  | some session => exact ⟨_, Session.sendUpdates_handed _ _ _⟩

theorem Punctual.stops (h : s.Punctual) (e : Tick) : s.StopsDecided e := by
  rintro task rfl running stop id update handed
  have decided := h.decided task (Or.inr running) stop
  have after : (s.step .runs).server = finalState (Server.runTask .stopActiveSong s.server) := by
    rw [step, running, ← stop]
    rfl
  rw [after, Server.runTask_stopActiveSong] at handed
  rcases Server.getActiveSong_cases h.agrees with ⟨active, found, eq⟩ | ⟨-, eq⟩
  · rw [eq] at handed
    refine ⟨active.id, ?_, by rw [decided, found]; rfl⟩
    obtain ⟨n, told⟩ := handedTo_broadcastUpdate (s.server.refreshed active)
      (.playback_command { command := .Stop, id := (s.server.positioned active).id }) .Speaker id
    have before : (s.server.refreshed active).handedTo id = s.server.handedTo id := rfl
    dsimp only [finalState_ok] at handed
    rw [told, before, List.drop_left] at handed
    exact (List.eq_of_mem_replicate handed).trans (by simp)
  · rw [eq] at handed
    simp at handed

theorem songTimer_started {server : Server} (agrees : server.playback.Agrees)
    (positive : ∀ r ∈ server.db.songs, 0 < r.id) {c : Call} {next : Song}
    (starts : server.startsNext c = some next) :
    ∀ task ∈ (server.call c).songTimer,
      task ∈ server.uncancelledTasks ∨ task.action = .scheduleNextSong := by
  obtain ⟨selected, accepted, sessionID, result⟩ := Server.playing_of_startsNext starts
  obtain ⟨sessionMap, current, -, -, completed⟩ :=
    Server.playing_announced agrees positive selected accepted sessionID
  rw [completed, finalState_ok] at result
  rw [result]
  intro task scheduled
  have either : task ∈ server.uncancelledTasks ∨
      task = { id := server.tasksCreated, action := .scheduleNextSong } := by
    simpa [Server.playbackUpdated, Server.started, Server.scheduled, Server.renewed,
      Server.cancelSongTimerTask_eq] using scheduled
  rcases either with kept | rfl
  · exact Or.inl kept
  · exact Or.inr rfl

theorem Punctual.kept (h : s.Punctual) {server : Server} {running : Option TimerTask}
    (changes : Playback.Changes s.server.playback server.playback)
    (active : server.activeSong.map (fun a => a.id) = s.server.activeSong.map fun a => a.id)
    (taken : ∀ task, running = some task → s.Pending task) : (s.move server running).Punctual := by
  constructor
  · exact h.agrees.changes changes
  · exact Server.positive_of_songIds (Server.songIds_of_changes changes) h.positive
  · intro task pending stop
    change (if _ then _ else _) = server.activeSong.map fun a => a.id
    rw [active]
    split
    · rfl
    · rename_i old
      apply h.decided task _ stop
      rcases pending with scheduled | runs
      · have listed : task ∈ server.songTimer := scheduled
        left
        by_contra new
        exact old ⟨listed, new⟩
      · exact taken task runs

theorem Punctual.call (h : s.Punctual) (c : Call) (cancels : s.CancelsStops (.call c)) :
    (s.move (s.server.call c) s.running).Punctual := by
  have changes := Server.changes_call h.agrees c
  cases starts : s.server.startsNext c with
  | none =>
    have kept := Server.call_unstarted h.agrees starts
    apply h.kept changes
    · rw [kept.active, Server.stored_activeSong]
    · intro task running
      exact Or.inr running
  | some next =>
    constructor
    · exact h.agrees.changes changes
    · exact Server.positive_of_songIds (Server.songIds_of_changes changes) h.positive
    · intro task pending stop
      exfalso
      have cancelled := cancels c next rfl starts task
      rcases pending with scheduled | running
      · rcases songTimer_started h.agrees h.positive starts task scheduled with left | other
        · unfold Server.uncancelledTasks at left
          split at left
          · rename_i id field
            obtain ⟨listed, kept⟩ := List.mem_filter.mp left
            have own := (cancelled (Or.inl listed) stop).2
            rw [field] at own
            simp [Option.some.inj own] at kept
          · rename_i unset
            have own := (cancelled (Or.inl left) stop).2
            rw [unset] at own
            cases own
        · rw [stop] at other
          cases other
      · exact (cancelled (Or.inr running) stop).1 running

theorem Punctual.step (h : s.Punctual) {e : Tick} (cancels : s.CancelsStops e) :
    (s.step e).Punctual := by
  cases e with
  | call c =>
    cases c with
    | fireTask task => exact h
    | _ => exact h.call _ cancels
  | decideSkip stats =>
    have acts : Server.Acts none s.server (finalState (Server.decideSkip stats s.server)) :=
      Concurrent.acts_decideSkip stats
    apply h.kept (Server.changes_of_acts acts)
    · exact (Server.unstarted_of_acts (by simp) acts).active
    · intro task running
      exact Or.inr running
  | takes task =>
    rw [Timed.step]
    split
    · rename_i free
      refine h.kept (.refl : Playback.Changes s.server.playback s.server.playback) rfl ?_
      rintro taken ⟨⟩
      exact Or.inl free.1
    · exact h
  | runs =>
    cases running : s.running with
    | none =>
      rw [Timed.step, running]
      exact h
    | some task =>
      have acts := Server.acts_runTask (none : Option (Int × Status)) h.agrees task.action
      rw [Timed.step, running]
      apply h.kept (Server.changes_of_acts acts)
      · exact (Server.unstarted_of_acts (by simp) acts).active
      · intro other none
        cases none

theorem punctual_start (music : List MusicRow) (clock : Nat) : (start music clock).Punctual := by
  constructor
  · exact Server.agrees_run music clock []
  · exact Server.positive_run music clock []
  · rintro task (scheduled | running)
    · cases scheduled
    · cases running

end Step

end Timed

/-- Every Stop command that the task of a skip broadcasts names the song that was
    active when the skip was decided, if no song starts while such a task is
    beyond the reach of `songTimerTask.cancel()`. -/
theorem skip_stops_decided_song (music : List MusicRow) (clock : Nat) (ticks : List Tick)
    (cancels : StepsMeet Timed.step Timed.CancelsStops (.start music clock) ticks) :
    StepsMeet Timed.step Timed.StopsDecided (.start music clock) ticks := by
  apply stepsMeet_of_invariant Timed.step Timed.Punctual _ _ ticks _
    (Timed.punctual_start music clock) cancels
  · intro s e h cancels
    exact h.step cancels
  · intro s e h _
    exact h.stops e

def skippedTicks : List Tick :=
  (partyCalls ++ [Call.dislike 1 2]).map Tick.call ++ [.takes { id := 1, action := .stopActiveSong }]

theorem skip_stops_first_song :
    StepsMeet Timed.step Timed.StopsDecided (.start twoSongs 0) (skippedTicks ++ [.runs]) := by
  apply skip_stops_decided_song
  have calm : ∀ s : Timed, s.running = none →
      s.server.songTimer.all (fun task => decide (task.action ≠ .stopActiveSong)) = true →
        ∀ e, s.CancelsStops e := by
    rintro s idle none e c next rfl starts task pending stop
    rcases pending with scheduled | running
    · have other := List.all_eq_true.mp none task scheduled
      exact absurd stop (of_decide_eq_true other)
    · rw [idle] at running
      cases running
  refine ⟨?_, ?_, ?_, ?_, ?_, ?_, ?_, trivial⟩
  any_goals
    apply calm <;> decide +kernel
  all_goals
    intro c next no
    cases no

/-- The second song starts when the timer has taken the stop task: it is the song
    that is stopped. -/
theorem skip_stops_later_song :
    ¬ ∀ (music : List MusicRow) (clock : Nat) (ticks : List Tick),
      StepsMeet Timed.step Timed.StopsDecided (.start music clock) ticks := by
  intro always
  let late := skippedTicks ++
    [.call (.speakerStatusUpdate 1 (some { id := 2, status := some .Playing }))]
  have all := always twoSongs 0 (late ++ [.runs])
  have last := ((stepsMeet_concat _ _ _ _ _).mp all).2
  have running : (run Timed.step (.start twoSongs 0) late).running =
      some { id := 1, action := .stopActiveSong } := by
    decide +kernel
  have handed : SessionUpdate.playback_command { command := .Stop, id := 2 } ∈
      (((run Timed.step (.start twoSongs 0) late).step .runs).server.handedTo 1).drop
        ((run Timed.step (.start twoSongs 0) late).server.handedTo 1).length := by
    decide +kernel
  have decided : (run Timed.step (.start twoSongs 0) late).decided
      { id := 1, action := .stopActiveSong } = some 1 := by
    decide +kernel
  obtain ⟨songID, same, own⟩ := last _ rfl running rfl 1 _ handed
  cases same
  rw [decided] at own
  cases own

end MusicCloud
