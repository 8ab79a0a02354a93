import MusicCloud.Calls

/-!
The timer holds at most one task, the one that `songTimerTask` refers to: every
method that schedules a task has cancelled the one before, and a task that fires
has left the timer when it schedules another.
-/
namespace MusicCloud
open Runs

namespace Server
variable {s t : Server}

def OneTask (s : Server) : Prop :=
  s.songTimer = [] ∨ ∃ task, s.songTimer = [task] ∧ s.songTimerTask = some task.id ∧
    task.id < s.tasksCreated

structure SameTimer (s t : Server) : Prop where
  timer : t.songTimer = s.songTimer
  task : t.songTimerTask = s.songTimerTask
  created : t.tasksCreated = s.tasksCreated

theorem SameTimer.refl (s : Server) : SameTimer s s := ⟨rfl, rfl, rfl⟩

theorem SameTimer.trans {u : Server} (first : SameTimer s t) (second : SameTimer t u) :
    SameTimer s u :=
  ⟨second.timer.trans first.timer, second.task.trans first.task,
    second.created.trans first.created⟩

theorem OneTask.same (h : s.OneTask) (same : SameTimer s t) : t.OneTask := by
  unfold OneTask
  rw [same.timer, same.task, same.created]
  exact h

theorem OneTask.uncancelledTasks (h : s.OneTask) : s.uncancelledTasks = [] := by
  unfold Server.uncancelledTasks
  rcases h with empty | ⟨task, single, own, -⟩
  · rw [empty]
    split <;> rfl
  · rw [single, own]
    simp

theorem OneTask.cancelled (h : s.OneTask) : s.cancelSongTimerTask.songTimer = [] := by
  rw [cancelSongTimerTask_eq]
  exact h.uncancelledTasks

/-- What a method does to the timer. It schedules a task for a reason only. -/
inductive TimerMove (reason : Prop) (s t : Server) : Prop
  | kept (same : SameTimer s t)
  | emptied (timer : t.songTimer = [])
  | scheduled (action : TaskAction) (holds : reason)
      (timer : t.songTimer = [{ id := s.tasksCreated, action := action }])
      (field : t.songTimerTask = some s.tasksCreated) (created : t.tasksCreated = s.tasksCreated + 1)

theorem TimerMove.of_same {reason : Prop} {u : Server} (same : SameTimer s t)
    (move : TimerMove reason t u) : TimerMove reason s u := by
  cases move with
  | kept later => exact .kept (same.trans later)
  | emptied timer => exact .emptied timer
  | scheduled action holds timer field created =>
    rw [same.created] at timer field created
    exact .scheduled action holds timer field created

theorem TimerMove.same {reason : Prop} {u : Server} (move : TimerMove reason s t)
    (same : SameTimer t u) : TimerMove reason s u := by
  cases move with
  | kept first => exact .kept (first.trans same)
  | emptied timer => exact .emptied (same.timer.trans timer)
  | scheduled action holds timer field created =>
    exact .scheduled action holds (same.timer.trans timer) (same.task.trans field)
      (same.created.trans created)

theorem TimerMove.imp {reason reason' : Prop} (move : TimerMove reason s t)
    (implies : reason → reason') : TimerMove reason' s t := by
  cases move with
  | kept same => exact .kept same
  | emptied timer => exact .emptied timer
  | scheduled action holds timer field created =>
    exact .scheduled action (implies holds) timer field created

theorem OneTask.move {reason : Prop} (h : s.OneTask) (move : TimerMove reason s t) : t.OneTask := by
  cases move with
  | kept same => exact h.same same
  | emptied timer => exact Or.inl timer
  | scheduled action holds timer field created =>
    exact Or.inr ⟨_, timer, field, created ▸ Nat.lt_succ_self _⟩

theorem timer_scheduled {reason : Prop} (action : TaskAction) (holds : reason)
    (empty : t.songTimer = []) (created : t.tasksCreated = s.tasksCreated) :
    TimerMove reason s (t.renewed.scheduled { id := s.tasksCreated, action := action }) := by
  refine .scheduled action holds ?_ ?_ ?_
  · unfold scheduled renewed
    rw [empty]
    rfl
  · exact congrArg some created
  · exact congrArg Nat.succ created

section Methods

theorem sameTimer_getActiveSong (s : Server) : SameTimer s (finalState (getActiveSong s)) := by
  rw [getActiveSong_apply]
  split
  · exact ⟨rfl, rfl, rfl⟩
  · split <;> exact ⟨rfl, rfl, rfl⟩

theorem sameTimer_getStats (s : Server) : SameTimer s (finalState (getStats s)) := by
  have found := sameTimer_getActiveSong s
  rw [getStats_apply]
  cases result : getActiveSong s with
  | error e t => simpa [result] using found
  | ok active t =>
    rw [result] at found
    dsimp only
    cases likeData t.db active.id <;> exact found

theorem sameTimer_announce (s : Server) : SameTimer s (finalState (announce s)) := by
  have found := sameTimer_getActiveSong s
  unfold announce
  rw [bind_apply]
  cases result : getActiveSong s with
  | error e t => simpa [result] using found
  | ok active t =>
    rw [result] at found
    dsimp only
    rw [bind_apply, modify_apply]
    dsimp only
    have counted := sameTimer_getStats (t.broadcastUpdate (.current_song active) .User)
    have shown : SameTimer s (t.broadcastUpdate (.current_song active) .User) :=
      found.trans ⟨rfl, rfl, rfl⟩
    rw [bind_apply]
    cases stats : getStats (t.broadcastUpdate (.current_song active) .User) with
    | error e u =>
      rw [stats] at counted
      exact shown.trans counted
    | ok likes u =>
      rw [stats] at counted
      exact (shown.trans counted).trans ⟨rfl, rfl, rfl⟩

theorem sameTimer_scheduleNextSong (s : Server) :
    SameTimer s (finalState (scheduleNextSong s)) := by
  rw [scheduleNextSong_apply]
  split
  · exact .refl s
  · split <;> exact ⟨rfl, rfl, rfl⟩

theorem sameTimer_newSpeakerAuthenticated (sessionID : Int) (s : Server) :
    SameTimer s (finalState (newSpeakerAuthenticated sessionID s)) := by
  have found := sameTimer_getActiveSong s
  rw [newSpeakerAuthenticated_apply]
  cases result : getActiveSong s with
  | ok active t =>
    rw [result] at found
    exact found.trans ⟨rfl, rfl, rfl⟩
  | error e t =>
    rw [result] at found
    cases e with
    | noSuchElement => exact found.trans (sameTimer_scheduleNextSong t)
    | _ => exact found

theorem sameTimer_welcomeSpeaker (session : Session) (s : Server) :
    SameTimer s (finalState (welcomeSpeaker session s)) := by
  have found := sameTimer_getActiveSong s
  unfold welcomeSpeaker
  cases result : getActiveSong s with
  | ok active t =>
    rw [result] at found
    exact found.trans ⟨rfl, rfl, rfl⟩
  | error e t =>
    rw [result] at found
    cases e with
    | noSuchElement =>
      dsimp only
      have joined := sameTimer_newSpeakerAuthenticated session.id t
      unfold catching
      cases outcome : newSpeakerAuthenticated session.id t with
      | ok a u =>
        rw [outcome] at joined
        exact found.trans joined
      | error e u =>
        rw [outcome] at joined
        exact found.trans joined
    | _ => exact found

theorem timer_skipToNext (h : s.OneTask) : TimerMove True s (finalState (skipToNext s)) := by
  have empty : s.cleared.songTimer = [] := h.cancelled
  rw [skipToNext_apply]
  split
  · exact .kept (.refl s)
  · split
    · exact .emptied empty
    · rename_i song _
      have created : (s.skippedTo song).tasksCreated = s.tasksCreated := by
        simp [skippedTo, cleared, selected, broadcastUpdate, cancelSongTimerTask_eq]
      split
      · exact timer_scheduled .stopActiveSong trivial empty created
      · exact .emptied empty

theorem timer_dislike (h : s.OneTask) (songID sessionID : Int) :
    TimerMove (s.activeSong.isSome = true) s (finalState (dislike songID sessionID s)) := by
  have counted := sameTimer_getStats (s.reacted sessionID songID (-1))
  have stored : SameTimer s (s.reacted sessionID songID (-1)) := ⟨rfl, rfl, rfl⟩
  rw [dislike_apply]
  split
  · exact .kept (.refl s)
  · cases stats : getStats (s.reacted sessionID songID (-1)) with
    | error e t =>
      rw [stats] at counted
      exact .kept (stored.trans counted)
    | ok likes t =>
      rw [stats] at counted
      have shown : SameTimer s (t.broadcastUpdate (.likes likes) .User) :=
        (stored.trans counted).trans ⟨rfl, rfl, rfl⟩
      have active : s.activeSong.isSome = true := by
        cases running : s.activeSong with
        | some active => rfl
        | none =>
          have idle : (s.reacted sessionID songID (-1)).activeSong = none := running
          rw [getStats_apply, getActiveSong_apply, idle] at stats
          dsimp only at stats
          split at stats
          · rename_i found
            split at found <;> cases found
          · cases stats
      dsimp only
      split
      · have skipped := timer_skipToNext (h.same shown)
        exact (skipped.imp fun _ => active).of_same shown
      · exact .kept shown

theorem timer_playbackUpdated (h : s.OneTask) (song : Song) :
    (s.playbackUpdated song).songTimer =
        [{ id := s.tasksCreated, action := .scheduleNextSong }] ∧
      (s.playbackUpdated song).songTimerTask = some s.tasksCreated ∧
      (s.playbackUpdated song).tasksCreated = s.tasksCreated + 1 := by
  have empty := h.cancelled
  unfold playbackUpdated started scheduled renewed
  dsimp only
  rw [empty, cancelSongTimerTask_eq]
  exact ⟨rfl, rfl, rfl⟩

theorem timer_playingUpdate (h : s.OneTask) (sessionID songID : Int) :
    TimerMove (∃ song, s.nextSong = some song ∧ songID = song.id ∧ s.accepts (selectionDelay song))
      s (finalState (playingUpdate sessionID songID s)) := by
  rw [playingUpdate_apply]
  cases selected : s.nextSong with
  | none => exact .kept (.refl s)
  | some song =>
    dsimp only
    split
    · rename_i expected
      split
      · rename_i accepted
        obtain ⟨timer, task, created⟩ := timer_playbackUpdated h song
        have reason : ∃ next, some song = some next ∧ songID = next.id ∧
            s.accepts (selectionDelay next) := ⟨song, rfl, expected, accepted⟩
        exact (TimerMove.scheduled _ reason timer task created).same (sameTimer_announce _)
      · exact .emptied h.cancelled
    · cases s.activeSong with
      | none => exact .kept (.refl s)
      | some active =>
        dsimp only
        split
        · exact .kept (.refl s)
        · exact .kept ⟨rfl, rfl, rfl⟩

theorem sameTimer_stoppedUpdate (sessionID : Int) (s : Server) :
    SameTimer s (finalState (stoppedUpdate sessionID s)) := by
  rw [stoppedUpdate_apply]
  split
  · exact .refl s
  · split
    · exact ⟨rfl, rfl, rfl⟩
    · split <;> exact ⟨rfl, rfl, rfl⟩

theorem timer_runTask (action : TaskAction) (empty : s.songTimer = []) :
    TimerMove True s (finalState (runTask action s)) := by
  cases action with
  | scheduleNextSong =>
    have chosen := sameTimer_scheduleNextSong s
    rw [runTask_scheduleNextSong]
    cases result : scheduleNextSong s with
    | error e t =>
      rw [result] at chosen
      exact .kept chosen
    | ok a t =>
      rw [result] at chosen
      have still : t.songTimer = [] := chosen.timer.trans empty
      dsimp only
      split
      · have created : t.tasksCreated = s.tasksCreated := chosen.created
        rw [finalState_ok, created]
        exact timer_scheduled .rebroadcastNextSong trivial still created
      · exact .emptied still
  | rebroadcastNextSong =>
    rw [runTask_rebroadcastNextSong, getNextSong_apply]
    cases s.nextSong with
    | some song => exact .kept ⟨rfl, rfl, rfl⟩
    | none => cases s.candidate <;> exact .kept ⟨rfl, rfl, rfl⟩
  | stopActiveSong =>
    have found := sameTimer_getActiveSong s
    rw [runTask_stopActiveSong]
    cases result : getActiveSong s with
    | error e t =>
      rw [result] at found
      exact .kept found
    | ok active t =>
      rw [result] at found
      exact .kept (found.trans ⟨rfl, rfl, rfl⟩)

end Methods

/-- What makes a call schedule a task: it skips the active song, starts the next one,
    or runs a task of the timer. -/
def Schedules (s : Server) : Call → Prop
  | .dislike _ _ => s.activeSong.isSome = true
  | .speakerStatusUpdate sessionID (some ⟨songID, some .Playing⟩) =>
    0 ≤ sessionID ∧
      ∃ song, s.nextSong = some song ∧ songID = song.id ∧ s.accepts (selectionDelay song)
  | .fireTask task => task ∈ s.songTimer
  | _ => False

theorem timer_call (h : s.OneTask) (c : Call) : TimerMove (s.Schedules c) s (s.call c) := by
  cases c with
  | authenticateUser pin ip =>
    rw [call, clientAuthenticate_apply]
    cases pin with
    | none => exact .kept (.refl s)
    | some pin =>
      dsimp only
      split <;> exact .kept ⟨rfl, rfl, rfl⟩
  | authenticateSpeaker pin ip =>
    rw [call, speakerAuthenticate_apply]
    cases pin with
    | none => exact .kept (.refl s)
    | some pin =>
      dsimp only
      split
      · have joined : SameTimer s (s.joined ip .Speaker) := ⟨rfl, rfl, rfl⟩
        exact .kept (joined.trans (sameTimer_welcomeSpeaker _ _))
      · exact .kept (.refl s)
  | destroySession id =>
    rw [call, destroySession_apply]
    split <;> exact .kept ⟨rfl, rfl, rfl⟩
  | vote songID sessionID =>
    rw [call, vote_apply]
    split <;> exact .kept ⟨rfl, rfl, rfl⟩
  | like songID sessionID =>
    have counted := sameTimer_getStats (s.reacted sessionID songID 1)
    have stored : SameTimer s (s.reacted sessionID songID 1) := ⟨rfl, rfl, rfl⟩
    rw [call, like_apply]
    split
    · exact .kept (.refl s)
    · cases stats : getStats (s.reacted sessionID songID 1) with
      | error e t =>
        rw [stats] at counted
        exact .kept (stored.trans counted)
      | ok likes t =>
        rw [stats] at counted
        exact .kept ((stored.trans counted).trans ⟨rfl, rfl, rfl⟩)
  | dislike songID sessionID => exact timer_dislike h songID sessionID
  | getActiveSong => exact .kept (sameTimer_getActiveSong s)
  | getStats => exact .kept (sameTimer_getStats s)
  | registerRequest sessionID ch =>
    rw [call, registerRequest_apply]
    cases s.sessionMap sessionID <;> exact .kept ⟨rfl, rfl, rfl⟩
  | speakerStatusUpdate sessionID update =>
    rw [call, speakerStatusUpdate_apply]
    split
    · exact .kept (.refl s)
    · rename_i valid
      split
      · exact .kept (.refl s)
      · exact .kept (.refl s)
      · exact (timer_playingUpdate h sessionID _).imp fun starts => ⟨not_lt.mp valid, starts⟩
      · exact .kept (sameTimer_stoppedUpdate sessionID s)
      · rw [readyUpdate_apply]
        split <;> exact .kept ⟨rfl, rfl, rfl⟩
      · exact .kept (.refl s)
  | fireTask task =>
    rw [call, fireTask]
    split
    · rename_i listed
      have empty : s.songTimer.erase task = [] := by
        rcases h with none | ⟨own, single, -, -⟩
        · rw [none]
          rfl
        · rw [single] at listed ⊢
          rw [List.mem_singleton.mp listed]
          simp
      have runs := timer_runTask task.action (s := { s with songTimer := s.songTimer.erase task }) empty
      cases runs with
      | kept same => exact .emptied (same.timer.trans empty)
      | emptied timer => exact .emptied timer
      | scheduled action _ timer field created => exact .scheduled action listed timer field created
    · exact .kept (.refl s)
  | channelClosed ch => exact .kept ⟨rfl, rfl, rfl⟩
  | clockAdvanced ms => exact .kept ⟨rfl, rfl, rfl⟩
  | rescanned rank => exact .kept ⟨rfl, rfl, rfl⟩

theorem oneTask_call (h : s.OneTask) (c : Call) : (s.call c).OneTask := h.move (timer_call h c)

theorem oneTask_run (music : List MusicRow) (clock : Nat) (calls : List Call) :
    (run call (start music clock) calls).OneTask := by
  apply invariant_of_run call OneTask
  · intro s c h
    exact oneTask_call h c
  · exact Or.inl rfl

end Server
end MusicCloud
