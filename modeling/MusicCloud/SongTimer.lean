import MusicCloud.OneTimer
import MusicCloud.Effects

/-!
Which song the task on the timer is for. A call that starts a song takes the task of
the earlier one off the timer, and every other task is scheduled while a song is
active; so the task on the timer dates from the time of the active song.
-/
namespace MusicCloud
open Runs

namespace Server
variable {s : Server}

/-- The task was scheduled by the call `c`, which started the active song or came while
    it was active. No song has started since. -/
structure ScheduledBy (first : Server) (before : List Call) (c : Call) (after : List Call)
    (task : TimerTask) (active : ActiveSong) : Prop where
  unscheduled : task ∉ (run call first before).songTimer
  scheduled : task ∈ (run call first (before ++ [c])).songTimer
  cause :
    (∃ next, (run call first before).startsNext c = some next ∧ next.id = active.id) ∨
    ((run call first before).startsNext c = none ∧
      (run call first before).activeSong.map (fun a => a.id) = some active.id)
  since : ∀ l d r, after = l ++ d :: r → (run call first (before ++ c :: l)).startsNext d = none

theorem timer_started (h : s.OneTask) {c : Call} {next : Song} (starts : s.startsNext c = some next) :
    (s.call c).songTimer = [{ id := s.tasksCreated, action := .scheduleNextSong }] := by
  obtain ⟨selected, accepted, sessionID, result⟩ := playing_of_startsNext starts
  rw [result, playingUpdate_apply, selected]
  dsimp only
  rw [if_pos rfl, if_pos accepted, (sameTimer_announce _).timer]
  exact (timer_playbackUpdated h next).1

theorem not_idle_of_schedules {c : Call} (schedules : s.Schedules c) (starts : s.startsNext c = none) :
    s.songTimer ≠ [] ∨ s.activeSong.isSome = true := by
  cases c with
  | dislike songID sessionID => exact Or.inr schedules
  | fireTask task => exact Or.inl (List.ne_nil_of_mem schedules)
  | speakerStatusUpdate sessionID update =>
    exfalso
    rcases update with _ | ⟨songID, _ | status⟩
    · cases schedules
    · cases schedules
    · cases status with
      | Playing =>
        obtain ⟨valid, song, selected, expected, accepted⟩ := schedules
        simp [startsNext, valid, selected, expected, accepted] at starts
      | _ => cases schedules
  | _ => cases schedules

theorem fresh_of_oneTask (h : s.OneTask) (action : TaskAction) :
    { id := s.tasksCreated, action := action } ∉ s.songTimer := by
  intro listed
  rcases h with empty | ⟨task, single, -, older⟩
  · rw [empty] at listed
    cases listed
  · rw [single] at listed
    have same := List.mem_singleton.mp listed
    rw [← same] at older
    exact lt_irrefl _ older

section Step
variable (agrees : s.playback.Agrees) (positive : ∀ r ∈ s.db.songs, 0 < r.id)
include agrees positive

theorem active_call (c : Call) {active : ActiveSong} (running : s.activeSong = some active) :
    ∃ now, (s.call c).activeSong = some now ∧ (s.startsNext c = none → now.id = active.id) := by
  cases starts : s.startsNext c with
  | some next =>
    have started := (call_started agrees positive starts).2.2.2
    cases now : (s.call c).activeSong with
    | none =>
      rw [now] at started
      cases started
    | some song => exact ⟨song, rfl, fun no => nomatch no⟩
  | none =>
    have kept := (call_unstarted agrees starts).active
    rw [stored_activeSong, running] at kept
    cases now : (s.call c).activeSong with
    | none =>
      rw [now] at kept
      cases kept
    | some song =>
      rw [now] at kept
      exact ⟨song, rfl, fun _ => Option.some.inj kept⟩

theorem active_call_cause (c : Call) {active : ActiveSong} (running : (s.call c).activeSong = some active) :
    (∃ next, s.startsNext c = some next ∧ next.id = active.id) ∨
      (s.startsNext c = none ∧ s.activeSong.map (fun a => a.id) = some active.id) := by
  cases starts : s.startsNext c with
  | some next =>
    have started := (call_started agrees positive starts).2.2.2
    rw [running] at started
    exact Or.inl ⟨next, rfl, (Option.some.inj started).symm⟩
  | none =>
    have kept := (call_unstarted agrees starts).active
    rw [stored_activeSong, running] at kept
    exact Or.inr ⟨rfl, kept.symm⟩

end Step

section History
variable {first : Server} {calls : List Call} {task : TimerTask} {active now : ActiveSong}

theorem ScheduledBy.stays {before after : List Call} {c d : Call}
    (h : ScheduledBy first before c after task active)
    (starts : (run call first (before ++ c :: after)).startsNext d = none) (same : now.id = active.id) :
    ScheduledBy first before c (after ++ [d]) task now where
  unscheduled := h.unscheduled
  scheduled := h.scheduled
  cause := by
    rw [same]
    exact h.cause
  since := by
    intro l e r cut
    rcases List.eq_nil_or_concat r with rfl | ⟨r', last, rfl⟩
    · obtain ⟨rfl, rfl⟩ := List.append_inj' cut rfl |>.imp id List.singleton_inj.mp
      exact starts
    · rw [List.concat_eq_append, ← List.cons_append, ← List.append_assoc] at cut
      exact h.since l e r' (List.append_inj' cut rfl).1

theorem scheduledBy_last (agrees : (run call first calls).playback.Agrees)
    (positive : ∀ r ∈ (run call first calls).db.songs, 0 < r.id) {c : Call}
    (fresh : task ∉ (run call first calls).songTimer)
    (listed : task ∈ ((run call first calls).call c).songTimer)
    (running : ((run call first calls).call c).activeSong = some active) :
    ScheduledBy first calls c [] task active where
  unscheduled := fresh
  scheduled := by
    rw [run_concat]
    exact listed
  cause := active_call_cause agrees positive c running
  since := by
    intro l d r cut
    cases l <;> cases cut

end History

theorem scheduledBy_run (music : List MusicRow) (clock : Nat) (calls : List Call) (task : TimerTask)
    (listed : task ∈ (run call (start music clock) calls).songTimer) :
    ∃ before c after active, calls = before ++ c :: after ∧
      (run call (start music clock) calls).activeSong = some active ∧
      ScheduledBy (start music clock) before c after task active := by
  induction calls using List.reverseRecOn generalizing task with
  | nil => cases listed
  | append_singleton calls c ih =>
    have agrees := agrees_run music clock calls
    have positive := positive_run music clock calls
    have single := oneTask_run music clock calls
    rw [run_concat] at listed ⊢
    -- a task that stays on the timer is still for the same song
    have old : task ∈ (run call (start music clock) calls).songTimer →
        (run call (start music clock) calls).startsNext c = none →
        ∃ l d r active, calls ++ [c] = l ++ d :: r ∧
          ((run call (start music clock) calls).call c).activeSong = some active ∧
          ScheduledBy (start music clock) l d r task active := by
      intro old starts
      obtain ⟨l, d, r, active, split, running, scheduled⟩ := ih task old
      obtain ⟨now, later, same⟩ := active_call agrees positive c running
      refine ⟨l, d, r ++ [c], now, ?_, later, scheduled.stays ?_ (same starts)⟩
      · rw [split, List.append_assoc, List.cons_append]
      · rw [← split]
        exact starts
    -- a task that is new has been scheduled by this call
    have new : task ∉ (run call (start music clock) calls).songTimer →
        (∃ active, ((run call (start music clock) calls).call c).activeSong = some active) →
        ∃ l d r active, calls ++ [c] = l ++ d :: r ∧
          ((run call (start music clock) calls).call c).activeSong = some active ∧
          ScheduledBy (start music clock) l d r task active := by
      rintro fresh ⟨active, running⟩
      exact ⟨calls, c, [], active, rfl, running, scheduledBy_last agrees positive fresh listed running⟩
    cases starts : (run call (start music clock) calls).startsNext c with
    | some next =>
      rw [timer_started single starts] at listed
      apply new
      · rw [List.mem_singleton.mp listed]
        exact fresh_of_oneTask single _
      · have started := (call_started agrees positive starts).2.2.2
        exact Option.isSome_iff_exists.mp (by simpa using congrArg Option.isSome started)
    | none =>
      cases timer_call single c with
      | kept same => exact old (same.timer ▸ listed) starts
      | emptied timer =>
        rw [timer] at listed
        cases listed
      | scheduled action schedules timer _ _ =>
        rw [timer] at listed
        apply new
        · rw [List.mem_singleton.mp listed]
          exact fresh_of_oneTask single _
        · have active : ∃ active, (run call (start music clock) calls).activeSong = some active := by
            rcases not_idle_of_schedules schedules starts with busy | active
            · obtain ⟨other, scheduled⟩ := List.exists_mem_of_ne_nil _ busy
              obtain ⟨-, -, -, active, -, running, -⟩ := ih other scheduled
              exact ⟨active, running⟩
            · exact Option.isSome_iff_exists.mp active
          obtain ⟨active, running⟩ := active
          obtain ⟨now, later, -⟩ := active_call agrees positive c running
          exact ⟨now, later⟩

end Server

/-- At most one task is on the timer. It is the one that `songTimerTask` refers to, and
    it was scheduled when the active song started, or since. -/
theorem one_song_timer (music : List MusicRow) (clock : Nat) (calls : List Call) :
    (run Server.call (.start music clock) calls).songTimer.length ≤ 1 ∧
    ∀ task ∈ (run Server.call (.start music clock) calls).songTimer,
      (run Server.call (.start music clock) calls).songTimerTask = some task.id ∧
      ∃ before c after active, calls = before ++ c :: after ∧
        (run Server.call (.start music clock) calls).activeSong = some active ∧
        Server.ScheduledBy (.start music clock) before c after task active := by
  constructor
  · rcases Server.oneTask_run music clock calls with empty | ⟨task, single, -, -⟩
    · rw [empty]
      exact Nat.zero_le 1
    · rw [single]
      exact le_refl 1
  · intro task listed
    refine ⟨?_, Server.scheduledBy_run music clock calls task listed⟩
    rcases Server.oneTask_run music clock calls with empty | ⟨own, single, field, -⟩
    · rw [empty] at listed
      cases listed
    · rw [single] at listed
      rw [List.mem_singleton.mp listed]
      exact field

end MusicCloud
