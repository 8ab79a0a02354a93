import MusicCloud.SongStart
import MusicCloud.Transactions

/-!
The start of a song on the real connection, where one call fails: the timer, the
opening of the transaction, one of its statements or the commit. The statements
before the failure are undone by the rollback. What `updatePlayback` has done to
the timer and to `songStarttime` by then is not.
-/
namespace MusicCloud
open Runs

/-- The call of `updatePlayback` that fails. -/
inductive FailurePoint where
  | schedule
  /-- … with the mode that `setAutoCommit(false)` leaves behind. -/
  | startTransaction (leaves : Bool)
  | statement (statement : Statement)
  | commit
  deriving DecidableEq, Repr

namespace FailurePoint

def failures (p : FailurePoint) : Failures where
  throws := fun call => match p, call with
    | .startTransaction _, .setAutoCommit on => !on
    | .statement w, .execute v => v == w
    | .commit, .commit => true
    | _, _ => false
  leaves := fun on => match p with
    | .startTransaction leaves => leaves
    | _ => on

theorem rollback_works (p : FailurePoint) : p.failures.throws .rollback = false := by
  cases p <;> rfl

theorem restore_works (p : FailurePoint) : p.failures.throws (.setAutoCommit true) = false := by
  cases p <;> rfl

end FailurePoint

namespace Connection
variable {f : Failures} {t : Nat} {c : Connection}

structure Idle (t : Nat) (c : Connection) : Prop where
  mode : c.autoCommit = true
  committed : c.committed = c.db
  available : c.transactionLock.available t = true

def tables (db : Database) : List SongRow × List VoteRow × List LikeRow :=
  (db.songs, db.votes, db.likes)

theorem committed_executeAll (ws : List Statement) (opened : c.autoCommit = false) :
    (finalState (executeAll f ws c)).committed = c.committed := by
  induction ws generalizing c with
  | nil => rfl
  | cons w ws ih =>
    unfold executeAll
    rw [Server.bind_apply, execute_apply]
    by_cases fails : f.throws (.execute w)
    · rw [if_pos fails]
      rfl
    · rw [if_neg fails]
      have rest := ih (c := c.write w) opened
      refine rest.trans ?_
      simp [write, opened]

theorem updateNextSong_undone (idle : c.Idle t) (rolls : f.throws .rollback = false)
    (restores : f.throws (.setAutoCommit true) = false) {current next : Option Int} {datetime : Nat}
    (fails : f.throws (.setAutoCommit false) = true ∨
      ∃ w ∈ songStatements current next datetime, f.throws (.execute w) = true) :
    ∃ e d, updateNextSong f t current next datetime c = .error e d ∧
      tables d.db = tables c.db := by
  obtain ⟨e, d, failed⟩ := (body_fails_iff f t (songStatements current next datetime)
    (c := c)).mpr fails
  have entered := entered_body (f := f) (t := t) (c := c)
    (keepsMode_executeAll f (songStatements current next datetime))
  rw [failed] at entered
  have held : d.transactionLock.isHeldBy t = true := by
    have lock := entered.lock
    rw [finalState_error] at lock
    rw [lock]
    exact ReentrantLock.isHeldBy_lock idle.available
  have begun : d.committed = c.db := by
    rw [Server.bind_apply, startTransaction_apply, setAutoCommit_apply] at failed
    by_cases opens : f.throws (.setAutoCommit false)
    · rw [if_pos opens] at failed
      cases failed
      dsimp only [setMode]
      split
      · rfl
      · exact idle.committed
    · rw [if_neg opens] at failed
      have kept := committed_executeAll (f := f) (songStatements current next datetime)
        (c := { setMode false { c with transactionLock := c.transactionLock.lock t } with
          modeFailed := false }) rfl
      dsimp only at failed
      rw [failed] at kept
      exact kept.trans idle.committed
  refine ⟨e, { d.restored.setMode true with modeFailed := false }, ?_, ?_⟩
  · unfold updateNextSong
    rw [Server.bind_apply, Server.tryCatch_apply, failed]
    dsimp only
    rw [Server.bind_apply, rollbackTransaction_apply f t held]
    simp [rolls, restores]
  · simp [tables, setMode, restored, begun]

/-- A commit that fails leaves the changes where the next statement sees them. -/
theorem updateNextSong_uncommitted (idle : c.Idle t) {current next : Option Int} {datetime : Nat}
    (opens : f.throws (.setAutoCommit false) = false)
    (works : ∀ w ∈ songStatements current next datetime, f.throws (.execute w) = false)
    (fails : f.throws .commit = true) :
    ∃ e d, updateNextSong f t current next datetime c = .error e d ∧
      d.db = c.db.updateNextSong current next datetime := by
  have writes := executeAll_writes f works (c :=
    { setMode false { c with transactionLock := c.transactionLock.lock t } with
      modeFailed := false }) rfl
  refine ⟨.sql, unlocked { setMode false { c with transactionLock := c.transactionLock.lock t } with
    modeFailed := false, db := applyAll (songStatements current next datetime) c.db }, ?_, ?_⟩
  · unfold updateNextSong
    rw [Server.bind_apply, Server.tryCatch_apply, Server.bind_apply, startTransaction_apply,
      setAutoCommit_apply, opens]
    simp only [Bool.false_eq_true, if_false]
    rw [writes]
    dsimp only
    rw [stopTransaction_apply f t (ReentrantLock.isHeldBy_lock idle.available), if_pos fails]
    rfl
  · exact applyAll_songStatements current next datetime c.db

end Connection

structure Wired where
  server : Server
  connection : Connection

abbrev WiredM := EStateM JavaException Wired

namespace Wired

def onServer {α : Type} (m : ServerM α) : WiredM α := fun w =>
  match m w.server with
  | .ok a s => .ok a { w with server := s }
  | .error e s => .error e { w with server := s }

def onConnection {α : Type} (m : ConnectionM α) : WiredM α := fun w =>
  match m w.connection with
  | .ok a c => .ok a { server := { w.server with db := c.db }, connection := c }
  | .error e c => .error e { server := { w.server with db := c.db }, connection := c }

section Methods
variable (p : FailurePoint) (t : Nat)

def schedule (task : TimerTask) (delay : Int) : ServerM Unit := do
  if p = .schedule then throw .illegalState
  Server.schedule task delay

def updatePlayback : WiredM Unit := do
  onServer (modify Server.cancelSongTimerTask)
  let task ← onServer (Server.newSongTimerTask .scheduleNextSong)
  let some nextSong := (← get).server.nextSong | throw .nullPointer
  onServer (schedule p task (Server.selectionDelay nextSong))
  onServer (modify fun s => { s with songStarttime := toInt (s.clock / 1000) })
  let s := (← get).server
  onConnection (Connection.updateNextSong p.failures t (s.activeSong.map fun a => a.id)
    (some nextSong.id) s.datetime)
  onServer (modify fun s => { s with
    activeSong := some { nextSong with position := 0, status := .Playing }
    nextSong := none })

def playingUpdate (sessionID songID : Int) : WiredM Unit := do
  let some nextSong := (← get).server.nextSong | throw .nullPointer
  if songID = nextSong.id then
    updatePlayback p t
    onServer Server.announce
  else onServer (Server.playingUpdate sessionID songID)

end Methods

/-- What a failed report should leave alone. -/
structure Unchanged (s u : Server) : Prop where
  songs : u.db.songs = s.db.songs
  votes : u.db.votes = s.db.votes
  likes : u.db.likes = s.db.likes
  activeSong : u.activeSong = s.activeSong
  nextSong : u.nextSong = s.nextSong
  songStarttime : u.songStarttime = s.songStarttime
  pending : ∀ task ∈ s.songTimer, task ∈ u.songTimer

def Refuses (p : FailurePoint) (s : Server) (song : Song) : Prop :=
  p = .schedule ∨ ¬ s.accepts (Server.selectionDelay song)

def Fails (p : FailurePoint) (s : Server) (song : Song) : Prop :=
  Refuses p s song ∨ (∃ leaves, p = .startTransaction leaves) ∨ p = .commit ∨
    ∃ w ∈ songStatements (s.activeSong.map fun a => a.id) (some song.id) s.datetime,
      p = .statement w

/-- No task is pending that would be cancelled, the song before was started in
    this very second, and the failure comes before the commit. -/
def Harmless (p : FailurePoint) (s : Server) (song : Song) : Prop :=
  s.songTimer = [] ∧
    (¬ Refuses p s song → s.songStarttime = toInt (s.clock / 1000) ∧ p ≠ .commit)

variable {p : FailurePoint} {t : Nat} {w : Wired} {song : Song}

def timed (s : Server) : Server :=
  { s.cancelSongTimerTask.renewed.scheduled
      { id := s.tasksCreated, action := .scheduleNextSong } with
    songStarttime := toInt (s.clock / 1000) }

theorem updatePlayback_refused (selected : w.server.nextSong = some song)
    (refuses : Refuses p w.server song) : ∃ e, updatePlayback p t w =
      .error e { w with server := w.server.cancelSongTimerTask.renewed } := by
  have kept : w.server.cancelSongTimerTask.renewed.nextSong = some song := by
    simpa [Server.renewed, Server.cancelSongTimerTask_eq] using selected
  have same : w.server.cancelSongTimerTask.renewed.accepts (Server.selectionDelay song) ↔
      w.server.accepts (Server.selectionDelay song) := by
    simp [Server.accepts, Server.renewed, Server.cancelSongTimerTask_eq]
  have rejected : ∀ task, ∃ e, schedule p task (Server.selectionDelay song)
      w.server.cancelSongTimerTask.renewed = .error e w.server.cancelSongTimerTask.renewed := by
    intro task
    unfold schedule
    by_cases fails : p = .schedule
    · exact ⟨.illegalState, by simp [fails]⟩
    · have late := refuses.resolve_left fails
      refine ⟨.illegalArgument, ?_⟩
      simp [fails, Server.schedule_apply, same, late]
  obtain ⟨e, scheduling⟩ := rejected
    { id := w.server.cancelSongTimerTask.tasksCreated, action := .scheduleNextSong }
  refine ⟨e, ?_⟩
  simp [updatePlayback, onServer, Server.newSongTimerTask_apply, kept, scheduling]

theorem updatePlayback_timed (selected : w.server.nextSong = some song)
    (takes : ¬ Refuses p w.server song) : updatePlayback p t w =
      (match Connection.updateNextSong p.failures t (w.server.activeSong.map fun a => a.id)
          (some song.id) w.server.datetime w.connection with
      | .ok _ c => .ok () { server := { timed w.server with
          db := c.db
          activeSong := some { song with position := 0, status := .Playing }
          nextSong := none }, connection := c }
      | .error e c => .error e { server := { timed w.server with db := c.db }, connection := c }) := by
  have fails : p ≠ .schedule := fun same => takes (Or.inl same)
  have accepted : w.server.accepts (Server.selectionDelay song) := by
    by_contra late
    exact takes (Or.inr late)
  have kept : w.server.cancelSongTimerTask.renewed.nextSong = some song := by
    simpa [Server.renewed, Server.cancelSongTimerTask_eq] using selected
  have same : w.server.cancelSongTimerTask.renewed.accepts (Server.selectionDelay song) ↔
      w.server.accepts (Server.selectionDelay song) := by
    simp [Server.accepts, Server.renewed, Server.cancelSongTimerTask_eq]
  have created : w.server.cancelSongTimerTask.tasksCreated = w.server.tasksCreated := by
    simp [Server.cancelSongTimerTask_eq]
  have scheduling : ∀ task, schedule p task (Server.selectionDelay song)
      w.server.cancelSongTimerTask.renewed =
        .ok () (w.server.cancelSongTimerTask.renewed.scheduled task) := by
    intro task
    simp [schedule, fails, Server.schedule_apply, same, accepted]
  have active : (timed w.server).activeSong = w.server.activeSong := by
    simp [timed, Server.scheduled, Server.renewed, Server.cancelSongTimerTask_eq]
  have now : (timed w.server).datetime = w.server.datetime := by
    simp [timed, Server.scheduled, Server.renewed, Server.cancelSongTimerTask_eq, Server.datetime]
  have noted : ({ w.server.cancelSongTimerTask.renewed.scheduled
      { id := w.server.tasksCreated, action := .scheduleNextSong } with
        songStarttime := toInt ((w.server.cancelSongTimerTask.renewed.scheduled
          { id := w.server.tasksCreated, action := .scheduleNextSong }).clock / 1000) } : Server) =
      timed w.server := by
    simp [timed, Server.scheduled, Server.renewed, Server.cancelSongTimerTask_eq]
  simp only [updatePlayback, onServer, onConnection, Server.bind_apply, Server.modify_apply,
    Server.get_apply, Server.newSongTimerTask_apply, kept, scheduling, created, noted, active, now]
  generalize Connection.updateNextSong p.failures t (w.server.activeSong.map fun a => a.id)
    (some song.id) w.server.datetime w.connection = result
  cases result with
  | ok a c => dsimp only
  | error e c => rfl

theorem timer_timed (single : w.server.OneTask) : (timed w.server).songTimer =
    [{ id := w.server.tasksCreated, action := .scheduleNextSong }] := by
  have empty := single.cancelled
  unfold timed Server.scheduled Server.renewed
  dsimp only
  rw [empty]
  rfl

theorem pending_lost_iff {s u : Server} (single : s.OneTask)
    (cancelled : ∀ task ∈ u.songTimer, s.tasksCreated ≤ task.id) :
    (∀ task ∈ s.songTimer, task ∈ u.songTimer) ↔ s.songTimer = [] := by
  constructor
  · intro kept
    rcases single with empty | ⟨task, own, -, old⟩
    · exact empty
    · have fresh := cancelled task (kept task (by rw [own]; exact List.mem_singleton_self task))
      omega
  · intro empty
    simp [empty]

section Report
variable (agrees : w.server.playback.Agrees) (positive : ∀ r ∈ w.server.db.songs, 0 < r.id)
  (single : w.server.OneTask) (idle : w.connection.Idle t) (linked : w.connection.db = w.server.db)

include single in
theorem unchanged_refused :
    Unchanged w.server w.server.cancelSongTimerTask.renewed ↔ w.server.songTimer = [] := by
  have empty : w.server.cancelSongTimerTask.renewed.songTimer = [] := single.cancelled
  have lost := pending_lost_iff (u := w.server.cancelSongTimerTask.renewed) single (by simp [empty])
  rw [← lost]
  constructor
  · exact Unchanged.pending
  · intro pending
    refine ⟨?_, ?_, ?_, ?_, ?_, ?_, pending⟩ <;>
      simp [Server.renewed, Server.cancelSongTimerTask_eq]

include single in
theorem unchanged_rolledBack {db : Database}
    (tables : Connection.tables db = Connection.tables w.server.db) :
    Unchanged w.server { timed w.server with db := db } ↔
      w.server.songTimer = [] ∧ w.server.songStarttime = toInt (w.server.clock / 1000) := by
  have timer := timer_timed single
  have lost := pending_lost_iff (u := { timed w.server with db := db }) single (by
    dsimp only
    rw [timer]
    simp)
  have now : (timed w.server).songStarttime = toInt (w.server.clock / 1000) := by
    simp only [timed]
  obtain ⟨songs, rest⟩ := Prod.mk.inj tables
  obtain ⟨votes, likes⟩ := Prod.mk.inj rest
  constructor
  · intro same
    have kept := same.songStarttime
    dsimp only at kept
    rw [now] at kept
    exact ⟨lost.mp same.pending, kept.symm⟩
  · rintro ⟨empty, started⟩
    refine ⟨songs, votes, likes, ?_, ?_, ?_, lost.mpr empty⟩
    · simp [timed, Server.scheduled, Server.renewed, Server.cancelSongTimerTask_eq]
    · simp [timed, Server.scheduled, Server.renewed, Server.cancelSongTimerTask_eq]
    · dsimp only
      rw [now, started]

include agrees in
theorem changed_uncommitted (selected : w.server.nextSong = some song) {u : Server}
    (database : u.db = w.server.db.updateNextSong (w.server.activeSong.map fun a => a.id)
      (some song.id) w.server.datetime) : ¬ Unchanged w.server u := by
  intro same
  obtain ⟨r, hr, id, inactive⟩ := agrees.next song selected
  change r ∈ w.server.db.songs at hr
  have songs := same.songs
  rw [database, Database.updateNextSong_songs] at songs
  have kept : Database.transitionRow (w.server.activeSong.map fun a => a.id) song.id
      w.server.datetime r ∈ w.server.db.songs := by
    have member := List.mem_map_of_mem (f := Database.transitionRow
      (w.server.activeSong.map fun a => a.id) song.id w.server.datetime) hr
    rw [songs] at member
    exact member
  have own : Database.transitionRow (w.server.activeSong.map fun a => a.id) song.id
      w.server.datetime r = r :=
    Tables.row_unique agrees.nodup kept hr (Database.transitionRow_id _ _ _ r)
  have status := congrArg SongRow.status own
  rw [Database.transitionRow_status, if_pos id, inactive] at status
  cases status

include agrees positive idle linked in
theorem playingUpdate_works (selected : w.server.nextSong = some song)
    (works : ¬ Fails p w.server song) (sessionID : Int) :
    ∃ u, playingUpdate p t sessionID song.id w = .ok () u := by
  have takes : ¬ Refuses p w.server song := fun refuses => works (Or.inl refuses)
  have accepted : w.server.accepts (Server.selectionDelay song) := by
    by_contra late
    exact takes (Or.inr late)
  obtain ⟨sessionMap, current, -, -, told⟩ :=
    Server.playing_announced agrees positive selected accepted sessionID
  rw [Server.playingUpdate_apply, selected] at told
  dsimp only at told
  rw [if_pos rfl, if_pos accepted] at told
  have opens : p.failures.throws (.setAutoCommit false) = false := by
    cases p with
    | startTransaction leaves => exact absurd (Or.inr (Or.inl ⟨leaves, rfl⟩)) works
    | _ => rfl
  have commits : p.failures.throws .commit = false := by
    cases p with
    | commit => exact absurd (Or.inr (Or.inr (Or.inl rfl))) works
    | _ => rfl
  have executes : ∀ v ∈ songStatements (w.server.activeSong.map fun a => a.id) (some song.id)
      w.server.datetime, p.failures.throws (.execute v) = false := by
    intro v hv
    cases p with
    | statement bad =>
      have other : v ≠ bad := by
        rintro rfl
        exact works (Or.inr (Or.inr (Or.inr ⟨v, hv, rfl⟩)))
      simpa [FailurePoint.failures] using other
    | _ => rfl
  have changed := Connection.updateNextSong_commits (f := p.failures) (t := t) idle.available
    (w.server.activeSong.map fun a => a.id) (some song.id) w.server.datetime opens executes commits
    p.restore_works
  have started : ({ timed w.server with
      db := w.server.db.updateNextSong (w.server.activeSong.map fun a => a.id) (some song.id)
        w.server.datetime
      activeSong := some { song with position := 0, status := .Playing }
      nextSong := none } : Server) = w.server.playbackUpdated song := by
    simp [timed, Server.playbackUpdated, Server.started, Server.scheduled, Server.renewed,
      Server.cancelSongTimerTask_eq, Server.datetime]
  unfold playingUpdate
  rw [Server.bind_apply, Server.get_apply]
  simp only [selected, if_true]
  rw [Server.bind_apply, updatePlayback_timed selected takes, changed]
  dsimp only
  rw [linked, started]
  unfold onServer
  rw [told]
  exact ⟨_, rfl⟩

include agrees positive single idle linked in
theorem playingUpdate_unchanged_iff (selected : w.server.nextSong = some song) (sessionID : Int) :
    (∀ e u, playingUpdate p t sessionID song.id w = .error e u → Unchanged w.server u.server) ↔
      (Fails p w.server song → Harmless p w.server song) := by
  have report : playingUpdate p t sessionID song.id w = match updatePlayback p t w with
      | .ok _ u => onServer Server.announce u
      | .error e u => .error e u := by
    unfold playingUpdate
    rw [Server.bind_apply, Server.get_apply]
    simp only [selected, if_true]
    rw [Server.bind_apply]
    cases updatePlayback p t w <;> dsimp only
  have thrown : ∀ e u, updatePlayback p t w = .error e u →
      ((∀ e u, playingUpdate p t sessionID song.id w = .error e u → Unchanged w.server u.server) ↔
        Unchanged w.server u.server) := by
    intro e u failed
    rw [report, failed]
    constructor
    · intro all
      exact all e u rfl
    · rintro same e' u' ⟨⟩
      exact same
  by_cases refuses : Refuses p w.server song
  · -- nothing but the timer has been touched
    obtain ⟨e, failed⟩ := updatePlayback_refused (t := t) selected refuses
    rw [thrown _ _ failed, unchanged_refused single]
    constructor
    · intro empty _
      exact ⟨empty, fun takes => absurd refuses takes⟩
    · intro harmless
      exact (harmless (Or.inl refuses)).1
  · have timed := updatePlayback_timed (t := t) selected refuses
    by_cases fails : Fails p w.server song
    · by_cases commit : p = .commit
      · -- the transaction is not rolled back
        have opens : p.failures.throws (.setAutoCommit false) = false := by
          rw [commit]
          rfl
        have works : ∀ v ∈ songStatements (w.server.activeSong.map fun a => a.id) (some song.id)
            w.server.datetime, p.failures.throws (.execute v) = false := by
          rw [commit]
          intro v _
          rfl
        have closes : p.failures.throws .commit = true := by
          rw [commit]
          rfl
        obtain ⟨e, c, failed, database⟩ := Connection.updateNextSong_uncommitted idle opens works
          closes
        rw [failed] at timed
        rw [thrown _ _ timed]
        rw [linked] at database
        constructor
        · intro same
          exact absurd same (changed_uncommitted agrees selected database)
        · intro harmless
          exact absurd commit ((harmless fails).2 refuses).2
      · have reached : p.failures.throws (.setAutoCommit false) = true ∨
            ∃ v ∈ songStatements (w.server.activeSong.map fun a => a.id) (some song.id)
              w.server.datetime, p.failures.throws (.execute v) = true := by
          rcases fails with no | ⟨leaves, rfl⟩ | no | ⟨v, hv, rfl⟩
          · exact absurd no refuses
          · exact Or.inl rfl
          · exact absurd no commit
          · exact Or.inr ⟨v, hv, by simp [FailurePoint.failures]⟩
        obtain ⟨e, c, failed, tables⟩ := Connection.updateNextSong_undone (f := p.failures) idle
          p.rollback_works p.restore_works reached
        rw [failed] at timed
        rw [linked] at tables
        rw [thrown _ _ timed, unchanged_rolledBack single tables]
        constructor
        · rintro ⟨empty, now⟩ _
          exact ⟨empty, fun _ => ⟨now, commit⟩⟩
        · intro harmless
          obtain ⟨empty, rest⟩ := harmless fails
          exact ⟨empty, (rest refuses).1⟩
    · obtain ⟨u, completed⟩ := playingUpdate_works agrees positive idle linked selected fails sessionID
      rw [completed]
      constructor
      · intro _ no
        exact absurd no fails
      · intro _ e u no
        cases no

end Report

theorem unchanged_refl (s : Server) : Unchanged s s := by
  constructor <;> try rfl
  intro task pending
  exact pending

theorem playingUpdate_other {sessionID songID : Int}
    (other : ∀ song, w.server.nextSong = some song → songID ≠ song.id) :
    ∀ e u, playingUpdate p t sessionID songID w = .error e u → Unchanged w.server u.server := by
  intro e u failed
  unfold playingUpdate at failed
  rw [Server.bind_apply, Server.get_apply] at failed
  cases selected : w.server.nextSong with
  | none =>
    simp only [selected, Server.throw_apply] at failed
    cases failed
    exact unchanged_refl w.server
  | some song =>
    simp only [selected, other song selected, if_false] at failed
    unfold onServer at failed
    rw [Server.playingUpdate_apply, selected] at failed
    simp only [other song selected, if_false] at failed
    cases running : w.server.activeSong with
    | none =>
      rw [running] at failed
      cases failed
    | some active =>
      rw [running] at failed
      dsimp only at failed
      by_cases current : songID = active.id
      · rw [if_pos current] at failed
        cases failed
      · rw [if_neg current] at failed
        cases failed

end Wired

/-- In every reachable state, with the connection idle, and wherever
    `updatePlayback` fails: if a Playing report throws, tables, fields and pending
    task are as before exactly if no task was pending and, unless it is the timer
    that refuses, the last start was in the same second and the commit works. -/
theorem failed_song_change_unchanged_iff (music : List MusicRow) (clock : Nat) (calls : List Call)
    (c : Connection) (linked : c.db = (run Server.call (.start music clock) calls).db) (t : Nat)
    (idle : c.Idle t) (p : FailurePoint) (sessionID songID : Int) :
    let s := run Server.call (.start music clock) calls
    (∀ e u, Wired.playingUpdate p t sessionID songID { server := s, connection := c } = .error e u →
      Wired.Unchanged s u.server) ↔
    ∀ song, s.nextSong = some song → songID = song.id →
      Wired.Fails p s song → Wired.Harmless p s song := by
  intro s
  by_cases named : ∃ song, s.nextSong = some song ∧ songID = song.id
  · obtain ⟨song, selected, rfl⟩ := named
    rw [Wired.playingUpdate_unchanged_iff (w := { server := s, connection := c })
      (Server.agrees_run music clock calls) (Server.positive_run music clock calls)
      (Server.oneTask_run music clock calls) idle linked selected sessionID]
    constructor
    · intro harmless other same _
      cases selected.symm.trans same
      exact harmless
    · intro harmless
      exact harmless song selected rfl
  · have other : ∀ song, s.nextSong = some song → songID ≠ song.id :=
      fun song selected same => named ⟨song, selected, same⟩
    refine iff_of_true (Wired.playingUpdate_other other) ?_
    intro song selected same
    exact absurd same (other song selected)

def songOverCalls : List Call :=
  startedCalls ++ [.speakerStatusUpdate 1 (some { id := 1, status := some .Stopped })]

theorem failed_song_change_unchanged_stopped :
    let s := run Server.call (.start twoSongs 0) songOverCalls
    (Connection.opened s.db).db = s.db ∧ (Connection.opened s.db).Idle 1 ∧
    ((∀ e u, Wired.playingUpdate .schedule 1 1 2 { server := s, connection := .opened s.db } =
        .error e u → Wired.Unchanged s u.server) ↔
      ∀ song, s.nextSong = some song → 2 = song.id →
        Wired.Fails .schedule s song → Wired.Harmless .schedule s song) := by
  intro s
  have idle : (Connection.opened s.db).Idle 1 := ⟨rfl, rfl, rfl⟩
  exact ⟨rfl, idle, failed_song_change_unchanged_iff twoSongs 0 songOverCalls (.opened s.db) rfl 1
    idle .schedule 1 2⟩

/-- The second song's row cannot be set to Playing: the tables are rolled back, the
    first song's task is gone. -/
theorem failed_song_change_cancels_task :
    ¬ ∀ (music : List MusicRow) (clock : Nat) (calls : List Call) (c : Connection) (t : Nat)
      (p : FailurePoint) (sessionID songID : Int),
      c.db = (run Server.call (.start music clock) calls).db → c.Idle t →
      ∀ e u, Wired.playingUpdate p t sessionID songID
          { server := run Server.call (.start music clock) calls, connection := c } = .error e u →
        Wired.Unchanged (run Server.call (.start music clock) calls) u.server := by
  intro always
  have unchanged := always twoSongs 0 songOverCalls
    (.opened (run Server.call (.start twoSongs 0) songOverCalls).db) 1 (.statement (.setPlaying 2)) 1 2
    rfl ⟨rfl, rfl, rfl⟩
  have selected : (run Server.call (.start twoSongs 0) songOverCalls).nextSong =
      some { id := 2, name := "second", artist := "", album := "", path := "second", length := 180
             votes := 0 } := by
    decide +kernel
  have harmless := (Wired.playingUpdate_unchanged_iff
    (w := { server := run Server.call (.start twoSongs 0) songOverCalls
            connection := .opened (run Server.call (.start twoSongs 0) songOverCalls).db })
    (Server.agrees_run twoSongs 0 songOverCalls) (Server.positive_run twoSongs 0 songOverCalls)
    (Server.oneTask_run twoSongs 0 songOverCalls) ⟨rfl, rfl, rfl⟩ rfl selected 1).mp unchanged
  have fails : Wired.Fails (.statement (.setPlaying 2))
      (run Server.call (.start twoSongs 0) songOverCalls)
      { id := 2, name := "second", artist := "", album := "", path := "second", length := 180
        votes := 0 } := by
    refine Or.inr (Or.inr (Or.inr ⟨.setPlaying 2, ?_, rfl⟩))
    decide +kernel
  have pending : (run Server.call (.start twoSongs 0) songOverCalls).songTimer ≠ [] := by
    decide +kernel
  exact pending (harmless fails).1

end MusicCloud
