import MusicCloud.Results

/-!
Transactions (`DatabaseManager`) and the two methods that open one. Each JDBC
call inside them may throw. A transaction bracket ought to leave the lock and
the auto-commit mode as it found them, but `rollbackTransaction` unlocks only
when it fails, and a `commit` that fails leaves the mode switched off.
-/
namespace MusicCloud
open Runs

/-- `java.util.concurrent.locks.ReentrantLock`. A holder may take the lock
    again, and then has to unlock it as often. -/
inductive ReentrantLock where
  | free
  | held (thread again : Nat)
  deriving DecidableEq, Repr

namespace ReentrantLock

def isHeldBy (t : Nat) : ReentrantLock → Bool
  | .free => false
  | .held u _ => u == t

def available (t : Nat) : ReentrantLock → Bool
  | .free => true
  | .held u _ => u == t

def lock (t : Nat) : ReentrantLock → ReentrantLock
  | .free => .held t 0
  | .held u again => .held u (again + 1)

def unlock : ReentrantLock → ReentrantLock
  | .free => .free
  | .held _ 0 => .free
  | .held u (again + 1) => .held u again

@[simp] theorem isHeldBy_lock {t : Nat} {l : ReentrantLock} (available : l.available t = true) :
    (l.lock t).isHeldBy t = true := by
  cases l with
  | free => simp [lock, isHeldBy]
  | held u again => simpa [lock, isHeldBy, ReentrantLock.available] using available

@[simp] theorem unlock_lock (t : Nat) (l : ReentrantLock) : (l.lock t).unlock = l := by
  cases l <;> rfl

end ReentrantLock

inductive Statement where
  | insertSession (ipAddress : String) (type : SessionType) (time : Int)
  | insertChildSession (type : SessionType) (id : Int)
  | deleteSession (id : Int)
  | insertVote (sessionID songID : Int)
  | insertLike (sessionID songID value : Int)
  | deleteLikes (songID : Int)
  | setInactive (songID : Int) (datetime : Nat)
  | deleteVotes (songID : Int)
  | setPlaying (songID : Int)
  deriving DecidableEq, Repr

def Statement.apply : Statement → Database → Database
  | .insertSession ip type time, db => db.insertSession ip type time
  | .insertChildSession type id, db => db.insertChildSession type id
  | .deleteSession id, db => db.deleteSession id
  | .insertVote sessionID songID, db => db.insertVote sessionID songID
  | .insertLike sessionID songID value, db => db.insertLike sessionID songID value
  | .deleteLikes songID, db => { db with likes := db.likes.filter fun r => r.song_id ≠ songID }
  | .setInactive songID datetime, db => { db with
      songs := db.songs.map fun r =>
        if r.id = songID then { r with status := .Inactive, last_played := datetime } else r }
  | .deleteVotes songID, db => { db with votes := db.votes.filter fun r => r.song_id ≠ songID }
  | .setPlaying songID, db => db.setStatus songID .Playing

def applyAll (statements : List Statement) (db : Database) : Database :=
  statements.foldl (fun db w => w.apply db) db

def removeCurrentSongFromDB (songID : Int) (datetime : Nat) : List Statement :=
  [.deleteLikes songID, .setInactive songID datetime]

def addCurrentSongToDB (songID : Int) : List Statement :=
  [.deleteVotes songID, .setPlaying songID]

def songStatements (current next : Option Int) (datetime : Nat) : List Statement :=
  (match current with
  | some songID => removeCurrentSongFromDB songID datetime
  | none => []) ++
  match next with
  | some songID => addCurrentSongToDB songID
  | none => []

theorem applyAll_songStatements (current next : Option Int) (datetime : Nat) (db : Database) :
    applyAll (songStatements current next datetime) db =
      db.updateNextSong current next datetime := by
  cases current <;> cases next <;> rfl

inductive JdbcCall where
  | setAutoCommit (on : Bool)
  | commit
  | rollback
  | execute (statement : Statement)
  | selectRowid
  deriving DecidableEq, Repr

/-- Which calls of a bracket throw, and the mode that a `setAutoCommit` leaves
    behind when it throws. -/
structure Failures where
  throws : JdbcCall → Bool
  leaves : Bool → Bool

/-- The connection that all requests share. `committed` is what a rollback goes
    back to; `modeFailed` is a history: the last `setAutoCommit` has thrown. -/
structure Connection where
  db : Database
  committed : Database
  autoCommit : Bool
  transactionLock : ReentrantLock
  modeFailed : Bool

abbrev ConnectionM := EStateM JavaException Connection

namespace Connection

def opened (db : Database) : Connection :=
  { db := db, committed := db, autoCommit := true, transactionLock := .free, modeFailed := false }

def write (w : Statement) (c : Connection) : Connection :=
  { c with db := w.apply c.db, committed := if c.autoCommit then w.apply c.db else c.committed }

def setMode (on : Bool) (c : Connection) : Connection :=
  { c with autoCommit := on, committed := if on then c.db else c.committed }

/-- `last_insert_rowid` is no part of a transaction. -/
def restored (c : Connection) : Connection :=
  { c with db := { c.committed with
    lastInsertRowid := c.db.lastInsertRowid, scanRank := c.db.scanRank } }

def unlocked (c : Connection) : Connection :=
  { c with transactionLock := c.transactionLock.unlock }

section Methods
variable (f : Failures) (t : Nat)

def setAutoCommit (on : Bool) : ConnectionM Unit := do
  if f.throws (.setAutoCommit on) then
    modify fun c => { c.setMode (f.leaves on) with modeFailed := true }
    throw .sql
  modify fun c => { c.setMode on with modeFailed := false }

def commit : ConnectionM Unit := do
  if f.throws .commit then throw .sql
  modify fun c => { c with committed := c.db }

def rollback : ConnectionM Unit := do
  if f.throws .rollback then throw .sql
  modify restored

def execute (w : Statement) : ConnectionM Unit := do
  if f.throws (.execute w) then throw .sql
  modify (write w)

def selectRowid : ConnectionM Int := do
  if f.throws .selectRowid then throw .sql
  return (← get).db.lastInsertRowid

def startTransaction : ConnectionM Unit := do
  modify fun c => { c with transactionLock := c.transactionLock.lock t }
  setAutoCommit f false

def stopTransaction : ConnectionM Unit := do
  if (← get).transactionLock.isHeldBy t then
    tryCatch (do
      commit f
      setAutoCommit f true) fun e => do
        modify unlocked
        throw e
    modify unlocked
  else throw .illegalState

/-- There is no `unlock` after the `try` block. -/
def rollbackTransaction : ConnectionM Unit := do
  if (← get).transactionLock.isHeldBy t then
    tryCatch (do
      rollback f
      setAutoCommit f true) fun e => do
        modify unlocked
        throw e
  else throw .illegalState

def createSession (ip : String) (type : SessionType) (time : Int) : ConnectionM Int := do
  let sessionID ← tryCatch (do
    startTransaction f t
    execute f (.insertSession ip type time)
    let sessionID ← selectRowid f
    execute f (.insertChildSession type sessionID)
    return sessionID) fun e => do
      stopTransaction f t
      throw e
  stopTransaction f t
  return sessionID

def executeAll : List Statement → ConnectionM Unit
  | [] => return
  | w :: ws => do
    execute f w
    executeAll ws

def updateNextSong (current next : Option Int) (datetime : Nat) : ConnectionM Unit := do
  tryCatch (do
    startTransaction f t
    executeAll f (songStatements current next datetime)) fun e => do
      rollbackTransaction f t
      throw e
  stopTransaction f t

section Results
variable {c d : Connection}

@[simp] theorem setAutoCommit_apply (on : Bool) : setAutoCommit f on c =
    if f.throws (.setAutoCommit on) then
      .error .sql { c.setMode (f.leaves on) with modeFailed := true }
    else .ok () { c.setMode on with modeFailed := false } := by
  unfold setAutoCommit
  by_cases fails : f.throws (.setAutoCommit on) <;> simp [fails]

@[simp] theorem commit_apply : commit f c =
    if f.throws .commit then .error .sql c else .ok () { c with committed := c.db } := by
  unfold commit
  by_cases fails : f.throws .commit <;> simp [fails]

@[simp] theorem rollback_apply : rollback f c =
    if f.throws .rollback then .error .sql c else .ok () c.restored := by
  unfold rollback
  by_cases fails : f.throws .rollback <;> simp [fails]

@[simp] theorem execute_apply (w : Statement) : execute f w c =
    if f.throws (.execute w) then .error .sql c else .ok () (c.write w) := by
  unfold execute
  by_cases fails : f.throws (.execute w) <;> simp [fails]

@[simp] theorem selectRowid_apply : selectRowid f c =
    if f.throws .selectRowid then .error .sql c else .ok c.db.lastInsertRowid c := by
  unfold selectRowid
  by_cases fails : f.throws .selectRowid <;> simp [fails]

theorem startTransaction_apply : startTransaction f t c =
    setAutoCommit f false { c with transactionLock := c.transactionLock.lock t } := by
  simp [startTransaction]

theorem stopTransaction_apply (held : c.transactionLock.isHeldBy t = true) :
    stopTransaction f t c =
      if f.throws .commit then .error .sql c.unlocked
      else if f.throws (.setAutoCommit true) then
        .error .sql { c with
          committed := c.db, autoCommit := f.leaves true, modeFailed := true
          transactionLock := c.transactionLock.unlock }
      else .ok () { c with
        committed := c.db, autoCommit := true, modeFailed := false
        transactionLock := c.transactionLock.unlock } := by
  by_cases first : f.throws .commit <;> by_cases second : f.throws (.setAutoCommit true) <;>
    simp [stopTransaction, held, first, second, unlocked, setMode]

theorem rollbackTransaction_apply (held : c.transactionLock.isHeldBy t = true) :
    rollbackTransaction f t c =
      if f.throws .rollback then .error .sql c.unlocked
      else if f.throws (.setAutoCommit true) then
        .error .sql (unlocked { c.restored.setMode (f.leaves true) with modeFailed := true })
      else .ok () { c.restored.setMode true with modeFailed := false } := by
  by_cases first : f.throws .rollback <;> by_cases second : f.throws (.setAutoCommit true) <;>
    simp [rollbackTransaction, held, first, second, unlocked]

structure SameMode (c d : Connection) : Prop where
  lock : d.transactionLock = c.transactionLock
  mode : d.autoCommit = c.autoCommit
  failed : d.modeFailed = c.modeFailed

theorem SameMode.trans {e : Connection} (first : SameMode c d) (second : SameMode d e) :
    SameMode c e :=
  ⟨second.lock.trans first.lock, second.mode.trans first.mode, second.failed.trans first.failed⟩

def KeepsMode {α : Type} (m : ConnectionM α) : Prop := ∀ c, SameMode c (finalState (m c))

theorem KeepsMode.bind {α β : Type} {m : ConnectionM α} {rest : α → ConnectionM β}
    (first : KeepsMode m) (second : ∀ a, KeepsMode (rest a)) : KeepsMode (m >>= rest) := by
  intro c
  have kept := first c
  rw [Server.bind_apply]
  cases result : m c with
  | error e d => simpa [result] using kept
  | ok a d =>
    rw [result] at kept
    exact kept.trans (second a d)

theorem keepsMode_execute (w : Statement) : KeepsMode (execute f w) := by
  intro c
  rw [execute_apply]
  split <;> exact ⟨rfl, rfl, rfl⟩

theorem keepsMode_selectRowid : KeepsMode (selectRowid f) := by
  intro c
  rw [selectRowid_apply]
  split <;> exact ⟨rfl, rfl, rfl⟩

theorem keepsMode_executeAll (ws : List Statement) : KeepsMode (executeAll f ws) := by
  induction ws with
  | nil => exact fun c => ⟨rfl, rfl, rfl⟩
  | cons w ws ih => exact (keepsMode_execute f w).bind fun _ => ih

theorem executeAll_fails_iff (ws : List Statement) :
    (∃ e d, executeAll f ws c = .error e d) ↔ ∃ w ∈ ws, f.throws (.execute w) = true := by
  induction ws generalizing c with
  | nil => simp [executeAll]
  | cons w ws ih =>
    by_cases fails : f.throws (.execute w)
    · simp [executeAll, fails]
    · simp [executeAll, fails, ih]

theorem body_fails_iff (ws : List Statement) :
    (∃ e d, (do startTransaction f t; executeAll f ws) c = .error e d) ↔
      f.throws (.setAutoCommit false) = true ∨ ∃ w ∈ ws, f.throws (.execute w) = true := by
  rw [Server.bind_apply, startTransaction_apply, setAutoCommit_apply]
  by_cases opens : f.throws (.setAutoCommit false)
  · simp [opens]
  · simp [opens, executeAll_fails_iff]

theorem executeAll_writes {ws : List Statement} (works : ∀ w ∈ ws, f.throws (.execute w) = false)
    (opened : c.autoCommit = false) :
    executeAll f ws c = .ok () { c with db := applyAll ws c.db } := by
  induction ws generalizing c with
  | nil => rfl
  | cons w ws ih =>
    have first := works w List.mem_cons_self
    have written : c.write w = { c with db := w.apply c.db } := by simp [write, opened]
    have rest := ih (c := c.write w) (fun v hv => works v (List.mem_cons_of_mem w hv)) opened
    unfold executeAll
    rw [Server.bind_apply, execute_apply, first]
    refine rest.trans ?_
    rw [written]
    rfl

theorem updateNextSong_commits (enters : c.transactionLock.available t = true)
    (current next : Option Int) (datetime : Nat) (opens : f.throws (.setAutoCommit false) = false)
    (works : ∀ w ∈ songStatements current next datetime, f.throws (.execute w) = false)
    (commits : f.throws .commit = false) (restores : f.throws (.setAutoCommit true) = false) :
    updateNextSong f t current next datetime c =
      .ok () { c with
        db := c.db.updateNextSong current next datetime
        committed := c.db.updateNextSong current next datetime
        autoCommit := true
        modeFailed := false } := by
  have writes : ∀ d : Connection, d.autoCommit = false →
      executeAll f (songStatements current next datetime) d =
        .ok () { d with db := applyAll (songStatements current next datetime) d.db } :=
    fun d opened => executeAll_writes f works opened
  unfold updateNextSong
  simp [startTransaction_apply, opens, commits, restores, setMode, writes,
    applyAll_songStatements, stopTransaction_apply, ReentrantLock.isHeldBy_lock enters]

structure Entered (c d : Connection) : Prop where
  lock : d.transactionLock = c.transactionLock.lock t
  failed : d.modeFailed = f.throws (.setAutoCommit false)
  mode : f.throws (.setAutoCommit false) = false → d.autoCommit = false

variable {f t}

theorem entered_body {α : Type} {rest : ConnectionM α} (keeps : KeepsMode rest) :
    Entered f t c (finalState ((startTransaction f t >>= fun _ => rest) c)) := by
  rw [Server.bind_apply, startTransaction_apply, setAutoCommit_apply]
  by_cases opens : f.throws (.setAutoCommit false)
  · constructor <;> simp [opens, setMode]
  · rw [if_neg opens]
    have same := keeps { setMode false { c with transactionLock := c.transactionLock.lock t } with
      modeFailed := false }
    constructor
    · exact same.lock
    · simpa [opens] using same.failed
    · intro _
      exact same.mode

/-- The thread has let go of the lock, and the connection is in auto-commit
    mode unless the last `setAutoCommit` has failed. -/
def Released (t : Nat) (c : Connection) : Prop :=
  c.transactionLock.isHeldBy t = false ∧ (c.modeFailed = false → c.autoCommit = true)

theorem stopTransaction_released_iff (entered : Entered f t c d)
    (free : c.transactionLock = .free) :
    Released t (finalState (stopTransaction f t d)) ↔
      f.throws (.setAutoCommit false) = true ∨ f.throws .commit = false := by
  have held : d.transactionLock.isHeldBy t = true := by
    rw [entered.lock, free]
    exact ReentrantLock.isHeldBy_lock rfl
  have once : d.transactionLock.unlock = .free := by
    rw [entered.lock, ReentrantLock.unlock_lock, free]
  rw [stopTransaction_apply f t held]
  by_cases commits : f.throws .commit
  · cases opens : f.throws (.setAutoCommit false) with
    | true => simp [Released, commits, unlocked, once, ReentrantLock.isHeldBy, entered.failed, opens]
    | false =>
      simp [Released, commits, unlocked, entered.failed, opens, entered.mode opens]
  · by_cases restores : f.throws (.setAutoCommit true)
    · simp [Released, commits, restores, once, ReentrantLock.isHeldBy]
    · simp [Released, commits, restores, once, ReentrantLock.isHeldBy]

theorem rollbackTransaction_released_iff (entered : Entered f t c d)
    (free : c.transactionLock = .free) :
    Released t (finalState (rollbackTransaction f t d)) ↔
      if f.throws (.setAutoCommit false) then
        f.throws .rollback = true ∨ f.throws (.setAutoCommit true) = true
      else f.throws .rollback = false ∧ f.throws (.setAutoCommit true) = true := by
  have held : d.transactionLock.isHeldBy t = true := by
    rw [entered.lock, free]
    exact ReentrantLock.isHeldBy_lock rfl
  have once : d.transactionLock.unlock = .free := by
    rw [entered.lock, ReentrantLock.unlock_lock, free]
  have kept : d.restored.transactionLock = d.transactionLock := rfl
  rw [rollbackTransaction_apply f t held]
  by_cases rolls : f.throws .rollback
  · cases opens : f.throws (.setAutoCommit false) with
    | true => simp [Released, rolls, unlocked, once, ReentrantLock.isHeldBy, entered.failed, opens]
    | false =>
      simp [Released, rolls, unlocked, entered.failed, opens, entered.mode opens]
  · by_cases restores : f.throws (.setAutoCommit true)
    · simp [Released, rolls, restores, unlocked, setMode, kept, once, ReentrantLock.isHeldBy]
    · simp [Released, rolls, restores, setMode, kept, held]

theorem finally_left {α : Type} (body : ConnectionM α) (close : ConnectionM Unit) :
    finalState ((do
      let a ← tryCatch body fun e => do
        close
        throw e
      close
      return a) c) = finalState (close (finalState (body c))) := by
  cases ran : body c with
  | ok a d => cases closed : close d <;> simp [ran, closed]
  | error e d => cases closed : close d <;> simp [ran, closed]

theorem catch_left (body handler close : ConnectionM Unit) :
    finalState ((do
      tryCatch body fun e => do
        handler
        throw e
      close) c) = match body c with
      | .ok _ d => finalState (close d)
      | .error _ d => finalState (handler d) := by
  cases ran : body c with
  | ok u d => simp [ran]
  | error e d => cases handled : handler d <;> simp [ran, handled]

theorem entered_createSession (ip : String) (type : SessionType) (time : Int) :
    Entered f t c (finalState ((do
      startTransaction f t
      execute f (.insertSession ip type time)
      let sessionID ← selectRowid f
      execute f (.insertChildSession type sessionID)
      return sessionID) c)) := by
  apply entered_body
  apply (keepsMode_execute f _).bind
  intro _
  apply (keepsMode_selectRowid f).bind
  intro sessionID
  apply (keepsMode_execute f _).bind
  intro _ c
  exact ⟨rfl, rfl, rfl⟩

theorem createSession_released_iff (free : c.transactionLock = .free) (ip : String)
    (type : SessionType) (time : Int) :
    Released t (finalState (createSession f t ip type time c)) ↔
      f.throws (.setAutoCommit false) = true ∨ f.throws .commit = false := by
  unfold createSession
  rw [finally_left]
  exact stopTransaction_released_iff (entered_createSession ip type time) free

theorem updateNextSong_released_iff (free : c.transactionLock = .free) (current next : Option Int)
    (datetime : Nat) :
    Released t (finalState (updateNextSong f t current next datetime c)) ↔
      if f.throws (.setAutoCommit false) then
        f.throws .rollback = true ∨ f.throws (.setAutoCommit true) = true
      else if ∃ w ∈ songStatements current next datetime, f.throws (.execute w) = true then
        f.throws .rollback = false ∧ f.throws (.setAutoCommit true) = true
      else f.throws .commit = false := by
  have entered := entered_body (f := f) (t := t) (c := c)
    (keepsMode_executeAll f (songStatements current next datetime))
  have fails := body_fails_iff f t (songStatements current next datetime) (c := c)
  unfold updateNextSong
  rw [catch_left]
  cases ran : (do startTransaction f t; executeAll f (songStatements current next datetime)) c with
  | ok u d =>
    rw [ran] at entered fails
    simp only [reduceCtorEq, exists_false, false_iff, not_or] at fails
    rw [if_neg fails.1, if_neg fails.2]
    have stopped := stopTransaction_released_iff entered free
    simpa [fails.1] using stopped
  | error e d =>
    rw [ran] at entered fails
    have failed := fails.mp ⟨e, d, rfl⟩
    refine (rollbackTransaction_released_iff entered free).trans ?_
    by_cases opens : f.throws (.setAutoCommit false)
    · rw [if_pos opens, if_pos opens]
    · rw [if_neg opens, if_neg opens, if_pos (failed.resolve_left opens)]

end Results

end Methods

inductive Bracket where
  | createSession (ipAddress : String) (type : SessionType) (time : Int)
  | updateNextSong (current next : Option Int) (datetime : Nat)

structure Attempt where
  thread : Nat
  bracket : Bracket
  failures : Failures

def perform (c : Connection) (a : Attempt) : Connection :=
  if c.transactionLock.available a.thread then
    match a.bracket with
    | .createSession ip type time => finalState (createSession a.failures a.thread ip type time c)
    | .updateNextSong current next datetime =>
      finalState (updateNextSong a.failures a.thread current next datetime c)
  else c

def Releases (c : Connection) (a : Attempt) : Prop :=
  c.transactionLock.available a.thread = true ∧ Released a.thread (c.perform a)

/-- A failure before the commit is harmless in `updateNextSong` only if the
    rollback fails as well, in a call after which the mode is not known. -/
def Harmless (f : Failures) : Bracket → Prop
  | .createSession _ _ _ => f.throws (.setAutoCommit false) = true ∨ f.throws .commit = false
  | .updateNextSong current next datetime =>
    if f.throws (.setAutoCommit false) then
      f.throws .rollback = true ∨ f.throws (.setAutoCommit true) = true
    else if ∃ w ∈ songStatements current next datetime, f.throws (.execute w) = true then
      f.throws .rollback = false ∧ f.throws (.setAutoCommit true) = true
    else f.throws .commit = false

variable {c : Connection}

theorem stopTransaction_lock {f : Failures} {t : Nat} {d : Connection} (entered : Entered f t c d)
    (free : c.transactionLock = .free) :
    (finalState (stopTransaction f t d)).transactionLock = .free := by
  have taken : d.transactionLock = .held t 0 := by rw [entered.lock, free]; rfl
  rw [stopTransaction_apply f t (by rw [taken]; simp [ReentrantLock.isHeldBy])]
  split
  · simp [unlocked, taken, ReentrantLock.unlock]
  · split <;> simp [taken, ReentrantLock.unlock]

theorem rollbackTransaction_lock {f : Failures} {t : Nat} {d : Connection}
    (entered : Entered f t c d) (free : c.transactionLock = .free)
    (released : Released t (finalState (rollbackTransaction f t d))) :
    (finalState (rollbackTransaction f t d)).transactionLock = .free := by
  have taken : d.transactionLock = .held t 0 := by rw [entered.lock, free]; rfl
  have kept : d.restored.transactionLock = .held t 0 := taken
  rw [rollbackTransaction_apply f t (by rw [taken]; simp [ReentrantLock.isHeldBy])] at released ⊢
  split
  · simp [unlocked, taken, ReentrantLock.unlock]
  · rename_i rolls
    split
    · simp [unlocked, setMode, kept, ReentrantLock.unlock]
    · rename_i restores
      have held := released.1
      simp [rolls, restores, setMode, kept, ReentrantLock.isHeldBy] at held

theorem free_of_releases (free : c.transactionLock = .free) {a : Attempt} (releases : c.Releases a) :
    (c.perform a).transactionLock = .free := by
  obtain ⟨enters, released⟩ := releases
  unfold perform at released ⊢
  rw [if_pos enters] at released ⊢
  cases bracket : a.bracket with
  | createSession ip type time =>
    dsimp only
    unfold createSession
    rw [finally_left]
    exact stopTransaction_lock (entered_createSession ip type time) free
  | updateNextSong current next datetime =>
    rw [bracket] at released
    dsimp only at released ⊢
    have entered := entered_body (f := a.failures) (t := a.thread) (c := c)
      (keepsMode_executeAll a.failures (songStatements current next datetime))
    unfold updateNextSong at released ⊢
    rw [catch_left] at released ⊢
    cases ran : (do
        startTransaction a.failures a.thread
        executeAll a.failures (songStatements current next datetime)) c with
    | ok u d =>
      rw [ran] at entered
      exact stopTransaction_lock entered free
    | error e d =>
      rw [ran] at entered released
      exact rollbackTransaction_lock entered free released

theorem releases_iff (free : c.transactionLock = .free) (a : Attempt) :
    c.Releases a ↔ Harmless a.failures a.bracket := by
  have enters : c.transactionLock.available a.thread = true := by rw [free]; rfl
  unfold Releases perform
  rw [if_pos enters]
  cases bracket : a.bracket with
  | createSession ip type time =>
    simpa [enters, Harmless] using createSession_released_iff free ip type time
  | updateNextSong current next datetime =>
    simpa [enters, Harmless] using updateNextSong_released_iff free current next datetime

theorem releases_run_iff (free : c.transactionLock = .free) (attempts : List Attempt) :
    StepsMeet perform Releases c attempts ↔ ∀ a ∈ attempts, Harmless a.failures a.bracket := by
  induction attempts generalizing c with
  | nil => simp [StepsMeet]
  | cons a attempts ih =>
    rw [StepsMeet, List.forall_mem_cons, ← releases_iff free a]
    constructor
    · rintro ⟨releases, rest⟩
      exact ⟨releases, (ih (free_of_releases free releases)).mp rest⟩
    · rintro ⟨releases, harmless⟩
      exact ⟨releases, (ih (free_of_releases free releases)).mpr harmless⟩

end Connection

/-- Over any threads, every bracket of a sequence is entered and releases the
    connection exactly if the calls that throw are harmless in each. -/
theorem transactions_released_iff (db : Database) (attempts : List Connection.Attempt) :
    StepsMeet Connection.perform Connection.Releases (.opened db) attempts ↔
      ∀ a ∈ attempts, Connection.Harmless a.failures a.bracket :=
  Connection.releases_run_iff rfl attempts

def failedSongChange : Connection.Attempt :=
  { thread := 1
    bracket := .updateNextSong none (some 1) 0
    failures := { throws := fun call => call == .execute (.setPlaying 1), leaves := fun on => on } }

/-- Then the thread keeps the lock. -/
theorem failed_song_change_keeps_lock :
    ¬ ∀ (db : Database) (attempts : List Connection.Attempt),
      StepsMeet Connection.perform Connection.Releases (.opened db) attempts := by
  intro always
  have released := (always (.create []) [failedSongChange]).1.2.1
  revert released
  decide +kernel

end MusicCloud
