import MusicCloud.StatusReports
import MusicCloud.Transactions

/-!
Song changes and the writes of clients on the one connection. `vote`, `like`,
`dislike` and `destroySession` do not take the transaction lock, so their
statements may run inside the transaction of a song change, and a rollback
undoes them too. The history is a log of the writes, from which a rollback ought
to take those of the song change alone.
-/
namespace MusicCloud
open Runs

inductive ClientWrite where
  | vote (songID sessionID : Int)
  | like (songID sessionID : Int)
  | dislike (songID sessionID : Int)
  | destroySession (sessionID : Int)
  deriving DecidableEq, Repr

def ClientWrite.statement : ClientWrite → Statement
  | .vote songID sessionID => .insertVote sessionID songID
  | .like songID sessionID => .insertLike sessionID songID 1
  | .dislike songID sessionID => .insertLike sessionID songID (-1)
  | .destroySession sessionID => .deleteSession sessionID

/-- A completed write; `own` marks the statements of song changes. -/
structure LoggedWrite where
  statement : Statement
  own : Bool

inductive Stage where
  | idle
  | starting (statements : List Statement)
  | executing (statements : List Statement)
  | committed
  | failed
  | rolledBack

/-- `thread` and `failures` belong to the running song change. `log` and
    `pending` are histories: the writes up to the last commit, and those since. -/
structure Sharing where
  connection : Connection
  stage : Stage
  thread : Nat
  failures : Failures
  log : List LoggedWrite
  pending : List LoggedWrite

inductive Move where
  | client (w : ClientWrite)
  | songChange (thread : Nat) (current next : Option Int) (datetime : Nat) (failures : Failures)
  | proceeds

namespace Sharing

def start (db : Database) : Sharing :=
  { connection := .opened db, stage := .idle, thread := 0
    failures := { throws := fun _ => false, leaves := fun _ => false }, log := [], pending := [] }

def write (w : Statement) (own : Bool) (s : Sharing) : Sharing :=
  let logged : LoggedWrite := { statement := w, own := own }
  { s with
    connection := s.connection.write w
    log := if s.connection.autoCommit then s.log ++ [logged] else s.log
    pending := if s.connection.autoCommit then s.pending else s.pending ++ [logged] }

def settled (s : Sharing) : Sharing := { s with log := s.log ++ s.pending, pending := [] }

/-- The pending writes have been rolled back: those of the song change are
    undone, the others ought to stay. -/
def undone (s : Sharing) : Sharing :=
  { s with log := s.log ++ s.pending.filter fun w => !w.own, pending := [] }

def setMode (on : Bool) (s : Sharing) : Sharing :=
  let s := if on then s.settled else s
  { s with connection := s.connection.setMode on }

def setAutoCommit (on : Bool) (s : Sharing) : Sharing :=
  let fails := s.failures.throws (.setAutoCommit on)
  let s := s.setMode (if fails then s.failures.leaves on else on)
  { s with connection := { s.connection with modeFailed := fails } }

def unlocked (s : Sharing) : Sharing := { s with connection := s.connection.unlocked }

def begun (thread : Nat) (ws : List Statement) (failures : Failures) (s : Sharing) : Sharing :=
  { s with
    connection := { s.connection with
      transactionLock := s.connection.transactionLock.lock thread }
    stage := .starting ws
    thread := thread
    failures := failures }

def proceed (s : Sharing) : Sharing :=
  match s.stage with
  | .idle => s
  | .starting ws =>
    { s.setAutoCommit false with
      stage := if s.failures.throws (.setAutoCommit false) then .failed else .executing ws }
  | .executing (w :: ws) =>
    if s.failures.throws (.execute w) then { s with stage := .failed }
    else { s.write w true with stage := .executing ws }
  | .executing [] =>
    if s.failures.throws .commit then { s.unlocked with stage := .idle }
    else
      { s.settled with
        connection := { s.connection with committed := s.connection.db }
        stage := .committed }
  | .committed => { (s.setAutoCommit true).unlocked with stage := .idle }
  | .failed =>
    if s.failures.throws .rollback then { s.unlocked with stage := .idle }
    else { s.undone with connection := s.connection.restored, stage := .rolledBack }
  | .rolledBack =>
    -- the lock is released only if this call throws
    if s.failures.throws (.setAutoCommit true) then
      { (s.setAutoCommit true).unlocked with stage := .idle }
    else { s.setAutoCommit true with stage := .idle }

/-- The monitor of `SongManager` admits one song change at a time, and it waits
    for the lock of the connection. -/
def step (s : Sharing) : Move → Sharing
  | .client w => s.write w.statement false
  | .songChange thread current next datetime failures =>
    match s.stage with
    | .idle =>
      if s.connection.transactionLock.available thread then
        s.begun thread (songStatements current next datetime) failures
      else s
    | _ => s
  | .proceeds => s.proceed

section Alone

theorem setAutoCommit_connection (s : Sharing) (on : Bool) : (s.setAutoCommit on).connection =
    { s.connection.setMode (if s.failures.throws (.setAutoCommit on) then s.failures.leaves on else on)
      with modeFailed := s.failures.throws (.setAutoCommit on) } := by
  have same : ∀ mode : Bool, (s.setMode mode).connection = s.connection.setMode mode := by
    intro mode
    cases mode <;> rfl
  unfold setAutoCommit
  dsimp only
  rw [same]

theorem setAutoCommit_kept (s : Sharing) (on : Bool) :
    (s.setAutoCommit on).thread = s.thread ∧ (s.setAutoCommit on).failures = s.failures := by
  have same : ∀ mode : Bool, (s.setMode mode).thread = s.thread ∧
      (s.setMode mode).failures = s.failures := by
    intro mode
    cases mode <;> exact ⟨rfl, rfl⟩
  exact same _

variable {s : Sharing}

theorem idle_stays (idle : s.stage = .idle) (n : Nat) :
    run step s (List.replicate n .proceeds) = s := by
  induction n with
  | zero => rfl
  | succ n ih =>
    have same : s.step .proceeds = s := by rw [step, proceed, idle]
    rw [List.replicate_succ, run_cons, same, ih]

theorem stop_uninterrupted (here : s.stage = .executing [])
    (held : s.connection.transactionLock.isHeldBy s.thread = true) :
    (run step s (List.replicate 2 .proceeds)).connection =
        finalState (Connection.stopTransaction s.failures s.thread s.connection) ∧
      (run step s (List.replicate 2 .proceeds)).stage = .idle := by
  simp only [List.replicate, run_cons, run_nil, step]
  rw [Connection.stopTransaction_apply _ _ held, proceed.eq_def s, here]
  by_cases commits : s.failures.throws .commit
  · simp [commits, proceed, unlocked]
  · by_cases restores : s.failures.throws (.setAutoCommit true)
    · simp [commits, restores, proceed, unlocked, setAutoCommit, setMode, settled,
        Connection.setMode, Connection.unlocked]
    · simp [commits, restores, proceed, unlocked, setAutoCommit, setMode, settled,
        Connection.setMode, Connection.unlocked]

theorem rollback_uninterrupted (here : s.stage = .failed)
    (held : s.connection.transactionLock.isHeldBy s.thread = true) :
    (run step s (List.replicate 2 .proceeds)).connection =
        finalState (Connection.rollbackTransaction s.failures s.thread s.connection) ∧
      (run step s (List.replicate 2 .proceeds)).stage = .idle := by
  simp only [List.replicate, run_cons, run_nil, step]
  rw [Connection.rollbackTransaction_apply _ _ held, proceed.eq_def s, here]
  by_cases rolls : s.failures.throws .rollback
  · simp [rolls, proceed, unlocked]
  · by_cases restores : s.failures.throws (.setAutoCommit true)
    · simp [rolls, restores, proceed, setAutoCommit, setMode, settled, undone,
        Connection.setMode, Connection.unlocked, unlocked]
    · simp [rolls, restores, proceed, setAutoCommit, setMode, settled, undone,
        Connection.setMode]

def ended (f : Failures) (t : Nat) : EStateM.Result JavaException Connection Unit → Connection
  | .ok _ c => finalState (Connection.stopTransaction f t c)
  | .error _ c => finalState (Connection.rollbackTransaction f t c)

theorem execute_uninterrupted {ws : List Statement} (here : s.stage = .executing ws)
    (held : s.connection.transactionLock.isHeldBy s.thread = true) :
    (run step s (List.replicate (ws.length + 2) .proceeds)).connection =
      ended s.failures s.thread (Connection.executeAll s.failures ws s.connection) := by
  induction ws generalizing s with
  | nil => exact (stop_uninterrupted here held).1
  | cons w ws ih =>
    rw [List.length_cons, Nat.add_right_comm, List.replicate_succ, run_cons, step, proceed, here,
      Connection.executeAll, Server.bind_apply, Connection.execute_apply]
    dsimp only
    by_cases fails : s.failures.throws (.execute w)
    · have rolled := rollback_uninterrupted (s := { s with stage := .failed }) rfl held
      rw [if_pos fails, if_pos fails, Nat.add_comm, List.replicate_add, run_append,
        idle_stays rolled.2, rolled.1]
      rfl
    · rw [if_neg fails, if_neg fails]
      exact ih (s := { s.write w true with stage := .executing ws }) rfl held

theorem start_uninterrupted {ws : List Statement} (here : s.stage = .starting ws)
    (held : s.connection.transactionLock.isHeldBy s.thread = true) :
    (run step s (List.replicate (ws.length + 3) .proceeds)).connection =
      ended s.failures s.thread ((do
        Connection.setAutoCommit s.failures false
        Connection.executeAll s.failures ws) s.connection) := by
  have set := setAutoCommit_connection s false
  have kept := setAutoCommit_kept s false
  rw [Server.bind_apply, Connection.setAutoCommit_apply, List.replicate_succ, run_cons, step, proceed,
    here]
  dsimp only
  by_cases opens : s.failures.throws (.setAutoCommit false)
  · simp only [opens, if_true] at set ⊢
    have rolled := rollback_uninterrupted
      (s := { s.setAutoCommit false with stage := .failed }) rfl (by rw [set, kept.1]; exact held)
    rw [Nat.add_comm, List.replicate_add, run_append, idle_stays rolled.2, rolled.1]
    dsimp only
    rw [set, kept.1, kept.2]
    rfl
  · simp only [opens, Bool.false_eq_true, if_false] at set ⊢
    have executed := execute_uninterrupted
      (s := { s.setAutoCommit false with stage := .executing ws }) rfl (by rw [set, kept.1]; exact held)
    rw [executed]
    dsimp only
    rw [set, kept.1, kept.2]

/-- A song change that no client interrupts does what `updateNextSong` does. -/
theorem songChange_uninterrupted (idle : s.stage = .idle) {thread : Nat}
    (enters : s.connection.transactionLock.available thread = true) (current next : Option Int)
    (datetime : Nat) (f : Failures) :
    (run step s (.songChange thread current next datetime f ::
      List.replicate ((songStatements current next datetime).length + 3) .proceeds)).connection =
      finalState (Connection.updateNextSong f thread current next datetime s.connection) := by
  have held := ReentrantLock.isHeldBy_lock enters
  have ends : finalState (Connection.updateNextSong f thread current next datetime s.connection) =
      ended f thread ((do
        Connection.startTransaction f thread
        Connection.executeAll f (songStatements current next datetime)) s.connection) := by
    unfold Connection.updateNextSong
    rw [Connection.catch_left]
    rfl
  rw [ends, Server.bind_apply, Connection.startTransaction_apply, ← Server.bind_apply]
  rw [run_cons, step, idle]
  dsimp only
  rw [if_pos enters]
  exact start_uninterrupted rfl held

end Alone

def writes (s : Sharing) : List LoggedWrite := s.log ++ s.pending

def replay (ws : List LoggedWrite) (db : Database) : Database :=
  applyAll (ws.map LoggedWrite.statement) db

theorem replay_append (as bs : List LoggedWrite) (db : Database) :
    replay (as ++ bs) db = replay bs (replay as db) := by
  simp [replay, applyAll, List.foldl_append]

def RollsBack (s : Sharing) (e : Move) : Prop :=
  e = .proceeds ∧ s.stage = .failed ∧ s.failures.throws .rollback = false

def RollsBackAlone (s : Sharing) (e : Move) : Prop :=
  s.RollsBack e → ∀ w ∈ s.pending, w.own = true

def ofSongChange : Statement → Bool
  | .deleteLikes _ => true
  | .setInactive _ _ => true
  | .deleteVotes _ => true
  | .setPlaying _ => true
  | _ => false

theorem ofSongChange_songStatements {current next : Option Int} {datetime : Nat} :
    ∀ w ∈ songStatements current next datetime, ofSongChange w = true := by
  intro w hw
  cases current <;> cases next <;>
    simp only [songStatements, removeCurrentSongFromDB, addCurrentSongToDB, List.nil_append,
      List.append_nil, List.cons_append, List.mem_cons, List.not_mem_nil, or_false] at hw
  all_goals rcases hw with rfl | rfl | rfl | rfl <;> rfl

theorem replay_ofSongChange {ws : List LoggedWrite}
    (ours : ∀ w ∈ ws, ofSongChange w.statement = true) (db : Database) :
    (replay ws db).lastInsertRowid = db.lastInsertRowid ∧
      (replay ws db).scanRank = db.scanRank := by
  induction ws generalizing db with
  | nil => exact ⟨rfl, rfl⟩
  | cons w ws ih =>
    have first := ours w List.mem_cons_self
    have rest := ih (fun v hv => ours v (List.mem_cons_of_mem w hv)) (w.statement.apply db)
    refine ⟨rest.1.trans ?_, rest.2.trans ?_⟩ <;>
      cases statement : w.statement <;>
        simp [statement, ofSongChange] at first <;> rfl

def stageStatements : Stage → List Statement
  | .starting ws => ws
  | .executing ws => ws
  | _ => []

/-- The tables are what the logged writes make of the first ones. -/
structure Accounted (first : Database) (s : Sharing) : Prop where
  db : s.connection.db = replay s.writes first
  committed : s.connection.committed = replay s.log first
  durable : s.connection.autoCommit = true → s.pending = []
  ours : ∀ w ∈ s.pending, w.own = true → ofSongChange w.statement = true
  stage : ∀ w ∈ stageStatements s.stage, ofSongChange w = true

section Step
variable {first : Database} {s : Sharing}

theorem Accounted.write (h : s.Accounted first) (w : Statement) (own : Bool)
    (ours : own = true → ofSongChange w = true) : (s.write w own).Accounted first := by
  have logged : ∀ ws, replay (ws ++ [{ statement := w, own := own }]) first =
      w.apply (replay ws first) := by
    intro ws
    rw [replay_append]
    rfl
  cases mode : s.connection.autoCommit with
  | true =>
    have empty := h.durable mode
    have same : s.connection.db = replay s.log first := by
      rw [h.db, writes, empty, List.append_nil]
    constructor
    · simp [Sharing.write, Connection.write, writes, mode, empty, logged, same]
    · simp [Sharing.write, Connection.write, mode, logged, same]
    · simp [Sharing.write, mode, empty]
    · simp [Sharing.write, mode, empty]
    · exact h.stage
  | false =>
    constructor
    · have shown : (s.write w own).writes = s.writes ++ [{ statement := w, own := own }] := by
        simp [Sharing.write, writes, mode]
      rw [shown, logged, ← h.db]
      rfl
    · simpa [Sharing.write, Connection.write, mode] using h.committed
    · simp [Sharing.write, Connection.write, mode]
    · intro v hv own'
      have either : v ∈ s.pending ∨ v = { statement := w, own := own } := by
        simpa [Sharing.write, mode] using hv
      rcases either with before | rfl
      · exact h.ours v before own'
      · exact ours own'
    · exact h.stage

theorem Accounted.of_same {t : Sharing} (h : s.Accounted first)
    (db : t.connection.db = s.connection.db)
    (committed : t.connection.committed = s.connection.committed)
    (mode : t.connection.autoCommit = s.connection.autoCommit) (log : t.log = s.log)
    (pending : t.pending = s.pending)
    (stage : ∀ w ∈ stageStatements t.stage, ofSongChange w = true) : t.Accounted first := by
  constructor
  · rw [db, writes, log, pending]
    exact h.db
  · rw [committed, log]
    exact h.committed
  · rw [mode, pending]
    exact h.durable
  · rw [pending]
    exact h.ours
  · exact stage

theorem Accounted.commits (h : s.Accounted first) :
    ({ s.settled with connection := { s.connection with committed := s.connection.db } } :
      Sharing).Accounted first := by
  constructor
  · simpa [settled, writes] using h.db
  · exact h.db
  · intro _
    rfl
  · intro w hw
    cases hw
  · exact h.stage

theorem Accounted.setAutoCommit (h : s.Accounted first) (on : Bool) :
    (s.setAutoCommit on).Accounted first := by
  unfold Sharing.setAutoCommit
  dsimp only
  cases mode : (if s.failures.throws (.setAutoCommit on) then s.failures.leaves on else on) with
  | true =>
    have kept := h.commits
    constructor
    · exact kept.db
    · exact kept.committed
    · exact fun _ => rfl
    · exact kept.ours
    · exact h.stage
  | false =>
    constructor
    · exact h.db
    · exact h.committed
    · intro no
      cases no
    · exact h.ours
    · exact h.stage

theorem Accounted.rollsBack (h : s.Accounted first) (alone : ∀ w ∈ s.pending, w.own = true) :
    ({ s.undone with connection := s.connection.restored } : Sharing).Accounted first := by
  have none : s.pending.filter (fun w => !w.own) = [] := by
    apply List.filter_eq_nil_iff.mpr
    intro w hw
    simp [alone w hw]
  have ours := replay_ofSongChange (fun w hw => h.ours w hw (alone w hw)) (replay s.log first)
  have back : s.connection.restored.db = replay s.log first := by
    unfold Connection.restored
    rw [h.db, writes, replay_append, ours.1, ours.2, h.committed]
  constructor
  · simpa [undone, writes, none] using back
  · simpa [undone, none, Connection.restored] using h.committed
  · exact fun _ => rfl
  · intro w hw
    cases hw
  · exact h.stage

theorem Accounted.proceeds (h : s.Accounted first) (alone : s.RollsBackAlone .proceeds) :
    s.proceed.Accounted first := by
  have idle : ∀ t : Sharing, t.Accounted first → ({ t with stage := .idle } : Sharing).Accounted first :=
    fun t ht => ht.of_same rfl rfl rfl rfl rfl fun _ hw => nomatch hw
  have unlock : ∀ t : Sharing, t.Accounted first → t.unlocked.Accounted first :=
    fun t ht => ht.of_same rfl rfl rfl rfl rfl ht.stage
  cases here : s.stage with
  | idle =>
    rw [proceed, here]
    exact h
  | starting ws =>
    have ours := h.stage
    rw [here] at ours
    rw [proceed, here]
    refine (h.setAutoCommit false).of_same rfl rfl rfl rfl rfl ?_
    dsimp only
    split
    · exact fun _ hw => nomatch hw
    · exact ours
  | executing ws =>
    have ours := h.stage
    rw [here] at ours
    cases ws with
    | nil =>
      rw [proceed, here]
      dsimp only
      split
      · exact idle _ (unlock _ h)
      · exact h.commits.of_same rfl rfl rfl rfl rfl fun _ hw => nomatch hw
    | cons w ws =>
      rw [proceed, here]
      dsimp only
      split
      · exact h.of_same rfl rfl rfl rfl rfl fun _ hw => nomatch hw
      · exact (h.write w true fun _ => ours w List.mem_cons_self).of_same rfl rfl rfl rfl rfl
          fun v hv => ours v (List.mem_cons_of_mem w hv)
  | committed =>
    rw [proceed, here]
    exact idle _ (unlock _ (h.setAutoCommit true))
  | failed =>
    rw [proceed, here]
    dsimp only
    split
    · exact idle _ (unlock _ h)
    · rename_i rolls
      have own := alone ⟨rfl, here, by simpa using rolls⟩
      exact (h.rollsBack own).of_same rfl rfl rfl rfl rfl fun _ hw => nomatch hw
  | rolledBack =>
    rw [proceed, here]
    dsimp only
    split
    · exact idle _ (unlock _ (h.setAutoCommit true))
    · exact idle _ (h.setAutoCommit true)

theorem Accounted.step (h : s.Accounted first) {e : Move} (alone : s.RollsBackAlone e) :
    (s.step e).Accounted first := by
  cases e with
  | client w =>
    apply h.write
    intro no
    cases no
  | songChange thread current next datetime failures =>
    unfold Sharing.step
    dsimp only
    split
    · split
      · exact h.of_same rfl rfl rfl rfl rfl ofSongChange_songStatements
      · exact h
    · exact h
  | proceeds => exact h.proceeds alone

theorem accounted_start (db : Database) : (start db).Accounted db := by
  constructor
  · rfl
  · rfl
  · exact fun _ => rfl
  · exact fun _ hw => nomatch hw
  · exact fun _ hw => nomatch hw

def strangers (s : Sharing) : List Statement :=
  (s.writes.filter fun w => !w.own).map LoggedWrite.statement

def clientWrite : Move → List Statement
  | .client w => [w.statement]
  | _ => []

theorem strangers_settled : s.settled.strangers = s.strangers := by
  simp [strangers, writes, settled]

theorem strangers_setAutoCommit (on : Bool) : (s.setAutoCommit on).strangers = s.strangers := by
  have same : ∀ mode : Bool, (s.setMode mode).strangers = s.strangers := by
    intro mode
    cases mode
    · rfl
    · exact strangers_settled
  exact same _

theorem strangers_write (h : s.Accounted first) (w : Statement) (own : Bool) :
    (s.write w own).strangers = s.strangers ++ if own then [] else [w] := by
  cases mode : s.connection.autoCommit with
  | true => cases own <;> simp [strangers, writes, Sharing.write, mode, h.durable mode]
  | false => cases own <;> simp [strangers, writes, Sharing.write, mode]

theorem strangers_step (h : s.Accounted first) (e : Move) :
    (s.step e).strangers = s.strangers ++ clientWrite e := by
  cases e with
  | client w => exact strangers_write h w.statement false
  | songChange thread current next datetime failures =>
    have none : s.strangers = s.strangers ++ [] := (List.append_nil _).symm
    unfold Sharing.step
    dsimp only
    split
    · split <;> exact none
    · exact none
  | proceeds =>
    have set := strangers_setAutoCommit (s := s)
    refine Eq.trans ?_ (List.append_nil _).symm
    rw [Sharing.step]
    cases here : s.stage with
    | idle => rw [proceed, here]
    | starting ws =>
      rw [proceed, here]
      exact set false
    | executing ws =>
      cases ws with
      | nil =>
        rw [proceed, here]
        dsimp only
        split
        · rfl
        · exact strangers_settled
      | cons w ws =>
        have wrote := strangers_write h w true
        rw [proceed, here]
        dsimp only
        split
        · rfl
        · exact wrote.trans (List.append_nil _)
    | committed =>
      rw [proceed, here]
      exact set true
    | failed =>
      rw [proceed, here]
      dsimp only
      split
      · rfl
      · simp [strangers, writes, undone]
    | rolledBack =>
      rw [proceed, here]
      dsimp only
      split <;> exact set true

theorem strangers_run (h : s.Accounted first) (moves : List Move)
    (alone : StepsMeet Sharing.step RollsBackAlone s moves) :
    (run Sharing.step s moves).strangers = s.strangers ++ moves.flatMap clientWrite := by
  induction moves generalizing s with
  | nil => simp
  | cons e moves ih =>
    have rest := ih (h.step alone.1) alone.2
    rw [run_cons, rest, strangers_step h, List.flatMap_cons, List.append_assoc]

end Step

structure Intact (db : Database) (moves : List Move) (s : Sharing) : Prop where
  tables : s.connection.db = replay s.writes db
  clients : s.strangers = moves.flatMap clientWrite

end Sharing

/-- After any number of failed song changes every completed write of a client is
    in the database, if none has completed inside a transaction that is rolled
    back. -/
theorem client_writes_survive (db : Database) (moves : List Move)
    (alone : StepsMeet Sharing.step Sharing.RollsBackAlone (.start db) moves) :
    (run Sharing.step (.start db) moves).Intact db moves := by
  have first := Sharing.accounted_start db
  have last := invariant_of_stepsMeet Sharing.step (Sharing.Accounted db)
    (fun _ _ h alone => h.step alone) moves _ first alone
  exact ⟨last.db, Sharing.strangers_run first moves alone⟩

def failingSongChange : List Move :=
  [.songChange failedSongChange.thread none (some 1) 0 failedSongChange.failures, .proceeds]

theorem early_vote_survives :
    (run Sharing.step (.start (.create twoSongs)) (.client (.vote 1 2) :: failingSongChange ++
      List.replicate 4 .proceeds)).Intact (.create twoSongs)
        (.client (.vote 1 2) :: failingSongChange ++ List.replicate 4 .proceeds) := by
  apply client_writes_survive
  have ours : ∀ s : Sharing, s.pending.all (fun w => w.own) = true → ∀ e, s.RollsBackAlone e := by
    intro s all e rolls w hw
    exact List.all_eq_true.mp all w hw
  refine ⟨?_, ?_, ?_, ?_, ?_, ?_, ?_, trivial⟩
  all_goals
    apply ours
    decide +kernel

/-- A vote that completes inside the transaction is lost. -/
theorem late_vote_is_lost :
    ¬ ∀ (db : Database) (moves : List Move), (run Sharing.step (.start db) moves).Intact db moves := by
  intro always
  have intact := always (.create twoSongs)
    (failingSongChange ++ .client (.vote 1 2) :: List.replicate 4 .proceeds)
  have votes := congrArg Database.votes intact.tables
  revert votes
  decide +kernel

end MusicCloud
