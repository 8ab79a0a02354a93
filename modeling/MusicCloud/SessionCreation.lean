import MusicCloud.FailedStarts

/-!
The creation of a session on the real connection, where any of its calls may fail.
The `finally` block commits what the transaction has written by then, and the
session is put into the map after that. Nothing takes the rows back.
-/
namespace MusicCloud

/-- What fails in a call of `createSession`: on the connection, in preparing the
    statement, or in the reflective construction of the session. -/
structure CreationFailures where
  sql : Failures
  prepare : Bool
  construct : Bool

def CreationFailures.none : CreationFailures :=
  { sql := { throws := fun _ => false, leaves := id }, prepare := false, construct := false }

namespace Connection
variable {f : Failures} {t : Nat} {c : Connection}

theorem db_stopTransaction (f : Failures) (t : Nat) (c : Connection) :
    (finalState (stopTransaction f t c)).db = c.db := by
  by_cases held : c.transactionLock.isHeldBy t = true
  · rw [stopTransaction_apply f t held]
    split
    · rfl
    · split <;> rfl
  · unfold stopTransaction
    rw [Server.bind_apply, Server.get_apply]
    dsimp only
    rw [if_neg held]
    rfl

theorem sessions_insertChild (f : Failures) (type : SessionType) (id : Int) (c : Connection) :
    (finalState ((do
      execute f (.insertChildSession type id)
      return id) c)).db.sessions = c.db.sessions := by
  rw [Server.bind_apply, execute_apply]
  by_cases fails : f.throws (.execute (.insertChildSession type id)) = true
  · rw [if_pos fails]
    rfl
  · rw [if_neg fails]
    cases type <;> rfl

def InsertsNothing (f : Failures) (ip : String) (type : SessionType) (time : Int) : Prop :=
  f.throws (.setAutoCommit false) = true ∨ f.throws (.execute (.insertSession ip type time)) = true

theorem createSession_writes_nothing {ip : String} {type : SessionType} {time : Int}
    (nothing : InsertsNothing f ip type time) :
    (finalState (createSession f t ip type time c)).db = c.db := by
  unfold createSession
  rw [finally_left, db_stopTransaction]
  rw [Server.bind_apply, startTransaction_apply, setAutoCommit_apply]
  by_cases opens : f.throws (.setAutoCommit false) = true
  · rw [if_pos opens]
    rfl
  · rw [if_neg opens]
    dsimp only
    rw [Server.bind_apply, execute_apply, if_pos (nothing.resolve_left opens)]
    rfl

theorem createSession_leaves_row {ip : String} {type : SessionType} {time : Int}
    (something : ¬ InsertsNothing f ip type time) :
    (finalState (createSession f t ip type time c)).db.sessions =
      (c.db.insertSession ip type time).sessions := by
  have opens : ¬ f.throws (.setAutoCommit false) = true := fun no => something (Or.inl no)
  have inserts : ¬ f.throws (.execute (.insertSession ip type time)) = true :=
    fun no => something (Or.inr no)
  unfold createSession
  rw [finally_left, db_stopTransaction]
  rw [Server.bind_apply, startTransaction_apply, setAutoCommit_apply, if_neg opens]
  dsimp only
  rw [Server.bind_apply, execute_apply, if_neg inserts]
  dsimp only
  rw [Server.bind_apply, selectRowid_apply]
  by_cases selects : f.throws .selectRowid = true
  · rw [if_pos selects]
    rfl
  · rw [if_neg selects]
    dsimp only
    rw [sessions_insertChild]
    rfl

theorem createSession_commits (available : c.transactionLock.available t = true) (ip : String)
    (type : SessionType) (time : Int) :
    createSession CreationFailures.none.sql t ip type time c =
      let rows := (c.db.insertSession ip type time).insertChildSession type (c.db.sessionSequence + 1)
      .ok (c.db.sessionSequence + 1)
        { c with db := rows, committed := rows, autoCommit := true, modeFailed := false } := by
  have held := ReentrantLock.isHeldBy_lock available
  cases type <;>
    simp [createSession, CreationFailures.none, startTransaction_apply, setMode, write,
      Statement.apply, Database.insertSession, Database.insertChildSession,
      stopTransaction_apply _ t, held]

end Connection

namespace Wired

def createSession (f : CreationFailures) (t : Nat) (pin : Option String) (ip : String)
    (type : Option SessionType) : WiredM Session := do
  let some pin := pin | throw .illegalArgument
  let some type := type | throw .illegalArgument
  if Server.authenticatePin pin then
    let time := toInt ((← get).server.clock / 1000)
    if f.prepare then throw .sql
    let sessionID ← onConnection (Connection.createSession f.sql t ip type time)
    if f.construct then throw .invocationTarget
    let session := Session.create sessionID ip type
    onServer (modify fun s => { s with
      sessionMap := Function.update s.sessionMap sessionID (some session) })
    return session
  else throw .security

structure SameSessions (s u : Server) : Prop where
  sessions : u.db.sessions = s.db.sessions
  user_sessions : u.db.user_sessions = s.db.user_sessions
  speaker_sessions : u.db.speaker_sessions = s.db.speaker_sessions
  sessionMap : u.sessionMap = s.sessionMap
  count : u.db.getSessionCount = s.db.getSessionCount

def FailsEarly (f : CreationFailures) (s : Server) (pin : Option String) (ip : String)
    (type : Option SessionType) : Prop :=
  ∀ p k, pin = some p → type = some k → Server.authenticatePin p = true →
    f.prepare = true ∨ Connection.InsertsNothing f.sql ip k (toInt (s.clock / 1000))

variable {f : CreationFailures} {t : Nat} {w u : Wired} {pin : Option String} {ip : String}
  {type : Option SessionType} {e : JavaException}

theorem createSession_transaction {p : String} {k : SessionType}
    (accepted : Server.authenticatePin p = true) (prepared : f.prepare = false) :
    createSession f t (some p) ip (some k) w =
      match Connection.createSession f.sql t ip k (toInt (w.server.clock / 1000)) w.connection with
      | .error e c => .error e { server := { w.server with db := c.db }, connection := c }
      | .ok id c =>
        if f.construct then
          .error .invocationTarget { server := { w.server with db := c.db }, connection := c }
        else .ok (Session.create id ip k)
          { server := { w.server with
              db := c.db
              sessionMap := Function.update w.server.sessionMap id
                (some (Session.create id ip k)) }
            connection := c } := by
  simp only [createSession, accepted, prepared, if_true, Bool.false_eq_true, if_false, onConnection,
    Server.bind_apply, Server.get_apply]
  generalize Connection.createSession f.sql t ip k _ w.connection = result
  cases result with
  | error e c => rfl
  | ok id c =>
    dsimp only
    by_cases fails : f.construct = true
    · rw [if_pos fails, if_pos fails]
      rfl
    · rw [if_neg fails, if_neg fails]
      rfl

theorem sameSessions_refl (s : Server) : SameSessions s s := ⟨rfl, rfl, rfl, rfl, rfl⟩

theorem createSession_rejected {p : String} {k : SessionType}
    (accepted : Server.authenticatePin p = true) (prepared : f.prepare = false)
    (rejected : createSession f t (some p) ip (some k) w = .error e u) :
    u.server = { w.server with db := (finalState (Connection.createSession f.sql t ip k
      (toInt (w.server.clock / 1000)) w.connection)).db } := by
  rw [createSession_transaction accepted prepared] at rejected
  generalize Connection.createSession f.sql t ip k _ w.connection = result at rejected ⊢
  cases result with
  | error e' c =>
    cases rejected
    rfl
  | ok id c =>
    dsimp only at rejected
    split at rejected
    · cases rejected
      rfl
    · cases rejected

theorem sameSessions_iff (linked : w.connection.db = w.server.db)
    (rejected : createSession f t pin ip type w = .error e u) :
    SameSessions w.server u.server ↔ FailsEarly f w.server pin ip type := by
  rcases pin with _ | p
  · cases rejected
    exact iff_of_true (sameSessions_refl _) (by intro p k no; cases no)
  rcases type with _ | k
  · cases rejected
    exact iff_of_true (sameSessions_refl _) (by intro p k _ no; cases no)
  by_cases accepted : Server.authenticatePin p = true
  · cases prepared : f.prepare with
    | true =>
      have early : FailsEarly f w.server (some p) ip (some k) := fun _ _ _ _ _ => Or.inl prepared
      have failed : createSession f t (some p) ip (some k) w = .error .sql w := by
        simp [createSession, accepted, prepared]
      rw [failed] at rejected
      cases rejected
      exact iff_of_true (sameSessions_refl _) early
    | false =>
      have server := createSession_rejected accepted prepared rejected
      have early : FailsEarly f w.server (some p) ip (some k) ↔
          Connection.InsertsNothing f.sql ip k (toInt (w.server.clock / 1000)) := by
        constructor
        · intro early
          simpa [prepared] using early p k rfl rfl accepted
        · rintro nothing _ _ ⟨⟩ ⟨⟩ _
          exact Or.inr nothing
      rw [early]
      by_cases nothing : Connection.InsertsNothing f.sql ip k (toInt (w.server.clock / 1000))
      · rw [Connection.createSession_writes_nothing nothing, linked] at server
        rw [server]
        exact iff_of_true (sameSessions_refl _) nothing
      · have row := Connection.createSession_leaves_row (t := t) (c := w.connection) nothing
        refine iff_of_false ?_ nothing
        intro same
        have length := congrArg List.length same.sessions
        rw [server] at length
        dsimp only at length
        rw [row, linked] at length
        simp [Database.insertSession] at length
  · have failed : createSession f t (some p) ip (some k) w = .error .security w := by
      simp [createSession, accepted]
    rw [failed] at rejected
    cases rejected
    refine iff_of_true (sameSessions_refl _) ?_
    rintro _ _ ⟨⟩ ⟨⟩ yes
    exact absurd yes accepted

/-- When nothing fails, the session is created as on the server alone. -/
theorem createSession_works (linked : w.connection.db = w.server.db)
    (available : w.connection.transactionLock.available t = true) (k : SessionType) :
    ∃ c, createSession .none t pin ip (some k) w =
      match Server.createSession pin ip k w.server with
      | .ok session s => .ok session { server := s, connection := c }
      | .error e s => .error e { server := s, connection := c } := by
  rw [Server.createSession_apply]
  rcases pin with _ | p
  · exact ⟨w.connection, rfl⟩
  dsimp only
  by_cases accepted : Server.authenticatePin p = true
  · rw [createSession_transaction accepted rfl, if_pos accepted,
      Connection.createSession_commits available ip k, linked]
    exact ⟨_, rfl⟩
  · refine ⟨w.connection, ?_⟩
    rw [if_neg accepted]
    simp [createSession, accepted]

def linked (s : Server) (c : Connection) : Wired :=
  { server := s, connection := { c with db := s.db } }

end Wired

/-- In every state, and whichever calls fail: a creation that throws leaves tables
    and map alone exactly if it throws before the session's row has been inserted. -/
theorem session_all_or_nothing_iff (s : Server) (c : Connection) (t : Nat) (f : CreationFailures)
    (pin : Option String) (ip : String) (type : Option SessionType) (e : JavaException) (u : Wired)
    (rejected : Wired.createSession f t pin ip type (.linked s c) = .error e u) :
    Wired.SameSessions s u.server ↔ Wired.FailsEarly f s pin ip type :=
  Wired.sameSessions_iff (w := .linked s c) rfl rejected

def CreationFailures.single (call : JdbcCall) : CreationFailures :=
  { CreationFailures.none with sql := { throws := fun c => c == call, leaves := id } }

theorem unopened_creation_leaves_nothing : ∃ u,
    Wired.createSession (.single (.setAutoCommit false)) 1 (some "1234") "10.0.0.1" (some .User)
      (.linked (.start [] 0) (.opened (.create []))) = .error .sql u ∧
    Wired.SameSessions (.start [] 0) u.server := by
  have early : Wired.FailsEarly (.single (.setAutoCommit false)) (.start [] 0) (some "1234")
      "10.0.0.1" (some .User) := by
    intro _ _ _ _ _
    exact Or.inr (Or.inl rfl)
  refine ⟨_, rfl, ?_⟩
  exact (session_all_or_nothing_iff (.start [] 0) (.opened (.create [])) 1
    (.single (.setAutoCommit false)) (some "1234") "10.0.0.1" (some .User) .sql _ rfl).mpr early

/-- The new id cannot be read, and the row of a session nobody has is committed. -/
theorem failed_creation_leaves_session :
    ¬ ∀ (s : Server) (c : Connection) (t : Nat) (f : CreationFailures) (pin : Option String)
      (ip : String) (type : Option SessionType) (e : JavaException) (u : Wired),
      Wired.createSession f t pin ip type (.linked s c) = .error e u →
        Wired.SameSessions s u.server := by
  intro always
  have same := always (.start [] 0) (.opened (.create [])) 1 (.single .selectRowid) (some "1234")
    "10.0.0.1" (some .User) .sql _ rfl
  have count := same.count
  revert count
  decide

end MusicCloud
