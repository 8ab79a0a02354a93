import MusicCloud.SessionState

/-!
Requests that run at the same time. Each has a thread of its own and shares the
database connection, the session map and the song manager with the others. One
step of a thread is one SQL statement or one locked region. The transaction
lock is taken by `createSession` alone: `vote`, `like` and `dislike` write on
the same connection without it.
-/
namespace MusicCloud
open Runs

inductive Job where
  | createSession (pin : Option String) (ipAddress : String) (type : SessionType)
  | vote (songID sessionID : Int)
  | like (songID sessionID : Int)
  | dislike (songID sessionID : Int)
  deriving DecidableEq, Repr

/-- What a thread does next, with the locals it has read so far. `row` is the
    id of the session row that the call inserted: a history no step reads. -/
inductive Thread where
  | idle
  | startTransaction (ipAddress : String) (type : SessionType) (timestamp : Int)
  | insertSession (ipAddress : String) (type : SessionType) (timestamp : Int)
  | selectRowid (ipAddress : String) (type : SessionType) (row : Int)
  | insertChild (ipAddress : String) (type : SessionType) (row sessionID : Int)
  | stopTransaction (ipAddress : String) (type : SessionType) (row sessionID : Int)
  | putSession (ipAddress : String) (type : SessionType) (row sessionID : Int)
  | insertVote (songID sessionID : Int)
  | selectVotes
  | insertLike (songID sessionID value : Int)
  | getActiveSong (disliked : Bool)
  | selectReactions (disliked : Bool) (songID : Int)
  | selectSessions (update : SessionUpdate) (disliked : Option LikeData)
  | sendUpdates (update : SessionUpdate) (ids : List Int) (disliked : Option LikeData)
  | decideSkip (stats : LikeData)

/-- A `createSession` that has returned: the row it inserted, the session it
    returned and the value that `sessionMap.put` replaced. -/
structure Creation where
  row : Int
  session : Session
  replaced : Option Session

structure Concurrent where
  server : Server
  transactionLock : Option Nat
  threads : Nat → Thread
  created : List Creation

inductive Turn where
  | arrives (thread : Nat) (job : Job)
  | proceeds (thread : Nat)

namespace Server

def decideSkip (stats : LikeData) : ServerM Unit := do
  let sessions := (← get).db.getSessionCount
  if (← get).nextSong.isNone then
    if unpopular stats sessions then skipToNext

end Server

namespace Concurrent

def start (server : Server) : Concurrent :=
  { server := server, transactionLock := none, threads := fun _ => .idle, created := [] }

def goto (s : Concurrent) (t : Nat) (thread : Thread) : Concurrent :=
  { s with threads := Function.update s.threads t thread }

def firstStatement (server : Server) : Job → Thread
  | .createSession pin ip type =>
    match pin with
    | none => .idle
    | some pin =>
      if Server.authenticatePin pin then .startTransaction ip type (toInt (server.clock / 1000))
      else .idle
  | .vote songID sessionID =>
    if songID < 0 ∨ sessionID < 0 then .idle else .insertVote songID sessionID
  | .like songID sessionID =>
    if songID < 0 ∨ sessionID < 0 then .idle else .insertLike songID sessionID 1
  | .dislike songID sessionID =>
    if songID < 0 ∨ sessionID < 0 then .idle else .insertLike songID sessionID (-1)

def arrive (s : Concurrent) (t : Nat) (job : Job) : Concurrent :=
  match s.threads t with
  | .idle => s.goto t (firstStatement s.server job)
  | _ => s

/-- The next statement or locked region of a thread; a thread that waits for
    the lock, or has no request, stays where it is. -/
def proceed (s : Concurrent) (t : Nat) : Concurrent :=
  match s.threads t with
  | .idle => s
  | .startTransaction ip type timestamp =>
    if s.transactionLock.isNone then
      { s with transactionLock := some t }.goto t (.insertSession ip type timestamp)
    else s
  | .insertSession ip type timestamp =>
    let db := s.server.db.insertSession ip type timestamp
    { s with server := { s.server with db := db } }.goto t (.selectRowid ip type db.sessionSequence)
  | .selectRowid ip type row => s.goto t (.insertChild ip type row s.server.db.lastInsertRowid)
  | .insertChild ip type row sessionID =>
    { s with server := { s.server with db := s.server.db.insertChildSession type sessionID } }.goto t
      (.stopTransaction ip type row sessionID)
  | .stopTransaction ip type row sessionID =>
    { s with transactionLock := none }.goto t (.putSession ip type row sessionID)
  | .putSession ip type row sessionID =>
    let session := Session.create sessionID ip type
    let server := { s.server with
      sessionMap := Function.update s.server.sessionMap sessionID (some session) }
    let creation : Creation :=
      { row := row, session := session, replaced := s.server.sessionMap sessionID }
    { s with server := server, created := s.created ++ [creation] }.goto t .idle
  | .insertVote songID sessionID =>
    { s with server := { s.server with db := s.server.db.insertVote sessionID songID } }.goto t
      .selectVotes
  | .selectVotes => s.goto t (.selectSessions (.votes s.server.db.getVotes) none)
  | .insertLike songID sessionID value =>
    { s with server := { s.server with db := s.server.db.insertLike sessionID songID value } }.goto t
      (.getActiveSong (decide (value < 0)))
  | .getActiveSong disliked =>
    match Server.getActiveSong s.server with
    | .ok active server => { s with server := server }.goto t (.selectReactions disliked active.id)
    | .error _ server => { s with server := server }.goto t .idle
  | .selectReactions disliked songID =>
    match Server.likeData s.server.db songID with
    | .ok stats => s.goto t (.selectSessions (.likes stats) (if disliked then some stats else none))
    | .error _ => s.goto t .idle
  | .selectSessions update disliked =>
    s.goto t (.sendUpdates update (s.server.db.sessionIds .User) disliked)
  | .sendUpdates update ids disliked =>
    let server := { s.server with
      sessionMap := ids.foldl (Server.deliver s.server.isActive update) s.server.sessionMap }
    { s with server := server }.goto t
      (match disliked with
      | some stats => .decideSkip stats
      | none => .idle)
  | .decideSkip stats =>
    { s with server := finalState (Server.decideSkip stats s.server) }.goto t .idle

def step (s : Concurrent) : Turn → Concurrent
  | .arrives t job => s.arrive t job
  | .proceeds t => s.proceed t

section Alone
variable (server : Server) (t : Nat)

theorem decideSkip_apply (stats : LikeData) :
    Server.decideSkip stats server =
      if server.nextSong = none ∧ Server.unpopular stats server.db.getSessionCount then
        Server.skipToNext server
      else .ok () server := by
  unfold Server.decideSkip
  rw [Server.bind_apply, Server.get_apply]
  dsimp only
  rw [Server.bind_apply, Server.get_apply]
  dsimp only
  by_cases unset : server.nextSong = none <;>
    by_cases hated : Server.unpopular stats server.db.getSessionCount <;>
      simp [unset, hated]

def method (s : Server) : Job → Server
  | .createSession pin ip type => finalState (Server.createSession pin ip type s)
  | .vote songID sessionID => finalState (Server.vote songID sessionID s)
  | .like songID sessionID => finalState (Server.like songID sessionID s)
  | .dislike songID sessionID => finalState (Server.dislike songID sessionID s)

def uninterrupted (job : Job) : List Turn := .arrives t job :: List.replicate 6 (.proceeds t)

theorem reaction_uninterrupted (disliked : Bool) {s : Concurrent}
    (reacted : s.threads t = .getActiveSong disliked) :
    (run step s (List.replicate 5 (.proceeds t))).server =
      match Server.getStats s.server with
      | .ok stats u =>
        let told := u.broadcastUpdate (.likes stats) .User
        if disliked then finalState (Server.decideSkip stats told) else told
      | .error _ u => u := by
  have first : s.proceed t = match Server.getActiveSong s.server with
      | .ok active server => { s with server := server }.goto t (.selectReactions disliked active.id)
      | .error _ server => { s with server := server }.goto t .idle := by
    rw [proceed, reacted]
  simp only [List.replicate, run_cons, run_nil, step]
  rw [Server.getStats_apply, first]
  cases Server.getActiveSong s.server with
  | error e u => simp [proceed, goto]
  | ok active u =>
    dsimp only
    cases figures : Server.likeData u.db active.id with
    | error e => simp [proceed, goto, figures]
    | ok stats =>
      cases disliked with
      | false => simp [proceed, goto, figures, Server.broadcastUpdate]
      | true => simp [proceed, goto, figures, Server.broadcastUpdate]

theorem uninterrupted_refused {job : Job} (refused : firstStatement server job = .idle) :
    (run step (start server) (uninterrupted t job)).server = server := by
  simp [uninterrupted, List.replicate, step, arrive, proceed, start, goto, refused]

/-- A request that no other one interrupts does what its method does. -/
theorem uninterrupted_eq_method (job : Job) :
    (run step (start server) (uninterrupted t job)).server = method server job := by
  cases job with
  | createSession pin ip type =>
    rw [method, Server.createSession_apply]
    cases pin with
    | none => exact uninterrupted_refused server t rfl
    | some pin =>
      by_cases right : Server.authenticatePin pin
      · simp [uninterrupted, List.replicate, step, arrive, proceed, start, firstStatement, goto, right]
        rfl
      · dsimp only
        rw [if_neg right]
        exact uninterrupted_refused server t (by simp [firstStatement, right])
  | vote songID sessionID =>
    rw [method, Server.vote_apply]
    by_cases invalid : songID < 0 ∨ sessionID < 0
    · rw [if_pos invalid]
      exact uninterrupted_refused server t (by simp [firstStatement, invalid])
    · simp [uninterrupted, List.replicate, step, arrive, proceed, start, firstStatement, goto, invalid,
        Server.broadcastUpdate]
  | like songID sessionID =>
    rw [method, Server.like_apply]
    by_cases invalid : songID < 0 ∨ sessionID < 0
    · rw [if_pos invalid]
      exact uninterrupted_refused server t (by simp [firstStatement, invalid])
    · have reacted : (run step (start server) [.arrives t (.like songID sessionID), .proceeds t]).threads t =
          .getActiveSong false := by
        simp [step, arrive, proceed, start, firstStatement, goto, invalid]
      have stored : (run step (start server) [.arrives t (.like songID sessionID), .proceeds t]).server =
          server.reacted sessionID songID 1 := by
        simp [step, arrive, proceed, start, firstStatement, goto, invalid, Server.reacted]
      have rest := reaction_uninterrupted t false reacted
      rw [← run_append, stored] at rest
      rw [if_neg invalid]
      refine Eq.trans rest ?_
      cases Server.getStats (server.reacted sessionID songID 1) <;> rfl
  | dislike songID sessionID =>
    rw [method, Server.dislike_apply]
    by_cases invalid : songID < 0 ∨ sessionID < 0
    · rw [if_pos invalid]
      exact uninterrupted_refused server t (by simp [firstStatement, invalid])
    · have reacted : (run step (start server) [.arrives t (.dislike songID sessionID), .proceeds t]).threads t =
          .getActiveSong true := by
        simp [step, arrive, proceed, start, firstStatement, goto, invalid]
      have stored : (run step (start server) [.arrives t (.dislike songID sessionID), .proceeds t]).server =
          server.reacted sessionID songID (-1) := by
        simp [step, arrive, proceed, start, firstStatement, goto, invalid, Server.reacted]
      have rest := reaction_uninterrupted t true reacted
      rw [← run_append, stored] at rest
      rw [if_neg invalid]
      refine Eq.trans rest ?_
      cases Server.getStats (server.reacted sessionID songID (-1)) with
      | error e u => rfl
      | ok stats u =>
        dsimp only [if_true]
        rw [decideSkip_apply]
        have same : (u.broadcastUpdate (.likes stats) .User).nextSong = u.nextSong := rfl
        have rows : (u.broadcastUpdate (.likes stats) .User).db = u.db := rfl
        rw [same, rows, if_pos rfl]

end Alone

end Concurrent
end MusicCloud
