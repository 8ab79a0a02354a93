import MusicCloud.Database

/-!
The state of the server and the methods of `SessionManager`. A method that may
throw runs in `ServerM`, which keeps the state at the throw; the others are
functions on the state. `handed` and `activeRowFound` are histories that no
method reads.
-/
namespace MusicCloud

structure Session where
  id : Int
  ipAddress : String
  clientType : SessionType
  updateQueue : SessionUpdateQueue SessionUpdate
  handed : List SessionUpdate

namespace Session

def create (id : Int) (ipAddress : String) (type : SessionType) : Session :=
  { id := id, ipAddress := ipAddress, clientType := type, updateQueue := .empty, handed := [] }

def sendUpdate (isActive : Channel → Bool) (update : SessionUpdate) (s : Session) : Session :=
  { s with
    updateQueue := s.updateQueue.queueUpdate isActive update
    handed := s.handed ++ [update] }

def sendUpdates (isActive : Channel → Bool) (us : List SessionUpdate) (s : Session) : Session :=
  us.foldl (fun s u => s.sendUpdate isActive u) s

def assignRequest (ch : Channel) (s : Session) : Session :=
  { s with updateQueue := s.updateQueue.queueRequest ch }

end Session

inductive TaskAction where
  | scheduleNextSong | rebroadcastNextSong | stopActiveSong
  deriving DecidableEq, Repr

structure TimerTask where
  id : Nat
  action : TaskAction
  deriving DecidableEq, Repr

structure Server where
  db : Database
  sessionMap : Int → Option Session
  nextSong : Option Song
  activeSong : Option ActiveSong
  /-- Tasks scheduled on the timer that have neither run nor been cancelled. -/
  songTimer : List TimerTask
  /-- The task object that the field of this name refers to. -/
  songTimerTask : Option Nat
  songStarttime : Int
  tasksCreated : Nat
  clock : Nat
  closedChannels : List Channel
  activeRowFound : Bool

abbrev ServerM := EStateM JavaException Server

def finalState {σ α : Type} : EStateM.Result JavaException σ α → σ
  | .ok _ s => s
  | .error _ s => s

@[simp] theorem finalState_ok {σ α : Type} (a : α) (s : σ) :
    finalState (.ok a s : EStateM.Result JavaException σ α) = s := rfl

@[simp] theorem finalState_error {σ α : Type} (e : JavaException) (s : σ) :
    finalState (.error e s : EStateM.Result JavaException σ α) = s := rfl

namespace Server

def start (music : List MusicRow) (clock : Nat) : Server :=
  { db := .create music, sessionMap := fun _ => none, nextSong := none, activeSong := none
    songTimer := [], songTimerTask := none, songStarttime := -1, tasksCreated := 0
    clock := clock, closedChannels := [], activeRowFound := false }

def isActive (s : Server) (ch : Channel) : Bool := !s.closedChannels.contains ch

def datetime (s : Server) : Nat := s.clock / 1000

section SessionManager

def deliver (isActive : Channel → Bool) (update : SessionUpdate)
    (sessionMap : Int → Option Session) (id : Int) : Int → Option Session :=
  match sessionMap id with
  | some session => Function.update sessionMap id (some (session.sendUpdate isActive update))
  | none => sessionMap

def sendUpdate (update : SessionUpdate) (sessionID : Int) (s : Server) : Server :=
  { s with sessionMap := deliver s.isActive update s.sessionMap sessionID }

/-- The sessions come from the database; those missing from the map are skipped. -/
def broadcastUpdate (update : SessionUpdate) (type : SessionType) (s : Server) : Server :=
  { s with
    sessionMap := (s.db.sessionIds type).foldl (deliver s.isActive update) s.sessionMap }

def authenticatePin (pin : String) : Bool := pin == "1234"

def createSession (pin : Option String) (ipAddress : String) (type : SessionType) :
    ServerM Session := do
  let some pin := pin | throw .illegalArgument
  if authenticatePin pin then
    modify fun s => { s with
      db := s.db.insertSession ipAddress type (toInt (s.clock / 1000)) }
    let sessionID := (← get).db.lastInsertRowid
    modify fun s => { s with db := s.db.insertChildSession type sessionID }
    let session := Session.create sessionID ipAddress type
    modify fun s => { s with sessionMap := Function.update s.sessionMap sessionID (some session) }
    return session
  else throw .security

/-- Requests parked for the session stay where they are. -/
def destroySession (sessionID : Int) : ServerM Unit := do
  if sessionID < 0 then throw .illegalArgument
  modify fun s => { s with
    db := s.db.deleteSession sessionID
    sessionMap := Function.update s.sessionMap sessionID none }

def registerRequest (sessionID : Int) (ch : Channel) : ServerM Unit := do
  let some session := (← get).sessionMap sessionID | throw .illegalArgument
  modify fun s => { s with
    sessionMap := Function.update s.sessionMap sessionID (some (session.assignRequest ch)) }

def validSession (sessionID : Int) (ipAddress : String) : ServerM Bool := do
  if sessionID < 0 then throw .illegalArgument
  let rows := (← get).db.sessions.filter fun r => r.id = sessionID
  return rows.all (fun r => r.ipAddress == ipAddress) && rows.length == 1

end SessionManager

end Server
end MusicCloud
