import MusicCloud.Server

/-!
The methods of `SongManager`. A synchronized block is not visible here: a call
runs from start to end. `getActiveSongFromDB` throws when it finds a row,
because its query does not select the `status` column it reads.
-/
namespace MusicCloud
namespace Server

section Timer

def cancelSongTimerTask (s : Server) : Server :=
  match s.songTimerTask with
  | some id => { s with songTimer := s.songTimer.filter fun t => t.id ≠ id }
  | none => s

def newSongTimerTask (action : TaskAction) : ServerM TimerTask := do
  let s ← get
  let task : TimerTask := { id := s.tasksCreated, action := action }
  set { s with tasksCreated := s.tasksCreated + 1, songTimerTask := some task.id }
  return task

/-- `Timer.schedule`, which rejects a negative delay and a negative time. -/
def schedule (task : TimerTask) (delay : Int) : ServerM Unit := do
  let s ← get
  if delay < 0 then throw .illegalArgument
  if toLong (s.clock + delay) < 0 then throw .illegalArgument
  set { s with songTimer := s.songTimer ++ [task] }

end Timer

section Songs

def getNextSongFromDB : ServerM Song := do
  match (← get).db.nextSongQuery with
  | [] => throw .noSuchElement
  | row :: rest => if rest.isEmpty then return Database.toSong row else throw .illegalState

def getNextSong : ServerM Song := do
  match (← get).nextSong with
  | none =>
    let song ← getNextSongFromDB
    modify fun s => { s with nextSong := some song }
    return song
  | some song => return song

def getActiveSongFromDB : ServerM ActiveSong := do
  match (← get).db.activeSongQuery with
  | [] => throw .noSuchElement
  | _ :: _ =>
    modify fun s => { s with activeRowFound := true }
    throw .sql

def getActiveSong : ServerM ActiveSong := do
  let active ← match (← get).activeSong with
    | none => getActiveSongFromDB
    | some active => pure active
  let s ← get
  let active := { active with position := toInt (s.clock / 1000) - s.songStarttime }
  set { s with activeSong := some active }
  return active

def scheduleNextSong : ServerM Unit := do
  if (← get).nextSong.isNone then
    let song ← getNextSong
    modify (broadcastUpdate (.upcoming_song song) .Speaker)

def newSpeakerAuthenticated (sessionID : Int) : ServerM Unit :=
  tryCatch (do
    let currentSong ← getActiveSong
    modify (sendUpdate (.upcoming_song currentSong.toSong) sessionID))
  fun
    | .noSuchElement => scheduleNextSong
    | e => throw e

end Songs

section ClientActions

def getStats : ServerM LikeData := do
  let songID := (← getActiveSong).id
  let db := (← get).db
  let (songID, likes, dislikes) :=
    Database.sumReactions songID (Tables.groupCount id db.activeReactions)
  let balance ← MonadExcept.ofExcept (computeLikeBalance likes dislikes)
  MonadExcept.ofExcept (LikeData.create songID likes dislikes balance)

def vote (songID sessionID : Int) : ServerM Unit := do
  if songID < 0 ∨ sessionID < 0 then throw .illegalArgument
  modify fun s => { s with db := s.db.insertVote sessionID songID }
  modify fun s => broadcastUpdate (.votes s.db.getVotes) .User s

def like (songID sessionID : Int) : ServerM Unit := do
  if songID < 0 ∨ sessionID < 0 then throw .illegalArgument
  modify fun s => { s with db := s.db.insertLike sessionID songID 1 }
  let stats ← getStats
  modify (broadcastUpdate (.likes stats) .User)

/-- The time that speakers get to load the song skipped to, in milliseconds. -/
def loadingTime : Int := 20 * 1000

def skipToNext : ServerM Unit := do
  if (← get).nextSong.isSome then throw .illegalState
  modify fun s => { s.cancelSongTimerTask with songTimerTask := none }
  let song ← getNextSong
  modify (broadcastUpdate (.upcoming_song song) .Speaker)
  modify (broadcastUpdate (.upcoming_song song) .Speaker)
  let task ← newSongTimerTask .stopActiveSong
  schedule task loadingTime

/-- `(double)(dislikes - likes) / sessions > 0.25`, with no sessions included. -/
def unpopular (stats : LikeData) (sessions : Int) : Bool :=
  decide (4 * (stats.dislikes - stats.likes) > sessions)

def dislike (songID sessionID : Int) : ServerM Unit := do
  if songID < 0 ∨ sessionID < 0 then throw .illegalArgument
  modify fun s => { s with db := s.db.insertLike sessionID songID (-1) }
  let stats ← getStats
  modify (broadcastUpdate (.likes stats) .User)
  let sessions := (← get).db.getSessionCount
  if (← get).nextSong.isNone then
    if unpopular stats sessions then skipToNext

end ClientActions

section SpeakerActions

/-- The delay until the next song is selected, about 20 seconds before the end. -/
def selectionDelay (song : Song) : Int := toLong (toLong (song.length - 20) * 1000)

def updatePlayback : ServerM Unit := do
  modify cancelSongTimerTask
  let task ← newSongTimerTask .scheduleNextSong
  let some nextSong := (← get).nextSong | throw .nullPointer
  schedule task (selectionDelay nextSong)
  modify fun s => { s with songStarttime := toInt (s.clock / 1000) }
  modify fun s => { s with
    db := s.db.updateNextSong (s.activeSong.map fun a => a.id) (some nextSong.id) s.datetime }
  modify fun s => { s with
    activeSong := some { nextSong with position := 0, status := .Playing }
    nextSong := none }

def announce : ServerM Unit := do
  let active ← getActiveSong
  modify (broadcastUpdate (.current_song active) .User)
  let stats ← getStats
  modify (broadcastUpdate (.likes stats) .User)
  modify fun s => broadcastUpdate (.votes s.db.getVotes) .User s

def playingUpdate (sessionID songID : Int) : ServerM Unit := do
  let some nextSong := (← get).nextSong | throw .nullPointer
  if songID = nextSong.id then
    updatePlayback
    announce
  else
    match (← get).activeSong with
    | some activeSong =>
      if songID ≠ activeSong.id then
        let active ← getActiveSong
        modify (sendUpdate (.upcoming_song active.toSong) sessionID)
        modify (sendUpdate (.playback_command { command := .Stop, id := songID }) sessionID)
    | none => pure ()

/-- The `Stopped` case, which does not look at the song the speaker names. -/
def stoppedUpdate (sessionID : Int) : ServerM Unit := do
  let some activeSong := (← get).activeSong | throw .nullPointer
  modify fun s => { s with db := s.db.setStatus activeSong.id .Stopped }
  if (← get).nextSong.isNone then
    let song ← getNextSong
    modify (sendUpdate (.upcoming_song song) sessionID)

def readyUpdate (sessionID songID : Int) : ServerM Unit := do
  let some nextSong := (← get).nextSong | throw .nullPointer
  if songID = nextSong.id then
    modify (sendUpdate (.playback_command { command := .Play, id := nextSong.id }) sessionID)
  else
    modify (sendUpdate (.upcoming_song nextSong) sessionID)

def speakerStatusUpdate (sessionID : Int) (update : Option StatusUpdateMessage) :
    ServerM Unit := do
  if sessionID < 0 then throw .illegalArgument
  let some update := update | throw .illegalArgument
  match update.status with
  | none => throw .nullPointer
  | some .Playing => playingUpdate sessionID update.id
  | some .Stopped => stoppedUpdate sessionID
  | some .Ready => readyUpdate sessionID update.id
  | some .Paused => pure ()

end SpeakerActions

section TimerTasks

def runTask : TaskAction → ServerM Unit
  | .scheduleNextSong => do
    scheduleNextSong
    let task ← newSongTimerTask .rebroadcastNextSong
    schedule task 5
  | .rebroadcastNextSong => do
    let song ← getNextSong
    modify (broadcastUpdate (.upcoming_song song) .Speaker)
  | .stopActiveSong => do
    let active ← getActiveSong
    modify (broadcastUpdate (.playback_command { command := .Stop, id := active.id }) .Speaker)

def fireTask (task : TimerTask) (s : Server) : Server :=
  if task ∈ s.songTimer then
    finalState (runTask task.action { s with songTimer := s.songTimer.erase task })
  else s

end TimerTasks

end Server
end MusicCloud
