import MusicCloud.Tables
import MusicCloud.Songs

/-!
The in-memory database (`DatabaseManager`) and the SQL statements the managers
run on it. Every statement succeeds here. `REFERENCES … ON DELETE CASCADE` has
no effect, because the connection never turns foreign keys on. SQLite does not
say which of two equal rows an `ORDER BY` puts first: `scanRank` decides, and
the environment may change it at any time.
-/
namespace MusicCloud
open Tables

inductive SessionType where
  | User | Speaker
  deriving DecidableEq, Repr

structure SessionRow where
  id : Int
  ipAddress : String
  sessionType : SessionType
  timeStarted : Int
  deriving DecidableEq, Repr

structure ChildRow where
  rowid : Int
  id : Int
  deriving DecidableEq, Repr

structure SongRow where
  id : Int
  name : String
  path : String
  artist : String
  album : String
  length : Int
  image : Option (List UInt8)
  image_type : Option String
  status : SongStatus
  last_played : Nat
  deriving DecidableEq, Repr

structure VoteRow where
  session_id : Int
  song_id : Int
  deriving DecidableEq, Repr

structure LikeRow where
  rowid : Int
  session_id : Int
  song_id : Int
  value : Int
  deriving DecidableEq, Repr

structure MusicRow where
  song : String
  path : String
  artist : String
  album : String
  lengthOfSong : Int
  art : Option (List UInt8)
  artType : Option String
  deriving DecidableEq, Repr

structure Database where
  sessions : List SessionRow
  /-- Largest id ever given to a session (AUTOINCREMENT). -/
  sessionSequence : Int
  user_sessions : List ChildRow
  speaker_sessions : List ChildRow
  songs : List SongRow
  votes : List VoteRow
  likes : List LikeRow
  lastInsertRowid : Int
  scanRank : Int → Nat

/-- The rowid SQLite gives to a new row of a table without AUTOINCREMENT. -/
def freshRowid (rowids : List Int) : Int := rowids.foldl max 0 + 1

namespace Database

def transferRow (id : Nat) (m : MusicRow) : SongRow :=
  { id := id, name := m.song, path := m.path, artist := m.artist, album := m.album
    length := m.lengthOfSong, image := m.art, image_type := m.artType
    status := .Inactive, last_played := 0 }

/-- `transferData`: songs are numbered 1, 2, … in the order of the music table. -/
def transferData : Nat → List MusicRow → List SongRow
  | _, [] => []
  | n, m :: ms => transferRow n m :: transferData (n + 1) ms

def create (music : List MusicRow) : Database :=
  { sessions := [], sessionSequence := 0, user_sessions := [], speaker_sessions := []
    songs := transferData 1 music, votes := [], likes := [], lastInsertRowid := music.length
    scanRank := fun _ => 0 }

section Sessions

def insertSession (ipAddress : String) (type : SessionType) (time : Int) (db : Database) :
    Database :=
  let id := db.sessionSequence + 1
  { db with
    sessions := db.sessions ++
      [{ id := id, ipAddress := ipAddress, sessionType := type, timeStarted := time }]
    sessionSequence := id
    lastInsertRowid := id }

def insertChildSession (type : SessionType) (id : Int) (db : Database) : Database :=
  match type with
  | .User =>
    let rowid := freshRowid (db.user_sessions.map ChildRow.rowid)
    { db with
      user_sessions := db.user_sessions ++ [{ rowid := rowid, id := id }]
      lastInsertRowid := rowid }
  | .Speaker =>
    let rowid := freshRowid (db.speaker_sessions.map ChildRow.rowid)
    { db with
      speaker_sessions := db.speaker_sessions ++ [{ rowid := rowid, id := id }]
      lastInsertRowid := rowid }

def deleteSession (id : Int) (db : Database) : Database :=
  { db with sessions := db.sessions.filter fun r => r.id ≠ id }

def sessionIds (type : SessionType) (db : Database) : List Int :=
  (db.sessions.filter fun r => r.sessionType = type).map SessionRow.id

def getSessionCount (db : Database) : Int :=
  (db.sessions.filter fun r => r.sessionType = .User).length

end Sessions

section VotesAndLikes

/-- The primary key of `votes` is its rowid. -/
def insertVote (sessionID songID : Int) (db : Database) : Database :=
  { db with
    votes := insertOrReplace VoteRow.session_id { session_id := sessionID, song_id := songID }
      db.votes
    lastInsertRowid := sessionID }

def insertLike (sessionID songID value : Int) (db : Database) : Database :=
  let rowid := freshRowid (db.likes.map LikeRow.rowid)
  { db with
    likes := insertOrReplace (fun r => (r.session_id, r.song_id))
      { rowid := rowid, session_id := sessionID, song_id := songID, value := value } db.likes
    lastInsertRowid := rowid }

def voteTotals (db : Database) : List (Int × Nat) := groupCount VoteRow.song_id db.votes

def getVotes (db : Database) : List VoteData :=
  (leftOuterJoin (fun (r : SongRow) g => decide (r.id = g.1)) db.songs db.voteTotals).map
    fun (r, total) => { id := r.id, votes := (total.map fun g => (g.2 : Int)).getD 0 }

def activeReactions (db : Database) : List (Int × Int) :=
  db.likes.flatMap fun l =>
    (db.songs.filter fun r => r.id = l.song_id ∧ r.status ≠ .Inactive).map
      fun r => (r.id, l.value)

def sumReactions (songID : Int) (groups : List ((Int × Int) × Nat)) : Int × Int × Int :=
  groups.foldl (fun (_, likes, dislikes) ((id, value), count) =>
    if value < 0 then (id, likes, dislikes + count)
    else if value > 0 then (id, likes + count, dislikes)
    else (id, likes, dislikes)) (songID, 0, 0)

end VotesAndLikes

section Songs

def songsWithVotes (db : Database) : List (SongRow × Option Nat) :=
  (leftOuterJoin (fun (r : SongRow) g => decide (r.id = g.1)) db.songs db.voteTotals).map
    fun (r, total) => (r, total.map Prod.snd)

def toSong (row : SongRow × Option Nat) : Song :=
  { id := row.1.id, name := row.1.name, artist := row.1.artist, album := row.1.album
    path := row.1.path, length := row.1.length, votes := (row.2.getD 0 : Nat) }

/-- `ORDER BY vote_count IS NOT NULL [DESC], vote_count DESC, last_played ASC`:
    songs without votes come first unless `votedFirst`. -/
def comesBefore (db : Database) (votedFirst : Bool) (a b : SongRow × Option Nat) : Bool :=
  if a.2.isSome ≠ b.2.isSome then a.2.isSome == votedFirst
  else if a.2.getD 0 ≠ b.2.getD 0 then decide (b.2.getD 0 < a.2.getD 0)
  else if a.1.last_played ≠ b.1.last_played then decide (a.1.last_played < b.1.last_played)
  else decide (db.scanRank a.1.id ≤ db.scanRank b.1.id)

def nextSongQuery (db : Database) : List (SongRow × Option Nat) :=
  (orderBy (db.comesBefore true)
    (db.songsWithVotes.filter fun r => r.1.status = .Inactive)).take 1

def activeSongQuery (db : Database) : List (SongRow × Option Nat) :=
  (orderBy (db.comesBefore false)
    (db.songsWithVotes.filter fun r => r.1.status ≠ .Inactive)).take 1

def getSongList (db : Database) : List Song :=
  (orderBy (db.comesBefore false) db.songsWithVotes).map toSong

def setStatus (id : Int) (status : SongStatus) (db : Database) : Database :=
  { db with songs := db.songs.map fun r => if r.id = id then { r with status := status } else r }

/-- `removeCurrentSongFromDB`, with `datetime()` in seconds. -/
def removeCurrentSong (id : Int) (datetime : Nat) (db : Database) : Database :=
  { db with
    likes := db.likes.filter fun r => r.song_id ≠ id
    songs := db.songs.map fun r =>
      if r.id = id then { r with status := .Inactive, last_played := datetime } else r }

def addCurrentSong (id : Int) (db : Database) : Database :=
  { db with votes := db.votes.filter fun r => r.song_id ≠ id }.setStatus id .Playing

def updateNextSong (current next : Option Int) (datetime : Nat) (db : Database) : Database :=
  let db := match current with
    | some id => db.removeCurrentSong id datetime
    | none => db
  match next with
  | some id => db.addCurrentSong id
  | none => db

end Songs

end Database
end MusicCloud
