import MusicCloud.StatusReports

/-!
The active song read from the database. `getActiveSongFromDB` builds the song from
the columns of its query, and a getter throws for a column that the query does not
select: `status` is one. The other columns would give the song that the field holds.
-/
namespace MusicCloud
open Runs

/-- A value in a row of a `ResultSet`; a status is stored as its ordinal. -/
inductive Cell where
  | integer (n : Int)
  | text (s : String)
  | ordinal (status : SongStatus)
  deriving DecidableEq, Repr

abbrev ResultRow := List (String × Cell)

namespace ResultRow

def getLong (column : String) (row : ResultRow) : Except JavaException Int :=
  match row.lookup column with
  | some (.integer n) => .ok n
  | _ => .error .sql

def getString (column : String) (row : ResultRow) : Except JavaException String :=
  match row.lookup column with
  | some (.text s) => .ok s
  | _ => .error .sql

def getStatus (column : String) (row : ResultRow) : Except JavaException SongStatus :=
  match row.lookup column with
  | some (.ordinal status) => .ok status
  | _ => .error .sql

def toActiveSong (songStarttime : Int) (row : ResultRow) : Except JavaException ActiveSong := do
  let id ← row.getLong "id"
  let name ← row.getString "name"
  let artist ← row.getString "artist"
  let album ← row.getString "album"
  let path ← row.getString "path"
  let length ← row.getLong "length"
  let votes ← row.getLong "votes"
  let status ← row.getStatus "status"
  return { id, name, artist, album, path, length, votes, position := songStarttime, status }

end ResultRow

namespace Database

def activeSongColumns (row : SongRow × Option Nat) : ResultRow :=
  [("id", .integer row.1.id), ("name", .text row.1.name), ("path", .text row.1.path),
   ("artist", .text row.1.artist), ("album", .text row.1.album),
   ("length", .integer row.1.length), ("votes", .integer (row.2.getD 0 : Nat))]

theorem toActiveSong_fails (songStarttime : Int) (row : SongRow × Option Nat) :
    (activeSongColumns row).toActiveSong songStarttime = .error .sql := rfl

/-- Were the status selected, the song would be that of the row. -/
theorem toActiveSong_selected (songStarttime : Int) (row : SongRow × Option Nat) :
    ResultRow.toActiveSong songStarttime
      (activeSongColumns row ++ [("status", .ordinal row.1.status)]) =
      .ok { toSong row with position := songStarttime, status := row.1.status } := rfl

end Database

namespace Server
variable {s : Server}

theorem getActiveSongFromDB_apply : getActiveSongFromDB s = match s.db.activeSongQuery with
    | [] => .error .noSuchElement s
    | row :: _ => match (Database.activeSongColumns row).toActiveSong s.songStarttime with
      | .ok active => .ok active s
      | .error e => .error e { s with activeRowFound := true } := by
  cases query : s.db.activeSongQuery with
  | nil => simp [getActiveSongFromDB, query]
  | cons row rest => simp [getActiveSongFromDB, query, Database.toActiveSong_fails]

def forgotten (s : Server) : Server := { s with activeSong := none }

/-- `getActiveSong` returns a song again, with the columns and the status of the row. -/
def Rebuilt (s : Server) (active : ActiveSong) : Prop :=
  ∃ song t, getActiveSong s.forgotten = .ok song t ∧ ∃ r ∈ s.db.songs, r.id = active.id ∧
    song.id = r.id ∧ song.name = r.name ∧ song.artist = r.artist ∧ song.album = r.album ∧
    song.path = r.path ∧ song.length = r.length ∧ song.status = r.status

theorem getActiveSong_forgotten (agrees : s.playback.Agrees) {active : ActiveSong}
    (running : s.activeSong = some active) :
    getActiveSong s.forgotten = .error .sql { s.forgotten with activeRowFound := true } := by
  obtain ⟨own, stored, id⟩ := agrees.listed active.toSong (by simp [playback, running])
  have playing : own.status ≠ .Inactive := by
    rw [agrees.active own stored, id]
    simp [playback, running]
  have found : s.db.activeSongQuery ≠ [] := by
    intro none
    exact playing (Database.activeSongQuery_eq_nil.mp none own stored)
  rw [getActiveSong_apply]
  exact if_neg found

/-- In no reachable state with an active song is it read from the database. -/
theorem active_song_never_rebuilt (music : List MusicRow) (clock : Nat) (calls : List Call)
    (active : ActiveSong) (running : (run call (start music clock) calls).activeSong = some active) :
    ¬ (run call (start music clock) calls).Rebuilt active := by
  intro rebuilt
  obtain ⟨song, t, returned, -⟩ := rebuilt
  rw [getActiveSong_forgotten (agrees_run music clock calls) running] at returned
  cases returned

theorem started_song_never_rebuilt : ∃ active,
    (run call (start twoSongs 0) startedCalls).activeSong = some active ∧
      ¬ (run call (start twoSongs 0) startedCalls).Rebuilt active := by
  have running : (run call (start twoSongs 0) startedCalls).activeSong.isSome = true := by
    decide +kernel
  obtain ⟨active, running⟩ := Option.isSome_iff_exists.mp running
  exact ⟨active, running, active_song_never_rebuilt twoSongs 0 startedCalls active running⟩

/-- The song that has just started is not. -/
theorem started_song_not_rebuilt :
    ¬ ∀ (music : List MusicRow) (clock : Nat) (calls : List Call) (active : ActiveSong),
      (run call (start music clock) calls).activeSong = some active →
        (run call (start music clock) calls).Rebuilt active := by
  intro always
  have running : (run call (start twoSongs 0) startedCalls).activeSong.isSome = true := by
    decide +kernel
  obtain ⟨active, running⟩ := Option.isSome_iff_exists.mp running
  obtain ⟨song, t, returned, -⟩ := always twoSongs 0 startedCalls active running
  rw [getActiveSong_forgotten (agrees_run twoSongs 0 startedCalls) running] at returned
  cases returned

end Server
end MusicCloud
