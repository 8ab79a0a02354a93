import MusicCloud.Affinity
import MusicCloud.Server

/-!
The songs table as SQLite stores it. `createTables` declares name, path, artist,
album and image_type as STRING, which is no type name that SQLite knows: the columns
have NUMERIC affinity. The columns of the crawler's music table are TEXT.
-/
namespace MusicCloud
open Affinity

structure StoredSong where
  id : Int
  name : Value
  path : Value
  artist : Value
  album : Value
  length : Int
  image_type : Option Value
  image : Option (List UInt8)
  status : SongStatus
  last_played : Nat
  deriving DecidableEq, Repr

namespace StoredSong

def read (r : StoredSong) : SongRow :=
  { id := r.id, name := r.name.getString, path := r.path.getString, artist := r.artist.getString
    album := r.album.getString, length := r.length, image := r.image
    image_type := r.image_type.map Value.getString, status := r.status
    last_played := r.last_played }

def insert (id : Nat) (m : MusicRow) : StoredSong :=
  { id := id, name := numeric m.song, path := numeric m.path, artist := numeric m.artist
    album := numeric m.album, length := m.lengthOfSong, image_type := m.artType.map numeric
    image := m.art, status := .Inactive, last_played := 0 }

def transferData : Nat → List MusicRow → List StoredSong
  | _, [] => []
  | n, m :: ms => insert n m :: transferData (n + 1) ms

end StoredSong

def MusicRow.converted (m : MusicRow) : MusicRow :=
  { m with
    song := (numeric m.song).getString
    path := (numeric m.path).getString
    artist := (numeric m.artist).getString
    album := (numeric m.album).getString
    artType := m.artType.map fun type => (numeric type).getString }

/-- The server that is given the crawler's table starts with the converted rows. -/
theorem read_transferData (n : Nat) (music : List MusicRow) :
    (StoredSong.transferData n music).map StoredSong.read =
      Database.transferData n (music.map MusicRow.converted) := by
  induction music generalizing n with
  | nil => rfl
  | cons m music ih =>
    have row : (StoredSong.insert n m).read = Database.transferRow n m.converted := by
      cases type : m.artType <;>
        simp [StoredSong.insert, StoredSong.read, Database.transferRow, MusicRow.converted, type]
    simp only [StoredSong.transferData, List.map_cons, Database.transferData, ih, row]

section Loading
variable {n : Nat} {music : List MusicRow}

theorem length_transferData : (StoredSong.transferData n music).length = music.length := by
  induction music generalizing n with
  | nil => rfl
  | cons m music ih => simp [StoredSong.transferData, ih]

end Loading

end MusicCloud
