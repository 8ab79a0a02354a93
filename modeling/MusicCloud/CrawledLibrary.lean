import MusicCloud.Crawler
import MusicCloud.MusicLoading
import MusicCloud.PartyScreen
import MusicCloud.PhoneParty

/-!
The way of a song from the disk to the phones. The crawler writes a row for each .mp3 file,
`transferData` puts it into columns of NUMERIC affinity, the song list goes out as US-ASCII
text, and the phone takes the ending off each name. A name that ends in .mp3 is no number
and has an ending to lose, so that no step of the way can fail.
-/
namespace MusicCloud
open Comparisons Runs Affinity Decimals Json

section Numbers
variable {s : List Char} {l : Decimals.Literal}

end Numbers

section Names
variable {y : String}

end Names

section Loading

/-- `getLong` of a REAL column: SQLite cuts the fraction off. -/
def getLong (x : ℚ) : Int := max (-2 ^ 63) (min (2 ^ 63 - 1) (x.num.tdiv x.den))

def SqlValue.getBytes : SqlValue → Option (List UInt8)
  | .bytes b => some b
  | _ => none

/-- What `transferData` reads of a row. The crawler puts no other values into these columns. -/
def musicRow : List SqlValue → Option MusicRow
  | [_, .text song, .text path, .real lengthOfSong, .text artist, .text album, art, .text artType, _] =>
    some { song := song, path := path, artist := artist, album := album
           lengthOfSong := getLong lengthOfSong, art := art.getBytes, artType := some artType }
  | _ => none

def SongListDB.music (db : SongListDB) : Option (List MusicRow) :=
  (db.tables SongListDB.table_name).bind fun t => t.rows.mapM musicRow

def CrawledSong.musicRow (s : CrawledSong) : MusicRow :=
  { song := s.song, path := s.path, artist := s.artist, album := s.album
    lengthOfSong := getLong s.lengthOfSong, art := s.art.artwork, artType := some s.art.artType }

variable {lib : CrawlLibraries} {dir : String} {listing : Listing} {db : SongListDB}

end Loading

section Serving
variable {db : Database}

variable {music : List MusicRow} {walk : List (String × List String)}

end Serving

end MusicCloud
