import MusicCloud.SongOrder
import MusicCloud.UpdateTexts

/-!
What the phone makes of a response (`ClientSession.handleUpdateResponse`). It looks at the
type, takes the values apart and hands them to its delegate, the party screen. A song name
loses the ending of its file; a name shorter than the ending raises an exception.
-/
namespace MusicCloud
open Json

inductive ShownStatus where
  | SS_PLAYING | SS_PAUSED
  deriving DecidableEq, Repr

structure ListedSong extends SongInfo where
  songArtist : Option String
  songAlbum : Option String
  deriving DecidableEq, Repr

structure CurrentSongInfo where
  songID : Int := 0
  songName : Option String := none
  songArtist : Option String := none
  songAlbum : Option String := none
  songLength : Int := 0
  status : ShownStatus := .SS_PLAYING
  position : Int := 0
  likes : Int := 0
  dislikes : Int := 0
  balance : ℚ := 0
  deriving DecidableEq, Repr

inductive Delegation where
  | clientDidReceiveSongList (list : List ListedSong)
  | clientDidReceiveLikeUpdate (song : CurrentSongInfo)
  | clientDidReceiveVoteUpdate (song : List SongInfo)
  | clientDidReceiveSongUpdate (song : CurrentSongInfo)
  | unknown
  deriving DecidableEq, Repr

/-- The name without `.mp3` at its end; `substringFromIndex:` raises an exception when there
    are fewer characters. -/
def withoutMP3 (songName : String) : Option String :=
  let name := songName.toList
  if name.length < 4 then none
  else if name.drop (name.length - 4) = ".mp3".toList then
    some (String.ofList (name.take (name.length - 4)))
  else some songName

/-- `integerValue` of what is found under a key; a message to nil returns 0. The numbers of
    the server's updates, but for the balance, are integers. -/
def integerValue (key : String) (dict : Value) : Int := (integerForKey key dict).getD 0

def dictionaries : Option Value → Option (List Value)
  | some (.array dicts) => some dicts
  | none => some []
  | _ => none

def listedSong (dict : Value) : Option ListedSong := do
  let songName ← withoutMP3 (← stringForKey "name" dict)
  some { songID := integerValue "id" dict, songName := songName, votes := integerValue "votes" dict
         songArtist := stringForKey "artist" dict, songAlbum := stringForKey "album" dict }

def votedSong (dict : Value) : SongInfo :=
  { songID := integerValue "id" dict, songName := "", votes := integerValue "votes" dict }

section Responses
variable (texts : DoubleTexts)

def doubleValue (key : String) (dict : Value) : ℚ :=
  match objectForKey key dict with
  | some (.number n) => texts.doubleValue n
  | _ => 0

def likedSong (likeInfo : Value) : CurrentSongInfo :=
  { songID := integerValue "id" likeInfo, likes := integerValue "likes" likeInfo
    dislikes := integerValue "dislikes" likeInfo, balance := doubleValue texts "balance" likeInfo }

/-- The server sends no status, so the song keeps that of a new object. -/
def currentSong (values : Value) : Option CurrentSongInfo := do
  let songName ← (stringForKey "name" values).mapM withoutMP3
  some { songID := integerValue "id" values, songName := songName
         songArtist := stringForKey "artist" values, songAlbum := stringForKey "album" values
         songLength := integerValue "length" values, position := integerValue "position" values
         status := if stringForKey "status" values = some "Paused" then .SS_PAUSED else .SS_PLAYING }

/-- An exception in here ends the app. -/
def handleUpdateResponse (response : Value) : Option Delegation := do
  let updateType := stringForKey "update_type" response
  let values := objectForKey "values" response
  if updateType = some "song_list" then
    let songs ← (← dictionaries values).mapM listedSong
    some (.clientDidReceiveSongList songs)
  else if updateType = some "likes" then
    some (.clientDidReceiveLikeUpdate (likedSong texts (values.getD .null)))
  else if updateType = some "votes" then
    some (.clientDidReceiveVoteUpdate ((← dictionaries values).map votedSong))
  else if updateType = some "current_song" then
    some (.clientDidReceiveSongUpdate (← currentSong (values.getD .null)))
  else some .unknown

end Responses

section Sent
variable (texts : DoubleTexts)

def sent (s : String) : String := mapString ascii s

def Song.listing (s : Song) : Option ListedSong :=
  (withoutMP3 (sent s.name)).map fun songName =>
    { songID := s.id, songName := songName, votes := s.votes
      songArtist := some (sent s.artist), songAlbum := some (sent s.album) }

def ActiveSong.current (s : ActiveSong) : Option CurrentSongInfo :=
  (withoutMP3 (sent s.name)).map fun songName =>
    { songID := s.id, songName := some songName, songArtist := some (sent s.artist)
      songAlbum := some (sent s.album), songLength := s.length, position := s.position }

def VoteData.info (v : VoteData) : SongInfo := { songID := v.id, songName := "", votes := v.votes }

def LikeData.current (l : LikeData) : CurrentSongInfo :=
  { songID := l.id, likes := l.likes, dislikes := l.dislikes, balance := toDouble l.balance }

def SessionUpdate.delegation : SessionUpdate → Option Delegation
  | .song_list songs => (songs.mapM Song.listing).map .clientDidReceiveSongList
  | .likes l => some (.clientDidReceiveLikeUpdate l.current)
  | .votes vs => some (.clientDidReceiveVoteUpdate (vs.map VoteData.info))
  | .current_song song => song.current.map .clientDidReceiveSongUpdate
  | .upcoming_song _ => some .unknown
  | .playback_command _ => some .unknown

theorem listedSong_members (s : Song) : listedSong ((Value.object s.members).map ascii) = s.listing := by
  have id : integerForKey "id" ((Value.object s.members).map ascii) = some s.id := by
    rw [Value.map, mapMembers_members]
    exact spelledInteger_toString s.id
  have votes : integerForKey "votes" ((Value.object s.members).map ascii) = some s.votes := by
    rw [Value.map, mapMembers_members]
    exact spelledInteger_toString s.votes
  have name : stringForKey "name" ((Value.object s.members).map ascii) = some (sent s.name) := rfl
  have artist : stringForKey "artist" ((Value.object s.members).map ascii) = some (sent s.artist) := rfl
  have album : stringForKey "album" ((Value.object s.members).map ascii) = some (sent s.album) := rfl
  unfold listedSong integerValue Song.listing
  simp only [name, artist, album, id, votes, Option.bind_eq_bind, Option.bind_some, Option.getD_some]
  cases withoutMP3 (sent s.name) <;> rfl

theorem mapM_listedSong (songs : List Song) :
    (mapItems ascii (songs.map fun s => .object s.members)).mapM listedSong =
      songs.mapM Song.listing := by
  induction songs with
  | nil => rfl
  | cons s songs ih => simp only [List.map_cons, mapItems, List.mapM_cons, listedSong_members, ih]

theorem currentSong_members (s : ActiveSong) :
    currentSong ((Value.object s.members).map ascii) = s.current := by
  have members : (Value.object s.members).map ascii =
      .object (mapMembers ascii s.toSong.members ++ [("position", longValue s.position)]) := rfl
  have id : integerForKey "id" ((Value.object s.members).map ascii) = some s.id := by
    rw [members, mapMembers_members]
    exact spelledInteger_toString s.id
  have length : integerForKey "length" ((Value.object s.members).map ascii) = some s.length := by
    rw [members, mapMembers_members]
    exact spelledInteger_toString s.length
  have position : integerForKey "position" ((Value.object s.members).map ascii) =
      some s.position := by
    rw [members, mapMembers_members]
    exact spelledInteger_toString s.position
  have name : stringForKey "name" ((Value.object s.members).map ascii) = some (sent s.name) := rfl
  have artist : stringForKey "artist" ((Value.object s.members).map ascii) = some (sent s.artist) := rfl
  have album : stringForKey "album" ((Value.object s.members).map ascii) = some (sent s.album) := rfl
  have status : stringForKey "status" ((Value.object s.members).map ascii) = none := rfl
  unfold currentSong integerValue ActiveSong.current
  simp only [name, artist, album, status, id, length, position, Option.getD_some]
  cases shown : withoutMP3 (sent s.name) with
  | none => simp [Option.mapM, shown]
  | some songName => simp [Option.mapM, shown]

theorem votedSong_members (v : VoteData) : votedSong ((Value.object v.members).map ascii) = v.info := by
  have id : integerForKey "id" ((Value.object v.members).map ascii) = some v.id :=
    spelledInteger_toString v.id
  have votes : integerForKey "votes" ((Value.object v.members).map ascii) = some v.votes :=
    spelledInteger_toString v.votes
  unfold votedSong integerValue VoteData.info
  rw [id, votes]
  rfl

theorem likedSong_members (l : LikeData) :
    likedSong texts ((Value.object (l.members texts)).map ascii) = l.current := by
  have id : integerForKey "id" ((Value.object (l.members texts)).map ascii) = some l.id :=
    spelledInteger_toString l.id
  have likes : integerForKey "likes" ((Value.object (l.members texts)).map ascii) = some l.likes :=
    spelledInteger_toString l.likes
  have dislikes : integerForKey "dislikes" ((Value.object (l.members texts)).map ascii) =
      some l.dislikes := spelledInteger_toString l.dislikes
  have balance : doubleValue texts "balance" ((Value.object (l.members texts)).map ascii) =
      toDouble l.balance := texts.doubleValue_toString l.balance
  unfold likedSong integerValue LikeData.current
  rw [id, likes, dislikes, balance]
  rfl

theorem handleUpdateResponse_update (u : SessionUpdate) :
    handleUpdateResponse texts ((u.json texts).map ascii) = u.delegation := by
  unfold handleUpdateResponse
  rw [type_update, values_update]
  cases u with
  | song_list songs =>
    have read := mapM_listedSong songs
    simp only [SessionUpdate.getValues, Value.map, getUpdateType, UpdateType.name, dictionaries, read,
      SessionUpdate.delegation, if_true, Option.bind_eq_bind, Option.bind_some]
    cases songs.mapM Song.listing <;> rfl
  | likes l =>
    have read := likedSong_members texts l
    simp only [SessionUpdate.getValues, getUpdateType, UpdateType.name, Option.getD_some, read,
      SessionUpdate.delegation]
    rfl
  | votes vs =>
    have read : (mapItems ascii (vs.map fun v => .object v.members)).map votedSong =
        vs.map VoteData.info := by
      induction vs with
      | nil => rfl
      | cons v vs ih => simp only [List.map_cons, mapItems, votedSong_members, ih]
    simp only [SessionUpdate.getValues, Value.map, getUpdateType, UpdateType.name, dictionaries,
      SessionUpdate.delegation, Option.bind_eq_bind, Option.bind_some, read]
    rfl
  | current_song song =>
    have read := currentSong_members song
    simp only [SessionUpdate.getValues, getUpdateType, UpdateType.name, Option.getD_some, read,
      SessionUpdate.delegation]
    cases song.current <;> rfl
  | upcoming_song song => rfl
  | playback_command c => rfl

end Sent

end MusicCloud
