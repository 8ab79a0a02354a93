import MusicCloud.SessionUpdateQueue

/-!
The data the server passes around: songs, like and vote figures, playback
commands, the updates sent to sessions and the reports speakers send back.
Java's long arithmetic wraps, so `toLong` and `toInt` stand where the source
narrows. `balance` is the exact quotient that the source's double approximates.
-/
namespace MusicCloud

inductive JavaException where
  | illegalArgument | illegalState | noSuchElement | nullPointer | sql | security
  | invocationTarget | classCast | classNotFound | io | indexOutOfBounds | negativeArraySize
  deriving DecidableEq, Repr

def toLong (n : Int) : Int := n.bmod (2 ^ 64)

def toInt (n : Int) : Int := n.bmod (2 ^ 32)

inductive SongStatus where
  | Playing | Stopped | Inactive
  deriving DecidableEq, Repr

structure Song where
  id : Int
  name : String
  artist : String
  album : String
  path : String
  length : Int
  votes : Int
  deriving DecidableEq, Repr

structure ActiveSong extends Song where
  position : Int
  status : SongStatus
  deriving DecidableEq, Repr

structure VoteData where
  id : Int
  votes : Int
  deriving DecidableEq, Repr

structure LikeData where
  id : Int
  likes : Int
  dislikes : Int
  balance : ℚ
  deriving DecidableEq, Repr

def LikeData.create (songID songLikes songDislikes : Int) (balance : ℚ) :
    Except JavaException LikeData :=
  if songID < 0 ∨ songLikes < 0 ∨ songDislikes < 0 ∨ balance < -1 ∨ balance > 1 then
    .error .illegalArgument
  else .ok { id := songID, likes := songLikes, dislikes := songDislikes, balance := balance }

def computeLikeBalance (likes dislikes : Int) : Except JavaException ℚ :=
  if likes < 0 ∨ dislikes < 0 then .error .illegalArgument
  else
    let difference := likes - dislikes
    let sum := likes + dislikes
    .ok (if sum = 0 then 0 else (difference : ℚ) / (sum : ℚ))

theorem like_balance_bounds {likes dislikes : Int} (hl : 0 ≤ likes) (hd : 0 ≤ dislikes)
    (some : likes + dislikes ≠ 0) :
    -1 ≤ ((likes - dislikes : Int) : ℚ) / ((likes + dislikes : Int) : ℚ) ∧
      ((likes - dislikes : Int) : ℚ) / ((likes + dislikes : Int) : ℚ) ≤ 1 := by
  have positive : (0 : ℚ) < ((likes + dislikes : Int) : ℚ) := by
    exact_mod_cast (by omega : 0 < likes + dislikes)
  constructor
  · rw [le_div_iff₀ positive]
    exact_mod_cast (by omega : -1 * (likes + dislikes) ≤ likes - dislikes)
  · rw [div_le_iff₀ positive]
    exact_mod_cast (by omega : likes - dislikes ≤ 1 * (likes + dislikes))

theorem like_data_created {songID likes dislikes : Int} (hid : 0 ≤ songID) (hl : 0 ≤ likes)
    (hd : 0 ≤ dislikes) : ∃ balance, computeLikeBalance likes dislikes = .ok balance ∧
      LikeData.create songID likes dislikes balance =
        .ok { id := songID, likes := likes, dislikes := dislikes, balance := balance } := by
  have counts : ¬ (likes < 0 ∨ dislikes < 0) := by omega
  simp only [computeLikeBalance, counts, if_false]
  refine ⟨_, rfl, ?_⟩
  have low : ¬ songID < 0 := by omega
  have checks : ¬ likes < 0 ∧ ¬ dislikes < 0 := by omega
  by_cases sum : likes + dislikes = 0
  · simp [LikeData.create, sum, low, checks]
  · obtain ⟨above, below⟩ := like_balance_bounds hl hd sum
    simp only [LikeData.create, sum, low, checks.1, checks.2, not_lt.mpr above,
      not_lt.mpr below, or_self, if_false]

inductive Command where
  | Play | Stop
  deriving DecidableEq, Repr

structure PlaybackCommand where
  command : Command
  id : Int
  deriving DecidableEq, Repr

inductive SessionUpdate where
  | current_song (song : ActiveSong)
  | votes (votes : List VoteData)
  | likes (likes : LikeData)
  | song_list (songs : List Song)
  | upcoming_song (song : Song)
  | playback_command (command : PlaybackCommand)
  deriving DecidableEq, Repr

instance : HasUpdateType SessionUpdate where
  getUpdateType
    | .current_song _ => .current_song
    | .votes _ => .votes
    | .likes _ => .likes
    | .song_list _ => .song_list
    | .upcoming_song _ => .upcoming_song
    | .playback_command _ => .playback_command

inductive Status where
  | Playing | Paused | Ready | Stopped
  deriving DecidableEq, Repr

/-- A speaker's report; the status is absent when the JSON body has none. -/
structure StatusUpdateMessage where
  id : Int
  status : Option Status
  deriving DecidableEq, Repr

end MusicCloud
