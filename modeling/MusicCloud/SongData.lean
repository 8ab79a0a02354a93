import MusicCloud.Buffers
import MusicCloud.Requests

/-!
`getSongData` reads a song's file into an array of the length that `File.length`
announces. The end of the file may come earlier, and each `read` gives as many of the
next bytes as the system chooses.
-/
namespace MusicCloud
open Buffers

structure StoredFile where
  announced : Nat
  bytes : List UInt8
  deriving DecidableEq, Repr

structure SongData where
  data : List UInt8
  type : String
  deriving DecidableEq, Repr

namespace SongReading

/-- `FileInputStream.read(b, off, len)`, with the bytes from the position of the stream on:
    the return value, the array and what is left of the file. The system would like to
    give `choice` bytes. -/
def read (choice : Nat) (b : List UInt8) (off len : Int) (rest : List UInt8) :
    Except JavaException (Int × List UInt8 × List UInt8) :=
  if off < 0 ∨ len < 0 ∨ b.length - off < len then .error .indexOutOfBounds
  else if len = 0 then .ok (0, b, rest)
  else if rest = [] then .ok (-1, b, rest)
  else
    let n := min (max 1 choice) (min len.toNat rest.length)
    .ok (n, write b off.toNat (rest.take n), rest.drop n)

structure Reading where
  data : List UInt8
  bytesRead : Int
  bytesLeft : Int
  rest : List UInt8

/-- The loop of `getSongData`; the reads are numbered, and `none` means out of fuel. -/
def readLoop (choices : Nat → Nat) (length : Int) :
    Nat → Nat → Reading → Option (Except JavaException (List UInt8))
  | 0, _, _ => none
  | fuel + 1, call, r =>
    match read (choices call) r.data r.bytesRead r.bytesLeft r.rest with
    | .error e => some (.error e)
    | .ok (lastRead, data, rest) =>
      let bytesRead := toInt (r.bytesRead + lastRead)
      let bytesLeft := toInt (length - bytesRead)
      if 0 < lastRead ∧ 0 < bytesLeft then
        readLoop choices length fuel (call + 1)
          { data := data, bytesRead := bytesRead, bytesLeft := bytesLeft, rest := rest }
      else some (.ok data)

def getSongData (songs : List SongRow) (disk : String → Option StoredFile) (choices : Nat → Nat)
    (fuel : Nat) (songID : Int) : Option (Except JavaException SongData) :=
  if songID < 0 then some (.error .illegalArgument)
  else
    match songs.find? (fun r => r.id = songID) with
    | none => some (.error .noSuchElement)
    | some row =>
      match disk row.path with
      | none => some (.error .io)
      | some file =>
        let length := toInt file.announced
        if length < 0 then some (.error .negativeArraySize)
        else
          (readLoop choices length fuel 0
            { data := List.replicate length.toNat 0, bytesRead := 0, bytesLeft := length
              rest := file.bytes }).map fun result =>
                result.map fun data => { data := data, type := "audio/mp3" }

section Read
variable {b rest : List UInt8} {off len : Int}

theorem read_nothing (choice : Nat) (inside : 0 ≤ off ∧ off ≤ b.length) :
    read choice b off 0 rest = .ok (0, b, rest) := by
  unfold read
  rw [if_neg (by omega), if_pos rfl]

theorem read_end (choice : Nat) (inside : 0 ≤ off ∧ off + len ≤ b.length) (asked : 0 < len) :
    read choice b off len [] = .ok (-1, b, []) := by
  unfold read
  rw [if_neg (by omega), if_neg (by omega), if_pos rfl]

theorem read_some (choice : Nat) (inside : 0 ≤ off ∧ off + len ≤ b.length) (asked : 0 < len)
    (left : rest ≠ []) :
    ∃ n : Nat, 1 ≤ n ∧ n ≤ len ∧ n ≤ rest.length ∧
      read choice b off len rest = .ok ((n : Int), write b off.toNat (rest.take n), rest.drop n) := by
  have size := List.length_pos_iff.mpr left
  refine ⟨min (max 1 choice) (min len.toNat rest.length), by omega, by omega, by omega, ?_⟩
  unfold read
  rw [if_neg (by omega), if_neg (by omega), if_neg left]

theorem read_choice {n : Nat} (inside : 0 ≤ off ∧ off + len ≤ b.length) (some : 1 ≤ n) (asked : n ≤ len)
    (left : n ≤ rest.length) :
    read n b off len rest = .ok ((n : Int), write b off.toNat (rest.take n), rest.drop n) := by
  have more : rest ≠ [] := by
    rintro rfl
    rw [List.length_nil] at left
    omega
  have amount : min (max 1 n) (min len.toNat rest.length) = n := by omega
  unfold read
  rw [if_neg (by omega), if_neg (by omega), if_neg more]
  dsimp only
  rw [amount]

end Read

section Loop
variable {bytes : List UInt8} {length : Nat} (choices : Nat → Nat)

def reading (bytes : List UInt8) (length n : Nat) : Reading :=
  { data := filled bytes 0 length n, bytesRead := n, bytesLeft := (length - n : Nat)
    rest := bytes.drop n }

theorem toInt_of_small {n : Int} (low : -2 ^ 31 ≤ n) (high : n < 2 ^ 31) : toInt n = n := by
  unfold toInt
  exact Int.bmod_eq_of_le (by omega) (by omega)

theorem readLoop_eq (small : length < 2 ^ 31) {n fuel : Nat} (call : Nat) (read : n ≤ bytes.length)
    (room : n ≤ length) (enough : length - n < fuel) :
    readLoop choices length fuel call (reading bytes length n) =
      some (.ok (filled bytes 0 length (min length bytes.length))) := by
  induction fuel generalizing n call with
  | zero => omega
  | succ fuel ih =>
    have size : (filled bytes 0 length n).length = length := length_filled read room
    unfold readLoop
    dsimp only [reading]
    by_cases full : n = length
    · -- nothing is asked for
      subst full
      have all : min n bytes.length = n := by omega
      rw [Nat.sub_self, Nat.cast_zero, read_nothing _ (by omega), all]
      rfl
    · by_cases ended : bytes.drop n = []
      · -- `read` returns -1
        have short : bytes.length ≤ n := List.drop_eq_nil_iff.mp ended
        have all : min length bytes.length = n := by omega
        rw [ended, read_end _ (by omega) (by omega), all]
        rfl
      · have inside : (0 : Int) ≤ n ∧ (n : Int) + (length - n : Nat) ≤ (filled bytes 0 length n).length := by
          omega
        obtain ⟨k, some, asked, left, result⟩ := read_some (choices call) inside (by omega) ended
        rw [List.length_drop] at left
        have fits : n + k ≤ length := by omega
        have next : toInt ((n : Int) + k) = (n + k : Nat) := by
          rw [toInt_of_small (by omega) (by omega)]
          omega
        have remaining : toInt ((length : Int) - (n + k : Nat)) = (length - (n + k) : Nat) := by
          rw [toInt_of_small (by omega) (by omega)]
          omega
        rw [result]
        dsimp only
        rw [next, remaining, Int.toNat_natCast, write_filled (by omega) fits, List.drop_drop]
        split
        · exact ih (call + 1) (by omega) fits (by omega)
        · rename_i done
          have all : min length bytes.length = n + k := by omega
          rw [all]

end Loop

section SongData
variable {songs : List SongRow} {disk : String → Option StoredFile} {choices : Nat → Nat} {songID : Int}

/-- With enough fuel the loop reads the file up to its end or the end of the array. -/
theorem getSongData_stored {row : SongRow} {file : StoredFile} (valid : 0 ≤ songID)
    (found : songs.find? (fun r => r.id = songID) = some row) (stored : disk row.path = some file)
    (small : file.announced < 2 ^ 31) {fuel : Nat} (enough : file.announced < fuel) :
    getSongData songs disk choices fuel songID = some (.ok {
      data := filled file.bytes 0 file.announced (min file.announced file.bytes.length)
      type := "audio/mp3" }) := by
  have length : toInt file.announced = file.announced := toInt_of_small (by omega) (by omega)
  have loop : readLoop choices file.announced fuel 0 (reading file.bytes file.announced 0) = _ :=
    readLoop_eq choices small 0 (Nat.zero_le _) (Nat.zero_le _) (by omega)
  unfold reading at loop
  rw [filled_zero, List.drop_zero] at loop
  unfold getSongData
  rw [if_neg (by omega), found]
  dsimp only
  rw [stored]
  dsimp only
  rw [length, if_neg (by omega), Int.toNat_natCast]
  exact congrArg (Option.map _) loop

def readable (songs : List SongRow) (disk : String → Option StoredFile) (songID : Int) : Bool :=
  match songs.find? (fun r => r.id = songID) with
  | some row => (disk row.path).isSome
  | none => false

theorem getSongData_cases (songs : List SongRow) (disk : String → Option StoredFile)
    (choices : Nat → Nat) (songID : Int) :
    (∃ row file, 0 ≤ songID ∧ songs.find? (fun r => r.id = songID) = some row ∧
      disk row.path = some file) ∨
    ((0 ≤ songID → readable songs disk songID = false) ∧ ∃ e, e ≠ .indexOutOfBounds ∧
      ∀ fuel, getSongData songs disk choices fuel songID = some (.error e)) := by
  by_cases negative : songID < 0
  · right
    refine ⟨fun valid => absurd negative (by omega), .illegalArgument, by decide, fun _ => ?_⟩
    rw [getSongData, if_pos negative]
  · unfold readable
    cases found : songs.find? (fun r => r.id = songID) with
    | none =>
      right
      refine ⟨fun _ => rfl, .noSuchElement, by decide, fun fuel => ?_⟩
      rw [getSongData, if_neg negative, found]
    | some row =>
      cases stored : disk row.path with
      | none =>
        right
        refine ⟨fun _ => congrArg Option.isSome stored, .io, by decide, fun fuel => ?_⟩
        rw [getSongData, if_neg negative, found]
        dsimp only
        rw [stored]
      | some file => exact Or.inl ⟨row, file, by omega, rfl, stored⟩

/-- The method of the server returns when the loop gives it the song's data. -/
theorem getSongData_served (s : Server) (small : ∀ path file, disk path = some file → file.announced < 2 ^ 31) :
    (∃ song enough, ∀ fuel ≥ enough, getSongData s.db.songs disk choices fuel songID = some (.ok song)) ↔
      ∃ response t, s.getSongData songID (readable s.db.songs disk songID) = .ok response t := by
  rw [Server.getSongData_apply]
  rcases getSongData_cases s.db.songs disk choices songID with
    ⟨row, file, valid, found, stored⟩ | ⟨missing, e, -, result⟩
  · have there : readable s.db.songs disk songID = true := by
      unfold readable
      rw [found]
      dsimp only
      rw [stored]
      rfl
    rw [if_neg (by omega), found, there]
    apply iff_of_true
    · exact ⟨_, file.announced + 1, fun fuel enough =>
        getSongData_stored valid found stored (small _ _ stored) (by omega)⟩
    · exact ⟨_, _, rfl⟩
  · apply iff_of_false
    · rintro ⟨song, enough, ends⟩
      have no := (result enough).symm.trans (ends enough (le_refl _))
      cases no
    · rintro ⟨response, t, returned⟩
      split at returned
      · cases returned
      · split at returned
        · cases returned
        · rw [missing (by omega)] at returned
          cases returned

end SongData
end SongReading

open SongReading

/-- The loop ends without leaving the array, and what is returned, if anything, is the
    file. -/
def ReadsWhole (songs : List SongRow) (disk : String → Option StoredFile) (choices : Nat → Nat)
    (songID : Int) : Prop :=
  ∃ result enough, (∀ fuel ≥ enough, getSongData songs disk choices fuel songID = some result) ∧
    result ≠ .error .indexOutOfBounds ∧
    ∀ song, result = .ok song → ∃ row file, songs.find? (fun r => r.id = songID) = some row ∧
      disk row.path = some file ∧ song.data = file.bytes

/-- A song's data is the file exactly if the file ends where its announced length says.
    The loop ends in any case, and stays inside the array. -/
theorem song_data_whole_iff (songs : List SongRow) (disk : String → Option StoredFile)
    (choices : Nat → Nat) (songID : Int)
    (small : ∀ path file, disk path = some file → file.announced < 2 ^ 31) :
    ReadsWhole songs disk choices songID ↔
      ∀ row file, 0 ≤ songID → songs.find? (fun r => r.id = songID) = some row →
        disk row.path = some file → file.announced = file.bytes.length := by
  constructor
  · rintro ⟨result, enough, ends, -, whole⟩ row file valid found stored
    have read : getSongData songs disk choices (enough + file.announced + 1) songID = _ :=
      getSongData_stored valid found stored (small _ _ stored) (by omega)
    rw [ends _ (by omega)] at read
    obtain ⟨row', file', found', stored', same⟩ := whole _ (Option.some.inj read)
    rw [found] at found'
    cases found'
    rw [stored] at stored'
    cases stored'
    exact filled_eq_source_iff.mp same
  · intro lengths
    rcases getSongData_cases songs disk choices songID with
      ⟨row, file, valid, found, stored⟩ | ⟨-, e, other, result⟩
    · have size := lengths row file valid found stored
      refine ⟨_, file.announced + 1, fun fuel enough => getSongData_stored valid found stored
        (small _ _ stored) (by omega), fun no => (nomatch no), ?_⟩
      rintro song ⟨⟩
      exact ⟨row, file, found, stored, filled_eq_source_iff.mpr size⟩
    · refine ⟨.error e, 0, fun fuel _ => result fuel, ?_, fun song no => nomatch no⟩
      rintro ⟨⟩
      exact other rfl

theorem whole_song_read :
    ReadsWhole (Database.transferData 1 twoSongs) (fun _ => some { announced := 2, bytes := [0xFF, 0xFB] })
      (fun _ => 1) 1 := by
  apply (song_data_whole_iff _ _ _ _ _).mpr
  · rintro row file - - ⟨⟩
    rfl
  · rintro path file ⟨⟩
    decide

def shrunkFile : StoredFile := { announced := 2, bytes := [0xFF] }

theorem shrunk_song_padded :
    ¬ ∀ (songs : List SongRow) (disk : String → Option StoredFile) (choices : Nat → Nat) (songID : Int),
      (∀ path file, disk path = some file → file.announced < 2 ^ 31) →
        ReadsWhole songs disk choices songID := by
  intro always
  have small : ∀ (path : String) file, some shrunkFile = some file → file.announced < 2 ^ 31 := by
    rintro path file ⟨⟩
    decide
  obtain ⟨result, enough, ends, -, whole⟩ := always (Database.transferData 1 twoSongs)
    (fun _ => some shrunkFile) (fun _ => 1) 1 small
  have read : getSongData (Database.transferData 1 twoSongs) (fun _ => some shrunkFile) (fun _ => 1)
      (enough + 3) 1 = _ :=
    getSongData_stored (by decide) rfl rfl (by decide) (Nat.lt_add_left enough (by decide))
  rw [ends _ (by omega)] at read
  obtain ⟨row, file, -, stored, same⟩ := whole _ (Option.some.inj read)
  cases stored
  revert same
  decide

end MusicCloud
