import MusicCloud.Effects
import MusicCloud.OneTimer

/-!
The start of the next song on a Playing report: all that it should change in the
tables, the fields and the timer, and when the report gets that far.
-/
namespace MusicCloud
open Runs

namespace Server
variable {s : Server}

def startedRow (current : Option Int) (next : Int) (now : Nat) (r : SongRow) : SongRow :=
  if r.id = next then { r with status := .Playing }
  else if current = some r.id then { r with status := .Inactive, last_played := now }
  else r

/-- The song has been started, and everything else is as it was. -/
structure SongStarted (s t : Server) (song : Song) : Prop where
  active : ∃ active, t.activeSong = some active ∧ active.toSong = song ∧ active.status = .Playing
  unset : t.nextSong = none
  listed : ∃ r ∈ t.db.songs, r.id = song.id
  songs : t.db.songs =
    s.db.songs.map (startedRow (s.activeSong.map fun a => a.id) song.id s.datetime)
  votes : t.db.votes = s.db.votes.filter fun v => v.song_id ≠ song.id
  likes : t.db.likes = s.db.likes.filter fun l => s.activeSong.map (fun a => a.id) ≠ some l.song_id
  timer : ∃ id, t.songTimer = [{ id := id, action := .scheduleNextSong }]

theorem next_ne_active (agrees : s.playback.Agrees) {song : Song} (selected : s.nextSong = some song) :
    s.activeSong.map (fun a => a.id) ≠ some song.id := by
  intro same
  obtain ⟨r, hr, id, inactive⟩ := agrees.next song selected
  refine (agrees.active r hr).mpr ?_ inactive
  rw [playback, Option.map_map, id]
  exact same

theorem transitionRow_eq {current : Option Int} {next : Int} (other : current ≠ some next) (now : Nat)
    (r : SongRow) : Database.transitionRow current next now r = startedRow current next now r := by
  unfold Database.transitionRow startedRow
  by_cases own : r.id = next
  · have idle : current ≠ some r.id := own ▸ other
    simp [own, other]
  · by_cases ends : current = some r.id
    · simp [own, ends]
    · simp [own, ends]

theorem playing_completed_iff (agrees : s.playback.Agrees) (positive : ∀ r ∈ s.db.songs, 0 < r.id)
    (single : s.OneTask) {song : Song} (selected : s.nextSong = some song) {sessionID : Int}
    (valid : 0 ≤ sessionID) :
    (∃ t, speakerStatusUpdate sessionID (some { id := song.id, status := some .Playing }) s =
      .ok () t ∧ SongStarted s t song) ↔ s.accepts (selectionDelay song) := by
  rw [speakerStatusUpdate_apply, if_neg (by omega)]
  dsimp only
  constructor
  · rintro ⟨t, completed, -⟩
    rw [playingUpdate_apply, selected] at completed
    dsimp only at completed
    rw [if_pos rfl] at completed
    by_contra rejected
    rw [if_neg rejected] at completed
    cases completed
  · intro accepted
    obtain ⟨sessionMap, current, ⟨same, playing⟩, -, completed⟩ :=
      playing_announced agrees positive selected accepted sessionID
    have database := playbackUpdated_db s song
    have other := next_ne_active agrees selected
    have songs : (s.playbackUpdated song).db.songs =
        s.db.songs.map (startedRow (s.activeSong.map fun a => a.id) song.id s.datetime) := by
      rw [database, Database.updateNextSong_songs]
      exact List.map_congr_left fun r _ => transitionRow_eq other s.datetime r
    refine ⟨_, completed, ⟨current, rfl, same, playing⟩, rfl, ?_, songs, ?_, ?_, ?_⟩
    · obtain ⟨r, hr, id, -⟩ := agrees.next song selected
      dsimp only
      rw [songs]
      refine ⟨_, List.mem_map_of_mem hr, ?_⟩
      unfold startedRow
      rw [if_pos id]
      exact id
    · dsimp only
      rw [database, Database.updateNextSong_votes]
    · dsimp only
      rw [database, Database.updateNextSong_likes]
    · exact ⟨_, (timer_playbackUpdated single song).1⟩

/-- For lengths and clocks that stay clear of overflow the delay is accepted from twenty
    seconds on. -/
theorem accepts_selectionDelay_iff {song : Song} (nonneg : 0 ≤ song.length)
    (short : song.length ≤ 2 ^ 52) (early : s.clock ≤ 2 ^ 62) :
    s.accepts (selectionDelay song) ↔ 20 ≤ song.length := by
  have exact : selectionDelay song = (song.length - 20) * 1000 := by
    unfold selectionDelay toLong
    rw [Int.bmod_eq_of_le (n := song.length - 20) (by omega) (by omega),
      Int.bmod_eq_of_le (by omega) (by omega)]
  unfold accepts
  rw [exact]
  constructor
  · rintro ⟨delay, -⟩
    omega
  · intro long
    refine ⟨by omega, ?_⟩
    unfold toLong
    rw [Int.bmod_eq_of_le (by omega) (by omega)]
    omega

end Server

/-- In every reachable state with a next song, a Playing report for it completes
    and starts the song as it should exactly when `Timer.schedule` takes the delay
    of its length less twenty seconds. -/
theorem song_start_completes_iff (music : List MusicRow) (clock : Nat) (calls : List Call)
    (song : Song) (selected : (run Server.call (.start music clock) calls).nextSong = some song)
    (sessionID : Int) (valid : 0 ≤ sessionID) :
    (∃ t, Server.speakerStatusUpdate sessionID (some { id := song.id, status := some .Playing })
        (run Server.call (.start music clock) calls) = .ok () t ∧
      Server.SongStarted (run Server.call (.start music clock) calls) t song) ↔
    (run Server.call (.start music clock) calls).accepts (Server.selectionDelay song) :=
  Server.playing_completed_iff (Server.agrees_run music clock calls)
    (Server.positive_run music clock calls) (Server.oneTask_run music clock calls) selected valid

theorem first_song_starts : ∃ song t, Server.speakerStatusUpdate 1
      (some { id := song.id, status := some .Playing })
      (run Server.call (.start twoSongs 0) joinedCalls) = .ok () t ∧
    Server.SongStarted (run Server.call (.start twoSongs 0) joinedCalls) t song := by
  obtain ⟨t, completed⟩ := (song_start_completes_iff twoSongs 0 joinedCalls
    { id := 1, name := "first", artist := "", album := "", path := "first", length := 180
      votes := 0 } (by decide +kernel) 1 (by decide)).mpr (by decide)
  exact ⟨_, t, completed⟩

def shortSong : List MusicRow :=
  [{ song := "short", path := "short", artist := "", album := "", lengthOfSong := 10
     art := none, artType := none }]

/-- The report for a song of ten seconds fails: the delay would be negative. -/
theorem short_song_fails :
    ¬ ∀ (music : List MusicRow) (clock : Nat) (calls : List Call) (song : Song) (sessionID : Int),
      (∀ m ∈ music, 0 ≤ m.lengthOfSong) → 0 ≤ sessionID →
      (run Server.call (.start music clock) calls).nextSong = some song →
      ∃ t, Server.speakerStatusUpdate sessionID (some { id := song.id, status := some .Playing })
          (run Server.call (.start music clock) calls) = .ok () t ∧
        Server.SongStarted (run Server.call (.start music clock) calls) t song := by
  intro always
  obtain ⟨t, completed, -⟩ := always shortSong 0 joinedCalls
    { id := 1, name := "short", artist := "", album := "", path := "short", length := 10
      votes := 0 } 1 (by decide) (by decide) (by decide +kernel)
  rw [Server.speakerStatusUpdate_apply, if_neg (by decide)] at completed
  dsimp only at completed
  have selected : (run Server.call (.start shortSong 0) joinedCalls).nextSong =
      some { id := 1, name := "short", artist := "", album := "", path := "short", length := 10
             votes := 0 } := by
    decide +kernel
  rw [Server.playingUpdate_apply, selected] at completed
  dsimp only at completed
  rw [if_pos rfl, if_neg (by decide)] at completed
  cases completed

end MusicCloud
