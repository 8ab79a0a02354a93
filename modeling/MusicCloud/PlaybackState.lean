import MusicCloud.Calls

/-!
The playback state and the database agree in every state that a run of calls
reaches, whatever the calls' arguments and whether they return or throw.
-/
namespace MusicCloud
open Runs Playback

namespace Server
variable {s : Server}

/-- Every call is a sequence of playback changes, also when it throws. -/
theorem changes_call (agrees : s.playback.Agrees) (c : Call) :
    Changes s.playback (s.call c).playback := by
  have changes := changes_of_acts (acts_call agrees c)
  rwa [playback_written] at changes

theorem agrees_call (agrees : s.playback.Agrees) (c : Call) : (s.call c).playback.Agrees :=
  agrees.changes (changes_call agrees c)

theorem row_of_transferData {n : Nat} {music : List MusicRow} {r : SongRow}
    (h : r ∈ Database.transferData n music) :
    ∃ m ∈ music, ∃ id, n ≤ id ∧ r = Database.transferRow id m := by
  induction music generalizing n with
  | nil => simp [Database.transferData] at h
  | cons m music ih =>
    rcases List.mem_cons.mp h with rfl | later
    · exact ⟨m, List.mem_cons_self, n, le_refl n, rfl⟩
    · obtain ⟨other, listed, id, after, rfl⟩ := ih later
      exact ⟨other, List.mem_cons_of_mem m listed, id, by omega, rfl⟩

theorem mem_transferData {n : Nat} {music : List MusicRow} {r : SongRow}
    (h : r ∈ Database.transferData n music) : (n : Int) ≤ r.id ∧ r.status = .Inactive := by
  obtain ⟨m, -, id, after, rfl⟩ := row_of_transferData h
  exact ⟨Int.ofNat_le.mpr after, rfl⟩

theorem transferData_nodup (n : Nat) (music : List MusicRow) :
    ((Database.transferData n music).map SongRow.id).Nodup := by
  induction music generalizing n with
  | nil => exact List.nodup_nil
  | cons m music ih =>
    refine List.nodup_cons.mpr ⟨?_, ih (n + 1)⟩
    intro again
    obtain ⟨r, hr, same⟩ := List.mem_map.mp again
    have later := (mem_transferData hr).1
    have first : r.id = (n : Int) := same
    omega

theorem agrees_start (music : List MusicRow) (clock : Nat) :
    (start music clock).playback.Agrees := by
  refine ⟨transferData_nodup 1 music, ?_, by simp [start, playback], by simp [start, playback], rfl⟩
  intro r hr
  have inactive := (mem_transferData (n := 1) hr).2
  simp [inactive, start, playback]

theorem agrees_run (music : List MusicRow) (clock : Nat) (calls : List Call) :
    (run call (start music clock) calls).playback.Agrees :=
  invariant_of_run call (fun s => s.playback.Agrees)
    (fun _ c agrees => agrees_call agrees c) calls _ (agrees_start music clock)

theorem library_run (music : List MusicRow) (clock : Nat) (calls : List Call) :
    (run call (start music clock) calls).playback.library = Database.transferData 1 music := by
  have fixed : ∀ (n : Nat) (music : List MusicRow),
      (Database.transferData n music).map fixedColumns = Database.transferData n music := by
    intro n music
    induction music generalizing n with
    | nil => rfl
    | cons m music ih => simp [Database.transferData, ih, fixedColumns, Database.transferRow]
  have step : ∀ (s : Server) c,
      s.playback.Agrees ∧ s.playback.library = Database.transferData 1 music →
        (call s c).playback.Agrees ∧ (call s c).playback.library = Database.transferData 1 music := by
    intro s c before
    exact ⟨agrees_call before.1 c, (changes_call before.1 c).library.trans before.2⟩
  exact (invariant_of_run call _ step calls _ ⟨agrees_start music clock, fixed 1 music⟩).2

theorem length_transferData (n : Nat) (music : List MusicRow) :
    (Database.transferData n music).length = music.length := by
  induction music generalizing n with
  | nil => rfl
  | cons m music ih => simp [Database.transferData, ih]

theorem songs_length {music : List MusicRow}
    (library : s.playback.library = Database.transferData 1 music) :
    s.db.songs.length = music.length := by
  have lengths := congrArg List.length library
  rw [length_transferData] at lengths
  simpa [Playback.library, playback] using lengths

theorem mem_library {music : List MusicRow} (same : s.playback.library = Database.transferData 1 music)
    {r : SongRow} (hr : r ∈ s.db.songs) : 0 < r.id ∧ ∃ m ∈ music, m.lengthOfSong = r.length := by
  have listed : fixedColumns r ∈ Database.transferData 1 music :=
    same ▸ List.mem_map_of_mem hr
  constructor
  · have : (1 : Int) ≤ r.id := by simpa [fixedColumns] using (mem_transferData listed).1
    omega
  · obtain ⟨m, hm, id, -, row⟩ := row_of_transferData listed
    have length : (fixedColumns r).length = m.lengthOfSong := by rw [row, Database.transferRow]
    exact ⟨m, hm, length.symm⟩

theorem positive_run (music : List MusicRow) (clock : Nat) (calls : List Call) :
    ∀ r ∈ (run call (start music clock) calls).db.songs, 0 < r.id :=
  fun _ hr => (mem_library (library_run music clock calls) hr).1

theorem songIds_of_changes {t : Server} (changes : Changes s.playback t.playback) :
    t.db.songs.map SongRow.id = s.db.songs.map SongRow.id := by
  have ids := congrArg (List.map SongRow.id) changes.library
  simp only [Playback.library, List.map_map] at ids
  exact ids

theorem positive_of_songIds {t : Server}
    (same : t.db.songs.map SongRow.id = s.db.songs.map SongRow.id)
    (positive : ∀ r ∈ s.db.songs, 0 < r.id) : ∀ r ∈ t.db.songs, 0 < r.id := by
  intro r hr
  have listed : r.id ∈ t.db.songs.map SongRow.id := List.mem_map_of_mem hr
  rw [same] at listed
  obtain ⟨old, hold, eq⟩ := List.mem_map.mp listed
  rw [← eq]
  exact positive old hold

end Server

/-- After every sequence of calls, throwing ones included, exactly the active
    song's row is not inactive, the next song is an inactive row of the table,
    and the database has never been found to hold an active song that the
    field does not. -/
theorem playback_agrees_with_database (music : List MusicRow) (clock : Nat) (calls : List Call) :
    let s := run Server.call (.start music clock) calls
    (s.db.songs.filter fun r => r.status ≠ .Inactive).map SongRow.id =
      (s.activeSong.map fun active => active.id).toList ∧
    (∀ next, s.nextSong = some next →
      (∃ r ∈ s.db.songs, r.id = next.id ∧ r.status = .Inactive) ∧
      ∀ active, s.activeSong = some active → next.id ≠ active.id) ∧
    s.activeRowFound = false := by
  intro s
  have agrees : s.playback.Agrees := Server.agrees_run music clock calls
  refine ⟨?_, ?_, agrees.neverFound⟩
  · have rows := agrees.active_rows
    rwa [Server.playback, Option.map_map] at rows
  · intro next hnext
    obtain ⟨r, hr, id, inactive⟩ := agrees.next next hnext
    refine ⟨⟨r, hr, id, inactive⟩, ?_⟩
    intro active hactive same
    have running : r.status ≠ .Inactive := by
      rw [agrees.active r hr]
      simp [Server.playback, hactive, id, same]
    exact running inactive

end MusicCloud
