import MusicCloud.OneSpeaker

/-!
The song after the active one. A Stopped report selects one unless that has been
done. The query leaves out what is not Inactive, which the song that has just
stopped is not: a library of one song has nothing to go on with.
-/
namespace MusicCloud
open Runs

namespace Server
variable {s : Server}

section Stopped
variable (agrees : s.playback.Agrees)
include agrees

theorem stocked_of_inactive {active : ActiveSong} (running : s.activeSong = some active)
    {r : SongRow} (listed : r ∈ s.db.songs) (inactive : r.status = .Inactive) : s.Stocked := by
  obtain ⟨own, stored, id⟩ := agrees.listed active.toSong (by simp [playback, running])
  have playing : own.status ≠ .Inactive := by
    rw [agrees.active own stored, id]
    simp [playback, running]
  obtain ⟨i, hi, first⟩ := List.getElem_of_mem listed
  obtain ⟨j, hj, second⟩ := List.getElem_of_mem stored
  have apart : i ≠ j := by
    intro same
    subst same
    rw [first.symm.trans second] at inactive
    exact playing inactive
  have bound : j < s.db.songs.length := hj
  unfold Stocked
  omega

theorem candidate_marked_iff {active : ActiveSong} (running : s.activeSong = some active) :
    (s.marked active).candidate ≠ none ↔ s.Stocked := by
  have marked : Acts (some (0, .Stopped)) s (s.marked active) := .single (.mark s active running)
  have still := agrees_of_acts marked agrees
  have same : (s.marked active).Stocked ↔ s.Stocked := by
    simp [Stocked, Server.marked, Database.setStatus]
  rw [← same]
  constructor
  · intro chosen
    obtain ⟨song, choice⟩ := Option.ne_none_iff_exists'.mp chosen
    obtain ⟨r, listed, inactive, -⟩ := candidate_row choice
    have still_running : (s.marked active).activeSong = some active := running
    exact stocked_of_inactive still still_running listed inactive
  · exact candidate_of_stocked still

theorem stopped_selects_iff {active : ActiveSong} (running : s.activeSong = some active)
    (sessionID : Int) : (finalState (stoppedUpdate sessionID s)).nextSong ≠ none ↔ s.Stocked := by
  rw [stoppedUpdate_apply, running]
  dsimp only
  cases selected : s.nextSong with
  | some song =>
    obtain ⟨r, listed, -, inactive⟩ := agrees.next song selected
    have stocked := stocked_of_inactive agrees running listed inactive
    have kept : (s.marked active).nextSong = some song := selected
    simp [kept, stocked]
  | none =>
    rw [← candidate_marked_iff agrees running]
    have unset : (s.marked active).nextSong = none := selected
    cases choice : (s.marked active).candidate with
    | none => simp [unset]
    | some song =>
      dsimp only
      simp [Server.selected, sendUpdate]

end Stopped

/-- In every reachable state with an active song, a Stopped report for it leaves a
    next song exactly if the library has a second song. -/
theorem library_never_dry_iff (music : List MusicRow) (clock : Nat) (calls : List Call)
    (active : ActiveSong) (running : (run call (start music clock) calls).activeSong = some active)
    (sessionID : Int) (valid : 0 ≤ sessionID) :
    ((run call (start music clock) calls).call (.speakerStatusUpdate sessionID
      (some { id := active.id, status := some .Stopped }))).nextSong ≠ none ↔ 2 ≤ music.length := by
  have agrees := agrees_run music clock calls
  have length := songs_length (library_run music clock calls)
  rw [call, speakerStatusUpdate_apply, if_neg (not_lt.mpr valid)]
  rw [stopped_selects_iff agrees running]
  unfold Stocked
  rw [length]

theorem library_never_dry_two : 2 ≤ twoSongs.length ∧
    ((run call (start twoSongs 0) startedCalls).call (.speakerStatusUpdate 1
      (some { id := 1, status := some .Stopped }))).nextSong ≠ none := by
  have running : ∃ active, (run call (start twoSongs 0) startedCalls).activeSong = some active ∧
      active.id = 1 := by
    decide +kernel
  obtain ⟨active, running, same⟩ := running
  have next := (library_never_dry_iff twoSongs 0 startedCalls active running 1 (by decide)).mpr
    (by decide)
  rw [same] at next
  exact ⟨by decide, next⟩

/-- The only song of a library has stopped, and nothing is selected. -/
theorem single_song_runs_dry :
    ¬ ∀ (music : List MusicRow) (clock : Nat) (calls : List Call) (active : ActiveSong),
      music ≠ [] → (run call (start music clock) calls).activeSong = some active →
      ∀ sessionID, 0 ≤ sessionID →
        ((run call (start music clock) calls).call (.speakerStatusUpdate sessionID
          (some { id := active.id, status := some .Stopped }))).nextSong ≠ none := by
  intro always
  have running : (run call (start (twoSongs.take 1) 0) startedCalls).activeSong.isSome = true := by
    decide +kernel
  obtain ⟨active, running⟩ := Option.isSome_iff_exists.mp running
  have next := always (twoSongs.take 1) 0 startedCalls active (by decide) running 1 (by decide)
  have two := (library_never_dry_iff (twoSongs.take 1) 0 startedCalls active running 1
    (by decide)).mp next
  revert two
  decide

end Server
end MusicCloud
