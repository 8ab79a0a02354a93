import MusicCloud.Effects
import MusicCloud.SongChoice
import MusicCloud.LeastRecent

/-!
The order in which songs are played when nobody votes. The next song is chosen
while the current one plays, and `last_played` is written when a song is replaced:
for every song that is not playing it is the moment at which it was released.
-/
namespace MusicCloud
open Runs LeastRecent

namespace Server
variable {s t : Server}

def newlyActive (s : Server) (c : Call) : Option Int :=
  if (s.call c).activeID = s.activeID then none else (s.call c).activeID

def startedSongs (start : Server) (calls : List Call) : List (Int × Nat) :=
  ((trace call start calls).filterMap fun (s, c) =>
    (s.newlyActive c).map fun id => (id, s.datetime)).reverse

theorem startedSongs_concat (start : Server) (calls : List Call) (c : Call) :
    startedSongs start (calls ++ [c]) =
      (((run call start calls).newlyActive c).map fun id =>
        (id, (run call start calls).datetime)).toList ++ startedSongs start calls := by
  unfold startedSongs
  rw [trace_concat, List.filterMap_append, List.reverse_append]
  congr 1
  cases started : (run call start calls).newlyActive c <;> simp [started]

/-- What the tables tell about the songs started so far. -/
structure Rotation (s : Server) (h : List (Int × Nat)) : Prop where
  unvoted : s.db.votes = []
  active : s.activeID = (h.map Prod.fst).head?
  rested : ∀ r ∈ s.db.songs, s.activeID ≠ some r.id → r.last_played = released r.id h
  next : ∀ song, s.nextSong = some song → s.PartyChoice song

theorem Rotation.settled {h : List (Int × Nat)} (rotation : s.Rotation h) (settled : Settled s t)
    (next : ∀ song, t.nextSong = some song → t.PartyChoice song) : t.Rotation h := by
  refine ⟨settled.votes.trans rotation.unvoted, settled.active.trans rotation.active, ?_, next⟩
  intro r hr idle
  obtain ⟨q, hq, id, played⟩ := settled.row hr
  have active : s.activeID = t.activeID := settled.active.symm
  rw [← played, ← id]
  apply rotation.rested q hq
  rw [active, id]
  exact idle

theorem Rotation.started {h : List (Int × Nat)} (rotation : s.Rotation h) {song : Song}
    (transition : TransitionStarted s t song) : t.Rotation ((song.id, s.datetime) :: h) := by
  have active : t.activeID = some song.id := by
    have same := congrArg (Option.map Song.id) transition.active
    simpa [activeID, Option.map_map] using same
  constructor
  · rw [transition.database, Database.updateNextSong_votes, rotation.unvoted]
    rfl
  · exact active
  · intro r' hr' idle
    rw [transition.database, Database.updateNextSong_songs] at hr'
    obtain ⟨r, hr, rfl⟩ := List.mem_map.mp hr'
    rw [active, Database.transitionRow_id] at idle
    have other : r.id ≠ song.id := fun same => idle (by rw [same])
    rw [Database.transitionRow_id]
    unfold Database.transitionRow
    dsimp only
    rw [if_neg (by split <;> exact other)]
    have head := rotation.active
    unfold activeID at head
    cases h with
    | nil =>
      have none : s.activeSong.map (fun a => a.id) ≠ some r.id := by simp [head]
      rw [if_neg none]
      exact rotation.rested r hr none
    | cons x h =>
      have same : s.activeSong.map (fun a => a.id) = some x.1 := head
      by_cases ends : x.1 = r.id
      · rw [if_pos (same.trans (congrArg some ends))]
        simp [released, ends]
      · have idle : s.activeSong.map (fun a => a.id) ≠ some r.id := by simpa [same] using ends
        rw [if_neg idle]
        simpa [released, ends] using rotation.rested r hr idle
  · intro other selected
    rw [transition.unset] at selected
    cases selected

theorem newlyActive_started (agrees : s.playback.Agrees) (positive : ∀ r ∈ s.db.songs, 0 < r.id)
    {c : Call} {next : Song} (starts : s.startsNext c = some next) :
    s.newlyActive c = some next.id := by
  obtain ⟨selected, transition⟩ := started_call agrees positive starts
  have active : (s.call c).activeID = some next.id := by
    have same := congrArg (Option.map Song.id) transition.active
    simpa [activeID, Option.map_map] using same
  have other : s.activeID ≠ some next.id := by
    intro same
    obtain ⟨r, hr, id, inactive⟩ := agrees.next next selected
    refine (agrees.active r hr).mpr ?_ inactive
    unfold activeID at same
    rw [playback, Option.map_map, id]
    exact same
  unfold newlyActive
  rw [active, if_neg (Ne.symm other)]

theorem newlyActive_unstarted (agrees : s.playback.Agrees) {c : Call}
    (starts : s.startsNext c = none) : s.newlyActive c = none := by
  have same := (call_unstarted agrees starts).active
  rw [stored_activeSong] at same
  exact if_pos same

theorem rotation_call (agrees : s.playback.Agrees) (positive : ∀ r ∈ s.db.songs, 0 < r.id)
    {c : Call} (voteless : Voteless c) {h : List (Int × Nat)} (rotation : s.Rotation h) :
    (s.call c).Rotation (((s.newlyActive c).map fun id => (id, s.datetime)).toList ++ h) := by
  cases starts : s.startsNext c with
  | some next =>
    rw [newlyActive_started agrees positive starts]
    exact rotation.started (started_call agrees positive starts).2
  | none =>
    rw [newlyActive_unstarted agrees starts]
    obtain ⟨report, other, acts⟩ := acts_unstarted agrees starts
    have written := settled_written (votes_written (s := s) voteless)
    have kept : (s.written c).playback.Agrees := playback_written s c ▸ agrees
    refine rotation.settled (written.trans (settled_of_acts other acts)) ?_
    intro song selected
    rcases chosen_of_acts kept acts selected with ⟨before, settled⟩ | chosen
    · have same : (s.written c).nextSong = s.nextSong :=
        congrArg Playback.nextSong (playback_written s c)
      exact ((rotation.next song (same ▸ before)).settled written).settled settled
    · exact chosen

theorem fresh_start (agrees : s.playback.Agrees) {h : List (Int × Nat)} (rotation : s.Rotation h)
    (ticks : Ticks h) {next : Song} (selected : s.nextSong = some next) :
    next.id ∉ (h.map Prod.fst).take (s.db.songs.length - 1) := by
  have chosen := rotation.next next selected
  obtain ⟨own, listed, id, first⟩ := chosen.wanted
  have idle : s.activeID ≠ some next.id := chosen.idle
  have unvoted : ∀ r ∈ s.db.songs, s.db.votesReported r.id = 0 := by
    intro r hr
    rw [Database.votesReported_eq hr, rotation.unvoted]
    rfl
  have least : ∀ id ∈ s.db.songs.map SongRow.id, (h.map Prod.fst).head? ≠ some id →
      released next.id h ≤ released id h := by
    intro other member ended
    obtain ⟨r, hr, rfl⟩ := List.mem_map.mp member
    rw [← rotation.active] at ended
    have played := first r hr ended
    rw [unvoted r hr, ← id, unvoted own listed] at played
    have before : own.last_played ≤ r.last_played := by omega
    rw [rotation.rested r hr ended, rotation.rested own listed (id ▸ idle), id] at before
    exact before
  have fresh := not_recent agrees.nodup ticks (rotation.active ▸ idle) least
  have size : (s.db.songs.map SongRow.id).length = s.db.songs.length := List.length_map _
  rw [← size]
  exact fresh

theorem length_songs_run (music : List MusicRow) (clock : Nat) (calls : List Call) :
    (run call (start music clock) calls).db.songs.length = music.length :=
  songs_length (library_run music clock calls)

theorem rotation_run (music : List MusicRow) (clock : Nat) (calls : List Call)
    (voteless : ∀ c ∈ calls, Voteless c) :
    (run call (start music clock) calls).Rotation (startedSongs (start music clock) calls) := by
  induction calls using List.reverseRecOn with
  | nil =>
    refine ⟨rfl, rfl, ?_, fun _ none => nomatch none⟩
    intro r hr idle
    obtain ⟨m, -, id, -, rfl⟩ := row_of_transferData (n := 1) hr
    rfl
  | append_singleton calls c ih =>
    have before := ih fun d hd => voteless d (List.mem_append_left _ hd)
    have agrees := agrees_run music clock calls
    have positive := positive_run music clock calls
    rw [run_concat, startedSongs_concat]
    exact rotation_call agrees positive (voteless c (by simp)) before

theorem fair_run (music : List MusicRow) (clock : Nat) (calls : List Call)
    (voteless : ∀ c ∈ calls, Voteless c) (ticks : Ticks (startedSongs (start music clock) calls)) :
    Fair music.length ((startedSongs (start music clock) calls).map Prod.fst) := by
  induction calls using List.reverseRecOn with
  | nil => exact fair_nil _
  | append_singleton calls c ih =>
    have earlier : ∀ d ∈ calls, Voteless d := fun d hd => voteless d (List.mem_append_left _ hd)
    have rotation := rotation_run music clock calls earlier
    have agrees := agrees_run music clock calls
    have positive := positive_run music clock calls
    rw [startedSongs_concat] at ticks ⊢
    cases starts : (run call (start music clock) calls).startsNext c with
    | none =>
      rw [newlyActive_unstarted agrees starts] at ticks ⊢
      exact ih earlier ticks
    | some next =>
      rw [newlyActive_started agrees positive starts] at ticks ⊢
      have fresh := fresh_start agrees rotation ticks.tail (started_call agrees positive starts).1
      rw [length_songs_run] at fresh
      exact (ih earlier ticks.tail).cons fresh

end Server

/-- Without votes, and with the clock going on between the starts of songs, songs
    that become active one after the other are different, up to the size of the
    library. -/
theorem played_round_robin (music : List MusicRow) (clock : Nat) (calls : List Call)
    (voteless : ∀ c ∈ calls, Server.Voteless c)
    (ticks : ((Server.startedSongs (.start music clock) calls).map Prod.snd).Pairwise (· > ·))
    (window : List Int) (length : window.length ≤ music.length)
    (consecutive : window <:+:
      ((Server.startedSongs (.start music clock) calls).map Prod.fst).reverse) : window.Nodup :=
  (Server.fair_run music clock calls voteless ticks).reverse window consecutive length

def alternatingCalls : List Call :=
  startedCalls ++ [.clockAdvanced 1000,
    .speakerStatusUpdate 1 (some { id := 1, status := some .Stopped }),
    .speakerStatusUpdate 1 (some { id := 2, status := some .Playing }), .clockAdvanced 1000,
    .speakerStatusUpdate 1 (some { id := 2, status := some .Stopped }),
    .speakerStatusUpdate 1 (some { id := 1, status := some .Playing })]

theorem two_songs_alternate :
    (Server.startedSongs (.start twoSongs 0) alternatingCalls).map Prod.fst = [1, 2, 1] ∧
    ([2, 1] : List Int).Nodup :=
  ⟨by decide +kernel, played_round_robin twoSongs 0 alternatingCalls
    (by simp [alternatingCalls, startedCalls, joinedCalls, Server.Voteless])
    (by decide +kernel) [2, 1] (by decide) ⟨[1], [], by decide +kernel⟩⟩

end MusicCloud
