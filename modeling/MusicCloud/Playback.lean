import MusicCloud.Server

/-!
The playback state is kept twice: in the fields of the song manager and in the
`status` column. `Playback` is the part of the server that this concerns, with
the three ways in which it changes, and `Agrees` says that both tell the same.
-/
namespace MusicCloud
open Tables

structure Playback where
  songs : List SongRow
  nextSong : Option Song
  activeSong : Option Song
  activeRowFound : Bool

def Server.playback (s : Server) : Playback :=
  { songs := s.db.songs, nextSong := s.nextSong
    activeSong := s.activeSong.map ActiveSong.toSong, activeRowFound := s.activeRowFound }

def Server.activeID (s : Server) : Option Int := s.activeSong.map fun a => a.id

namespace Database
variable {db : Database}

theorem songsWithVotes_eq (db : Database) :
    db.songsWithVotes = db.songs.map fun r => (r, if r.id ∈ db.votes.map VoteRow.song_id
      then some ((db.votes.map VoteRow.song_id).count r.id) else none) := by
  simp only [songsWithVotes, voteTotals, leftOuterJoin_groupCount SongRow.id, List.map_map]
  refine List.map_congr_left fun r _ => ?_
  by_cases voted : r.id ∈ db.votes.map VoteRow.song_id
  · simp only [Function.comp_apply, if_pos voted, Option.map_some]
  · simp only [Function.comp_apply, if_neg voted, Option.map_none]

theorem mem_songs_of_songsWithVotes {row : SongRow × Option Nat} (h : row ∈ db.songsWithVotes) :
    row.1 ∈ db.songs := by
  rw [songsWithVotes_eq] at h
  obtain ⟨r, hr, rfl⟩ := List.mem_map.mp h
  exact hr

theorem exists_songsWithVotes {r : SongRow} (h : r ∈ db.songs) :
    ∃ votes, (r, votes) ∈ db.songsWithVotes := by
  rw [songsWithVotes_eq]
  exact ⟨_, List.mem_map_of_mem h⟩

theorem activeSongQuery_eq_nil :
    db.activeSongQuery = [] ↔ ∀ r ∈ db.songs, r.status = .Inactive := by
  rw [activeSongQuery, List.take_eq_nil_iff, orderBy_eq_nil, List.filter_eq_nil_iff]
  constructor
  · rintro (h | h) r hr
    · exact absurd h (by decide)
    · obtain ⟨votes, hrow⟩ := exists_songsWithVotes hr
      simpa using h _ hrow
  · intro h
    exact Or.inr fun row hrow => by simpa using h _ (mem_songs_of_songsWithVotes hrow)

theorem nextSongQuery_mem {row : SongRow × Option Nat} (h : row ∈ db.nextSongQuery) :
    row.1 ∈ db.songs ∧ row.1.status = .Inactive := by
  have picked := (mem_orderBy _).mp (List.mem_of_mem_take h)
  obtain ⟨listed, inactive⟩ := List.mem_filter.mp picked
  exact ⟨mem_songs_of_songsWithVotes listed, by simpa using inactive⟩

theorem nextSongQuery_eq_nil :
    db.nextSongQuery = [] ↔ ∀ r ∈ db.songs, r.status ≠ .Inactive := by
  rw [nextSongQuery, List.take_eq_nil_iff, orderBy_eq_nil, List.filter_eq_nil_iff]
  constructor
  · rintro (h | h) r hr
    · exact absurd h (by decide)
    · obtain ⟨votes, hrow⟩ := exists_songsWithVotes hr
      simpa using h _ hrow
  · intro h
    exact Or.inr fun row hrow => by simpa using h _ (mem_songs_of_songsWithVotes hrow)

def transitionRow (current : Option Int) (next : Int) (datetime : Nat) (r : SongRow) : SongRow :=
  let r := if current = some r.id then { r with status := .Inactive, last_played := datetime } else r
  if r.id = next then { r with status := .Playing } else r

@[simp] theorem transitionRow_id (current : Option Int) (next : Int) (datetime : Nat)
    (r : SongRow) : (transitionRow current next datetime r).id = r.id := by
  simp only [transitionRow]
  split_ifs <;> rfl

theorem transitionRow_status (current : Option Int) (next : Int) (datetime : Nat) (r : SongRow) :
    (transitionRow current next datetime r).status =
      if r.id = next then .Playing else if current = some r.id then .Inactive else r.status := by
  simp only [transitionRow]
  split_ifs <;> simp_all

theorem updateNextSong_songs (current : Option Int) (next : Int) (datetime : Nat)
    (db : Database) : (db.updateNextSong current (some next) datetime).songs =
      db.songs.map (transitionRow current next datetime) := by
  cases current with
  | none => simp [updateNextSong, addCurrentSong, setStatus, transitionRow]
  | some c =>
    simp only [updateNextSong, addCurrentSong, removeCurrentSong, setStatus, List.map_map]
    refine List.map_congr_left fun r _ => ?_
    simp only [transitionRow, Function.comp_apply, Option.some.injEq, eq_comm (a := c)]

end Database

namespace Playback

inductive Change : Playback → Playback → Prop
  | select (p : Playback) (song : Song) (r : SongRow) (unset : p.nextSong = none)
      (listed : r ∈ p.songs) (inactive : r.status = .Inactive) (id : song.id = r.id) :
      Change p { p with nextSong := some song }
  | mark (p : Playback) (song : Song) (active : p.activeSong = some song) :
      Change p { p with songs := p.songs.map fun r =>
        if r.id = song.id then { r with status := .Stopped } else r }
  | start (p : Playback) (song : Song) (datetime : Nat) (next : p.nextSong = some song) :
      Change p { p with
        songs := p.songs.map (Database.transitionRow (p.activeSong.map Song.id) song.id datetime)
        activeSong := some song
        nextSong := none }

abbrev Changes : Playback → Playback → Prop := Relation.ReflTransGen Change

def fixedColumns (r : SongRow) : SongRow := { r with status := .Inactive, last_played := 0 }

def library (p : Playback) : List SongRow := p.songs.map fixedColumns

theorem Change.library {p q : Playback} (step : Change p q) : q.library = p.library := by
  cases step with
  | select => rfl
  | mark song active =>
    simp only [Playback.library, List.map_map]
    refine List.map_congr_left fun r _ => ?_
    by_cases same : r.id = song.id <;> simp [same, fixedColumns]
  | start song datetime next =>
    simp only [Playback.library, List.map_map]
    refine List.map_congr_left fun r _ => ?_
    simp only [Function.comp_apply, Database.transitionRow]
    split_ifs <;> rfl

theorem Changes.library {p q : Playback} (steps : Changes p q) : q.library = p.library := by
  induction steps with
  | refl => rfl
  | tail _ step ih => exact step.library.trans ih

/-- The fields and the `status` column tell the same. -/
structure Agrees (p : Playback) : Prop where
  nodup : (p.songs.map SongRow.id).Nodup
  active : ∀ r ∈ p.songs, r.status ≠ .Inactive ↔ p.activeSong.map Song.id = some r.id
  listed : ∀ song, p.activeSong = some song → ∃ r ∈ p.songs, r.id = song.id
  next : ∀ song, p.nextSong = some song → ∃ r ∈ p.songs, r.id = song.id ∧ r.status = .Inactive
  neverFound : p.activeRowFound = false

theorem Agrees.change {p q : Playback} (h : p.Agrees) (step : Change p q) : q.Agrees := by
  cases step with
  | select song r unset listed inactive id =>
    refine ⟨h.nodup, h.active, h.listed, ?_, h.neverFound⟩
    intro other same
    cases same
    exact ⟨r, listed, id.symm, inactive⟩
  | mark song active =>
    have ids : (p.songs.map fun r => if r.id = song.id then { r with status := SongStatus.Stopped }
        else r).map SongRow.id = p.songs.map SongRow.id := by
      rw [List.map_map]
      refine List.map_congr_left fun r _ => ?_
      by_cases same : r.id = song.id <;> simp [same]
    refine ⟨by rw [ids]; exact h.nodup, ?_, ?_, ?_, h.neverFound⟩
    · intro r' hr'
      obtain ⟨r, hr, rfl⟩ := List.mem_map.mp hr'
      by_cases same : r.id = song.id
      · simp [same, active]
      · simpa [same] using h.active r hr
    · intro other hother
      obtain ⟨r, hr, id⟩ := h.listed other hother
      refine ⟨_, List.mem_map_of_mem hr, ?_⟩
      split <;> exact id
    · intro next hnext
      obtain ⟨r, hr, id, inactive⟩ := h.next next hnext
      refine ⟨r, List.mem_map.mpr ⟨r, hr, ?_⟩, id, inactive⟩
      have idle : ¬ (p.activeSong.map Song.id = some r.id) :=
        fun running => (h.active r hr).mpr running inactive
      have other : r.id ≠ song.id := fun same => idle (by simp [active, same])
      simp [other]
  | start song datetime next =>
    obtain ⟨r, hr, id, inactive⟩ := h.next song next
    have ids : (p.songs.map (Database.transitionRow (p.activeSong.map Song.id) song.id
        datetime)).map SongRow.id = p.songs.map SongRow.id := by
      rw [List.map_map]
      exact List.map_congr_left fun r _ => by simp
    refine ⟨by rw [ids]; exact h.nodup, ?_, ?_, ?_, h.neverFound⟩
    · intro r' hr'
      obtain ⟨r, hr, rfl⟩ := List.mem_map.mp hr'
      have before := h.active r hr
      simp only [Database.transitionRow_status, Database.transitionRow_id, Option.map_some,
        Option.some.injEq]
      by_cases same : r.id = song.id
      · simp [same]
      · by_cases last : p.activeSong.map Song.id = some r.id
        · simp [same, last, Ne.symm same]
        · simpa [same, last, Ne.symm same] using before
    · intro other hother
      cases hother
      exact ⟨_, List.mem_map_of_mem hr, by simp [id]⟩
    · intro other hother
      cases hother

theorem Agrees.changes {p q : Playback} (h : p.Agrees) (steps : Changes p q) : q.Agrees := by
  induction steps with
  | refl => exact h
  | tail _ step ih => exact ih.change step

theorem Agrees.active_rows {p : Playback} (h : p.Agrees) :
    (p.songs.filter fun r => r.status ≠ .Inactive).map SongRow.id =
      (p.activeSong.map Song.id).toList := by
  have rows : p.songs.filter (fun r => r.status ≠ .Inactive) =
      p.songs.filter fun r => p.activeSong.map Song.id = some r.id :=
    List.filter_congr fun r hr => decide_eq_decide.mpr (h.active r hr)
  rw [rows]
  cases active : p.activeSong with
  | none => simp
  | some song =>
    obtain ⟨r, hr, id⟩ := h.listed song active
    have once : (p.songs.map SongRow.id).count song.id = 1 :=
      List.count_eq_one_of_mem h.nodup (id ▸ List.mem_map_of_mem hr)
    have picked : (p.songs.filter fun r => r.id = song.id).map SongRow.id =
        (p.songs.map SongRow.id).filter (fun i => i = song.id) := by
      rw [List.filter_map]
      rfl
    simp only [Option.map_some, Option.some.injEq, eq_comm (a := song.id), Option.toList_some]
    rw [picked]
    simpa [once] using List.filter_eq (l := p.songs.map SongRow.id) song.id

end Playback

end MusicCloud
