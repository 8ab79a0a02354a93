import MusicCloud.SongChoice

/-!
The list of songs that the phones show (`getSongList`). Its query and the one for
the next song join the songs with the counts of the votes, which are NULL for a
song without votes. Only the query for the next song puts the NULLs last.
-/
namespace MusicCloud
open Tables

namespace Database
variable {db : Database}

def voteCount (db : Database) (songID : Int) : Nat := (db.votes.map VoteRow.song_id).count songID

def listed (db : Database) (r : SongRow) : Song :=
  { id := r.id, name := r.name, artist := r.artist, album := r.album, path := r.path
    length := r.length, votes := db.voteCount r.id }

def rank (db : Database) (r : SongRow) : Nat × Nat := (db.voteCount r.id, r.last_played)

structure Ranked (db : Database) (rows : List SongRow) : Prop where
  shown : db.getSongList = rows.map db.listed
  once : rows.Perm db.songs
  votes : rows.Pairwise fun a b => db.voteCount b.id ≤ db.voteCount a.id
  rest : rows.Pairwise fun a b => db.voteCount b.id = db.voteCount a.id → a.last_played ≤ b.last_played
  next : (rows.find? fun r => r.status = .Inactive).map db.rank =
    db.nextSongQuery.head?.map fun chosen => db.rank chosen.1

/-- The list is a ranking whose first inactive song is as good as the next one. -/
def ShowsRanking (db : Database) : Prop := ∃ rows, db.Ranked rows

theorem count_of_songsWithVotes {row : SongRow × Option Nat} (joined : row ∈ db.songsWithVotes) :
    row.2.getD 0 = db.voteCount row.1.id ∧ (row.2.isSome ↔ 0 < db.voteCount row.1.id) := by
  rw [songsWithVotes_eq] at joined
  obtain ⟨r, -, rfl⟩ := List.mem_map.mp joined
  unfold voteCount
  by_cases voted : r.id ∈ db.votes.map VoteRow.song_id
  · have positive := List.count_pos_iff.mpr voted
    rw [if_pos voted]
    exact ⟨rfl, iff_of_true rfl positive⟩
  · have zero := List.count_eq_zero.mpr voted
    have none : ¬ 0 < (db.votes.map VoteRow.song_id).count r.id := by omega
    rw [if_neg voted]
    exact ⟨zero.symm, iff_of_false (by simp) none⟩

theorem toSong_eq_listed {row : SongRow × Option Nat} (joined : row ∈ db.songsWithVotes) :
    toSong row = db.listed row.1 := by
  unfold toSong listed
  rw [(count_of_songsWithVotes joined).1]

def listRows (db : Database) : List (SongRow × Option Nat) :=
  orderBy (db.comesBefore false) db.songsWithVotes

theorem mem_listRows {row : SongRow × Option Nat} : row ∈ db.listRows ↔ row ∈ db.songsWithVotes :=
  mem_orderBy _

theorem getSongList_eq (db : Database) :
    db.getSongList = (db.listRows.map Prod.fst).map db.listed := by
  unfold getSongList
  rw [List.map_map]
  apply List.map_congr_left
  intro row shown
  exact toSong_eq_listed ((mem_orderBy _).mp shown)

theorem listRows_perm (db : Database) : (db.listRows.map Prod.fst).Perm db.songs := by
  have same : db.songsWithVotes.map Prod.fst = db.songs := by
    rw [songsWithVotes_eq, List.map_map]
    exact List.map_id _
  have perm := (orderBy_perm (db.comesBefore false) db.songsWithVotes).map Prod.fst
  rw [same] at perm
  exact perm

theorem comesBefore_counts {votedFirst : Bool} {a b : SongRow × Option Nat}
    (first : a ∈ db.songsWithVotes) (second : b ∈ db.songsWithVotes)
    (before : db.comesBefore votedFirst a b = true) :
    (0 < db.voteCount a.1.id ↔ 0 < db.voteCount b.1.id) ∧
        (db.voteCount b.1.id < db.voteCount a.1.id ∨
          db.voteCount b.1.id = db.voteCount a.1.id ∧ a.1.last_played ≤ b.1.last_played) ∨
      (0 < db.voteCount a.1.id ↔ votedFirst = true) ∧
        ¬ (0 < db.voteCount b.1.id ↔ votedFirst = true) := by
  obtain ⟨sumA, someA⟩ := count_of_songsWithVotes first
  obtain ⟨sumB, someB⟩ := count_of_songsWithVotes second
  rw [← someA, ← someB, ← sumA, ← sumB]
  unfold comesBefore at before
  by_cases voted : a.2.isSome = b.2.isSome
  · left
    rw [if_neg (not_not.mpr voted)] at before
    refine ⟨by rw [voted], ?_⟩
    by_cases counts : a.2.getD 0 = b.2.getD 0
    · rw [if_neg (not_not.mpr counts)] at before
      right
      refine ⟨counts.symm, ?_⟩
      by_cases played : a.1.last_played = b.1.last_played
      · omega
      · rw [if_pos played] at before
        have earlier := of_decide_eq_true before
        omega
    · rw [if_pos counts] at before
      exact Or.inl (of_decide_eq_true before)
  · right
    rw [if_pos voted] at before
    have same : a.2.isSome = votedFirst := by simpa using before
    rw [← same]
    refine ⟨Iff.rfl, ?_⟩
    intro equal
    exact voted (Bool.eq_iff_iff.mpr equal.symm)

/-- All songs have votes, or none has. -/
def VotedAlike (db : Database) : Prop :=
  (∀ r ∈ db.songs, 0 < db.voteCount r.id) ∨ ∀ r ∈ db.songs, db.voteCount r.id = 0

theorem listRows_pairwise (db : Database) :
    db.listRows.Pairwise fun a b => db.comesBefore false a b = true :=
  orderBy_pairwise (db.comesBefore_total false) (db.comesBefore_trans false) _

theorem ranked_of_votedAlike (alike : db.VotedAlike) :
    (db.listRows.map Prod.fst).Pairwise fun a b => db.voteCount b.id < db.voteCount a.id ∨
      db.voteCount b.id = db.voteCount a.id ∧ a.last_played ≤ b.last_played := by
  rw [List.pairwise_map]
  apply (listRows_pairwise db).imp_of_mem
  intro a b first second before
  have hfirst := mem_listRows.mp first
  have hsecond := mem_listRows.mp second
  have own := mem_songs_of_songsWithVotes hfirst
  have other := mem_songs_of_songsWithVotes hsecond
  rcases comesBefore_counts hfirst hsecond before with ⟨-, counts⟩ | ⟨voted, apart⟩
  · exact counts
  · rcases alike with all | none
    · simp [all a.1 own] at voted
    · simp [none b.1 other] at apart

theorem rank_of_next {rows : List SongRow} (perm : rows.Perm db.songs)
    (ranked : rows.Pairwise fun a b => db.voteCount b.id < db.voteCount a.id ∨
      db.voteCount b.id = db.voteCount a.id ∧ a.last_played ≤ b.last_played) :
    (rows.find? fun r => r.status = .Inactive).map db.rank =
      db.nextSongQuery.head?.map fun chosen => db.rank chosen.1 := by
  cases chosen : db.nextSongQuery.head? with
  | none =>
    have dry := nextSongQuery_eq_nil.mp (List.head?_eq_none_iff.mp chosen)
    have absent : rows.find? (fun r => r.status = .Inactive) = none := by
      apply List.find?_eq_none.mpr
      intro r shown
      simpa using dry r (perm.mem_iff.mp shown)
    rw [absent]
    rfl
  | some row =>
    obtain ⟨stored, inactive⟩ := nextSongQuery_mem (List.mem_of_head? chosen)
    have shown := perm.mem_iff.mpr stored
    cases found : rows.find? (fun r => r.status = .Inactive) with
    | none => exact absurd inactive (by simpa using List.find?_eq_none.mp found row.1 shown)
    | some r =>
      obtain ⟨own, before, after, split, earlier⟩ := List.find?_eq_some_iff_append.mp found
      have free : r.status = .Inactive := by simpa using own
      have listed : r ∈ db.songs := perm.mem_iff.mp (List.mem_of_find?_eq_some found)
      have best := nextSongQuery_first chosen listed free
      rw [votesReported_eq listed, votesReported_eq stored] at best
      have first : row.1 = r ∨ row.1 ∈ after := by
        rw [split] at shown
        rcases List.mem_append.mp shown with skipped | rest
        · have busy := earlier row.1 skipped
          exact absurd inactive (by simpa using busy)
        · exact List.mem_cons.mp rest
      simp only [Option.map_some, Option.some.injEq, rank, Prod.mk.injEq]
      unfold voteCount at ranked ⊢
      rcases first with same | later
      · rw [same]
        exact ⟨rfl, rfl⟩
      · rw [split] at ranked
        have sorted := (List.pairwise_append.mp ranked).2.1
        have order := (List.pairwise_cons.mp sorted).1 row.1 later
        omega

theorem votedAlike_of_votes (votes : (db.listRows.map Prod.fst).Pairwise fun a b =>
    db.voteCount b.id ≤ db.voteCount a.id) : db.VotedAlike := by
  by_contra mixed
  unfold VotedAlike at mixed
  push Not at mixed
  obtain ⟨⟨poor, hpoor, zero⟩, rich, hrich, positive⟩ := mixed
  have listed : ∀ r ∈ db.songs, ∃ k, (r, k) ∈ db.listRows := by
    intro r stored
    obtain ⟨k, joined⟩ := exists_songsWithVotes stored
    exact ⟨k, mem_listRows.mpr joined⟩
  obtain ⟨j, first⟩ := listed poor hpoor
  obtain ⟨k, second⟩ := listed rich hrich
  rw [List.pairwise_map] at votes
  have ordered := (votes.and (listRows_pairwise db)).imp fun {a b} h =>
    (Or.inl h : _ ∨ db.voteCount a.1.id ≤ db.voteCount b.1.id ∧ db.comesBefore false b a = true)
  have : Std.Symm fun a b : SongRow × Option Nat =>
      (db.voteCount b.1.id ≤ db.voteCount a.1.id ∧ db.comesBefore false a b = true) ∨
        db.voteCount a.1.id ≤ db.voteCount b.1.id ∧ db.comesBefore false b a = true :=
    ⟨fun a b h => h.symm⟩
  have apart : (poor, j) ≠ (rich, k) := by
    intro same
    obtain ⟨rfl, -⟩ := Prod.mk.inj same
    omega
  rcases ordered.forall first second apart with ⟨fewer, -⟩ | ⟨-, before⟩
  · dsimp only at fewer
    omega
  · -- the row with votes is not listed before the other
    have counts := comesBefore_counts (mem_listRows.mp second) (mem_listRows.mp first) before
    simp only [Bool.false_eq_true, iff_false] at counts
    omega

/-- For every content of the tables, the list shows the ranking exactly if all
    songs have votes or none has. -/
theorem ranking_shown_iff (db : Database) : db.ShowsRanking ↔ db.VotedAlike := by
  constructor
  · rintro ⟨rows, ranked⟩
    have votes : db.getSongList.Pairwise fun a b => b.votes ≤ a.votes := by
      rw [ranked.shown, List.pairwise_map]
      exact ranked.votes.imp fun fewer => Int.ofNat_le.mpr fewer
    rw [getSongList_eq, List.pairwise_map] at votes
    apply votedAlike_of_votes
    exact votes.imp fun fewer => Int.ofNat_le.mp fewer
  · intro alike
    have ranked := ranked_of_votedAlike alike
    refine ⟨db.listRows.map Prod.fst, getSongList_eq db, listRows_perm db, ?_, ?_, ?_⟩
    · apply ranked.imp
      intro a b order
      omega
    · apply ranked.imp
      intro a b order
      omega
    · exact rank_of_next (listRows_perm db) ranked

def oneVote : Database :=
  { create [{ song := "a", path := "a", artist := "", album := "", lengthOfSong := 60, art := none
              artType := none },
            { song := "b", path := "b", artist := "", album := "", lengthOfSong := 60, art := none
              artType := none }] with
    votes := [{ session_id := 1, song_id := 2 }] }

/-- The song with the vote is shown last. -/
theorem voted_song_shown_last : ¬ ∀ db : Database, db.ShowsRanking := by
  intro always
  have alike := (ranking_shown_iff oneVote).mp (always oneVote)
  revert alike
  unfold VotedAlike
  decide

end Database
end MusicCloud
