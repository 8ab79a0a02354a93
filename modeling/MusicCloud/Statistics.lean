import MusicCloud.SessionState

/-!
The exact figures of `getStats` and `getVotes`: what the grouping, the joins
and the loop over the result come to.
-/
namespace MusicCloud
open Tables

namespace Database
variable (db : Database)

section Likes

def likesOf (songID : Int) : Nat :=
  db.likes.countP fun l => decide (l.song_id = songID) && decide (l.value > 0)

def dislikesOf (songID : Int) : Nat :=
  db.likes.countP fun l => decide (l.song_id = songID) && decide (l.value < 0)

def countWhere (p : Int → Bool) (groups : List ((Int × Int) × Nat)) : Nat :=
  ((groups.filter fun g => p g.1.2).map Prod.snd).sum

def addGroup (sums : Int × Int × Int) (group : (Int × Int) × Nat) : Int × Int × Int :=
  if group.1.2 < 0 then (group.1.1, sums.2.1, sums.2.2 + group.2)
  else if group.1.2 > 0 then (group.1.1, sums.2.1 + group.2, sums.2.2)
  else (group.1.1, sums.2.1, sums.2.2)

theorem sumReactions_eq (songID : Int) (groups : List ((Int × Int) × Nat)) :
    sumReactions songID groups = groups.foldl addGroup (songID, 0, 0) := rfl

theorem foldl_addGroup_counts (groups : List ((Int × Int) × Nat)) (sums : Int × Int × Int) :
    (groups.foldl addGroup sums).2 = (sums.2.1 + (countWhere (fun v => decide (v > 0)) groups : Int),
      sums.2.2 + (countWhere (fun v => decide (v < 0)) groups : Int)) := by
  induction groups generalizing sums with
  | nil => simp [countWhere]
  | cons g groups ih =>
    obtain ⟨⟨id, value⟩, count⟩ := g
    rw [List.foldl_cons, ih, addGroup]
    rcases lt_trichotomy value 0 with negative | zero | positive
    · simp [countWhere, negative, not_lt_of_gt negative, add_assoc]
    · simp [countWhere, zero]
    · simp [countWhere, positive, not_lt_of_gt positive, add_assoc]

/-- The loop adds the counts of the groups of positive and of negative value,
    whatever the song it starts from. -/
theorem sumReactions_counts (songID : Int) (groups : List ((Int × Int) × Nat)) :
    (sumReactions songID groups).2 = ((countWhere (fun v => decide (v > 0)) groups : Int),
      (countWhere (fun v => decide (v < 0)) groups : Int)) := by
  rw [sumReactions_eq, foldl_addGroup_counts, zero_add, zero_add]

theorem addGroup_song (sums : Int × Int × Int) (group : (Int × Int) × Nat) :
    (addGroup sums group).1 = group.1.1 := by
  unfold addGroup
  split
  · rfl
  · split <;> rfl

theorem foldl_addGroup_song {songID : Int} {groups : List ((Int × Int) × Nat)}
    (same : ∀ g ∈ groups, g.1.1 = songID) {sums : Int × Int × Int} (start : sums.1 = songID) :
    (groups.foldl addGroup sums).1 = songID := by
  induction groups generalizing sums with
  | nil => exact start
  | cons g groups ih =>
    obtain ⟨first, others⟩ := List.forall_mem_cons.mp same
    exact ih others ((addGroup_song sums g).trans first)

theorem sumReactions_song (songID : Int) (groups : List ((Int × Int) × Nat))
    (same : ∀ g ∈ groups, g.1.1 = songID) : (sumReactions songID groups).1 = songID := by
  rw [sumReactions_eq]
  exact foldl_addGroup_song same rfl

theorem activeReactions_eq {songID : Int} {r : SongRow} (nodup : (db.songs.map SongRow.id).Nodup)
    (listed : r ∈ db.songs) (id : r.id = songID)
    (active : ∀ r ∈ db.songs, r.status ≠ .Inactive ↔ r.id = songID) :
    db.activeReactions =
      (db.likes.filter fun l => l.song_id = songID).map fun l => (songID, l.value) := by
  have joined : ∀ l : LikeRow, (db.songs.filter fun r =>
      r.id = l.song_id ∧ r.status ≠ .Inactive).map (fun r => (r.id, l.value)) =
        if l.song_id = songID then [(songID, l.value)] else [] := by
    intro l
    by_cases own : l.song_id = songID
    · have rows : db.songs.filter (fun r => r.id = l.song_id ∧ r.status ≠ .Inactive) =
          db.songs.filter fun r => r.id = songID :=
        List.filter_congr fun r hr => by simp [own, active r hr]
      have once : (db.songs.map SongRow.id).count songID = 1 :=
        List.count_eq_one_of_mem nodup (id ▸ List.mem_map_of_mem listed)
      have ids : (db.songs.filter fun r => r.id = songID).map SongRow.id = [songID] := by
        have picked := List.filter_eq (l := db.songs.map SongRow.id) songID
        rw [once, List.filter_map] at picked
        exact picked
      rw [rows, if_pos own]
      calc (db.songs.filter fun r => r.id = songID).map (fun r => (r.id, l.value))
          = ((db.songs.filter fun r => r.id = songID).map SongRow.id).map
              (fun i => (i, l.value)) := by rw [List.map_map]; rfl
        _ = [(songID, l.value)] := by rw [ids]; rfl
    · rw [if_neg own, List.map_eq_nil_iff, List.filter_eq_nil_iff]
      intro r hr both
      obtain ⟨same, status⟩ := of_decide_eq_true both
      exact own (same ▸ (active r hr).mp status)
  simp only [activeReactions, joined]
  induction db.likes with
  | nil => rfl
  | cons l likes ih => by_cases own : l.song_id = songID <;> simp [own, ih]

end Likes

theorem getVotes_eq (db : Database) : db.getVotes = db.songs.map fun r =>
    { id := r.id, votes := (db.votes.countP fun v => v.song_id = r.id : Nat) } := by
  simp only [getVotes, voteTotals, leftOuterJoin_groupCount SongRow.id, List.map_map]
  refine List.map_congr_left fun r _ => ?_
  have count : (db.votes.map VoteRow.song_id).count r.id =
      db.votes.countP fun v => v.song_id = r.id := by
    rw [List.count, List.countP_map]
    exact List.countP_congr fun v _ => by simp
  by_cases voted : r.id ∈ db.votes.map VoteRow.song_id
  · simp only [Function.comp_apply, if_pos voted, count, Option.map_some, Option.getD_some]
  · have none := List.count_eq_zero.mpr voted
    rw [count] at none
    simp only [Function.comp_apply, if_neg voted, none, Option.map_none, Option.getD_none,
      Nat.cast_zero]

end Database

namespace Server
variable {s : Server}

theorem groups_of_active (agrees : s.playback.Agrees) {active : ActiveSong}
    (running : s.activeSong = some active) :
    (∀ g ∈ groupCount id s.db.activeReactions, g.1.1 = active.id) ∧
    Database.countWhere (fun v => decide (v > 0)) (groupCount id s.db.activeReactions) =
      s.db.likesOf active.id ∧
    Database.countWhere (fun v => decide (v < 0)) (groupCount id s.db.activeReactions) =
      s.db.dislikesOf active.id := by
  have isActive : ∀ r ∈ s.db.songs, r.status ≠ .Inactive ↔ r.id = active.id := by
    intro r hr
    simpa [playback, running, eq_comm] using agrees.active r hr
  obtain ⟨r, listed, own⟩ := agrees.listed active.toSong (by simp [playback, running])
  have reactions := s.db.activeReactions_eq agrees.nodup listed own isActive
  have counted : ∀ p : Int → Bool,
      Database.countWhere p (groupCount id s.db.activeReactions) =
        s.db.likes.countP fun l => decide (l.song_id = active.id) && p l.value := by
    intro p
    have sum := sum_groupCount id (fun k : Int × Int => p k.2) s.db.activeReactions
    rw [Database.countWhere, sum, reactions, List.countP_map, List.countP_filter]
    refine List.countP_congr fun l _ => ?_
    simp [and_comm]
  refine ⟨?_, counted _, counted _⟩
  intro g hg
  obtain ⟨k, hk, rfl⟩ := List.mem_map.mp hg
  rw [List.map_id, List.mem_dedup, reactions] at hk
  obtain ⟨l, -, rfl⟩ := List.mem_map.mp hk
  rfl

/-- Figures that are read count the reactions to the active song, even when they
    are read for another song. -/
theorem likeData_counts (agrees : s.playback.Agrees) {active : ActiveSong}
    (running : s.activeSong = some active) {songID : Int} {stats : LikeData}
    (read : likeData s.db songID = .ok stats) :
    stats.likes = s.db.likesOf active.id ∧ stats.dislikes = s.db.dislikesOf active.id := by
  obtain ⟨-, likes, dislikes⟩ := groups_of_active agrees running
  have counts := Database.sumReactions_counts songID (groupCount id s.db.activeReactions)
  rw [likes, dislikes] at counts
  unfold likeData at read
  generalize Database.sumReactions songID _ = sums at counts read
  obtain ⟨id, figures⟩ := sums
  dsimp only at counts
  subst counts
  dsimp only at read
  cases balance : computeLikeBalance (s.db.likesOf active.id) (s.db.dislikesOf active.id) with
  | error e =>
    rw [balance] at read
    cases read
  | ok balance' =>
    rw [balance] at read
    change LikeData.create _ _ _ _ = _ at read
    unfold LikeData.create at read
    split at read
    · cases read
    · cases read
      exact ⟨rfl, rfl⟩

theorem likeData_eq (agrees : s.playback.Agrees) {active : ActiveSong}
    (running : s.activeSong = some active) (nonneg : 0 ≤ active.id) :
    ∃ balance, likeData s.db active.id = .ok
      { id := active.id, likes := s.db.likesOf active.id, dislikes := s.db.dislikesOf active.id
        balance := balance } := by
  obtain ⟨balance, hbalance, created⟩ := like_data_created nonneg
    (Int.natCast_nonneg (s.db.likesOf active.id)) (Int.natCast_nonneg (s.db.dislikesOf active.id))
  obtain ⟨same, likes, dislikes⟩ := groups_of_active agrees running
  refine ⟨balance, ?_⟩
  have sums : Database.sumReactions active.id (groupCount id s.db.activeReactions) =
      (active.id, (s.db.likesOf active.id : Int), (s.db.dislikesOf active.id : Int)) := by
    rw [← likes, ← dislikes]
    exact Prod.ext (Database.sumReactions_song _ _ same) (Database.sumReactions_counts _ _)
  rw [likeData, sums]
  dsimp only
  rw [hbalance]
  exact created

theorem getStats_active (agrees : s.playback.Agrees) {active : ActiveSong}
    (running : s.activeSong = some active) (nonneg : 0 ≤ active.id) :
    ∃ balance, getStats s = .ok
      { id := active.id, likes := s.db.likesOf active.id, dislikes := s.db.dislikesOf active.id
        balance := balance } (s.refreshed active) := by
  obtain ⟨balance, figures⟩ := likeData_eq agrees running nonneg
  refine ⟨balance, ?_⟩
  have same : (s.positioned active).id = active.id := by rw [positioned_toSong]
  rw [getStats_apply, getActiveSong_apply, running]
  dsimp only
  rw [same]
  have rows : (s.refreshed active).db = s.db := rfl
  rw [rows, figures]

end Server
end MusicCloud
