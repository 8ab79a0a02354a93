import MusicCloud.RowMoves
import MusicCloud.SongOrder

/-!
The song table of the party screen (`PartyViewController`) at a vote update. The songs are
objects, and the list holds them; the update sets the votes of the objects, sorts the list
and moves each row to where its song has come. The selected path is rewritten in the loop
that issues the moves.
-/
namespace MusicCloud
open Comparisons RowMoves

structure PartyViewController where
  songs : Nat → SongInfo
  /-- `_songList`. Every song of a response is an object of its own. -/
  songList : List Nat
  distinct : songList.Nodup
  selectedPath : Option Nat

structure TableUpdate where
  selectedPath : Option Nat
  moves : List (Nat × Nat)
  newIPS : List Nat
  deriving DecidableEq, Repr

def TableUpdate.moveRow (t : TableUpdate) (oldIP newIP : Nat) : TableUpdate :=
  { selectedPath := if t.selectedPath = some oldIP then some newIP else t.selectedPath
    newIPS := t.newIPS ++ [newIP]
    moves := t.moves ++ [(oldIP, newIP)] }

def moveRows (songList : List Nat) : List Nat → Nat → TableUpdate → TableUpdate
  | [], _, t => t
  | song :: oldSongList, i, t =>
    moveRows songList oldSongList (i + 1) (t.moveRow i (songList.idxOf song))

namespace PartyViewController
section Updates
variable (sorter : Sorter Nat) (compareNames : String → String → Ordering)

def songForSongID (p : PartyViewController) (songID : Int) : Option Nat :=
  p.songList.find? fun song => (p.songs song).songID = songID

/-- `match.votes = info.votes`. Without a match the message goes to nil. -/
def setVotes (p : PartyViewController) (info : SongInfo) : PartyViewController :=
  match p.songForSongID info.songID with
  | some song =>
    { p with songs := Function.update p.songs song { p.songs song with votes := info.votes } }
  | none => p

def compareObjects (p : PartyViewController) (obj1 obj2 : Nat) : Ordering :=
  compareSongs compareNames (p.songs obj1) (p.songs obj2)

def sortSongList (p : PartyViewController) : PartyViewController :=
  { p with
    songList := sorter.sort (p.compareObjects compareNames) p.songList
    distinct := (sorter.perm _ _).nodup_iff.mpr p.distinct }

def resorted (p : PartyViewController) (song : List SongInfo) : PartyViewController :=
  (song.foldl setVotes p).sortSongList sorter compareNames

def clientDidReceiveVoteUpdate (p : PartyViewController) (song : List SongInfo) :
    PartyViewController × TableUpdate :=
  let p' := p.resorted sorter compareNames song
  let t := moveRows p'.songList p.songList 0
    { selectedPath := p'.selectedPath, moves := [], newIPS := [] }
  ({ p' with selectedPath := t.selectedPath }, t)

/-- The sort with the new votes puts the song of the selected path, if there is one, in its
    row or above it. -/
def SelectedRises (p : PartyViewController) (song : List SongInfo) : Prop :=
  ∀ row ∈ p.selectedPath, ∀ selected ∈ p.songList[row]?,
    (sorter.sort ((song.foldl setVotes p).compareObjects compareNames) p.songList).idxOf selected ≤ row

theorem setVotes_songList (p : PartyViewController) (info : SongInfo) :
    (p.setVotes info).songList = p.songList ∧ (p.setVotes info).selectedPath = p.selectedPath := by
  unfold setVotes
  split <;> exact ⟨rfl, rfl⟩

theorem foldl_setVotes (p : PartyViewController) (song : List SongInfo) :
    (song.foldl setVotes p).songList = p.songList ∧
      (song.foldl setVotes p).selectedPath = p.selectedPath := by
  induction song generalizing p with
  | nil => exact ⟨rfl, rfl⟩
  | cons info song ih =>
    obtain ⟨list, path⟩ := ih (p.setVotes info)
    obtain ⟨list1, path1⟩ := p.setVotes_songList info
    exact ⟨list.trans list1, path.trans path1⟩

theorem resorted_songList (p : PartyViewController) (song : List SongInfo) :
    (p.resorted sorter compareNames song).songList =
      sorter.sort ((song.foldl setVotes p).compareObjects compareNames) p.songList := by
  unfold resorted sortSongList
  dsimp only
  rw [(p.foldl_setVotes song).1]

theorem resorted_perm (p : PartyViewController) (song : List SongInfo) :
    (p.resorted sorter compareNames song).songList.Perm p.songList := by
  rw [resorted_songList]
  exact sorter.perm _ _

theorem resorted_selectedPath (p : PartyViewController) (song : List SongInfo) :
    (p.resorted sorter compareNames song).selectedPath = p.selectedPath :=
  (p.foldl_setVotes song).2

end Updates

def SelectedKept (before after : PartyViewController) : Prop :=
  after.selectedPath.map (after.songList[·]?) = before.selectedPath.map (before.songList[·]?)

end PartyViewController

/-- The selected song stays selected, and the moves take every row to the row where its song
    is now. -/
structure VotedRowKept (before after : PartyViewController) (moves : List (Nat × Nat)) : Prop where
  selected : before.SelectedKept after
  oldRows : moves.map Prod.fst = List.range before.songList.length
  newRows : (moves.map Prod.snd).Perm (List.range before.songList.length)
  songs : ∀ move ∈ moves, after.songList[move.2]? = before.songList[move.1]?

section Rows
variable {songList oldSongList : List Nat}

def rowMoves (songList oldSongList : List Nat) (i : Nat) : List (Nat × Nat) :=
  (oldSongList.zipIdx i).map fun entry => (entry.2, songList.idxOf entry.1)

theorem moveRows_eq (i : Nat) (t : TableUpdate) :
    moveRows songList oldSongList i t =
      { selectedPath := followAll (rowMoves songList oldSongList i) t.selectedPath
        moves := t.moves ++ rowMoves songList oldSongList i
        newIPS := t.newIPS ++ (rowMoves songList oldSongList i).map Prod.snd } := by
  induction oldSongList generalizing i t with
  | nil => simp [moveRows, rowMoves]
  | cons song oldSongList ih =>
    rw [moveRows, ih]
    simp [TableUpdate.moveRow, rowMoves, follow]

theorem rowMoves_fst (i : Nat) :
    (rowMoves songList oldSongList i).map Prod.fst = List.range' i oldSongList.length := by
  unfold rowMoves
  rw [List.map_map]
  exact List.zipIdx_map_snd i oldSongList

theorem rowMoves_snd (i : Nat) :
    (rowMoves songList oldSongList i).map Prod.snd = oldSongList.map songList.idxOf := by
  unfold rowMoves
  have songs := List.zipIdx_map_fst i oldSongList
  conv_rhs => rw [← songs]
  rw [List.map_map, List.map_map]
  rfl

theorem mem_rowMoves {move : Nat × Nat} : move ∈ rowMoves songList oldSongList 0 ↔
    ∃ song, oldSongList[move.1]? = some song ∧ songList.idxOf song = move.2 := by
  unfold rowMoves
  simp only [List.mem_map, Prod.exists, List.mk_mem_zipIdx_iff_getElem?]
  constructor
  · rintro ⟨song, row, at_row, rfl⟩
    exact ⟨song, at_row, rfl⟩
  · rintro ⟨song, at_row, target⟩
    exact ⟨song, move.1, at_row, Prod.ext rfl target⟩

theorem map_idxOf_self (distinct : songList.Nodup) :
    songList.map songList.idxOf = List.range songList.length := by
  apply List.ext_getElem
  · rw [List.length_map, List.length_range]
  · intro row below _
    rw [List.getElem_map, List.getElem_range]
    exact distinct.idxOf_getElem row _

theorem rowMoves_perm (distinct : songList.Nodup) (perm : songList.Perm oldSongList) (i : Nat) :
    ((rowMoves songList oldSongList i).map Prod.snd).Perm (List.range oldSongList.length) := by
  rw [rowMoves_snd, ← perm.length_eq, ← map_idxOf_self distinct]
  exact (perm.map _).symm

theorem rearrange_rowMoves (distinct : songList.Nodup) (perm : songList.Perm oldSongList) :
    Rearrange (rowMoves songList oldSongList 0) where
  ordered := by
    rw [rowMoves_fst]
    exact List.pairwise_lt_range'
  apart := (rowMoves_perm distinct perm 0).nodup_iff.mpr List.nodup_range
  within := by
    intro row listed
    rw [rowMoves_fst, ← List.range_eq_range']
    exact (rowMoves_perm distinct perm 0).mem_iff.mp listed

theorem getElem?_moved (perm : songList.Perm oldSongList) {move : Nat × Nat}
    (listed : move ∈ rowMoves songList oldSongList 0) :
    songList[move.2]? = oldSongList[move.1]? := by
  obtain ⟨song, at_row, target⟩ := mem_rowMoves.mp listed
  have present : song ∈ songList := perm.mem_iff.mpr (List.mem_of_getElem? at_row)
  rw [at_row, ← target]
  exact List.getElem?_idxOf present

theorem selected_iff (distinct : songList.Nodup) (perm : songList.Perm oldSongList)
    {row song : Nat} (at_row : oldSongList[row]? = some song) :
    (followAll (rowMoves songList oldSongList 0) (some row)).map (songList[·]?) = some (some song) ↔
      songList.idxOf song ≤ row := by
  have moved : (row, songList.idxOf song) ∈ rowMoves songList oldSongList 0 :=
    mem_rowMoves.mpr ⟨song, at_row, rfl⟩
  rw [← followAll_iff (rearrange_rowMoves distinct perm) moved]
  have present : song ∈ songList := perm.mem_iff.mpr (List.mem_of_getElem? at_row)
  constructor
  · intro points
    obtain ⟨final, follows, shows⟩ := Option.map_eq_some_iff.mp points
    obtain ⟨below, here⟩ := List.getElem?_eq_some_iff.mp shows
    rw [follows, ← here, distinct.idxOf_getElem final below]
  · intro follows
    rw [follows, Option.map_some, List.getElem?_idxOf present]

end Rows

namespace PartyViewController
variable (sorter : Sorter Nat) (compareNames : String → String → Ordering)

theorem clientDidReceiveVoteUpdate_eq (p : PartyViewController) (song : List SongInfo) :
    p.clientDidReceiveVoteUpdate sorter compareNames song =
      let moves := rowMoves (p.resorted sorter compareNames song).songList p.songList 0
      ({ p.resorted sorter compareNames song with selectedPath := followAll moves p.selectedPath },
        { selectedPath := followAll moves p.selectedPath
          moves := moves
          newIPS := moves.map Prod.snd }) := by
  unfold clientDidReceiveVoteUpdate
  dsimp only
  rw [moveRows_eq, resorted_selectedPath]
  rfl

theorem selected_kept_iff (p : PartyViewController) (song : List SongInfo) :
    p.SelectedKept (p.clientDidReceiveVoteUpdate sorter compareNames song).1 ↔
      p.SelectedRises sorter compareNames song := by
  have perm := p.resorted_perm sorter compareNames song
  have distinct := (p.resorted sorter compareNames song).distinct
  rw [clientDidReceiveVoteUpdate_eq]
  unfold SelectedKept SelectedRises
  rw [← resorted_songList]
  dsimp only
  cases p.selectedPath with
  | none =>
    rw [followAll_none]
    exact iff_of_true rfl fun row selected => by cases selected
  | some row =>
    rw [Option.map_some]
    cases at_row : p.songList[row]? with
    | some selected =>
      rw [selected_iff distinct perm at_row]
      simp [at_row]
    | none =>
      have outside : p.songList.length ≤ row := List.getElem?_eq_none_iff.mp at_row
      have unmoved : row ∉ (rowMoves (p.resorted sorter compareNames song).songList
          p.songList 0).map Prod.fst := by
        rw [rowMoves_fst, List.mem_range'_1]
        omega
      have outside' : (p.resorted sorter compareNames song).songList.length ≤ row := by
        rwa [perm.length_eq]
      rw [followAll_stays unmoved, Option.map_some, List.getElem?_eq_none outside']
      refine iff_of_true rfl fun row' selectedRow selected listed => ?_
      cases Option.mem_some_iff.mp selectedRow
      rw [at_row] at listed
      cases listed

variable {compareNames}

theorem proper_compareObjects [Std.TransCmp compareNames] {p : PartyViewController} {list : List Nat}
    (same : ∀ obj1 ∈ list, ∀ obj2 ∈ list, (p.songs obj1).votes = (p.songs obj2).votes) :
    Proper (p.compareObjects compareNames) list := by
  have proper : Proper (compareSongs compareNames) (list.map p.songs) := by
    apply proper_of_same
    simpa only [List.mem_map, forall_exists_index, and_imp, forall_apply_eq_imp_iff₂] using same
  exact proper.comap

end PartyViewController

/-- The selected song and the rows of the table are kept exactly if the sort does not put
    the selected song in a row below its old one. -/
theorem voted_row_kept_iff (sorter : Sorter Nat) (compareNames : String → String → Ordering)
    (p : PartyViewController) (song : List SongInfo) :
    VotedRowKept p (p.clientDidReceiveVoteUpdate sorter compareNames song).1
        (p.clientDidReceiveVoteUpdate sorter compareNames song).2.moves ↔
      p.SelectedRises sorter compareNames song := by
  rw [← p.selected_kept_iff sorter compareNames song]
  constructor
  · exact VotedRowKept.selected
  · intro selected
    have perm := p.resorted_perm sorter compareNames song
    have distinct := (p.resorted sorter compareNames song).distinct
    refine ⟨selected, ?_, ?_, ?_⟩
    · rw [p.clientDidReceiveVoteUpdate_eq, rowMoves_fst, List.range_eq_range']
    · rw [p.clientDidReceiveVoteUpdate_eq]
      exact rowMoves_perm distinct perm 0
    · rw [p.clientDidReceiveVoteUpdate_eq]
      exact fun move listed => getElem?_moved perm listed

/-- The song of the first row loses its vote and goes to the second row. The path goes there
    with it, and then back with the song of the second row. -/
theorem lowered_song_deselected :
    ∃ (p : PartyViewController) (song : List SongInfo), ∀ sorter : Sorter Nat,
      ¬ VotedRowKept p (p.clientDidReceiveVoteUpdate sorter compare song).1
        (p.clientDidReceiveVoteUpdate sorter compare song).2.moves := by
  let p : PartyViewController :=
    { songs := fun song => if song = 0 then ⟨1, "Dark Horse", 1⟩ else ⟨2, "Clocks", 0⟩
      songList := [0, 1]
      distinct := by decide
      selectedPath := some 0 }
  let lowered : List SongInfo := [⟨1, "Dark Horse", 0⟩]
  let cmp := (lowered.foldl PartyViewController.setVotes p).compareObjects compare
  refine ⟨p, lowered, fun sorter kept => ?_⟩
  have rises : (sorter.sort cmp [0, 1]).idxOf 0 ≤ 0 :=
    (p.selected_kept_iff sorter compare lowered).mp kept.selected 0 rfl 0 rfl
  have proper : Proper cmp [0, 1] := PartyViewController.proper_compareObjects (by decide)
  have sorted := sorter.sorted cmp [0, 1] proper
  have perm := sorter.perm cmp [0, 1]
  match list : sorter.sort cmp [0, 1], perm.length_eq with
  | [first, second], _ =>
    rw [list] at rises sorted perm
    have same : first = 0 := by
      by_contra other
      rw [List.idxOf_cons_ne _ other] at rises
      omega
    have other : second = 1 := by
      subst same
      simpa using perm
    have notAfter := (List.pairwise_cons.mp sorted).1 second List.mem_cons_self
    subst same other
    exact notAfter (by decide)

end MusicCloud
