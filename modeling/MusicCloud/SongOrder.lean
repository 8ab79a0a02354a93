import MusicCloud.Comparisons

/-!
The phone's order of the songs (`PartyViewController.sortSongList`): by votes, the most
voted first, and by name. Where the votes differ, the comparator returns the BOOL of
`votes < votes` as the `NSComparisonResult`, and NO is `NSOrderedSame`.
-/
namespace MusicCloud
open Comparisons

structure SongInfo where
  songID : Int
  songName : String
  votes : Int
  deriving DecidableEq, Repr

/-- A BOOL where an `NSComparisonResult` is expected: YES is 1, `NSOrderedDescending`, and
    NO is 0, `NSOrderedSame`. -/
def ofBOOL (b : Bool) : Ordering := if b then .gt else .eq

section Comparator
variable (compareNames : String → String → Ordering)

def compareSongs (s1 s2 : SongInfo) : Ordering :=
  if s1.votes = s2.votes then compareNames s1.songName s2.songName
  else ofBOOL (s1.votes < s2.votes)

def Before (s1 s2 : SongInfo) : Prop :=
  s2.votes < s1.votes ∨ s1.votes = s2.votes ∧ compareNames s1.songName s2.songName ≠ .gt

instance (s1 s2 : SongInfo) : Decidable (Before compareNames s1 s2) :=
  inferInstanceAs (Decidable (_ ∨ _))

/-- The comparator orders these songs: it keeps the laws of a comparison among them, and
    every comparison sort puts them by votes and by name. -/
structure OrdersSongs (songs : List SongInfo) : Prop where
  proper : Proper (compareSongs compareNames) songs
  sorted : ∀ sorter : Sorter SongInfo,
    (sorter.sort (compareSongs compareNames) songs).Pairwise (Before compareNames)

variable {compareNames} {s1 s2 : SongInfo}

theorem compareSongs_same (same : s1.votes = s2.votes) :
    compareSongs compareNames s1 s2 = compareNames s1.songName s2.songName := if_pos same

theorem compareSongs_fewer (fewer : s1.votes < s2.votes) : compareSongs compareNames s1 s2 = .gt := by
  rw [compareSongs, if_neg (Int.ne_of_lt fewer), ofBOOL, if_pos (decide_eq_true fewer)]

theorem compareSongs_more (more : s2.votes < s1.votes) : compareSongs compareNames s1 s2 = .eq := by
  have notFewer : ¬ s1.votes < s2.votes := by omega
  rw [compareSongs, if_neg (Int.ne_of_lt more).symm, ofBOOL, if_neg (by simpa using notFewer)]

theorem compareSongs_ne_gt : compareSongs compareNames s1 s2 ≠ .gt ↔ Before compareNames s1 s2 := by
  unfold Before
  obtain fewer | same | more := Int.lt_trichotomy s1.votes s2.votes
  · rw [compareSongs_fewer fewer]
    simp only [ne_eq, not_true_eq_false, false_iff, not_or, not_and]
    exact ⟨by omega, fun same => by omega⟩
  · rw [compareSongs_same same]
    constructor
    · intro notAfter
      exact .inr ⟨same, notAfter⟩
    · rintro (more | ⟨_, notAfter⟩)
      · omega
      · exact notAfter
  · rw [compareSongs_more more]
    exact iff_of_true (by simp) (.inl more)

theorem same_of_proper {songs : List SongInfo} (h : Proper (compareSongs compareNames) songs)
    (listed1 : s1 ∈ songs) (listed2 : s2 ∈ songs) : ¬ s1.votes < s2.votes := by
  intro fewer
  have ascending := h.total listed1 listed2 (compareSongs_fewer fewer)
  rw [compareSongs_more fewer] at ascending
  cases ascending

theorem proper_of_same [Std.TransCmp compareNames] {songs : List SongInfo}
    (same : ∀ s1 ∈ songs, ∀ s2 ∈ songs, s1.votes = s2.votes) :
    Proper (compareSongs compareNames) songs := by
  have byName : Proper compareNames (songs.map SongInfo.songName) := proper_of_transCmp _
  exact byName.comap.congr fun s1 listed1 s2 listed2 =>
    compareSongs_same (same s1 listed1 s2 listed2)

theorem sorted_of_proper {songs : List SongInfo} (h : Proper (compareSongs compareNames) songs)
    (sorter : Sorter SongInfo) :
    (sorter.sort (compareSongs compareNames) songs).Pairwise (Before compareNames) :=
  (sorter.sorted _ _ h).imp compareSongs_ne_gt.mp

end Comparator

/-- The comparator orders exactly the songs that all have the same votes. -/
theorem song_order_proper_iff (compareNames : String → String → Ordering)
    [Std.TransCmp compareNames] (songs : List SongInfo) :
    OrdersSongs compareNames songs ↔ ∀ s1 ∈ songs, ∀ s2 ∈ songs, s1.votes = s2.votes := by
  constructor
  · intro h s1 listed1 s2 listed2
    have notFewer := same_of_proper h.proper listed1 listed2
    have notMore := same_of_proper h.proper listed2 listed1
    omega
  · intro same
    have proper : Proper (compareSongs compareNames) songs := proper_of_same same
    exact ⟨proper, sorted_of_proper proper⟩

theorem equal_votes_ordered : OrdersSongs compare [⟨1, "Dark Horse", 2⟩, ⟨2, "Clocks", 2⟩] :=
  (song_order_proper_iff compare _).mpr (by decide)

/-- "Clocks" with one vote after "Dark Horse" with two is Descending, and the other way
    round it is the Same. -/
theorem voted_songs_unordered : ¬ ∀ songs : List SongInfo, OrdersSongs compare songs := by
  intro ordered
  have proper := (ordered [⟨1, "Dark Horse", 2⟩, ⟨2, "Clocks", 1⟩]).proper
  have ascending := proper.lt_iff_gt ⟨1, "Dark Horse", 2⟩ (by decide) ⟨2, "Clocks", 1⟩ (by decide)
  revert ascending
  decide

end MusicCloud
