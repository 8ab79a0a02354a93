import MusicCloud.PartyView
import MusicCloud.PhoneUpdates
import MusicCloud.UserUpdates

/-!
The party screen as a whole (`PartyViewController`): the song list and its objects, the
current song, the meter of the balance and whether a row may be selected. It is the delegate
of the session, so that its methods are what a response comes to.
-/
namespace MusicCloud
open Comparisons Json

/-- The objects of the song list are numbered as they are made. -/
structure PartyScreen extends PartyViewController where
  created : Nat
  made : ∀ song ∈ songList, song < created
  listed : Bool
  details : Nat → Option String × Option String
  currentSong : Option CurrentSongInfo
  balance : Option ℚ
  allowsSelection : Bool

namespace PartyScreen

def viewDidLoad : PartyScreen :=
  { songs := fun _ => { songID := 0, songName := "", votes := 0 }, songList := []
    distinct := List.nodup_nil, selectedPath := none, created := 0, made := by simp
    listed := false, details := fun _ => (none, none), currentSong := none, balance := none
    allowsSelection := true }

section Delegate
variable (sorter : Sorter Nat) (compareNames : String → String → Ordering)

def entry (p : PartyScreen) (list : List ListedSong) (song : Nat) : Option ListedSong :=
  if p.created ≤ song then list[song - p.created]? else none

def received (p : PartyScreen) (list : List ListedSong) : PartyViewController :=
  { songs := fun song => ((p.entry list song).map ListedSong.toSongInfo).getD (p.songs song)
    songList := List.range' p.created list.length
    distinct := List.nodup_range'
    selectedPath := p.selectedPath }

def clientDidReceiveSongList (p : PartyScreen) (list : List ListedSong) : PartyScreen :=
  { p with
    toPartyViewController := (p.received list).sortSongList sorter compareNames
    created := p.created + list.length
    made := by
      intro song shown
      have listed : song ∈ List.range' p.created list.length :=
        (sorter.perm _ _).mem_iff.mp shown
      have bounds := List.mem_range'_1.mp listed
      omega
    listed := true
    details := fun song => ((p.entry list song).map fun s => (s.songArtist, s.songAlbum)).getD
      (p.details song) }

/-- Without a current song the message for the balance goes to nil and returns 0. -/
def clientDidReceiveLikeUpdate (p : PartyScreen) (song : CurrentSongInfo) : PartyScreen :=
  let current := p.currentSong.map fun c =>
    { c with likes := song.likes, dislikes := song.dislikes, balance := song.balance }
  { p with currentSong := current, balance := some ((current.map CurrentSongInfo.balance).getD 0) }

def clientDidReceiveVoteUpdate (p : PartyScreen) (song : List SongInfo) : PartyScreen :=
  { p with
    toPartyViewController :=
      (p.toPartyViewController.clientDidReceiveVoteUpdate sorter compareNames song).1
    made := by
      intro object shown
      apply p.made object
      rw [p.toPartyViewController.clientDidReceiveVoteUpdate_eq] at shown
      exact (p.toPartyViewController.resorted_perm sorter compareNames song).mem_iff.mp shown }

def clientDidReceiveSongUpdate (p : PartyScreen) (song : CurrentSongInfo) : PartyScreen :=
  let newSong := match p.currentSong with
    | some c => decide (c.songID ≠ song.songID)
    | none => true
  if newSong then { p with currentSong := some song, allowsSelection := true } else p

def tell (p : PartyScreen) : Delegation → PartyScreen
  | .clientDidReceiveSongList list => p.clientDidReceiveSongList sorter compareNames list
  | .clientDidReceiveLikeUpdate song => p.clientDidReceiveLikeUpdate song
  | .clientDidReceiveVoteUpdate song => p.clientDidReceiveVoteUpdate sorter compareNames song
  | .clientDidReceiveSongUpdate song => p.clientDidReceiveSongUpdate song
  | .unknown => p

/-- The screen after a response; none is left when an exception has ended the app. A body that
    is no JSON fails the task. -/
def hear (texts : DoubleTexts) (body : ByteArray) (p : PartyScreen) : Option PartyScreen :=
  match decodeBody body with
  | some response => (handleUpdateResponse texts response).map (p.tell sorter compareNames)
  | none => some p

end Delegate

section Actions

def tick (p : PartyScreen) : PartyScreen :=
  { p with currentSong := p.currentSong.map fun c =>
      if c.status = .SS_PLAYING ∧ c.position < c.songLength then { c with position := c.position + 1 }
      else c }

def didSelectRow (p : PartyScreen) (row : Nat) : PartyScreen × Option Int :=
  ({ p with allowsSelection := false, selectedPath := some row },
    (p.songList[row]?).map fun song => (p.songs song).songID)

def likeUpdateFailed (p : PartyScreen) : PartyScreen := { p with balance := none }

end Actions

section Shown

def votesShown (p : PartyScreen) : Option (Int → Option Int) :=
  if p.listed then some fun songID => (p.songForSongID songID).map fun song => (p.songs song).votes
  else none

def songShown (p : PartyScreen) : Option Int := p.currentSong.map CurrentSongInfo.songID

theorem clientDidReceiveSongUpdate_eq (p : PartyScreen) (song : CurrentSongInfo) :
    p.clientDidReceiveSongUpdate song = if p.songShown = some song.songID then p
      else { p with currentSong := some song, allowsSelection := true } := by
  unfold clientDidReceiveSongUpdate songShown
  cases p.currentSong with
  | none => rfl
  | some c => by_cases same : c.songID = song.songID <;> simp [same]

end Shown

end PartyScreen

section Keyed
variable {α κ β : Type*} [DecidableEq κ] {key : α → κ} {value : α → β} {l : List α}

theorem find?_key_iff (distinct : (l.map key).Nodup) {k : κ} {b : β} :
    (l.find? fun a => key a = k).map value = some b ↔ ∃ a ∈ l, key a = k ∧ value a = b := by
  rw [Option.map_eq_some_iff]
  constructor
  · rintro ⟨a, found, same⟩
    exact ⟨a, List.mem_of_find?_eq_some found, by simpa using List.find?_some found, same⟩
  · rintro ⟨a, listed, same, rfl⟩
    have present : (l.find? fun a => key a = k).isSome := by
      rw [List.find?_isSome]
      exact ⟨a, listed, by simpa using same⟩
    obtain ⟨a', found⟩ := Option.isSome_iff_exists.mp present
    have same' : key a' = k := by simpa using List.find?_some found
    have one : a' = a := by
      apply List.inj_on_of_nodup_map distinct (List.mem_of_find?_eq_some found) listed
      rw [same', same]
    exact ⟨a', found, by rw [one]⟩

end Keyed

theorem countOf_iff {vs : List VoteData} (distinct : (vs.map VoteData.id).Nodup) {songID votes : Int} :
    countOf vs songID = some votes ↔ ∃ v ∈ vs, v.id = songID ∧ v.votes = votes :=
  find?_key_iff distinct

namespace PartyViewController
variable (p : PartyViewController)

def infos : List SongInfo := p.songList.map p.songs

def setAll (song : List SongInfo) (info : SongInfo) : SongInfo :=
  song.foldl (fun i new => if i.songID = new.songID then { i with votes := new.votes } else i) info

variable {p} {song : List SongInfo}

theorem votes_shown_iff (distinct : (p.infos.map SongInfo.songID).Nodup) {songID votes : Int} :
    (p.songForSongID songID).map (fun object => (p.songs object).votes) = some votes ↔
      ∃ info ∈ p.infos, info.songID = songID ∧ info.votes = votes := by
  have keys : (p.songList.map fun object => (p.songs object).songID).Nodup := by
    rw [infos, List.map_map] at distinct
    exact distinct
  unfold songForSongID infos
  rw [find?_key_iff keys]
  simp only [List.mem_map, exists_exists_and_eq_and]

theorem setVotes_infos (distinct : (p.infos.map SongInfo.songID).Nodup) (new : SongInfo) :
    (p.setVotes new).infos = p.infos.map fun i =>
      if i.songID = new.songID then { i with votes := new.votes } else i := by
  have keys : (p.songList.map fun object => (p.songs object).songID).Nodup := by
    rw [infos, List.map_map] at distinct
    exact distinct
  unfold infos
  rw [(p.setVotes_songList new).1, List.map_map]
  apply List.map_congr_left
  intro object shown
  unfold setVotes
  cases found : p.songForSongID new.songID with
  | some target =>
    have listed : target ∈ p.songList := List.mem_of_find?_eq_some found
    have named : (p.songs target).songID = new.songID := by simpa using List.find?_some found
    dsimp only [Function.comp_apply]
    by_cases same : (p.songs object).songID = new.songID
    · have one : object = target := by
        apply List.inj_on_of_nodup_map keys shown listed
        rw [same, named]
      rw [if_pos same, one, Function.update_self]
    · have other : object ≠ target := by
        rintro rfl
        exact same named
      rw [if_neg same, Function.update_of_ne other]
  | none =>
    have other : (p.songs object).songID ≠ new.songID := by
      simpa using List.find?_eq_none.mp found object shown
    dsimp only [Function.comp_apply]
    rw [if_neg other]

theorem setAll_songID (song : List SongInfo) (info : SongInfo) :
    (setAll song info).songID = info.songID := by
  unfold setAll
  induction song generalizing info with
  | nil => rfl
  | cons new song ih =>
    rw [List.foldl_cons, ih]
    split <;> rfl

theorem foldl_setVotes_infos (distinct : (p.infos.map SongInfo.songID).Nodup) :
    (song.foldl setVotes p).infos = p.infos.map (setAll song) := by
  induction song generalizing p with
  | nil => exact (List.map_id _).symm
  | cons new song ih =>
    have step := setVotes_infos distinct new
    have keys : ((p.setVotes new).infos.map SongInfo.songID) = p.infos.map SongInfo.songID := by
      rw [step, List.map_map]
      apply List.map_congr_left
      intro info _
      dsimp only [Function.comp_apply]
      split <;> rfl
    rw [List.foldl_cons, ih (keys ▸ distinct), step, List.map_map]
    rfl

theorem setAll_absent {info : SongInfo} (absent : ∀ new ∈ song, info.songID ≠ new.songID) :
    setAll song info = info := by
  induction song with
  | nil => rfl
  | cons new song ih =>
    have here := absent new List.mem_cons_self
    have after := ih fun other there => absent other (List.mem_cons_of_mem new there)
    unfold setAll at after ⊢
    rw [List.foldl_cons, if_neg here, after]

theorem setAll_votes (apart : (song.map SongInfo.songID).Nodup) {info new : SongInfo}
    (listed : new ∈ song) (same : new.songID = info.songID) :
    (setAll song info).votes = new.votes := by
  induction song generalizing info with
  | nil => cases listed
  | cons first song ih =>
    obtain ⟨fresh, apart⟩ := List.nodup_cons.mp apart
    have rest : setAll (first :: song) info = setAll song
        (if info.songID = first.songID then { info with votes := first.votes } else info) := rfl
    rw [rest]
    rcases List.mem_cons.mp listed with rfl | later
    · rw [if_pos same.symm, setAll_absent]
      intro other there equal
      exact fresh (same.trans equal ▸ List.mem_map_of_mem there)
    · have other : info.songID ≠ first.songID := by
        intro equal
        exact fresh (equal ▸ same ▸ List.mem_map_of_mem later)
      rw [if_neg other]
      exact ih apart later same

theorem infos_perm {q : PartyViewController} (songs : q.songs = p.songs)
    (perm : q.songList.Perm p.songList) : q.infos.Perm p.infos := by
  unfold infos
  rw [songs]
  exact perm.map _

end PartyViewController

namespace PartyScreen
open PartyViewController
variable {sorter : Sorter Nat} {compareNames : String → String → Ordering} {p : PartyScreen}

def Rows (p : PartyScreen) (ids : List Int) : Prop := (p.infos.map SongInfo.songID).Perm ids

theorem votes_infos {vs : List VoteData} {ids : List Int} (distinct : ids.Nodup) (rows : p.Rows ids)
    (library : (vs.map VoteData.id).Perm ids) (set : ∀ info ∈ p.infos, ∀ v ∈ vs, v.id = info.songID →
      info.votes = v.votes) (listed : p.listed = true) : p.votesShown = some (countOf vs) := by
  have apart : (p.infos.map SongInfo.songID).Nodup := rows.nodup_iff.mpr distinct
  unfold votesShown
  rw [if_pos listed]
  congr 1
  funext songID
  apply Option.ext
  intro votes
  rw [votes_shown_iff apart, countOf_iff (library.nodup_iff.mpr distinct)]
  constructor
  · rintro ⟨info, shown, rfl, rfl⟩
    have known : info.songID ∈ vs.map VoteData.id :=
      library.mem_iff.mpr (rows.mem_iff.mp (List.mem_map_of_mem shown))
    obtain ⟨v, told, same⟩ := List.mem_map.mp known
    exact ⟨v, told, same, (set info shown v told same).symm⟩
  · rintro ⟨v, told, rfl, rfl⟩
    have known : v.id ∈ p.infos.map SongInfo.songID :=
      rows.mem_iff.mpr (library.mem_iff.mp (List.mem_map_of_mem told))
    obtain ⟨info, shown, same⟩ := List.mem_map.mp known
    exact ⟨info, shown, same, set info shown v told same.symm⟩

variable (sorter compareNames) in
theorem infos_voted (song : List SongInfo) (distinct : (p.infos.map SongInfo.songID).Nodup) :
    (p.clientDidReceiveVoteUpdate sorter compareNames song).infos.Perm (p.infos.map (setAll song)) := by
  have voted : (p.clientDidReceiveVoteUpdate sorter compareNames song).infos.Perm
      (song.foldl setVotes p.toPartyViewController).infos := by
    apply infos_perm
    · exact congrArg (fun q => q.1.songs) (p.toPartyViewController.clientDidReceiveVoteUpdate_eq _ _ song)
    · have list := congrArg (fun q => q.1.songList)
        (p.toPartyViewController.clientDidReceiveVoteUpdate_eq sorter compareNames song)
      unfold clientDidReceiveVoteUpdate
      rw [list]
      exact sorter.perm _ _
  rw [foldl_setVotes_infos distinct] at voted
  exact voted

theorem votesShown_voted {vs : List VoteData} {ids : List Int} (distinct : ids.Nodup)
    (rows : p.Rows ids) (library : (vs.map VoteData.id).Perm ids) (listed : p.listed = true) :
    (p.clientDidReceiveVoteUpdate sorter compareNames (vs.map VoteData.info)).Rows ids ∧
      (p.clientDidReceiveVoteUpdate sorter compareNames (vs.map VoteData.info)).votesShown =
        some (countOf vs) := by
  have apart : (p.infos.map SongInfo.songID).Nodup := rows.nodup_iff.mpr distinct
  have voted := infos_voted sorter compareNames (vs.map VoteData.info) apart
  have kept : (p.clientDidReceiveVoteUpdate sorter compareNames (vs.map VoteData.info)).Rows ids := by
    have ids := voted.map SongInfo.songID
    have same : (p.infos.map (setAll (vs.map VoteData.info))).map SongInfo.songID =
        p.infos.map SongInfo.songID := by
      rw [List.map_map]
      exact List.map_congr_left fun info _ => setAll_songID (vs.map VoteData.info) info
    rw [same] at ids
    exact ids.trans rows
  have entries : ((vs.map VoteData.info).map SongInfo.songID).Nodup := by
    rw [List.map_map]
    exact library.nodup_iff.mpr distinct
  refine ⟨kept, votes_infos distinct kept library ?_ listed⟩
  intro info shown v told same
  obtain ⟨old, before, rfl⟩ := List.mem_map.mp (voted.mem_iff.mp shown)
  rw [setAll_songID] at same
  exact setAll_votes entries (List.mem_map_of_mem told) same

theorem infos_received (list : List ListedSong) :
    (p.received list).infos = list.map ListedSong.toSongInfo := by
  unfold infos received
  apply List.ext_getElem
  · simp
  · intro row below below'
    rw [List.length_map, List.length_range'] at below
    simp [entry, below]

variable (sorter compareNames) in
theorem infos_listed (list : List ListedSong) :
    (p.clientDidReceiveSongList sorter compareNames list).infos.Perm
      (list.map ListedSong.toSongInfo) := by
  rw [← p.infos_received list]
  exact infos_perm rfl (sorter.perm _ _)

theorem listing_entry {s : Song} {entry : ListedSong} (arrived : s.listing = some entry) :
    entry.songID = s.id ∧ entry.votes = s.votes := by
  obtain ⟨songName, -, rfl⟩ := Option.map_eq_some_iff.mp arrived
  exact ⟨rfl, rfl⟩

theorem map_listing {β : Type*} {f : Song → β} {g : ListedSong → β}
    (same : ∀ s entry, s.listing = some entry → g entry = f s) {songs : List Song}
    {list : List ListedSong} (arrived : songs.mapM Song.listing = some list) :
    list.map g = songs.map f := by
  induction songs generalizing list with
  | nil =>
    cases arrived
    rfl
  | cons s songs ih =>
    simp only [List.mapM_cons, Option.bind_eq_bind, Option.bind_eq_some_iff, Option.pure_def,
      Option.some.injEq] at arrived
    obtain ⟨entry, first, rest, others, rfl⟩ := arrived
    rw [List.map_cons, List.map_cons, same s entry first, ih others]

theorem votesShown_received {songs : List Song} {list : List ListedSong} {ids : List Int}
    (distinct : ids.Nodup) (library : (songs.map Song.id).Perm ids)
    (arrived : songs.mapM Song.listing = some list) :
    (p.clientDidReceiveSongList sorter compareNames list).Rows ids ∧
      (p.clientDidReceiveSongList sorter compareNames list).votesShown =
        some (countOf (songs.map fun s => { id := s.id, votes := s.votes })) := by
  have shown := infos_listed (p := p) sorter compareNames list
  have named : list.map (fun entry => entry.songID) = songs.map Song.id :=
    map_listing (fun s entry arrives => (listing_entry arrives).1) arrived
  have counted : list.map (fun entry => (entry.songID, entry.votes)) =
      songs.map fun s => (s.id, s.votes) := by
    apply map_listing _ arrived
    intro s entry arrives
    obtain ⟨id, votes⟩ := listing_entry arrives
    rw [id, votes]
  have rows : (p.clientDidReceiveSongList sorter compareNames list).Rows ids := by
    have ids := shown.map SongInfo.songID
    rw [List.map_map] at ids
    have same : list.map (SongInfo.songID ∘ ListedSong.toSongInfo) = songs.map Song.id := named
    rw [same] at ids
    exact ids.trans library
  have apart : (songs.map Song.id).Nodup := library.nodup_iff.mpr distinct
  refine ⟨rows, votes_infos distinct rows ?_ ?_ rfl⟩
  · rw [List.map_map]
    exact library
  · intro info row v told same
    obtain ⟨entry, listed, rfl⟩ := List.mem_map.mp (shown.mem_iff.mp row)
    obtain ⟨s, sent, rfl⟩ := List.mem_map.mp told
    have pair : (entry.songID, entry.votes) ∈ songs.map fun s => (s.id, s.votes) := by
      rw [← counted]
      exact List.mem_map_of_mem listed
    obtain ⟨other, sent', equal⟩ := List.mem_map.mp pair
    have id : other.id = entry.songID := congrArg Prod.fst equal
    have votes : other.votes = entry.votes := congrArg Prod.snd equal
    have one : s = other := List.inj_on_of_nodup_map apart sent sent' (same.trans id.symm)
    rw [one]
    exact votes.symm

end PartyScreen

end MusicCloud
