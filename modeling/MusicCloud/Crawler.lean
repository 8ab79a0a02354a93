import MusicCloud.PendingWrites

/-!
The crawler (`crawling.py`). It drops the music table of `song_list.db` and makes it anew,
walks a directory, reads every .mp3 file and inserts a row for it. DROP and CREATE are
committed at once and the rows at the end of the walk; so a file that cannot be read leaves
the empty table behind.
-/
namespace MusicCloud
open PendingWrites

inductive Listing where
  | nil
  | file (name : String) (rest : Listing)
  | directory (name : String) (contents : Listing) (rest : Listing)
  /-- A link to a directory, or a directory that cannot be listed: `os.walk` passes it over. -/
  | skipped (name : String) (rest : Listing)
  deriving DecidableEq, Repr

def pathJoin (path b : String) : String :=
  if b.toList.head? = some '/' then b
  else if path = "" ∨ path.toList.getLast? = some '/' then path ++ b
  else path ++ "/" ++ b

namespace Listing

def filenames : Listing → List String
  | nil => []
  | file name rest => name :: rest.filenames
  | directory _ _ rest => rest.filenames
  | skipped _ rest => rest.filenames

def walkBelow (top : String) : Listing → List (String × List String)
  | nil => []
  | file _ rest => rest.walkBelow top
  | directory name contents rest =>
    (pathJoin top name, contents.filenames) ::
      (contents.walkBelow (pathJoin top name) ++ rest.walkBelow top)
  | skipped _ rest => rest.walkBelow top

def walk (top : String) (listing : Listing) : List (String × List String) :=
  (top, listing.filenames) :: listing.walkBelow top

end Listing

inductive CrawlException where
  | AttributeError
  | TypeError
  | NameError
  | raised (type : String)
  deriving DecidableEq, Repr

structure AttachedPicture where
  data : List UInt8
  mime : String
  type : Int
  deriving DecidableEq, Repr

/-- What the tags of a file hold under `APIC:`. -/
inductive Apic where
  | frame (picture : AttachedPicture)
  | list (pictures : List AttachedPicture)
  | other
  deriving DecidableEq, Repr

structure MutagenFile where
  /-- `None` without a tag. Otherwise what the tags hold under `APIC:`, if anything. -/
  tags : Option (Option Apic)
  deriving DecidableEq, Repr

structure Tag where
  artist : Option String
  album : Option String
  deriving DecidableEq, Repr

structure AudioFile where
  tag : Option Tag
  deriving DecidableEq, Repr

/-- The libraries on each path, and `print` on the console. -/
structure CrawlLibraries where
  print : String → Except CrawlException Unit
  File : String → Except CrawlException (Option MutagenFile)
  load : String → Except CrawlException (Option AudioFile)
  length : String → Except CrawlException ℚ

inductive SqlValue where
  | null
  | integer (n : Int)
  | real (x : ℚ)
  | text (s : String)
  | bytes (b : List UInt8)
  deriving DecidableEq, Repr

structure SqlTable where
  columns : String
  rows : List (List SqlValue)
  deriving DecidableEq, Repr

structure SongListDB where
  tables : String → Option SqlTable

namespace SongListDB

def table_name : String := "music"

def columns : String :=
  "id real, song text, path text,lengthOfSong real,artist text, album text,art blob,artType text,artCoverID real"

def dropTable (db : SongListDB) : SongListDB :=
  { tables := Function.update db.tables table_name none }

def createTable (db : SongListDB) : SongListDB :=
  match db.tables table_name with
  | some _ => db
  | none => { tables := Function.update db.tables table_name (some { columns := columns, rows := [] }) }

def insert (db : SongListDB) (row : List SqlValue) : SongListDB :=
  match db.tables table_name with
  | some t =>
    { tables := Function.update db.tables table_name (some { t with rows := t.rows ++ [row] }) }
  | none => db

end SongListDB

/-- `artCoverID`: the type of a picture, or the text 'Unknown'. -/
inductive CoverID where
  | type (n : Int)
  | Unknown
  deriving DecidableEq, Repr

structure AlbumArt where
  artwork : Option (List UInt8)
  artType : String
  artCoverID : CoverID
  deriving DecidableEq, Repr

structure CrawledSong where
  song : String
  path : String
  lengthOfSong : ℚ
  artist : String
  album : String
  art : AlbumArt
  deriving DecidableEq, Repr

def CrawledSong.values (songCount : Nat) (s : CrawledSong) : List SqlValue :=
  [.real songCount, .text s.song, .text s.path, .real s.lengthOfSong, .text s.artist, .text s.album,
    match s.art.artwork with
    | some artwork => .bytes artwork
    | none => .null,
    .text s.art.artType,
    match s.art.artCoverID with
    | .type n => .real n
    | .Unknown => .text "Unknown"]

section Reading
variable (lib : CrawlLibraries)

def notNone {α : Type} : Option α → Except CrawlException α
  | some a => .ok a
  | none => .error .AttributeError

/-- From `'APIC:' in data.tags` on. There is no function `length`, so that a list raises
    before the loop over it is reached. -/
def readAlbumArt (y : String) (data : MutagenFile) : Except CrawlException AlbumArt :=
  match data.tags with
  | none => .error .TypeError
  | some (some (.list _)) => .error .NameError
  | some (some (.frame picture)) =>
    .ok { artwork := picture.data, artType := picture.mime, artCoverID := .type picture.type }
  | some (some .other) => .error .AttributeError
  | some none => do
    lib.print y
    return { artwork := none, artType := "Unknown", artCoverID := .Unknown }

def readSong (path y : String) : Except CrawlException CrawledSong := do
  lib.print y
  let data ← notNone (← lib.File path)
  let art ← readAlbumArt lib y data
  let audioFile ← notNone (← lib.load path)
  let tag ← notNone audioFile.tag
  let audioLength ← lib.length path
  return { song := y, path := path, lengthOfSong := audioLength, artist := tag.artist.getD "Unknown"
           album := tag.album.getD "Unknown", art := art }

end Reading

abbrev CrawlM := ConnectionM CrawlException SongListDB

def isMp3 (path : String) : Bool := ".mp3".toList.isSuffixOf path.toList

def insertSong : Entry Nat CrawledSong SongListDB :=
  fun (songCount, db) song => (songCount + 1, db.insert (song.values songCount))

section Crawling
variable (lib : CrawlLibraries)

def crawlFile (root : String) (songCount : Nat) (y : String) : CrawlM Nat := do
  let path := pathJoin root y
  if isMp3 path then
    let song ← MonadExcept.ofExcept (readSong lib path y)
    execute fun db => db.insert (song.values songCount)
    return songCount + 1
  else return songCount

def crawlDirectory (songCount : Nat) (entry : String × List String) : CrawlM Nat := do
  MonadExcept.ofExcept (lib.print entry.1)
  entry.2.foldlM (crawlFile lib entry.1) songCount

def crawl (dir : String) (listing : Listing) : CrawlM Unit := do
  executeCommitted SongListDB.dropTable
  executeCommitted SongListDB.createTable
  let _ ← (listing.walk dir).foldlM (crawlDirectory lib) 0
  commit

def mp3Files (walk : List (String × List String)) : List (String × String) :=
  walk.flatMap fun entry =>
    (entry.2.filter fun y => isMp3 (pathJoin entry.1 y)).map fun y => (y, pathJoin entry.1 y)

/-- One row for each .mp3 file of the walk, numbered from 0. -/
def WholeTable (dir : String) (listing : Listing) (db : SongListDB) : Prop :=
  ∃ songs : List CrawledSong,
    db.tables SongListDB.table_name =
        some { columns := SongListDB.columns, rows := songs.zipIdx.map fun s => s.1.values s.2 } ∧
      songs.map (fun s => (s.song, s.path)) = mp3Files (listing.walk dir)

/-- The crawl ends with the whole table, or raises and leaves the database as it was. -/
def AllOrNothing (dir : String) (listing : Listing) (db : SongListDB) : Prop :=
  match crawl lib dir listing (opened db) with
  | .ok _ c => WholeTable dir listing c.committed
  | .error _ c => c.committed = db

/-- The libraries read a file: it has a tag for both of them, and no list of pictures. -/
structure Tagged (path y : String) : Prop where
  printed : lib.print y = .ok ()
  mutagen : ∃ apic, lib.File path = .ok (some { tags := some apic }) ∧
    ∀ a, apic = some a → ∃ picture, a = .frame picture
  eyed3 : ∃ tag, lib.load path = .ok (some { tag := some tag })
  length : ∃ audioLength, lib.length path = .ok audioLength

def Readable (walk : List (String × List String)) : Prop :=
  ∀ entry ∈ walk, lib.print entry.1 = .ok () ∧
    ∀ y ∈ entry.2, isMp3 (pathJoin entry.1 y) = true → Tagged lib (pathJoin entry.1 y) y

section Files
variable {lib} {path y : String}

theorem readAlbumArt_ok_iff {data : MutagenFile} (printed : lib.print y = .ok ()) :
    (∃ art, readAlbumArt lib y data = .ok art) ↔
      ∃ apic, data.tags = some apic ∧ ∀ a, apic = some a → ∃ picture, a = .frame picture := by
  unfold readAlbumArt
  split
  · rename_i untagged
    simp [untagged]
  · rename_i list
    simp [list]
  · rename_i frame
    simp [frame]
  · rename_i other
    simp [other]
  · rename_i bare
    rw [printed]
    exact iff_of_true ⟨_, rfl⟩ ⟨none, bare, fun a given => by cases given⟩

theorem notNone_ok_iff {α : Type} {o : Option α} {a : α} : notNone o = .ok a ↔ o = some a := by
  cases o <;> simp [notNone]

theorem readSong_ok_iff : (∃ song, readSong lib path y = .ok song) ↔ Tagged lib path y := by
  simp only [readSong, bind_ok_iff, notNone_ok_iff]
  constructor
  · rintro ⟨_, ⟨⟩, printed, _, loaded, data, rfl, art, picture, _, heard, _, rfl, tag, tagged,
      audioLength, measured, _⟩
    obtain ⟨apic, tags, frames⟩ := (readAlbumArt_ok_iff printed).mp ⟨art, picture⟩
    refine ⟨printed, ⟨apic, ?_, frames⟩, ⟨tag, ?_⟩, ⟨audioLength, measured⟩⟩
    · rw [loaded, ← tags]
    · rw [heard, ← tagged]
  · rintro ⟨printed, ⟨apic, loaded, frames⟩, ⟨tag, heard⟩, ⟨audioLength, measured⟩⟩
    obtain ⟨art, picture⟩ := (readAlbumArt_ok_iff printed).mpr ⟨apic, rfl, frames⟩
    exact ⟨_, (), printed, _, loaded, _, rfl, art, picture, _, heard, _, rfl, tag, rfl, audioLength,
      measured, rfl⟩

theorem readSong_key {song : CrawledSong} (read : readSong lib path y = .ok song) :
    song.song = y ∧ song.path = path := by
  simp only [readSong, bind_ok_iff] at read
  obtain ⟨_, _, _, _, _, _, _, _, _, _, _, _, _, _, _, _, made⟩ := read
  cases made
  exact ⟨rfl, rfl⟩

end Files

section Walk
variable {lib}

def readFile (lib : CrawlLibraries) (root y : String) : Except CrawlException (List CrawledSong) :=
  if isMp3 (pathJoin root y) then do
    let song ← readSong lib (pathJoin root y) y
    return [song]
  else .ok []

def readDirectory (lib : CrawlLibraries) (entry : String × List String) :
    Except CrawlException (List CrawledSong) := do
  lib.print entry.1
  collect (readFile lib entry.1) entry.2

theorem collects_crawlFile (root y : String) :
    Collects insertSong (fun songCount => crawlFile lib root songCount y) (readFile lib root y) := by
  intro songCount c
  unfold crawlFile readFile
  dsimp only
  split
  · cases readSong lib (pathJoin root y) y with
    | error e => exact ⟨c, rfl, rfl⟩
    | ok song => rfl
  · rfl

theorem collects_crawlDirectory (entry : String × List String) :
    Collects insertSong (fun songCount => crawlDirectory lib songCount entry)
      (readDirectory lib entry) :=
  .check (lib.print entry.1) (.foldlM (collects_crawlFile entry.1) entry.2)

theorem collects_walk (walk : List (String × List String)) :
    Collects insertSong (fun songCount => walk.foldlM (crawlDirectory lib) songCount)
      (collect (readDirectory lib) walk) :=
  .foldlM collects_crawlDirectory walk

theorem readFile_ok_iff {root y : String} : (∃ songs, readFile lib root y = .ok songs) ↔
    (isMp3 (pathJoin root y) = true → Tagged lib (pathJoin root y) y) := by
  unfold readFile
  split
  · rename_i mp3
    rw [← readSong_ok_iff]
    simp only [bind_ok_iff, mp3, forall_const]
    constructor
    · rintro ⟨_, song, read, _⟩
      exact ⟨song, read⟩
    · rintro ⟨song, read⟩
      exact ⟨[song], song, read, rfl⟩
  · rename_i other
    exact iff_of_true ⟨[], rfl⟩ fun mp3 => absurd mp3 other

theorem readWalk_ok_iff {walk : List (String × List String)} :
    (∃ songs, collect (readDirectory lib) walk = .ok songs) ↔ Readable lib walk := by
  rw [collect_ok_iff]
  unfold Readable
  refine forall₂_congr fun entry _ => ?_
  unfold readDirectory
  have files : (∃ songs, collect (readFile lib entry.1) entry.2 = .ok songs) ↔
      ∀ y ∈ entry.2, isMp3 (pathJoin entry.1 y) = true → Tagged lib (pathJoin entry.1 y) y := by
    rw [collect_ok_iff]
    exact forall₂_congr fun y _ => readFile_ok_iff
  rw [← files]
  simp only [bind_ok_iff]
  constructor
  · rintro ⟨songs, _, printed, read⟩
    exact ⟨printed, songs, read⟩
  · rintro ⟨printed, songs, read⟩
    exact ⟨songs, (), printed, read⟩

theorem readFile_key {root y : String} {songs : List CrawledSong}
    (read : readFile lib root y = .ok songs) :
    songs.map (fun s => (s.song, s.path)) =
      if isMp3 (pathJoin root y) then [(y, pathJoin root y)] else [] := by
  unfold readFile at read
  split at read
  · rename_i mp3
    rw [if_pos mp3]
    obtain ⟨song, found, single⟩ := bind_ok_iff.mp read
    cases single
    obtain ⟨name, path⟩ := readSong_key found
    rw [List.map_singleton, name, path]
  · rename_i other
    rw [if_neg other]
    cases read
    rfl

theorem readDirectory_key (entry : String × List String) (songs : List CrawledSong)
    (read : readDirectory lib entry = .ok songs) :
    songs.map (fun s => (s.song, s.path)) =
      (entry.2.filter fun y => isMp3 (pathJoin entry.1 y)).map fun y => (y, pathJoin entry.1 y) := by
  obtain ⟨_, _, files⟩ := bind_ok_iff.mp read
  rw [map_collect (fun y songs => readFile_key) files]
  induction entry.2 with
  | nil => rfl
  | cons y files ih =>
    rw [List.flatMap_cons, ih, List.filter_cons]
    split <;> rfl

end Walk

section Database
variable {db : SongListDB}

def emptied (db : SongListDB) : SongListDB :=
  { tables := Function.update db.tables SongListDB.table_name
      (some { columns := SongListDB.columns, rows := [] }) }

theorem createTable_dropTable : db.dropTable.createTable = emptied db := by
  simp [SongListDB.createTable, SongListDB.dropTable, emptied]

@[simp] theorem emptied_music : (emptied db).tables SongListDB.table_name =
    some { columns := SongListDB.columns, rows := [] } := by
  simp [emptied]

theorem emptied_eq_self_iff : emptied db = db ↔
    db.tables SongListDB.table_name = some { columns := SongListDB.columns, rows := [] } := by
  constructor
  · intro same
    rw [← same]
    exact emptied_music
  · intro empty
    unfold emptied
    rw [← empty, Function.update_eq_self]

theorem foldl_insertSong {t : SqlTable} (made : db.tables SongListDB.table_name = some t)
    (songCount : Nat) (songs : List CrawledSong) :
    (songs.foldl insertSong (songCount, db)).2.tables SongListDB.table_name =
      some { t with rows := t.rows ++ (songs.zipIdx songCount).map fun s => s.1.values s.2 } := by
  induction songs generalizing songCount db t with
  | nil => simp [made]
  | cons song songs ih =>
    have inserted : (db.insert (song.values songCount)).tables SongListDB.table_name =
        some { t with rows := t.rows ++ [song.values songCount] } := by
      simp [SongListDB.insert, made]
    rw [List.foldl_cons, insertSong, ih inserted]
    simp

end Database

theorem crawl_apply (dir : String) (listing : Listing) (db : SongListDB) :
    Committed insertSong 0 (opened (emptied db)) (crawl lib dir listing (opened db))
      (collect (readDirectory lib) (listing.walk dir)) := by
  have collected : Collects insertSong
      (fun songCount => (listing.walk dir).foldlM (crawlDirectory lib) songCount)
      (collect (readDirectory lib) (listing.walk dir)) := collects_walk (listing.walk dir)
  have walked := collected.committed 0 (opened (emptied db))
  have start : crawl lib dir listing (opened db) =
      ((listing.walk dir).foldlM (crawlDirectory lib) 0 >>= fun _ => commit) (opened (emptied db)) := by
    rw [← createTable_dropTable]
    rfl
  rw [start]
  exact walked

end Crawling

/-- A crawl is all or nothing exactly if everything can be read, or the table was empty
    before. -/
theorem crawl_all_or_nothing_iff (lib : CrawlLibraries) (dir : String) (listing : Listing)
    (db : SongListDB) :
    AllOrNothing lib dir listing db ↔ Readable lib (listing.walk dir) ∨
      db.tables SongListDB.table_name = some { columns := SongListDB.columns, rows := [] } := by
  have run := crawl_apply lib dir listing db
  rw [← readWalk_ok_iff, ← emptied_eq_self_iff]
  unfold AllOrNothing
  cases read : collect (readDirectory lib) (listing.walk dir) with
  | ok songs =>
    rw [read] at run
    rw [run]
    refine iff_of_true ⟨songs, ?_, ?_⟩ (.inl ⟨songs, rfl⟩)
    · exact foldl_insertSong emptied_music 0 songs
    · exact map_collect readDirectory_key read
  | error e =>
    rw [read] at run
    obtain ⟨c, raised, committed⟩ := run
    rw [raised]
    dsimp only
    rw [committed, opened]
    simp

/-- One file without a tag, where the table had a row. -/
theorem untagged_file_emptied :
    ¬ ∀ (lib : CrawlLibraries) (dir : String) (listing : Listing) (db : SongListDB),
      AllOrNothing lib dir listing db := by
  intro always
  let lib : CrawlLibraries :=
    { print := fun _ => .ok ()
      File := fun _ => .ok (some { tags := none })
      load := fun _ => .ok (some { tag := none })
      length := fun _ => .ok 180 }
  let before : SqlTable := { columns := SongListDB.columns, rows := [[.real 0, .text "Clocks.mp3"]] }
  let db : SongListDB := { tables := fun name => if name = "music" then some before else none }
  have nothing := always lib "." (.file "untitled.mp3" .nil) db
  obtain ⟨c, raised, committed⟩ : ∃ c, crawl lib "." (.file "untitled.mp3" .nil) (opened db) =
      .error .TypeError c ∧ c.committed = emptied db :=
    crawl_apply lib "." (.file "untitled.mp3" .nil) db
  rw [AllOrNothing, raised] at nothing
  have same : emptied db = db := committed.symm.trans nothing
  rw [emptied_eq_self_iff] at same
  revert same
  decide

end MusicCloud
