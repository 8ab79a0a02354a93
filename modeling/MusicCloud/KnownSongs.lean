import MusicCloud.SongAgreement

/-!
The speaker knows no song but those of the library. Whatever it plays, asks for or reports
has been named by the server, or is the id `UNKNOWN` that it starts with; and the server
names the active song and the next one only.
-/
namespace MusicCloud
open Runs

def Entry.named : Entry → Option Int
  | .own message => some message.id
  | .songEnd => none

def Comm.named : Comm → List Int
  | .idle => []
  | .failed => []
  | .marking songID => [songID]
  | .requesting songID => [songID]
  | .opening songID => [songID]
  | .writing songID => [songID]
  | .saved songID => [songID]
  | .testing songID => [songID]
  | .announcing songID => [songID]
  | .sending entry => entry.named.toList
  | .sent entry => entry.named.toList
  | .checkingNext entry => entry.named.toList
  | .checkingReady entry => entry.named.toList
  | .checkingUnknown entry => entry.named.toList
  | .renewing entry _ => entry.named.toList
  | .rewriting entry _ songID => songID :: entry.named.toList
  | .resending _ songID => [songID]
  | .requeueing _ songID => [songID]

namespace Speaker

/-- Every id that the speaker holds is one of these. -/
structure Knows (known : Int → Prop) (k : Speaker) : Prop where
  current : known k.currentSong
  next : known k.nextSong
  songEnd : known k.songEnd.id
  queue : ∀ entry ∈ k.playbackConnectionQueue, ∀ songID ∈ entry.named, known songID
  comm : ∀ songID ∈ k.comm.named, known songID

variable {known : Int → Prop} {k : Speaker}

theorem knows_start {files : Int → SongFile} (unknown : known MusicCloud.UNKNOWN) :
    (start files).Knows known := by
  refine ⟨unknown, unknown, unknown, ?_, ?_⟩
  · intro entry no
    cases no
  · intro songID no
    cases no

theorem Knows.mono {known' : Int → Prop} (h : k.Knows known)
    (weaker : ∀ songID, known songID → known' songID) : k.Knows known' :=
  ⟨weaker _ h.current, weaker _ h.next, weaker _ h.songEnd,
    fun entry listed songID named => weaker _ (h.queue entry listed songID named),
    fun songID named => weaker _ (h.comm songID named)⟩

theorem Knows.put (h : k.Knows known) {entry : Entry} (named : ∀ songID ∈ entry.named, known songID) :
    (k.put entry).Knows known := by
  refine ⟨h.current, h.next, h.songEnd, ?_, h.comm⟩
  intro other listed
  rcases List.mem_append.mp listed with old | new
  · exact h.queue other old
  · rw [List.mem_singleton.mp new]
    exact named

theorem Knows.message (h : k.Knows known) {songID : Int} (named : known songID)
    (status : MessageStatus) : (k.message songID status).Knows known := by
  apply h.put
  intro other same
  cases same
  exact named

theorem Knows.content (h : k.Knows known) {entry : Entry}
    (named : ∀ songID ∈ entry.named, known songID) : known (k.content entry).id := by
  cases entry with
  | own message => exact named message.id rfl
  | songEnd => exact h.songEnd

theorem Knows.started (h : k.Knows known) (unknown : known MusicCloud.UNKNOWN) :
    k.started.Knows known :=
  ⟨h.next, unknown, h.songEnd, h.queue, h.comm⟩

theorem Knows.play (h : k.Knows known) (unknown : known MusicCloud.UNKNOWN) {songID : Int}
    (named : known songID) (loads : Bool) : (k.handlePlayCommand songID loads).Knows known := by
  unfold handlePlayCommand
  split
  · exact h
  · split
    · have started := h.started unknown
      split
      · have playing : k.started.playMusic.Knows known :=
          ⟨started.current, started.next, started.songEnd, started.queue, started.comm⟩
        exact playing.message named .Playing
      · exact started
    · split
      · exact h.message named .need_song
      · exact h

theorem Knows.stop (h : k.Knows known) {songID : Int} (named : known songID) :
    (k.handleStopCommand songID).Knows known := by
  unfold handleStopCommand
  split
  · have stopped : ({ k.endMusic with currentSongState := .STOPPED } : Speaker).Knows known :=
      ⟨h.current, h.next, h.songEnd, h.queue, h.comm⟩
    exact stopped.message named .Stopped
  · exact h

theorem Knows.fetch (h : k.Knows known) {songID : Int} (named : known songID) :
    (k.fetchSong songID).Knows known := by
  unfold fetchSong
  split
  · have ready : ({ k with nextSongState := .READY } : Speaker).Knows known :=
      ⟨h.current, h.next, h.songEnd, h.queue, h.comm⟩
    dsimp only
    split
    · exact ready.message named .Ready
    · exact ready
  · exact h.message named .need_song

theorem Knows.upcoming (h : k.Knows known) {songID : Int} (named : known songID) :
    (k.handleUpcomingSongUpdate songID).Knows known := by
  unfold handleUpcomingSongUpdate
  split
  · exact h
  · split
    · have renewed : ({ k with nextSong := songID, nextSongState := .UNKNOWN } : Speaker).Knows known :=
        ⟨h.current, named, h.songEnd, h.queue, h.comm⟩
      exact renewed.fetch named
    · split
      · exact h.fetch named
      · exact h

theorem Knows.poll (h : k.Knows known) (found : Bool) : (k.poll found).Knows known := by
  unfold Speaker.poll
  split
  · split
    · have ended : ({ k with
          songEnds := ‹List Nat›, currentSongState := .STOPPED
          songEnd := { id := k.currentSong, status := .Stopped } } : Speaker).Knows known :=
        ⟨h.current, h.next, h.current, h.queue, h.comm⟩
      apply ended.put
      intro songID no
      cases no
    · exact h
  · exact h

theorem Knows.endMusic (h : k.Knows known) : k.endMusic.Knows known :=
  ⟨h.current, h.next, h.songEnd, h.queue, h.comm⟩

theorem named_rewritten {songID : Int} (named : known songID) {entry : Entry} {ready : Bool} :
    ∀ other ∈ (rewritten entry (renewed ready songID)).named, known other := by
  intro other same
  cases entry with
  | own message =>
    cases same
    exact named
  | songEnd => cases same

theorem Knows.goes (h : k.Knows known) {t : Speaker} (current : t.currentSong = k.currentSong)
    (next : t.nextSong = k.nextSong) (songEnd : known t.songEnd.id)
    (queue : ∀ entry ∈ t.playbackConnectionQueue, ∀ songID ∈ entry.named, known songID)
    (comm : ∀ songID ∈ t.comm.named, known songID) : t.Knows known := by
  refine ⟨?_, ?_, songEnd, queue, comm⟩
  · rw [current]
    exact h.current
  · rw [next]
    exact h.next

theorem Knows.takes (h : k.Knows known) {entry : Entry} {rest : List Entry}
    (queue : k.playbackConnectionQueue = entry :: rest) (ok : Bool) (idle : k.comm = .idle) :
    (k.communicate ok).Knows known := by
  have named := h.queue entry (by rw [queue]; exact List.mem_cons_self)
  unfold communicate
  rw [idle, queue]
  dsimp only
  refine h.goes rfl rfl h.songEnd ?_ ?_
  · intro other listed
    apply h.queue
    rw [queue]
    exact List.mem_cons_of_mem entry listed
  · dsimp only
    split
    · intro songID same
      rw [List.mem_singleton.mp same]
      exact h.content named
    · intro songID same
      exact named songID (Option.mem_toList.mp same)

theorem Knows.communicate (h : k.Knows known) (ok : Bool) : (k.communicate ok).Knows known := by
  have still := h.comm
  cases comm : k.comm with
  | idle =>
    cases queue : k.playbackConnectionQueue with
    | nil =>
      unfold Speaker.communicate
      rw [comm, queue]
      exact h
    | cons entry rest => exact h.takes queue ok comm
  | renewing entry ready =>
    rw [comm] at still
    rw [communicate_renewing ok comm]
    refine h.goes rfl rfl h.songEnd h.queue ?_
    intro songID listed
    rcases List.mem_cons.mp listed with rfl | old
    · exact h.next
    · exact still songID old
  | rewriting entry ready songID =>
    rw [comm] at still
    rw [communicate_rewriting ok comm]
    have read : known songID := still songID List.mem_cons_self
    have goes : ∀ other ∈ (if ready then .resending entry songID else .requeueing entry songID : Comm).named,
        known other := by
      intro other listed
      cases ready <;> exact List.mem_singleton.mp listed ▸ read
    cases entry with
    | own message => exact h.goes rfl rfl h.songEnd h.queue goes
    | songEnd => exact h.goes rfl rfl read h.queue goes
  | requeueing entry songID =>
    rw [comm] at still
    rw [communicate_requeueing ok comm]
    refine h.goes rfl rfl h.songEnd ?_ fun _ no => nomatch no
    intro other listed
    rcases List.mem_append.mp listed with old | new
    · exact h.queue other old
    · rw [List.mem_singleton.mp new]
      exact named_rewritten (still songID List.mem_cons_self)
  | failed | announcing songID | resending entry songID =>
    unfold Speaker.communicate
    rw [comm]
    exact h.goes rfl rfl h.songEnd h.queue (by intro _ no; cases no)
  | requesting _ | testing _ | sent _ | checkingNext _ | checkingReady _ | checkingUnknown _ =>
    rw [comm] at still
    unfold Speaker.communicate
    rw [comm]
    refine h.goes rfl rfl h.songEnd h.queue ?_
    dsimp only
    split
    · exact still
    · first
        | exact still
        | intro _ no
          cases no
  | marking songID | opening songID | writing songID | saved songID | sending entry =>
    rw [comm] at still
    unfold Speaker.communicate
    rw [comm]
    exact h.goes rfl rfl h.songEnd h.queue still

theorem Knows.posts (h : k.Knows known) {message : Message} (posts : k.posts = some message) :
    known message.id := by
  have still := h.comm
  unfold Speaker.posts at posts
  split at posts
  · rename_i songID here
    rw [here] at still
    cases posts
    exact still songID List.mem_cons_self
  · rename_i entry here
    rw [here] at still
    cases posts
    exact h.content fun songID named => still songID (Option.mem_toList.mpr named)
  · rename_i entry songID here
    rw [here] at still
    cases posts
    exact h.content (named_rewritten (still songID List.mem_cons_self))
  · cases posts

end Speaker

namespace Situation

structure Knows (known : Int → Prop) (σ : Situation) : Prop where
  active : ∀ songID, σ.active = some songID → known songID
  next : ∀ songID, σ.next = some songID → known songID
  commands : ∀ c ∈ σ.commands, known c.id
  announcements : ∀ songID ∈ σ.announcements, known songID

variable {known : Int → Prop} {σ τ : Situation} {lost : PlaybackCommand → Prop} {ready : Int → Prop}

theorem mem_of_kept {α : Type} {lost : α → Prop} {older l : List α} (kept : Kept lost older l)
    {a : α} (listed : a ∈ older) : a ∈ l := by
  rcases kept with rfl | ⟨old, -, rfl⟩
  · exact listed
  · exact List.mem_append_left [old] listed

theorem Knows.moves (h : σ.Knows known) (moves : Moves lost ready σ τ)
    (next : ∀ songID, τ.next = some songID → known songID) : τ.Knows known := by
  induction moves using Relation.ReflTransGen.head_induction_on with
  | refl => exact h
  | head move rest ih =>
    apply ih
    cases move with
    | announce songID older selected kept =>
      refine ⟨h.active, h.next, h.commands, ?_⟩
      intro other listed
      rcases List.mem_append.mp listed with old | new
      · exact h.announcements other (mem_of_kept kept old)
      · rw [List.mem_singleton.mp new]
        exact h.next songID selected
    | select songID older unset other kept =>
      have chosen : known songID := next songID (Party.Moves.next rest rfl)
      refine ⟨h.active, ?_, h.commands, ?_⟩
      · intro other same
        cases same
        exact chosen
      · intro other listed
        rcases List.mem_append.mp listed with old | new
        · exact h.announcements other (mem_of_kept kept old)
        · rw [List.mem_singleton.mp new]
          exact chosen
    | play songID older selected _ kept =>
      refine ⟨h.active, h.next, ?_, h.announcements⟩
      intro c listed
      rcases List.mem_append.mp listed with old | new
      · exact h.commands c (mem_of_kept kept old)
      · rw [List.mem_singleton.mp new]
        exact h.next songID selected
    | stop songID older running kept =>
      refine ⟨h.active, h.next, ?_, h.announcements⟩
      intro c listed
      rcases List.mem_append.mp listed with old | new
      · exact h.commands c (mem_of_kept kept old)
      · rw [List.mem_singleton.mp new]
        exact h.active songID running

theorem Knows.hears (h : σ.Knows known) {update : SessionUpdate} (hears : Hears update σ τ) :
    τ.Knows known := by
  refine ⟨?_, ?_, ?_, ?_⟩
  · rw [hears.active]
    exact h.active
  · rw [hears.next]
    exact h.next
  · intro c listed
    apply h.commands
    rw [hears.commands]
    exact List.mem_append_right _ listed
  · intro songID listed
    apply h.announcements
    rw [hears.announcements]
    exact List.mem_append_right _ listed

theorem Knows.started (h : σ.Knows known) : σ.started.Knows known := by
  refine ⟨h.next, ?_, h.commands, h.announcements⟩
  intro songID no
  cases no

theorem Knows.handle {k : Speaker} (h : σ.Knows known) (speaker : k.Knows known)
    (unknown : known UNKNOWN) {update : SessionUpdate} (hears : Hears update σ τ) (loads : Bool) :
    (k.handle update loads).Knows known := by
  cases update with
  | playback_command c =>
    have named : known c.id := by
      apply h.commands c
      rw [hears.commands]
      exact List.mem_cons_self
    obtain ⟨command, songID⟩ := c
    cases command with
    | Play => exact speaker.play unknown named loads
    | Stop => exact speaker.stop named
  | upcoming_song song =>
    apply speaker.upcoming
    apply h.announcements
    rw [hears.announcements]
    exact List.mem_cons_self
  | current_song _ | votes _ | likes _ | song_list _ => exact speaker

end Situation

namespace Party
variable {p : Party}

def InLibrary (ids : List Int) (songID : Int) : Prop := songID = UNKNOWN ∨ songID ∈ ids

theorem songIds_step (sound : p.Sound) (e : PartyEvent) :
    (p.step e).server.db.songs.map SongRow.id = p.server.db.songs.map SongRow.id := by
  rcases step_server p e with same | ⟨c, called⟩
  · rw [same]
  · rw [called]
    exact Server.songIds_of_changes (Server.changes_call sound.agrees c)

theorem inLibrary_next (sound : p.Sound) {id songID : Int} (next : (p.situation id).next = some songID) :
    InLibrary (p.server.db.songs.map SongRow.id) songID := by
  obtain ⟨song, selected, rfl⟩ := Option.map_eq_some_iff.mp next
  obtain ⟨r, listed, same, -⟩ := sound.agrees.next song selected
  right
  rw [← same]
  exact List.mem_map_of_mem listed

def KnowsSongs (files : Int → SongFile) (ids : List Int) (p : Party) : Prop :=
  p.Sound ∧ p.server.db.songs.map SongRow.id = ids ∧
    (p.Unjoined files ∨ ∃ id, p.Linked id ∧ Agreed (p.situation id) p.speaker ∧
      (p.situation id).Knows (InLibrary ids) ∧ p.speaker.Knows (InLibrary ids))

theorem knows_happens {ids : List Int} {id : Int} {e : PartyEvent} (happens : p.Happens id e)
    (next : ∀ songID, ((p.step e).situation id).next = some songID → InLibrary ids songID)
    (situation : (p.situation id).Knows (InLibrary ids)) (speaker : p.speaker.Knows (InLibrary ids)) :
    ((p.step e).situation id).Knows (InLibrary ids) ∧ (p.step e).speaker.Knows (InLibrary ids) := by
  cases happens with
  | calls c _ same moves =>
    rw [same]
    exact ⟨situation.moves moves next, speaker⟩
  | waits same kept =>
    rw [same, kept]
    exact ⟨situation, speaker⟩
  | hears update loads _ _ same hears =>
    rw [same]
    exact ⟨situation.hears hears, situation.handle speaker (Or.inl rfl) hears loads⟩
  | listens found same kept =>
    rw [same, kept]
    exact ⟨situation, speaker.poll found⟩
  | ends same kept =>
    rw [same, kept]
    exact ⟨situation, speaker.endMusic⟩
  | works readable _ _ _ same kept =>
    rw [same, kept]
    exact ⟨situation, speaker.communicate _⟩
  | reports message _ _ same moves =>
    rw [same]
    exact ⟨situation.moves moves next, speaker.communicate false⟩
  | starts message _ _ _ same kept =>
    rw [same, kept]
    exact ⟨situation.started, speaker.communicate false⟩

theorem knowsSongs_step {files : Int → SongFile} {ids : List Int} (h : p.KnowsSongs files ids)
    (e : PartyEvent) : (p.step e).KnowsSongs files ids := by
  obtain ⟨sound, library, unjoined | ⟨id, linked, agreed, situation, speaker⟩⟩ := h
  · have after := sound.step e
    have same := (songIds_step sound e).trans library
    refine ⟨after, same, ?_⟩
    rcases unjoined.step sound e with still | ⟨id, welcomed⟩
    · exact Or.inl still
    · right
      obtain ⟨-, unjoined' | ⟨id', linked', agreed'⟩⟩ :=
        agrees_step (⟨sound, Or.inl unjoined⟩ : p.Agrees files) e
      · have client := welcomed.linked.client
        rw [unjoined'.client] at client
        cases client
      · have client := welcomed.linked.client
        rw [linked'.client] at client
        cases client
        refine ⟨id, linked', agreed', ?_, ?_⟩
        · have nothing : unheard.Knows (InLibrary ids) := by
            constructor <;> simp [unheard]
          apply nothing.moves welcomed.moves
          intro songID next
          rw [← same]
          exact inLibrary_next after next
        · rw [welcomed.speaker]
          exact Speaker.knows_start (Or.inl rfl)
  · obtain ⟨what, still⟩ := happens sound linked (genuine_of_agreed agreed) e
    have after := sound.step e
    have same := (songIds_step sound e).trans library
    refine ⟨after, same, Or.inr ⟨id, still, agreed_happens agreed what, ?_⟩⟩
    apply knows_happens what _ situation speaker
    intro songID next
    rw [← same]
    exact inLibrary_next after next

theorem knowsSongs_run (music : List MusicRow) (clock : Nat) (files : Int → SongFile)
    (events : List PartyEvent) :
    (run step (start music clock files) events).KnowsSongs files
      ((start music clock files).server.db.songs.map SongRow.id) := by
  apply invariant_of_run
  · intro p e h
    exact knowsSongs_step h e
  · exact ⟨sound_start music clock files, rfl, Or.inl (unjoined_start music clock files)⟩

theorem songIds_transferData (n : Nat) (music : List MusicRow) :
    (Database.transferData n music).map SongRow.id =
      (List.range' n music.length).map fun (k : Nat) => (k : Int) := by
  induction music generalizing n with
  | nil => rfl
  | cons m music ih =>
    rw [List.length_cons, List.range'_succ, List.map_cons, ← ih (n + 1)]
    rfl

theorem inLibrary_start {music : List MusicRow} {clock : Nat} {files : Int → SongFile} {songID : Int}
    (h : InLibrary ((start music clock files).server.db.songs.map SongRow.id) songID) :
    songID = UNKNOWN ∨ 1 ≤ songID ∧ songID ≤ music.length := by
  rcases h with unknown | listed
  · exact Or.inl unknown
  · right
    have ids : (start music clock files).server.db.songs = Database.transferData 1 music := rfl
    rw [ids, songIds_transferData] at listed
    obtain ⟨k, numbered, rfl⟩ := List.mem_map.mp listed
    have := List.mem_range'_1.mp numbered
    omega

end Party

/-- Whatever the speaker plays, asks for or reports in any run is a song of the library, or
    the id it starts with. -/
theorem speaker_names_library_songs (music : List MusicRow) (clock : Nat)
    (files : Int → SongFile) (events : List PartyEvent) :
    (run Party.step (.start music clock files) events).speaker.Knows fun songID =>
      songID = UNKNOWN ∨ 1 ≤ songID ∧ songID ≤ music.length := by
  have mono : ∀ k : Speaker,
      k.Knows (Party.InLibrary ((Party.start music clock files).server.db.songs.map SongRow.id)) →
        k.Knows fun songID => songID = UNKNOWN ∨ 1 ≤ songID ∧ songID ≤ music.length :=
    fun k h => h.mono fun _ => Party.inLibrary_start
  obtain ⟨-, -, unjoined | ⟨id, -, -, -, speaker⟩⟩ := Party.knowsSongs_run music clock files events
  · rw [unjoined.speaker]
    exact Speaker.knows_start (Or.inl rfl)
  · exact mono _ speaker

end MusicCloud
