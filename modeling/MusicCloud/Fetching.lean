import MusicCloud.Following

/-!
The downloads of the speaker. It asks for its next song, for the one that it has
started since, or for no song; the last is what the communication thread does when
the next song starts while it handles the end of the one before.
-/
namespace MusicCloud
open Runs

def Comm.loads : Comm → Option Int
  | .marking songID => some songID
  | .requesting songID => some songID
  | .opening songID => some songID
  | .writing songID => some songID
  | .saved songID => some songID
  | _ => none

def Comm.marked : Comm → Option Int
  | .requesting songID => some songID
  | .opening songID => some songID
  | .writing songID => some songID
  | _ => none

def Comm.served : Comm → Option Int
  | .opening songID => some songID
  | .writing songID => some songID
  | .saved songID => some songID
  | _ => none

def Comm.renews : Comm → Bool
  | .checkingReady _ => true
  | .checkingUnknown _ => true
  | .renewing _ _ => true
  | _ => false

namespace Speaker

def Downloads (k : Speaker) : Prop :=
  k.comm.marked ≠ none ∨ (∃ songID, k.comm = .saved songID) ∨ k.comm = .failed

def Asks (k : Speaker) (next : Option Int) (songID : Int) : Prop :=
  songID = MusicCloud.UNKNOWN ∨
    next = some songID ∧ (songID = k.currentSong ∨ songID = k.nextSong)

def Reads (k : Speaker) (next : Option Int) (songID : Int) : Prop :=
  songID = MusicCloud.UNKNOWN ∧ next = some k.currentSong ∨ next = some songID ∧ songID = k.nextSong

theorem Reads.asks {k : Speaker} {next : Option Int} {songID : Int} (reads : k.Reads next songID) :
    k.Asks next songID := by
  rcases reads with ⟨none, -⟩ | ⟨named, taken⟩
  · exact Or.inl none
  · exact Or.inr ⟨named, Or.inr taken⟩

/-- A song that has been read, to tell of it or to ask for it; it may have been started since. -/
def Holds (k : Speaker) (next : Option Int) (songID : Int) : Prop :=
  next = some k.currentSong ∨ next = some songID ∧ songID = k.nextSong

section Stages
variable {k : Speaker} (ok : Bool)

theorem renews_communicate (renews : (k.communicate ok).comm.renews = true) :
    k.comm.renews = true ∨ k.nextSong ≠ MusicCloud.UNKNOWN := by
  have passes := k.passes_communicate ok
  generalize (k.communicate ok).comm = after at passes renews
  generalize k.comm = before at passes
  cases passes with
  | follows entry some => exact Or.inr some
  | misses entry | asks entry _ | readies entry _ => exact Or.inl rfl
  | _ => cases renews

theorem renewal_communicate {m : Message} (renewal : m ∈ (k.communicate ok).renewal) :
    m ∈ k.renewal ∨ (∃ entry, k.comm = .renewing entry false) ∧ m = renewed false k.nextSong := by
  cases here : k.comm with
  | idle =>
    cases queue : k.playbackConnectionQueue with
    | nil =>
      rw [communicate_resting ok here queue] at renewal
      exact Or.inl renewal
    | cons entry rest =>
      by_cases asks : (k.content entry).status = .need_song
      · rw [communicate_takes ok here queue asks] at renewal
        cases renewal
      · rw [communicate_picks ok here queue asks] at renewal
        cases renewal
  | renewing entry ready =>
    rw [communicate_renewing ok here] at renewal
    cases ready with
    | true => cases renewal
    | false => exact Or.inr ⟨⟨entry, rfl⟩, (Option.some.inj renewal).symm⟩
  | rewriting entry ready songID =>
    rw [communicate_rewriting ok here] at renewal
    cases ready with
    | true => cases renewal
    | false =>
      left
      have same : (k.setContent entry (renewed false songID)).content
          (rewritten entry (renewed false songID)) = m := Option.some.inj renewal
      unfold Speaker.renewal
      rw [here, ← same, content_rewritten]
      rfl
  | requesting _ | testing _ | sent _ | checkingNext _ | checkingReady _ | checkingUnknown _ =>
    unfold communicate at renewal
    rw [here] at renewal
    dsimp only at renewal
    split at renewal <;> cases renewal
  | _ =>
    unfold communicate at renewal
    rw [here] at renewal
    cases renewal

theorem rewriting_communicate {entry : Entry} {ready : Bool} {songID : Int}
    (after : (k.communicate ok).comm = .rewriting entry ready songID) :
    k.comm = .renewing entry ready ∧ songID = k.nextSong := by
  have passes := k.passes_communicate ok
  rw [after] at passes
  generalize k.comm = before at passes
  cases passes with
  | reads => exact ⟨rfl, rfl⟩

theorem unloaded_communicate (unmarked : k.comm.marked = none) (unserved : k.comm.served = none)
    (other : ∀ songID, k.comm ≠ .marking songID) :
    (k.communicate ok).comm.marked = none ∧ (k.communicate ok).comm.served = none := by
  have passes := k.passes_communicate ok
  generalize (k.communicate ok).comm = after at passes
  generalize k.comm = before at passes unmarked unserved other
  cases passes with
  | marks songID => exact absurd rfl (other songID)
  | answered songID | refused songID | opens songID | writes songID => cases unmarked
  | saves songID => cases unserved
  | _ => exact ⟨rfl, rfl⟩

theorem renewal_of_requests {t : Speaker} (comm : t.comm = k.comm)
    (same : ∀ entry, (t.content entry).status = .need_song → t.content entry = k.content entry)
    {m : Message} (listed : m ∈ t.renewal) (needs : m.status = .need_song) : m ∈ k.renewal := by
  unfold Speaker.renewal at listed ⊢
  rw [comm] at listed
  cases here : k.comm with
  | rewriting entry ready songID =>
    rw [here] at listed
    cases ready <;> exact listed
  | requeueing entry songID =>
    rw [here] at listed
    have read : t.content (rewritten entry (renewed false songID)) = m := Option.some.inj listed
    rw [← read] at needs ⊢
    exact congrArg some (same _ needs).symm
  | _ =>
    rw [here] at listed
    exact listed

end Stages

end Speaker

/-- The speaker asks only for songs that the server has selected. -/
structure Fetches (next : Option Int) (k : Speaker) : Prop where
  queued : ∀ m ∈ k.messages, m.status = .need_song → k.Asks next m.id
  loads : ∀ songID ∈ k.comm.loads, k.Asks next songID
  order : k.messages.Pairwise fun first second =>
    first.status = .Playing → second.status = .need_song → second.id = UNKNOWN
  outgoing : ∀ entry, k.comm = .sending entry → (k.content entry).status ≠ .need_song
  taken : k.comm.renews = true → ∃ songID, songID ≠ UNKNOWN ∧ k.Asks next songID
  reads : ∀ m ∈ k.renewal, m.status = .need_song → k.Reads next m.id
  holds : ∀ entry ready songID, k.comm = .rewriting entry ready songID → k.Holds next songID

/-- A song that is ready is completely on disk. -/
structure Stored (k : Speaker) : Prop where
  states : k.nextSongState = .UNKNOWN ∨ k.nextSongState = .DOWNLOADING ∨ k.nextSongState = .READY
  downloads : k.nextSongState = .DOWNLOADING → k.Downloads
  written : ∀ songID, k.files songID = .writing → k.comm = .writing songID
  saved : ∀ songID, k.comm = .saved songID → k.files songID = .complete
  ready : k.nextSong ≠ UNKNOWN → k.nextSongState = .READY → k.files k.nextSong = .complete
  marked : ∀ songID ∈ k.comm.marked, songID ≠ UNKNOWN → songID = k.nextSong →
    k.nextSongState = .DOWNLOADING
  served : ∀ songID ∈ k.comm.served, songID ≠ UNKNOWN

namespace Fetches
variable {next : Option Int} {k t : Speaker}

theorem asks_of_taken {songID other : Int} (selected : next = some songID)
    (taken : songID = t.currentSong ∨ songID = t.nextSong) (asks : k.Asks next other) :
    t.Asks next other := by
  rcases asks with none | ⟨named, -⟩
  · exact Or.inl none
  · have same : some songID = some other := selected.symm.trans named
    cases same
    exact Or.inr ⟨selected, taken⟩

theorem append (h : Fetches next k) {last : Message} (messages : t.messages = k.messages ++ [last])
    (comm : t.comm = k.comm) (songEnd : t.songEnd = k.songEnd)
    (asks : ∀ songID, k.Asks next songID → t.Asks next songID)
    (reads : ∀ m ∈ k.renewal, m.status = .need_song → k.Reads next m.id → t.Reads next m.id)
    (holds : ∀ songID, k.Holds next songID → t.Holds next songID)
    (new : last.status = .need_song → t.Asks next last.id ∧
      ∀ m ∈ k.messages, m.status ≠ .Playing) : Fetches next t := by
  have renewal : t.renewal = k.renewal := Speaker.renewal_of_same comm songEnd
  constructor
  · rw [messages]
    intro m listed needs
    rcases List.mem_append.mp listed with old | added
    · exact asks m.id (h.queued m old needs)
    · rw [List.mem_singleton.mp added] at needs ⊢
      exact (new needs).1
  · rw [comm]
    intro songID loads
    exact asks songID (h.loads songID loads)
  · rw [messages, List.pairwise_append]
    refine ⟨h.order, List.pairwise_singleton _ _, ?_⟩
    intro first listed second added playing needs
    rw [List.mem_singleton.mp added] at needs
    exact absurd playing ((new needs).2 first listed)
  · rw [comm, Speaker.content_of_same songEnd]
    exact h.outgoing
  · rw [comm]
    intro renews
    obtain ⟨songID, some, asked⟩ := h.taken renews
    exact ⟨songID, some, asks songID asked⟩
  · rw [renewal]
    intro m listed needs
    exact reads m listed needs (h.reads m listed needs)
  · rw [comm]
    intro entry ready songID here
    exact holds songID (h.holds entry ready songID here)

theorem of_same (h : Fetches next k) (messages : t.messages = k.messages) (comm : t.comm = k.comm)
    (songEnd : t.songEnd = k.songEnd) (asks : ∀ songID, k.Asks next songID → t.Asks next songID)
    (reads : ∀ m ∈ k.renewal, m.status = .need_song → k.Reads next m.id → t.Reads next m.id)
    (holds : ∀ songID, k.Holds next songID → t.Holds next songID) : Fetches next t := by
  have renewal : t.renewal = k.renewal := Speaker.renewal_of_same comm songEnd
  constructor
  · rw [messages]
    intro m listed needs
    exact asks m.id (h.queued m listed needs)
  · rw [comm]
    intro songID loads
    exact asks songID (h.loads songID loads)
  · rw [messages]
    exact h.order
  · rw [comm, Speaker.content_of_same songEnd]
    exact h.outgoing
  · rw [comm]
    intro renews
    obtain ⟨songID, some, asked⟩ := h.taken renews
    exact ⟨songID, some, asks songID asked⟩
  · rw [renewal]
    intro m listed needs
    exact reads m listed needs (h.reads m listed needs)
  · rw [comm]
    intro entry ready songID here
    exact holds songID (h.holds entry ready songID here)

theorem fetch (h : Fetches next k) {songID : Int} (selected : next = some songID)
    (quiet : ∀ m ∈ k.messages, m.status ≠ .Playing) :
    Fetches next ({ k with nextSong := songID, nextSongState := .UNKNOWN }.fetchSong songID) := by
  let j : Speaker := { k with nextSong := songID, nextSongState := .UNKNOWN }
  have same : (j.fetchSong songID).comm = k.comm ∧ (j.fetchSong songID).songEnd = k.songEnd ∧
      (j.fetchSong songID).nextSong = songID ∧ (j.fetchSong songID).currentSong = k.currentSong := by
    unfold Speaker.fetchSong
    dsimp only
    split <;> (try split) <;> exact ⟨rfl, rfl, rfl, rfl⟩
  obtain ⟨comm, songEnd, taken, current⟩ := same
  have asks : ∀ other, k.Asks next other → (j.fetchSong songID).Asks next other := by
    intro other
    exact asks_of_taken selected (Or.inr taken.symm)
  have reads : ∀ m ∈ k.renewal, m.status = .need_song → k.Reads next m.id →
      (j.fetchSong songID).Reads next m.id := by
    rintro m - - (⟨none, named⟩ | ⟨named, -⟩)
    · exact Or.inl ⟨none, by rw [current]; exact named⟩
    · exact Or.inr ⟨named, (Option.some.inj (named.symm.trans selected)).trans taken.symm⟩
  have holds : ∀ other, k.Holds next other → (j.fetchSong songID).Holds next other := by
    rintro other (named | ⟨named, -⟩)
    · exact Or.inl (by rw [current]; exact named)
    · exact Or.inr ⟨named, (Option.some.inj (named.symm.trans selected)).trans taken.symm⟩
  rcases Speaker.fetchSong_cases (k := j) songID with ⟨messages, -⟩ | ⟨-, -, messages | ⟨-, messages⟩⟩
  · apply h.append messages comm songEnd asks reads holds
    intro _
    exact ⟨Or.inr ⟨selected, Or.inr taken.symm⟩, quiet⟩
  · apply h.append messages comm songEnd asks reads holds
    intro no
    cases no
  · exact h.of_same messages comm songEnd asks reads holds

theorem later {next' : Option Int} (h : Fetches next k)
    (kept : ∀ songID, next = some songID → next' = some songID) : Fetches next' k := by
  have asks : ∀ songID, k.Asks next songID → k.Asks next' songID := by
    rintro songID (none | ⟨named, taken⟩)
    · exact Or.inl none
    · exact Or.inr ⟨kept songID named, taken⟩
  constructor
  · intro m listed needs
    exact asks m.id (h.queued m listed needs)
  · intro songID loads
    exact asks songID (h.loads songID loads)
  · exact h.order
  · exact h.outgoing
  · intro renews
    obtain ⟨songID, some, asked⟩ := h.taken renews
    exact ⟨songID, some, asks songID asked⟩
  · intro m listed needs
    rcases h.reads m listed needs with ⟨none, named⟩ | ⟨named, taken⟩
    · exact Or.inl ⟨none, kept _ named⟩
    · exact Or.inr ⟨kept _ named, taken⟩
  · intro entry ready songID here
    rcases h.holds entry ready songID here with named | ⟨named, taken⟩
    · exact Or.inl (kept _ named)
    · exact Or.inr ⟨kept _ named, taken⟩

theorem songEnd {status : SongState} {songEnds : List Nat} (h : Fetches next k) :
    Fetches next ({ k with
      songEnds := songEnds, currentSongState := status
      songEnd := { id := k.currentSong, status := .Stopped } }.put .songEnd) := by
  let t := { k with
    songEnds := songEnds, currentSongState := status
    songEnd := { id := k.currentSong, status := .Stopped } : Speaker }.put .songEnd
  have messages : t.messages = k.unsent.map t.content ++ [t.songEnd] := Speaker.messages_songEnd rfl rfl
  -- a dictionary for song ends holds neither a request nor a Playing report
  have other : ∀ entry, (t.content entry).status = .need_song ∨ (t.content entry).status = .Playing →
      t.content entry = k.content entry := by
    intro entry status
    cases entry with
    | own message => rfl
    | songEnd => rcases status with no | no <;> cases no
  constructor
  · intro m listed needs
    rw [messages] at listed
    rcases List.mem_append.mp listed with old | new
    · obtain ⟨entry, unsent, rfl⟩ := List.mem_map.mp old
      have same := other entry (Or.inl needs)
      rw [same] at needs ⊢
      exact h.queued _ (List.mem_map_of_mem unsent) needs
    · rw [List.mem_singleton.mp new] at needs
      cases needs
  · exact h.loads
  · change t.messages.Pairwise _
    rw [messages, List.pairwise_append]
    refine ⟨?_, List.pairwise_singleton _ _, ?_⟩
    · have order := h.order
      unfold Speaker.messages at order
      rw [List.pairwise_map] at order ⊢
      apply order.imp
      intro first second before playing needs
      have same := other second (Or.inl needs)
      rw [other first (Or.inr playing)] at playing
      rw [same] at needs ⊢
      exact before playing needs
    · intro first _ second new _ needs
      rw [List.mem_singleton.mp new] at needs
      cases needs
  · intro entry sending needs
    have same := other entry (Or.inl needs)
    rw [same] at needs
    exact h.outgoing entry sending needs
  · exact h.taken
  · intro m listed needs
    have comm : t.comm = k.comm := rfl
    have asked := Speaker.renewal_of_requests comm (fun e asks => other e (Or.inl asks)) listed needs
    exact h.reads m asked needs
  · exact h.holds

theorem communicate_loads (ok : Bool) (busy : k.comm ≠ .idle) :
    (∀ songID ∈ (k.communicate ok).comm.loads, songID ∈ k.comm.loads) ∧
      ∀ entry, (k.communicate ok).comm ≠ .sending entry := by
  have passes := k.passes_communicate ok
  generalize (k.communicate ok).comm = after at passes
  generalize k.comm = before at passes busy
  cases passes with
  | rests => exact absurd rfl busy
  | takes listed asks => exact absurd rfl busy
  | picks listed other => exact absurd rfl busy
  | marks songID | answered songID | opens songID | writes songID =>
    exact ⟨fun _ loads => loads, by simp⟩
  | _ =>
    refine ⟨?_, by simp⟩
    intro songID no
    cases no

theorem asks_communicate (ok : Bool) {songID : Int} (asks : k.Asks next songID) :
    (k.communicate ok).Asks next songID := by
  obtain ⟨current, -, nextSong⟩ := k.communicate_songs ok
  unfold Speaker.Asks
  rw [current, nextSong]
  exact asks

theorem reads_communicate (ok : Bool) {songID : Int} (reads : k.Reads next songID) :
    (k.communicate ok).Reads next songID := by
  obtain ⟨current, -, nextSong⟩ := k.communicate_songs ok
  unfold Speaker.Reads
  rw [current, nextSong]
  exact reads

theorem holds_communicate (ok : Bool) {songID : Int} (holds : k.Holds next songID) :
    (k.communicate ok).Holds next songID := by
  obtain ⟨current, -, nextSong⟩ := k.communicate_songs ok
  unfold Speaker.Holds
  rw [current, nextSong]
  exact holds

theorem takes (h : Fetches next k) (ok : Bool) (idle : k.comm = .idle) {entry : Entry}
    {rest : List Entry} (queued : k.playbackConnectionQueue = entry :: rest)
    (needs : (k.content entry).status = .need_song) : Fetches next (k.communicate ok) := by
  have messages := Speaker.messages_idle idle
  rw [queued, List.map_cons] at messages
  have order := h.order
  rw [messages] at order
  have after := Speaker.communicate_takes ok idle queued needs
  have remaining : (k.communicate ok).messages = rest.map k.content := by
    rw [after]
    rfl
  constructor
  · rw [remaining]
    intro m listed asked
    apply asks_communicate
    apply h.queued m _ asked
    rw [messages]
    exact List.mem_cons_of_mem _ listed
  · rw [after]
    rintro songID ⟨⟩
    have first := h.queued (k.content entry) (by rw [messages]; exact List.mem_cons_self) needs
    rw [← after]
    exact asks_communicate ok first
  · rw [remaining]
    exact (List.pairwise_cons.mp order).2
  · rw [after]
    intro other no
    cases no
  · rw [after]
    intro no
    cases no
  · rw [after]
    intro m no
    cases no
  · rw [after]
    intro other ready songID no
    cases no

theorem picks (h : Fetches next k) (ok : Bool) (idle : k.comm = .idle) {entry : Entry}
    {rest : List Entry} (queued : k.playbackConnectionQueue = entry :: rest)
    (other : (k.content entry).status ≠ .need_song) : Fetches next (k.communicate ok) := by
  have after := Speaker.communicate_picks ok idle queued other
  have remaining : (k.communicate ok).messages = k.messages := by
    rw [after, Speaker.messages_idle idle, queued]
    rfl
  constructor
  · rw [remaining]
    intro m listed needs
    exact asks_communicate ok (h.queued m listed needs)
  · rw [after]
    intro songID no
    cases no
  · rw [remaining]
    exact h.order
  · rw [after]
    rintro entry' ⟨⟩
    exact other
  · rw [after]
    intro no
    cases no
  · rw [after]
    intro m no
    cases no
  · rw [after]
    intro other ready songID no
    cases no

section Busy
variable (selected : k.nextSong = UNKNOWN ∨ next = some k.nextSong ∧ ∀ m ∈ k.messages, m.status ≠ .Playing)
include selected

theorem of_busy (h : Fetches next k) (ok : Bool) (busy : k.comm ≠ .idle)
    (queued : ∀ m ∈ (k.communicate ok).messages, m.status = .need_song → k.Asks next m.id)
    (order : (k.communicate ok).messages.Pairwise fun first second =>
      first.status = .Playing → second.status = .need_song → second.id = UNKNOWN) :
    Fetches next (k.communicate ok) := by
  obtain ⟨loads, sends⟩ := communicate_loads ok busy
  constructor
  · intro m listed needs
    exact asks_communicate ok (queued m listed needs)
  · intro songID listed
    exact asks_communicate ok (h.loads songID (loads songID listed))
  · exact order
  · intro entry sending
    exact absurd sending (sends entry)
  · intro renews
    rcases k.renews_communicate ok renews with before | some
    · obtain ⟨songID, known, asks⟩ := h.taken before
      exact ⟨songID, known, asks_communicate ok asks⟩
    · rcases selected with none | ⟨named, -⟩
      · exact absurd none some
      · exact ⟨k.nextSong, some, asks_communicate ok (Or.inr ⟨named, Or.inr rfl⟩)⟩
  · intro m renewal needs
    apply reads_communicate
    rcases k.renewal_communicate ok renewal with before | ⟨⟨entry, here⟩, rfl⟩
    · exact h.reads m before needs
    · -- no song is read only when the next one has been started
      obtain ⟨songID, known, asks⟩ := h.taken (by rw [here]; rfl)
      by_cases none : k.nextSong = UNKNOWN
      · rcases asks with no | ⟨named, current | taken⟩
        · exact absurd no known
        · exact Or.inl ⟨none, current ▸ named⟩
        · exact absurd (taken.trans none) known
      · rcases selected with no | ⟨named, -⟩
        · exact absurd no none
        · exact Or.inr ⟨named, rfl⟩
  · intro entry ready songID after
    apply holds_communicate
    obtain ⟨here, rfl⟩ := k.rewriting_communicate ok after
    obtain ⟨songID, known, asks⟩ := h.taken (by rw [here]; rfl)
    rcases asks with no | ⟨named, current | taken⟩
    · exact absurd no known
    · exact Or.inl (current ▸ named)
    · exact Or.inr ⟨taken ▸ named, rfl⟩

theorem posted (h : Fetches next k) (ok : Bool) {entry : Entry} (here : k.comm = .sending entry) :
    Fetches next (k.communicate ok) := by
  have posted := Speaker.messages_posted ok here
  apply h.of_busy selected ok (by rw [here]; simp)
  · intro m listed needs
    apply h.queued m _ needs
    rw [posted]
    exact List.mem_cons_of_mem _ listed
  · have order := h.order
    rw [posted] at order
    exact (List.pairwise_cons.mp order).2

theorem behind (h : Fetches next k) {m first : Message} (renewal : m ∈ k.renewal)
    (needs : m.status = .need_song) (listed : first ∈ k.messages) (playing : first.status = .Playing) :
    m.id = UNKNOWN := by
  rcases h.reads m renewal needs with ⟨none, -⟩ | ⟨-, taken⟩
  · exact none
  · rcases selected with none | ⟨-, quiet⟩
    · exact taken.trans none
    · exact absurd playing (quiet first listed)

theorem rewritten (h : Fetches next k) (ok : Bool) {entry : Entry} {ready : Bool} {songID : Int}
    (here : k.comm = .rewriting entry ready songID) : Fetches next (k.communicate ok) := by
  obtain ⟨before, after⟩ := Speaker.messages_rewriting ok here
  have unsent : ∀ e ∈ k.playbackConnectionQueue, k.content e ∈ k.messages := by
    rw [before]
    exact fun e waits => List.mem_map_of_mem waits
  have either := fun e => Speaker.content_setContent (s := k) entry e (Speaker.renewed ready songID)
  have request : (Speaker.renewed ready songID).status = .need_song →
      Speaker.renewed ready songID ∈ k.renewal := by
    intro needs
    cases ready with
    | true => cases needs
    | false =>
      unfold Speaker.renewal
      rw [here]
      rfl
  apply h.of_busy selected ok (by rw [here]; simp)
  · rw [after]
    intro m listed needs
    obtain ⟨e, waits, rfl⟩ := List.mem_map.mp listed
    rcases either e with same | new
    · rw [same] at needs ⊢
      exact h.queued _ (unsent e waits) needs
    · rw [new] at needs ⊢
      exact (h.reads _ (request needs) needs).asks
  · have order := h.order
    rw [before, List.pairwise_map] at order
    rw [after, List.pairwise_map]
    apply order.imp_of_mem
    intro first second waits _ earlier playing needs
    have old : (k.content first).status = .Playing := by
      rcases either first with same | new
      · rw [← same]
        exact playing
      · rw [new] at playing
        cases ready <;> cases playing
    rcases either second with same | new
    · rw [same] at needs ⊢
      exact earlier old needs
    · rw [new] at needs ⊢
      exact behind selected h (request needs) needs (unsent first waits) old

theorem requeued (h : Fetches next k) (ok : Bool) {entry : Entry} {songID : Int}
    (here : k.comm = .requeueing entry songID) : Fetches next (k.communicate ok) := by
  have after := Speaker.messages_requeueing ok here
  have renewal : k.content (Speaker.rewritten entry (Speaker.renewed false songID)) ∈ k.renewal := by
    unfold Speaker.renewal
    rw [here]
    rfl
  apply h.of_busy selected ok (by rw [here]; simp)
  · rw [after]
    intro m listed needs
    rcases List.mem_append.mp listed with old | new
    · exact h.queued m old needs
    · rw [List.mem_singleton.mp new] at needs ⊢
      exact (h.reads _ renewal needs).asks
  · rw [after, List.pairwise_append]
    refine ⟨h.order, List.pairwise_singleton _ _, ?_⟩
    intro first listed second new playing needs
    rw [List.mem_singleton.mp new] at needs ⊢
    exact behind selected h renewal needs listed playing

end Busy

theorem communicate (h : Fetches next k) (ok : Bool)
    (selected : k.nextSong = UNKNOWN ∨ next = some k.nextSong ∧ ∀ m ∈ k.messages, m.status ≠ .Playing) :
    Fetches next (k.communicate ok) := by
  cases here : k.comm with
  | idle =>
    cases queued : k.playbackConnectionQueue with
    | nil =>
      rw [Speaker.communicate_resting ok here queued]
      exact h
    | cons entry rest =>
      by_cases needs : (k.content entry).status = .need_song
      · exact h.takes ok here queued needs
      · exact h.picks ok here queued needs
  | sending entry => exact h.posted selected ok here
  | rewriting entry ready songID => exact h.rewritten selected ok here
  | requeueing entry songID => exact h.requeued selected ok here
  | _ =>
    obtain ⟨same, -⟩ := Speaker.messages_communicate ok (k := k) (by rw [here]; rfl)
    apply h.of_busy selected ok (by rw [here]; simp)
    · rw [same]
      exact h.queued
    · rw [same]
      exact h.order

theorem started (h : Fetches next k) {entry : Entry} (here : k.comm = .sending entry)
    (playing : (k.content entry).status = .Playing) (ok : Bool) :
    Fetches none (k.communicate ok) := by
  have posted := Speaker.messages_posted ok here
  have order := h.order
  rw [posted, List.pairwise_cons] at order
  have after : (k.communicate ok).comm = .sent entry := by
    unfold Speaker.communicate
    rw [here]
  refine ⟨?_, ?_, order.2, ?_, ?_, ?_, ?_⟩
  · intro m listed needs
    exact Or.inl (order.1 m listed playing needs)
  · rw [after]
    intro songID no
    cases no
  · rw [after]
    intro other no
    cases no
  · rw [after]
    intro no
    cases no
  · rw [Speaker.communicate_sending ok here]
    intro m no
    cases no
  · rw [after]
    intro other ready songID no
    cases no

end Fetches

namespace Stored
variable {k t : Speaker}

theorem of_same (h : Stored k) (next : t.nextSong = k.nextSong)
    (state : t.nextSongState = k.nextSongState) (comm : t.comm = k.comm) (files : t.files = k.files) :
    Stored t := by
  obtain ⟨states, downloads, written, saved, ready, marked, served⟩ := h
  unfold Speaker.Downloads at downloads
  constructor
  · rw [state]
    exact states
  · unfold Speaker.Downloads
    rw [state, comm]
    exact downloads
  · rw [files, comm]
    exact written
  · rw [files, comm]
    exact saved
  · rw [next, state, files]
    exact ready
  · rw [next, state, comm]
    exact marked
  · rw [comm]
    exact served

theorem emptied (h : Stored k) (next : t.nextSong = UNKNOWN) (state : t.nextSongState = .UNKNOWN)
    (comm : t.comm = k.comm) (files : t.files = k.files) : Stored t := by
  constructor
  · exact Or.inl state
  · rw [state]
    intro no
    cases no
  · rw [files, comm]
    exact h.written
  · rw [files, comm]
    exact h.saved
  · intro some
    exact absurd next some
  · rw [next]
    intro songID _ some same
    exact absurd same some
  · rw [comm]
    exact h.served

theorem fetch (h : Stored k) {songID : Int} (unmarked : songID ∉ k.comm.marked) :
    Stored ({ k with nextSong := songID, nextSongState := .UNKNOWN }.fetchSong songID) := by
  have whole : k.files songID ≠ .missing → k.files songID = .complete := by
    intro there
    cases file : k.files songID with
    | missing => exact absurd file there
    | complete => rfl
    | writing =>
      have writes := h.written songID file
      rw [writes] at unmarked
      exact absurd rfl unmarked
  -- nothing but the state of the song depends on what is found
  have taken : ∀ t : Speaker, t.nextSong = songID →
      t.nextSongState = .UNKNOWN ∨ t.nextSongState = .READY ∧ k.files songID ≠ .missing →
        t.comm = k.comm → t.files = k.files → Stored t := by
    intro t next state comm files
    constructor
    · rcases state with unknown | ⟨ready, -⟩
      · exact Or.inl unknown
      · exact Or.inr (Or.inr ready)
    · intro downloading
      rcases state with unknown | ⟨ready, -⟩
      · rw [unknown] at downloading
        cases downloading
      · rw [ready] at downloading
        cases downloading
    · rw [files, comm]
      exact h.written
    · rw [files, comm]
      exact h.saved
    · intro _ isReady
      rw [next, files]
      rcases state with unknown | ⟨-, there⟩
      · rw [unknown] at isReady
        cases isReady
      · exact whole there
    · rw [next, comm]
      rintro other marked - rfl
      exact absurd marked unmarked
    · rw [comm]
      exact h.served
  unfold Speaker.fetchSong
  split
  · rename_i found
    have there : k.files songID ≠ .missing := of_decide_eq_true found
    dsimp only
    split
    · exact taken _ rfl (Or.inr ⟨rfl, there⟩) rfl rfl
    · exact taken _ rfl (Or.inr ⟨rfl, there⟩) rfl rfl
  · exact taken _ rfl (Or.inl rfl) rfl rfl

theorem resting (h : Stored k) (quiet : ¬ k.Downloads) (next : t.nextSong = k.nextSong)
    (state : t.nextSongState = k.nextSongState) (files : t.files = k.files)
    (unmarked : t.comm.marked = Option.none) (unserved : t.comm.served = Option.none) : Stored t := by
  constructor
  · rw [state]
    exact h.states
  · rw [state]
    intro downloading
    exact absurd (h.downloads downloading) quiet
  · rw [files]
    intro songID writing
    have here := h.written songID writing
    exfalso
    apply quiet
    left
    rw [here]
    exact Option.some_ne_none songID
  · intro songID here
    rw [here] at unserved
    cases unserved
  · rw [next, state, files]
    exact h.ready
  · rw [unmarked]
    intro songID no
    cases no
  · rw [unserved]
    intro songID no
    cases no

theorem unloaded (unmarked : k.comm.marked = none) (unserved : k.comm.served = none)
    (running : k.comm ≠ .failed) : ¬ k.Downloads := by
  rintro (marked | ⟨songID, saved⟩ | failed)
  · exact marked unmarked
  · rw [saved] at unserved
    cases unserved
  · exact running failed

theorem unwritten (h : Stored k) {songID : Int} (other : k.comm ≠ .writing songID) :
    k.files songID ≠ .writing :=
  fun writing => other (h.written songID writing)

section Stages
variable (ok : Bool) {songID : Int}

theorem marking (h : Stored k) (here : k.comm = .marking songID) : Stored (k.communicate ok) := by
  rw [Speaker.communicate_marking ok here]
  constructor
  · exact Or.inr (Or.inl rfl)
  · intro _
    left
    exact Option.some_ne_none songID
  · intro other writing
    exact absurd writing (h.unwritten (by rw [here]; simp))
  · intro other no
    cases no
  · intro _ no
    cases no
  · intro other _ _ _
    rfl
  · intro other no
    cases no

theorem requesting (h : Stored k) (here : k.comm = .requesting songID)
    (known : ok = true → 0 ≤ songID) : Stored (k.communicate ok) := by
  rw [Speaker.communicate_requesting ok here]
  have marked := h.marked
  rw [here] at marked
  cases ok with
  | false =>
    refine ⟨h.states, ?_, ?_, ?_, h.ready, ?_, ?_⟩
    · intro _
      exact Or.inr (Or.inr rfl)
    · intro other writing
      exact absurd writing (h.unwritten (by rw [here]; simp))
    · intro other no
      cases no
    · intro other no
      cases no
    · intro other no
      cases no
  | true =>
    refine ⟨h.states, ?_, ?_, ?_, h.ready, marked, ?_⟩
    · intro _
      left
      exact Option.some_ne_none songID
    · intro other writing
      exact absurd writing (h.unwritten (by rw [here]; simp))
    · intro other no
      cases no
    · rintro other ⟨⟩ unknown
      have valid := known rfl
      rw [unknown] at valid
      exact absurd valid (by decide)

theorem opening (h : Stored k) (here : k.comm = .opening songID) : Stored (k.communicate ok) := by
  rw [Speaker.communicate_opening ok here]
  have marked := h.marked
  have served := h.served
  rw [here] at marked served
  refine ⟨h.states, ?_, ?_, ?_, ?_, marked, served⟩
  · intro _
    left
    exact Option.some_ne_none songID
  · intro other writing
    by_cases same : other = songID
    · rw [same]
    · dsimp only at writing
      rw [Function.update_of_ne same] at writing
      exact absurd writing (h.unwritten (by rw [here]; simp))
  · intro other no
    cases no
  · intro some isReady
    have other : k.nextSong ≠ songID := by
      intro same
      have loading := marked songID rfl (same ▸ some) same.symm
      rw [show k.nextSongState = .READY from isReady] at loading
      cases loading
    dsimp only
    rw [Function.update_of_ne other]
    exact h.ready some isReady

theorem writing (h : Stored k) (here : k.comm = .writing songID) : Stored (k.communicate ok) := by
  rw [Speaker.communicate_writing ok here]
  have served := h.served
  rw [here] at served
  refine ⟨h.states, ?_, ?_, ?_, ?_, ?_, served⟩
  · intro _
    exact Or.inr (Or.inl ⟨songID, rfl⟩)
  · intro other writing
    dsimp only at writing
    by_cases same : other = songID
    · rw [same, Function.update_self] at writing
      cases writing
    · rw [Function.update_of_ne same] at writing
      have writes := h.written other writing
      rw [here] at writes
      cases writes
      exact absurd rfl same
  · rintro other ⟨⟩
    exact Function.update_self _ _ _
  · intro some isReady
    dsimp only
    by_cases same : k.nextSong = songID
    · rw [same, Function.update_self]
    · rw [Function.update_of_ne same]
      exact h.ready some isReady
  · intro other no
    cases no

theorem saving (h : Stored k) (here : k.comm = .saved songID)
    (same : k.nextSong ≠ UNKNOWN → k.nextSong = songID) : Stored (k.communicate ok) := by
  rw [Speaker.communicate_saved ok here]
  refine ⟨Or.inr (Or.inr rfl), ?_, ?_, ?_, ?_, ?_, ?_⟩
  · intro no
    cases no
  · intro other writing
    exact absurd writing (h.unwritten (by rw [here]; simp))
  · intro other no
    cases no
  · intro some _
    dsimp only
    rw [same some]
    exact h.saved songID here
  · intro other no
    cases no
  · intro other no
    cases no

theorem failed (h : Stored k) (here : k.comm = .failed) : Stored (k.communicate ok) := by
  rw [Speaker.communicate_failed ok here]
  refine ⟨Or.inl rfl, ?_, ?_, ?_, ?_, ?_, ?_⟩
  · intro no
    cases no
  · intro other writing
    exact absurd writing (h.unwritten (by rw [here]; simp))
  · intro other no
    cases no
  · intro _ no
    cases no
  · intro other no
    cases no
  · intro other no
    cases no

theorem idling (h : Stored k) (unmarked : k.comm.marked = none) (unserved : k.comm.served = none)
    (running : k.comm ≠ .failed) (other : ∀ songID, k.comm ≠ .marking songID) :
    Stored (k.communicate ok) := by
  have quiet := unloaded unmarked unserved running
  have untouched : Speaker.touches k.comm = false := by
    cases here : k.comm with
    | marking songID => exact absurd here (other songID)
    | failed => exact absurd here running
    | opening songID | writing songID | saved songID =>
      rw [here] at unserved
      cases unserved
    | _ => rfl
  obtain ⟨next, state, files⟩ := Speaker.communicate_same ok untouched
  obtain ⟨unmarked, unserved⟩ := Speaker.unloaded_communicate ok unmarked unserved other
  exact h.resting quiet next state files unmarked unserved

end Stages

theorem communicate (h : Stored k) (ok : Bool) {next : Option Int} (fetches : Fetches next k)
    (selected : k.nextSong = UNKNOWN ∨ next = some k.nextSong ∧ k.nextSong ≠ k.currentSong)
    (known : ok = true → ∃ songID, k.comm = .requesting songID ∧ 0 ≤ songID) :
    Stored (k.communicate ok) := by
  cases here : k.comm with
  | marking songID => exact h.marking ok here
  | requesting songID =>
    apply h.requesting ok here
    intro answered
    obtain ⟨named, same, valid⟩ := known answered
    rw [here] at same
    cases same
    exact valid
  | opening songID => exact h.opening ok here
  | writing songID => exact h.writing ok here
  | saved songID =>
    apply h.saving ok here
    intro some
    have positive := h.served songID (by rw [here]; rfl)
    rcases fetches.loads songID (by rw [here]; rfl) with unknown | ⟨named, -⟩
    · exact absurd unknown positive
    · rcases selected with unknown | ⟨next, -⟩
      · exact absurd unknown some
      · rw [next] at named
        exact Option.some.inj named
  | failed => exact h.failed ok here
  | _ => exact h.idling ok (by rw [here]; rfl) (by rw [here]; rfl) (by rw [here]; simp) (by rw [here]; simp)

end Stored
end MusicCloud
