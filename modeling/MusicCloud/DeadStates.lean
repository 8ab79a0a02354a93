import MusicCloud.Renewing
import MusicCloud.Waking

/-!
Whether the music can stop for good. As long as no Stop command takes the place of
the Play command for the next song, no request for that song fails while nothing
plays, the timer takes the delays, and nobody takes the session of the speaker,
something is always under way that makes the speaker go on. A single such Stop command
is enough to reach a dead state.
-/
namespace MusicCloud
open Runs

/-- All that keeps the speaker going. -/
structure Led (σ : Situation) (k : Speaker) : Prop where
  agreed : Agreed σ k
  follows : Follows σ k
  fetches : Fetches σ.next k
  stored : Stored k
  alive : Alive σ k
  heeds : Heeds σ k

namespace Led
variable {σ τ : Situation} {k t : Speaker}

theorem caught (h : Led σ k) (some : k.nextSong ≠ UNKNOWN) : k.playings = [] := by
  obtain ⟨selected, other⟩ := h.follows.selected some
  rcases h.agreed.playings with none | ⟨-, named⟩
  · exact none
  · rw [selected] at named
    exact absurd (Option.some.inj named) other

theorem taken (h : Led σ k) (known : ∀ songID, σ.next = some songID → songID ≠ UNKNOWN)
    (quiet : k.playings = []) (entry : Entry) (ready : Bool) (songID : Int)
    (here : k.comm = .rewriting entry ready songID) : songID = k.nextSong ∧ k.nextSong ≠ UNKNOWN := by
  rcases h.fetches.holds entry ready songID here with started | ⟨selected, same⟩
  · exact absurd quiet (h.follows.reported started)
  · refine ⟨same, ?_⟩
    rw [← same]
    exact known songID selected

theorem plays_hears {update : SessionUpdate} (hears : Situation.Hears update σ τ) :
    ∀ songID ∈ τ.plays, songID ∈ σ.plays := by
  intro songID listed
  unfold Situation.plays
  rw [hears.commands, List.filterMap_append]
  exact List.mem_append_right _ listed

theorem alive_hears {update : SessionUpdate} (h : Led σ k) (hears : Situation.Hears update σ τ)
    (other : ∀ songID, update.command ≠ some { command := .Play, id := songID }) : Alive τ k := by
  apply h.alive.of_plays
  intro _ listed
  unfold Situation.plays at listed ⊢
  rw [hears.commands] at listed
  cases heard : update.command with
  | none =>
    rw [heard] at listed
    exact listed
  | some command =>
    obtain ⟨action, songID⟩ := command
    cases action with
    | Play => exact absurd heard (other songID)
    | Stop =>
      rw [heard] at listed
      exact listed

theorem quiet (h : Led σ k) {songID : Int} (selected : σ.next = some songID)
    (other : songID ≠ k.currentSong) : ∀ m ∈ k.messages, m.status ≠ .Playing := by
  have none : k.playings = [] := by
    rcases h.agreed.playings with none | ⟨-, named⟩
    · exact none
    · rw [selected] at named
      exact absurd (Option.some.inj named) other
  intro m listed playing
  obtain ⟨entry, unsent, rfl⟩ := List.mem_map.mp listed
  cases entry with
  | songEnd => exact h.agreed.songEnd playing
  | own message =>
    have named : message.id ∈ k.playings := by
      apply List.mem_filterMap.mpr
      refine ⟨.own message, unsent, ?_⟩
      obtain ⟨songID, status⟩ := message
      cases playing
      rfl
    rw [none] at named
    cases named

section Moves
variable {lost : PlaybackCommand → Prop} {ready : Int → Prop} (h : Led σ k)
  (passes : Situation.Moves lost ready σ τ)
  (known : ∀ songID, τ.next = some songID → songID ≠ UNKNOWN)
include h passes

theorem fetches_moves : Fetches τ.next k := by
  apply h.fetches.later
  intro songID
  exact Party.Moves.next passes

include known

theorem follows_moves : Follows τ k := by
  have follows := h.follows
  clear h
  induction passes using Relation.ReflTransGen.head_induction_on with
  | refl => exact follows
  | head move rest ih =>
    apply ih
    apply follows.move move
    intro songID selected
    exact known songID (Party.Moves.next rest selected)

theorem moves (kept : k.Waits → ¬ lost { command := .Play, id := k.nextSong })
    (unasked : ∀ songID, ¬ ready songID) : Led τ k := by
  refine ⟨h.agreed.moves passes, h.follows_moves passes known, h.fetches_moves passes, h.stored, ?_, ?_⟩
  · apply h.alive.of_plays
    intro waits listed
    exact plays_moves passes (h.follows.selected waits.1).1 (kept waits) listed
  · apply h.heeds.of_plays
    intro songID listed
    rcases Situation.mem_plays_of_moves passes listed with old | ⟨asked, -⟩
    · exact old
    · exact absurd asked (unasked songID)

end Moves

theorem endMusic (h : Led σ k) : Led σ k.endMusic :=
  ⟨h.agreed.of_startsNone Speaker.startsNone_endMusic, h.follows.of_same rfl rfl rfl,
    h.fetches.of_same rfl rfl rfl (fun _ asks => asks) (fun _ _ _ reads => reads) fun _ holds => holds,
    h.stored.of_same rfl rfl rfl rfl,
    h.alive.endMusic, h.heeds.endMusic⟩

theorem poll (h : Led σ k) (found : Bool) : Led σ (k.poll found) := by
  have same := Speaker.startsNone_poll (k := k) found
  refine ⟨h.agreed.of_startsNone same, ?_, ?_, ?_, h.alive.poll found, h.heeds.poll found⟩
  · apply h.follows.of_same same.current _ same.playings
    unfold Speaker.poll
    split <;> (try split) <;> rfl
  · unfold Speaker.poll
    split
    · split
      · exact h.fetches.songEnd
      · exact h.fetches
    · exact h.fetches
  · unfold Speaker.poll
    split
    · split
      · exact h.stored.of_same rfl rfl rfl rfl
      · exact h.stored
    · exact h.stored

theorem adopted (h : Led σ k) (heeds : Heeds τ k) {songID : Int} (known : songID ≠ UNKNOWN)
    (selected : σ.next = some songID) (fewer : ∀ x ∈ τ.plays, x ∈ σ.plays)
    (other : songID ≠ k.currentSong) (fresh : songID = k.nextSong → k.nextSongState = .UNKNOWN)
    (taken : k.playings = [] → ∀ entry ready x, k.comm = .rewriting entry ready x →
      x = k.nextSong ∧ k.nextSong ≠ UNKNOWN) :
    Heeds τ { k with nextSong := songID, nextSongState := .UNKNOWN } := by
  by_cases same : songID = k.nextSong
  · have before : { k with nextSong := songID, nextSongState := .UNKNOWN } = k := by
      rw [same, ← fresh same]
    rw [before]
    exact heeds
  · have unset : k.nextSong = UNKNOWN := by
      rcases h.follows.next with none | ⟨next, -⟩
      · exact none
      · exact absurd (Option.some.inj (selected.symm.trans next)) same
    have quiet : k.playings = [] := by
      rcases h.agreed.playings with none | ⟨-, named⟩
      · exact none
      · exact absurd (Option.some.inj (selected.symm.trans named)) other
    apply heeds.adopts quiet unset known other
    · intro x listed
      rcases h.agreed.plays x (fewer x listed) with current | next
      · exact Or.inl current
      · exact Or.inr (Option.some.inj (next.symm.trans selected))
    · intro entry ready x here
      exact absurd unset (taken quiet entry ready x here).2

theorem fetch (h : Led σ k) {songID : Int} (known : ∀ songID, σ.next = some songID → songID ≠ UNKNOWN)
    (active : τ.active = σ.active) (next : τ.next = σ.next)
    (announcements : σ.announcements = songID :: τ.announcements) (other : songID ≠ k.currentSong)
    (fresh : songID = k.nextSong → k.nextSongState = .UNKNOWN)
    (fewer : ∀ x ∈ τ.plays, x ∈ σ.plays)
    (agreed : Agreed τ ({ k with nextSong := songID, nextSongState := .UNKNOWN }.fetchSong songID)) :
    Led τ ({ k with nextSong := songID, nextSongState := .UNKNOWN }.fetchSong songID) := by
  let j : Speaker := { k with nextSong := songID, nextSongState := .UNKNOWN }
  have same := Speaker.startsNone_fetchSong j songID
  have taken : (j.fetchSong songID).nextSong = songID := by
    unfold Speaker.fetchSong
    dsimp only
    split <;> (try split) <;> rfl
  obtain ⟨selected, follows⟩ := h.follows.upcoming active next announcements other same.current taken
    same.playings
  have unmarked : songID ∉ k.comm.marked := by
    intro marked
    have loads : songID ∈ k.comm.loads := by
      cases here : k.comm <;> rw [here] at marked <;> first | exact marked | cases marked
    rcases h.fetches.loads songID loads with none | ⟨-, current | next⟩
    · exact known songID selected none
    · exact other current
    · have downloading := h.stored.marked songID marked (known songID selected) next
      rw [fresh next] at downloading
      cases downloading
  have adopted := h.adopted (h.heeds.of_plays fewer) (known songID selected) selected fewer other fresh
    (h.taken known)
  refine ⟨agreed, follows, ?_, h.stored.fetch unmarked, Alive.fetch (known songID selected),
    adopted.fetchSong (known songID selected)⟩
  rw [next]
  exact h.fetches.fetch selected (h.quiet selected other)

theorem unchanged (h : Led σ k) (active : τ.active = σ.active) (next : τ.next = σ.next)
    {first : Option Int} (announcements : σ.announcements = first.toList ++ τ.announcements)
    (old : ∀ songID ∈ first, songID = k.currentSong ∨ songID = k.nextSong) (agreed : Agreed τ k)
    (alive : Alive τ k) (heeds : Heeds τ k) : Led τ k := by
  refine ⟨agreed, h.follows.hears active next announcements old, ?_, h.stored, alive, heeds⟩
  rw [next]
  exact h.fetches

theorem upcoming (h : Led σ k) (song : Song) (known : ∀ songID, σ.next = some songID → songID ≠ UNKNOWN)
    (hears : Situation.Hears (.upcoming_song song) σ τ) :
    Led τ (k.handleUpcomingSongUpdate song.id) := by
  have agreed : Agreed τ (k.handleUpcomingSongUpdate song.id) := h.agreed.hears true hears
  have alive : Alive τ k := h.alive_hears hears fun _ no => nomatch no
  have fewer := plays_hears hears
  have heeds := h.heeds.of_plays fewer
  obtain ⟨active, next, -, announcements⟩ := hears
  unfold Speaker.handleUpcomingSongUpdate at agreed ⊢
  by_cases current : song.id = k.currentSong
  · rw [if_pos current] at agreed ⊢
    apply h.unchanged active next announcements _ agreed alive heeds
    rintro songID ⟨⟩
    exact Or.inl current
  rw [if_neg current] at agreed ⊢
  by_cases other : song.id ≠ k.nextSong
  · rw [if_pos other] at agreed ⊢
    apply h.fetch known active next announcements current _ fewer agreed
    intro same
    exact absurd same other
  rw [if_neg other] at agreed ⊢
  have same : song.id = k.nextSong := not_not.mp other
  by_cases again : k.nextSongState = .UNKNOWN ∧ k.nextSong ≠ UNKNOWN
  · rw [if_pos again] at agreed ⊢
    -- the song is announced once more, and the speaker still does not have it
    have before : { k with nextSong := song.id, nextSongState := .UNKNOWN } = k := by
      rw [same, ← again.1]
    rw [← before] at agreed ⊢
    exact h.fetch known active next announcements current (fun _ => again.1) fewer agreed
  · rw [if_neg again] at agreed ⊢
    apply h.unchanged active next announcements _ agreed alive heeds
    rintro songID ⟨⟩
    exact Or.inr same

theorem stop (h : Led σ k) (songID : Int)
    (hears : Situation.Hears (.playback_command { command := .Stop, id := songID }) σ τ) :
    Led τ (k.handleStopCommand songID) := by
  have agreed : Agreed τ (k.handleStopCommand songID) := h.agreed.hears true hears
  have alive : Alive τ k := h.alive_hears hears fun _ no => nomatch no
  have heeds := h.heeds.of_plays (plays_hears hears)
  obtain ⟨active, next, -, announcements⟩ := hears
  have follows : Follows τ k := h.follows.hears active next announcements fun _ no => (nomatch no)
  have fetches : Fetches τ.next k := by
    rw [next]
    exact h.fetches
  refine ⟨agreed, ?_, ?_, ?_, alive.stop songID, heeds.stop songID⟩
  · have same := Speaker.startsNone_stop (k := k) songID
    apply follows.of_same same.current _ same.playings
    unfold Speaker.handleStopCommand
    split <;> rfl
  · unfold Speaker.handleStopCommand
    split
    · have reported : ({ k.endMusic with currentSongState := .STOPPED }.message songID .Stopped).messages =
          k.messages ++ [{ id := songID, status := .Stopped }] := by
        apply Speaker.messages_put <;> rfl
      apply fetches.append reported rfl rfl (fun _ asks => asks) (fun _ _ _ reads => reads)
        fun _ holds => holds
      intro no
      cases no
    · exact fetches
  · unfold Speaker.handleStopCommand
    split
    · exact h.stored.of_same rfl rfl rfl rfl
    · exact h.stored

theorem play (h : Led σ k) (songID : Int) (loads : Bool)
    (known : ∀ songID, σ.next = some songID → songID ≠ UNKNOWN)
    (hears : Situation.Hears (.playback_command { command := .Play, id := songID }) σ τ) :
    Led τ (k.handlePlayCommand songID loads) := by
  have agreed : Agreed τ (k.handlePlayCommand songID loads) := h.agreed.hears loads hears
  have heeds := h.heeds.of_plays (plays_hears hears)
  obtain ⟨active, next, commands, announcements⟩ := hears
  have heard : σ.plays = songID :: τ.plays := by
    unfold Situation.plays
    rw [commands]
    rfl
  have alive : Alive τ (k.handlePlayCommand songID loads) :=
    h.alive.play h.follows.next h.fetches h.stored loads heard
  have follows : Follows τ k := h.follows.hears active next announcements fun _ no => (nomatch no)
  have fetches : Fetches τ.next k := by
    rw [next]
    exact h.fetches
  unfold Speaker.handlePlayCommand at agreed alive ⊢
  by_cases current : songID = k.currentSong
  · rw [if_pos current] at agreed alive ⊢
    exact ⟨agreed, follows, fetches, h.stored, alive, heeds⟩
  rw [if_neg current] at agreed alive ⊢
  -- a command for another song than the current one is for the next song
  have listed : songID ∈ σ.plays := by
    rw [heard]
    exact List.mem_cons_self
  have selected : σ.next = some songID := by
    rcases h.agreed.plays songID listed with same | selected
    · exact absurd same current
    · exact selected
  by_cases starts : songID = k.nextSong ∧ k.currentSongState ≠ .PLAYING ∧ k.nextSongState = .READY
  · rw [if_pos starts] at agreed alive ⊢
    have some : k.nextSong ≠ UNKNOWN := by
      rw [← starts.1]
      exact known songID selected
    have canLoad : k.canLoad songID loads = true := by
      unfold Speaker.canLoad
      rw [starts.1, h.stored.ready some starts.2.2]
    rw [if_pos canLoad] at agreed alive ⊢
    have reported : (k.started.playMusic.message songID .Playing).messages =
        k.messages ++ [{ id := songID, status := .Playing }] := by
      apply Speaker.messages_put <;> rfl
    have playings : (k.started.playMusic.message songID .Playing).playings = k.playings ++ [songID] := by
      apply Speaker.playings_put (.own { id := songID, status := .Playing }) <;> rfl
    have commanded : k.nextSong ∈ σ.plays := by
      rw [← starts.1]
      exact listed
    have started : Heeds τ (k.started.playMusic.message songID .Playing) := by
      rw [starts.1] at agreed ⊢
      apply h.heeds.starts some commanded
      · intro entry ready x here
        exact (h.taken known (h.caught some) entry ready x here).1
      · intro x later
        rcases agreed.plays x later with current | named
        · exact current
        · rw [next, selected, starts.1] at named
          exact (Option.some.inj named).symm
    refine ⟨agreed, ?_, ?_, h.stored.emptied rfl rfl rfl rfl, alive, started⟩
    · have none : τ.announcements = σ.announcements := announcements.symm
      apply h.follows.starts some next none rfl rfl
      rw [playings]
      exact List.append_ne_nil_of_right_ne_nil _ (List.cons_ne_nil songID [])
    · apply fetches.append reported rfl rfl
      · intro other
        apply Fetches.asks_of_taken (next.trans selected)
        exact Or.inl starts.1
      · -- the communication thread is not about to ask for the song that is started
        rintro m listed needs (⟨none, named⟩ | ⟨-, same⟩)
        · rw [next, selected] at named
          exact absurd (Option.some.inj named) current
        · have once := (h.heeds.prompts some).once commanded
          rw [Speaker.again_of_renewal listed] at once
          cases once
      · intro other _
        exact Or.inl (next.trans (selected.trans (congrArg Option.some starts.1)))
      · intro no
        cases no
  rw [if_neg starts] at agreed alive ⊢
  by_cases unknown : songID = k.nextSong ∧ k.nextSongState = .UNKNOWN
  · rw [if_pos unknown] at agreed alive ⊢
    have asked : (k.message songID .need_song).messages =
        k.messages ++ [{ id := songID, status := .need_song }] := by
      apply Speaker.messages_put <;> rfl
    have other : MessageStatus.need_song ≠ .Playing := by simp
    have same := Speaker.startsNone_message (k := k) songID other
    have asks : Heeds τ (k.message songID .need_song) := by
      rw [unknown.1]
      apply heeds.asks
      rw [← unknown.1]
      exact known songID selected
    refine ⟨agreed, follows.of_same rfl rfl same.playings, ?_, h.stored.of_same rfl rfl rfl rfl, alive,
      asks⟩
    apply fetches.append asked rfl rfl (fun _ asks => asks) (fun _ _ _ reads => reads)
      fun _ holds => holds
    intro _
    exact ⟨Or.inr ⟨next.trans selected, Or.inr unknown.1⟩, h.quiet selected current⟩
  · rw [if_neg unknown] at agreed alive ⊢
    exact ⟨agreed, follows, fetches, h.stored, alive, heeds⟩

theorem hears {update : SessionUpdate} (h : Led σ k) (loads : Bool)
    (known : ∀ songID, σ.next = some songID → songID ≠ UNKNOWN)
    (hears : Situation.Hears update σ τ) : Led τ (k.handle update loads) := by
  have silent : update.command = none → update.announced = none → Led τ k := by
    intro noCommand noAnnouncement
    have alive : Alive τ k := by
      apply h.alive_hears hears
      intro songID play
      rw [noCommand] at play
      cases play
    have heeds := h.heeds.of_plays (plays_hears hears)
    obtain ⟨active, next, commands, announcements⟩ := hears
    rw [noCommand] at commands
    rw [noAnnouncement] at announcements
    apply h.unchanged active next announcements (fun _ no => nomatch no) _ alive heeds
    apply h.agreed.of_fewer active next
    unfold Situation.plays
    rw [commands]
    rfl
  cases update with
  | playback_command command =>
    obtain ⟨action, songID⟩ := command
    cases action with
    | Play => exact h.play songID loads known hears
    | Stop => exact h.stop songID hears
  | upcoming_song song => exact h.upcoming song known hears
  | current_song active => exact silent rfl rfl
  | likes stats => exact silent rfl rfl
  | votes votes => exact silent rfl rfl
  | song_list songs => exact silent rfl rfl

section Communication

theorem nextQuiet (h : Led σ k) : k.nextSong = UNKNOWN ∨
    σ.next = some k.nextSong ∧ ∀ m ∈ k.messages, m.status ≠ .Playing := by
  rcases h.follows.next with none | ⟨selected, other⟩
  · exact Or.inl none
  · exact Or.inr ⟨selected, h.quiet selected other⟩

theorem works (h : Led σ k) (ok : Bool) (silent : k.posts = none)
    (positive : ∀ songID, σ.next = some songID → songID ≠ UNKNOWN)
    (known : ok = true → ∃ songID, k.comm = .requesting songID ∧ 0 ≤ songID)
    (answered : ∀ songID, k.comm = .requesting songID → ok = false →
      k.currentSongState = .PLAYING ∨ songID = UNKNOWN) : Led σ (k.communicate ok) := by
  have same : Speaker.StartsNone k (k.communicate ok) := by
    apply Speaker.startsNone_communicate
    intro message posts
    rw [silent] at posts
    cases posts
  obtain ⟨-, -, nextSong⟩ := k.communicate_songs ok
  refine ⟨h.agreed.of_startsNone same, h.follows.of_same same.current nextSong same.playings,
    h.fetches.communicate ok h.nextQuiet, h.stored.communicate ok h.fetches h.follows.next known, ?_, ?_⟩
  · exact h.alive.communicate h.follows.next h.fetches h.stored ok silent answered
  · exact h.heeds.works h.caught ok silent (h.taken positive) answered

theorem reports (h : Led σ k) {message : Message} (posts : k.posts = some message)
    (other : message.status ≠ .Playing)
    (moves : Situation.Moves (fun _ => False)
      (fun songID => message = { id := songID, status := .Ready }) σ τ)
    (known : ∀ songID, τ.next = some songID → songID ≠ UNKNOWN)
    (ready : message.status = .Ready → σ.next = some message.id →
      { command := .Play, id := message.id } ∈ τ.commands) : Led τ (k.communicate false) := by
  have same : Speaker.StartsNone k (k.communicate false) := by
    apply Speaker.startsNone_communicate
    intro posted also
    rw [posts] at also
    cases also
    exact other
  obtain ⟨-, -, nextSong⟩ := k.communicate_songs false
  have agreed := h.agreed.moves moves
  have nextQuiet : k.nextSong = UNKNOWN ∨
      τ.next = some k.nextSong ∧ ∀ m ∈ k.messages, m.status ≠ .Playing := by
    rcases h.nextQuiet with unset | ⟨selected, silent⟩
    · exact Or.inl unset
    · exact Or.inr ⟨Party.Moves.next moves selected, silent⟩
  have stored : Stored (k.communicate false) :=
    h.stored.communicate false h.fetches h.follows.next fun no => (nomatch no)
  refine ⟨agreed.of_startsNone same,
    (h.follows_moves moves known).of_same same.current nextSong same.playings,
    (h.fetches_moves moves).communicate false nextQuiet, stored, ?_, ?_⟩
  · apply h.alive.reports h.fetches posts
    · intro waits listed
      exact plays_moves moves (h.follows.selected waits.1).1 (fun no => no) listed
    · intro isReady waits named
      rw [mem_plays, ← named]
      apply ready isReady
      rw [named]
      exact (h.follows.selected waits.1).1
  · apply h.heeds.posted h.caught posts other
    intro x listed
    rcases Situation.mem_plays_of_moves moves listed with old | ⟨told, selected⟩
    · exact Or.inl old
    · refine Or.inr ⟨told, known x selected, ?_⟩
      intro starting
      rcases h.agreed.playings with none | ⟨-, named⟩
      · exact absurd none starting
      · rw [Party.Moves.next moves named] at selected
        exact (Option.some.inj selected).symm

theorem started (h : Led σ k) {message : Message} (posts : k.posts = some message)
    (playing : message.status = .Playing) (named : σ.next = some message.id) :
    Led σ.started (k.communicate false) := by
  have first := Speaker.playings_posted false h.agreed.songEnd posts playing
  obtain ⟨current, -, nextSong⟩ := k.communicate_songs false
  have own : σ.next = some k.currentSong ∧ (k.communicate false).playings = [] := by
    rcases h.agreed.playings with none | ⟨one, next⟩
    · rw [none] at first
      cases first
    · rw [one] at first
      exact ⟨next, (List.cons.inj first).2.symm⟩
  have stored : Stored (k.communicate false) :=
    h.stored.communicate false h.fetches h.follows.next fun no => (nomatch no)
  have songEnd := Speaker.songEnd_communicate false h.agreed.songEnd
  have follows := h.follows.started own.1 current nextSong
  have here := Speaker.sending_playing h.agreed.songEnd posts playing
  refine ⟨h.agreed.started own.1 own.2 current songEnd, follows, h.fetches.started here playing false,
    stored, ?_, ?_⟩
  · -- without a next song the speaker waits for nothing
    rintro ⟨some, -⟩
    exact absurd (follows.unset rfl) some
  · have starts : (Entry.own message).playing ≠ none := by
      obtain ⟨songID, status⟩ := message
      cases playing
      exact Option.some_ne_none songID
    apply h.heeds.started here starts own.2
    rw [← nextSong]
    exact follows.unset rfl

end Communication

end Led

def PartyEvent.fired : PartyEvent → Option TimerTask
  | .calls (.fireTask task) => some task
  | _ => none

def PartyEvent.communicating : PartyEvent → Option Bool
  | .communicates readable => some readable
  | _ => none

def PartyEvent.called : PartyEvent → Option Call
  | .calls c => some c
  | _ => none

def Comm.requested : Comm → Option Int
  | .requesting songID => some songID
  | _ => none

namespace Server
variable {s t : Server} {id : Int}

theorem Effect.selecting {c : Call} (effect : Effect id c s t) (stocked : s.Stocked)
    (before : s.Selecting) : t.Selecting := by
  cases effect with
  | quiet _ _ _ selecting => exact selecting stocked before
  | selects song _ _ _ _ next | repeats song _ _ _ next | plays song _ _ _ _ next =>
    left
    rw [next]
    exact Option.some_ne_none song
  | stops songID task _ _ _ _ _ _ _ selecting => exact selecting stocked before
  | starts song _ _ _ _ _ selecting => exact selecting

end Server

namespace Party
variable {p : Party} {id : Int}

def pendingCommand (p : Party) : Option PlaybackCommand := do
  let id ← p.clientID
  let update ← (p.server.queueOf id).updates .playback_command
  update.command

/-- While nothing plays, a Stop command takes the place of the Play command for a song
    that the speaker has yet to start. -/
def LosesPlay (p : Party) (e : PartyEvent) : Prop :=
  ∃ task ∈ e.fired, (task ∈ p.server.songTimer ∧ task.action = .stopActiveSong) ∧
    p.speaker.currentSongState ≠ .PLAYING ∧
      ∃ old ∈ p.pendingCommand, old.command = .Play ∧ old.id ≠ p.speaker.currentSong

/-- While nothing plays, the server does not answer the request for a song. -/
def FailsRequest (p : Party) (e : PartyEvent) : Prop :=
  ∃ readable ∈ e.communicating, p.serves readable = false ∧
    p.speaker.currentSongState ≠ .PLAYING ∧ ∃ songID ∈ p.speaker.comm.requested, songID ≠ UNKNOWN

/-- The timer does not take the delay of the song that is reported as playing. -/
def RejectsDelay (p : Party) (e : PartyEvent) : Prop :=
  e.communicating ≠ none ∧ (∃ message ∈ p.speaker.posts, message.status = .Playing) ∧
    ∃ song ∈ p.server.nextSong, ¬ p.server.accepts (Server.selectionDelay song)

/-- A user ends the session of the speaker, or polls for it. -/
def TakesSession (p : Party) (e : PartyEvent) : Prop :=
  ∃ c ∈ e.called, p.sparesSession c = false

/-- Nothing is done in the name of the speaker, and none of these happens. -/
def KeepsGoing (p : Party) (e : PartyEvent) : Prop :=
  (∀ c ∈ e.called, p.solitary c = true) ∧ ¬ p.LosesPlay e ∧ ¬ p.FailsRequest e ∧
    ¬ p.RejectsDelay e ∧ ¬ p.TakesSession e

instance (p : Party) (e : PartyEvent) : Decidable (p.LosesPlay e) :=
  inferInstanceAs (Decidable (∃ task ∈ e.fired, _))

instance (p : Party) (e : PartyEvent) : Decidable (p.FailsRequest e) :=
  inferInstanceAs (Decidable (∃ readable ∈ e.communicating, _))

instance (p : Party) (e : PartyEvent) : Decidable (p.RejectsDelay e) :=
  inferInstanceAs (Decidable (_ ∧ (∃ message ∈ p.speaker.posts, _) ∧ ∃ song ∈ p.server.nextSong, _))

instance (p : Party) (e : PartyEvent) : Decidable (p.TakesSession e) :=
  inferInstanceAs (Decidable (∃ c ∈ e.called, _))

instance (p : Party) (e : PartyEvent) : Decidable (p.KeepsGoing e) :=
  inferInstanceAs (Decidable ((∀ c ∈ e.called, _) ∧ _))

theorem stepAll_eq {e : PartyEvent} (keeps : p.KeepsGoing e) : p.stepAll e = p.step e := by
  obtain ⟨solitary, -, -, -, spares⟩ := keeps
  cases e with
  | calls c =>
    have allowed : p.allows c = true := by
      unfold allows
      rw [solitary c rfl, Bool.true_and]
      by_contra taken
      exact spares ⟨c, rfl, Bool.eq_false_iff.mpr taken⟩
    unfold stepAll step
    dsimp only
    rw [if_pos allowed]
  | _ => rfl

/-- The speaker has authenticated, nothing is under way and nothing plays. -/
def Dead (p : Party) (id : Int) : Prop :=
  p.clientID = some id ∧ p.speaker.comm = .idle ∧ p.speaker.playbackConnectionQueue = [] ∧
    p.serverPlaybackQueue = [] ∧ (p.server.queueOf id).answer p.poll = none ∧
    (p.server.queueOf id).updateTypeQueue = [] ∧ p.server.songTimer = [] ∧
    p.speaker.currentSongState ≠ .PLAYING

instance (p : Party) (id : Int) : Decidable (p.Dead id) := inferInstanceAs (Decidable (_ ∧ _))

def Going (files : Int → SongFile) (p : Party) : Prop :=
  p.Sound ∧ p.server.Stocked ∧
    (p.Unjoined files ∨ ∃ id, p.Linked id ∧ Led (p.situation id) p.speaker ∧ p.server.Selecting)

theorem Sound.known (sound : p.Sound) {songID : Int} (selected : (p.situation id).next = some songID) :
    songID ≠ UNKNOWN := by
  obtain ⟨song, next, same⟩ := Option.map_eq_some_iff.mp selected
  obtain ⟨r, hr, named, -⟩ := sound.agrees.next song next
  have positive := sound.positive r hr
  unfold UNKNOWN
  omega

theorem stocked_step (sound : p.Sound) (stocked : p.server.Stocked) (e : PartyEvent) :
    (p.step e).server.Stocked := by
  rcases step_server p e with same | ⟨c, called⟩
  · rw [same]
    exact stocked
  · have ids := congrArg List.length
      (Server.songIds_of_changes (Server.changes_call sound.agrees c))
    simp only [List.length_map] at ids
    unfold Server.Stocked
    rw [called, ids]
    exact stocked

theorem selecting_step (sound : p.Sound) (linked : p.Linked id) (stocked : p.server.Stocked)
    (genuine : ∀ message, p.speaker.posts = some message → message.status = .Playing →
      (p.situation id).next = some message.id)
    (before : p.server.Selecting) (e : PartyEvent) : (p.step e).server.Selecting := by
  -- neither a long poll nor the end of one concerns the songs
  have polled : ∀ ch, (p.server.call (.channelClosed ch)).Selecting := fun _ => before
  cases e with
  | calls c =>
    unfold step
    dsimp only
    split
    · rename_i allowed
      rcases foreign_of_allowed linked allowed with foreign | ⟨ch, rfl, -⟩
      · have effect := Server.effect_call linked.agrees linked.roster linked.speaker foreign
        exact effect.selecting stocked before
      · exact polled ch
    · exact before
  | authenticates ip =>
    unfold step
    dsimp only
    split
    · rename_i pending
      have client := linked.client
      rw [clientID, pending] at client
      cases client
    · exact before
  | polls ch =>
    unfold step
    dsimp only
    split
    · split
      · rw [Server.call, Server.registerRequest_apply]
        split <;> exact before
      · exact before
    · exact before
  | receives =>
    unfold step
    dsimp only
    split
    · split <;> exact before
    · exact before
  | timesOut =>
    unfold step
    dsimp only
    split
    · split
      · exact before
      · exact polled _
    · exact before
  | handles _ | listens _ =>
    unfold step
    dsimp only
    split <;> exact before
  | songEnds => exact before
  | communicates readable =>
    have posted : p.posted.Selecting := by
      cases posts : p.speaker.posts with
      | none =>
        unfold Party.posted
        rw [posts]
        split
        · rename_i none
          cases none
        · exact before
      | some message =>
        by_cases playing : message.status = .Playing
        · obtain ⟨song, selected, same⟩ :=
            Option.map_eq_some_iff.mp (genuine message posts playing)
          have effect := (effect_posted_playing linked sound.positive posts playing selected same).2
          exact effect.selecting stocked before
        · exact (effect_posted linked posts playing).selecting stocked before
    unfold step
    dsimp only
    split
    · exact before
    · exact posted

theorem led_start {files : Int → SongFile} (written : ∀ songID, files songID ≠ .writing) :
    Led unheard (.start files) := by
  constructor
  · refine ⟨fun no => (nomatch no), Or.inl rfl, ?_, List.Pairwise.nil, ?_⟩
    · intro songID no
      cases no
    · intro no
      cases no
  · refine ⟨Or.inl rfl, Or.inl rfl, ?_, List.Pairwise.nil, fun some => absurd rfl some, ?_, ?_⟩
    · intro songID no
      cases no
    · intro songID no
      cases no
    · intro no
      cases no
  · refine ⟨?_, ?_, List.Pairwise.nil, ?_, ?_, ?_, ?_⟩
    · intro m no
      cases no
    · intro songID no
      cases no
    · intro entry no
      cases no
    · intro no
      cases no
    · intro m no
      cases no
    · intro entry ready songID no
      cases no
  · refine ⟨Or.inl rfl, ?_, ?_, ?_, fun some => absurd rfl some, ?_, ?_⟩
    · intro no
      cases no
    · intro songID writing
      exact absurd writing (written songID)
    · intro songID no
      cases no
    · intro songID no
      cases no
    · intro songID no
      cases no
  · rintro ⟨some, -⟩
    exact absurd rfl some
  · refine ⟨⟨fun no => (nomatch no), List.Pairwise.nil, ?_, ?_, ?_, ?_⟩, ?_, fun some => absurd rfl some⟩
    · intro entry no
      cases no
    · intro _ entry ready songID no
      cases ready <;> cases no
    · intro entry ready songID no
      cases no
    · intro m no
      cases no
    · intro songID no
      cases no

theorem led_happens {e : PartyEvent} (sound : p.Sound) (linked : p.Linked id)
    (h : Led (p.situation id) p.speaker) (keeps : p.KeepsGoing e) (happens : p.Happens id e) :
    Led ((p.step e).situation id) (p.step e).speaker := by
  have known : ∀ songID, (p.situation id).next = some songID → songID ≠ UNKNOWN :=
    fun _ selected => sound.known selected
  have later : ∀ songID, ((p.step e).situation id).next = some songID → songID ≠ UNKNOWN :=
    fun _ selected => (sound.step e).known selected
  obtain ⟨-, keepsPlay, answers, accepts, -⟩ := keeps
  cases happens with
  | calls c event speaker moves =>
    rw [speaker]
    apply h.moves moves later _ fun _ no => no
    rintro waits ⟨⟨task, scheduled, rfl, stop⟩, pending⟩
    rw [event] at keepsPlay
    apply keepsPlay
    refine ⟨task, rfl, ⟨scheduled, stop⟩, waits.2, { command := .Play, id := p.speaker.nextSong }, ?_,
      rfl, ?_⟩
    · unfold pendingCommand
      rw [linked.client]
      change ((p.server.queueOf id).updates .playback_command >>= SessionUpdate.command) = _
      rw [pending]
      rfl
    · exact (h.follows.selected waits.1).2
  | waits speaker situation =>
    rw [speaker, situation]
    exact h
  | hears update loads event first speaker situation =>
    rw [speaker]
    exact h.hears loads known situation
  | listens found speaker situation =>
    rw [speaker, situation]
    exact h.poll found
  | ends speaker situation =>
    rw [speaker, situation]
    exact h.endMusic
  | works readable event served silent speaker situation =>
    rw [speaker, situation]
    apply h.works (p.serves readable) silent known served
    intro songID here refused
    by_contra neither
    obtain ⟨silent, some⟩ := not_or.mp neither
    rw [event] at answers
    apply answers
    refine ⟨readable, rfl, refused, silent, songID, ?_, some⟩
    rw [here]
    rfl
  | reports message event posts speaker moves ready refused =>
    rw [speaker]
    by_cases playing : message.status = .Playing
    · obtain ⟨song, selected, rejected⟩ := refused playing
      obtain ⟨readable, rfl⟩ := event
      exfalso
      apply accepts
      exact ⟨Option.some_ne_none readable, ⟨message, posts, playing⟩, song, selected, rejected⟩
    · exact h.reports posts playing moves later ready
  | starts message posts playing named speaker situation =>
    rw [speaker, situation]
    exact h.started posts playing named

theorem Going.step {files : Int → SongFile} (written : ∀ songID, files songID ≠ .writing)
    (h : p.Going files) {e : PartyEvent} (keeps : p.KeepsGoing e) : (p.step e).Going files := by
  obtain ⟨sound, stocked, unjoined | ⟨id, linked, led, selecting⟩⟩ := h
  · refine ⟨sound.step e, stocked_step sound stocked e, ?_⟩
    rcases unjoined.step sound e with still | ⟨id, welcomed⟩
    · exact Or.inl still
    · right
      refine ⟨id, welcomed.linked, ?_, Or.inl welcomed.selected⟩
      rw [welcomed.speaker]
      apply (led_start written).moves welcomed.moves
      · intro songID selected
        exact (sound.step e).known selected
      · exact fun _ no => no
      · exact fun _ no => no
  · have genuine := genuine_of_agreed led.agreed
    obtain ⟨what, still⟩ := happens sound linked genuine e
    refine ⟨sound.step e, stocked_step sound stocked e, Or.inr ⟨id, still, ?_, ?_⟩⟩
    · exact led_happens sound linked led keeps what
    · exact selecting_step sound linked stocked genuine selecting e

theorem Going.not_dead {files : Int → SongFile} (h : p.Going files) (id : Int) : ¬ p.Dead id := by
  rintro ⟨client, idle, queue, taken, unanswered, pending, timer, silent⟩
  obtain ⟨sound, -, unjoined | ⟨own, linked, led, selecting⟩⟩ := h
  · rw [unjoined.client] at client
    cases client
  have same : own = id := Option.some.inj (linked.client.symm.trans client)
  subst same
  have unsent : p.speaker.unsent = [] := by
    unfold Speaker.unsent
    rw [idle, queue]
    rfl
  have nothing : ∀ t, (p.server.queueOf own).unread p.poll t = [] := by
    intro t
    unfold SessionUpdateQueue.unread
    rw [unanswered, linked.polled.consistent.no_updates pending t]
    rfl
  have announcements : (p.situation own).announcements = [] := by
    rw [situation_eq]
    unfold situationOf
    rw [nothing, nothing, taken]
    rfl
  have plays : (p.situation own).plays = [] := by
    rw [situation_eq]
    unfold Situation.plays situationOf
    rw [nothing, nothing, taken]
    rfl
  -- the timer has nothing to do, so there is a next song
  have selected : ∃ songID, (p.situation own).next = some songID := by
    rcases selecting with some | ⟨task, scheduled, -⟩
    · obtain ⟨song, next⟩ := Option.ne_none_iff_exists'.mp some
      exact ⟨song.id, congrArg (Option.map Song.id) next⟩
    · rw [timer] at scheduled
      cases scheduled
  obtain ⟨songID, next⟩ := selected
  rcases led.follows.heard songID next with current | taken | listed
  · rw [current] at next
    apply led.follows.reported next
    unfold Speaker.playings
    rw [unsent]
    rfl
  · rw [taken] at next
    obtain ⟨-, -, woken⟩ := led.alive ⟨sound.known next, silent⟩
    rcases woken with ⟨m, listed, -⟩ | busy | listed
    · unfold Speaker.messages at listed
      rw [unsent] at listed
      cases listed
    · unfold Speaker.Busy at busy
      rw [idle] at busy
      exact busy
    · rw [plays] at listed
      cases listed
  · rw [announcements] at listed
    cases listed

end Party

/-- As long as no Stop command takes the place of a Play command that the speaker needs,
    no request for a song fails while nothing plays, the timer takes the delays, and nobody
    takes the session of the speaker, the speaker never waits for the server while the
    server waits for the speaker. -/
theorem no_dead_state (music : List MusicRow) (clock : Nat) (files : Int → SongFile)
    (events : List PartyEvent) (stocked : 2 ≤ music.length)
    (written : ∀ songID, files songID ≠ .writing)
    (meets : StepsMeet Party.stepAll Party.KeepsGoing (.start music clock files) events) (id : Int) :
    ¬ (run Party.stepAll (.start music clock files) events).Dead id := by
  have going : (run Party.stepAll (.start music clock files) events).Going files := by
    apply invariant_of_stepsMeet Party.stepAll (Party.Going files) _ events _ _ meets
    · intro p e h keeps
      rw [Party.stepAll_eq keeps]
      exact h.step written keeps
    · refine ⟨Party.sound_start music clock files, ?_, Or.inl (Party.unjoined_start music clock files)⟩
      have rows := Server.length_transferData 1 music
      unfold Server.Stocked
      exact rows.symm ▸ stocked
  exact going.not_dead id

theorem first_song_keeps_going :
    2 ≤ twoSongs.length ∧ (∀ songID : Int, (fun _ : Int => SongFile.missing) songID ≠ .writing) ∧
      StepsMeet Party.stepAll Party.KeepsGoing (.start twoSongs 0 fun _ => .missing) firstSongEvents ∧
      ¬ (run Party.stepAll (.start twoSongs 0 fun _ => .missing) firstSongEvents).Dead 1 := by
  have written : ∀ songID : Int, (fun _ : Int => SongFile.missing) songID ≠ .writing := by
    intro songID no
    cases no
  have meets : StepsMeet Party.stepAll Party.KeepsGoing (.start twoSongs 0 fun _ => .missing)
      firstSongEvents := by decide +kernel
  exact ⟨by decide, written, meets, no_dead_state twoSongs 0 _ firstSongEvents (by decide) written meets 1⟩

/-- The first song is disliked, and has ended when the speaker has loaded the second
    one. The Stop command for the first song takes the place of the Play command for
    the second one. -/
def overwrittenEvents : List PartyEvent :=
  firstSongEvents ++
    [.communicates true, .calls (.authenticateUser (some "1234") "10.0.0.3"), .calls (.dislike 1 2),
      .polls 3, .receives, .handles true] ++
    List.replicate 7 (.communicates true) ++
    [.songEnds, .listens true] ++ List.replicate 8 (.communicates true) ++
    [.calls (.fireTask { id := 1, action := .stopActiveSong }), .polls 4, .receives, .handles true]

theorem overwritten_play_is_dead :
    (run Party.stepAll (.start twoSongs 0 fun _ => .missing) overwrittenEvents).Dead 1 := by
  decide +kernel

/-- A user at the address of the speaker ends its session before it has polled. -/
example : (run Party.stepAll (.start twoSongs 0 fun _ => .missing)
    [.authenticates "10.0.0.2", .calls (.destroySession 1)]).Dead 1 := by
  decide +kernel

end MusicCloud
