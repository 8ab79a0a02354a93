import MusicCloud.Fetching

/-!
A speaker that plays nothing goes on with its next song. Either a message that wakes
the song is still to be posted, or the communication thread works on the song, or a
Play command for it is on its way. Each step of the three threads, and each move of
the server, hands this on; only a Stop command that takes the place of the Play
command, or a request for the song that fails, could end it.
-/
namespace MusicCloud
open Runs

namespace Speaker

def Waits (k : Speaker) : Prop := k.nextSong ≠ MusicCloud.UNKNOWN ∧ k.currentSongState ≠ .PLAYING

def Busy (k : Speaker) : Prop :=
  match k.comm with
  | .marking songID => songID = k.nextSong
  | .requesting songID => songID = k.nextSong
  | .opening songID => songID = k.nextSong
  | .writing songID => songID = k.nextSong
  | .saved songID => songID = k.nextSong
  | .testing songID => songID = k.nextSong
  | .announcing songID => songID = k.nextSong
  | .sent entry => (k.content entry).status = .Stopped
  | .checkingNext _ => True
  | .checkingReady _ => True
  | .checkingUnknown _ => k.nextSongState = .UNKNOWN
  | .renewing _ _ => True
  | .rewriting _ _ songID => songID = k.nextSong
  | .resending entry songID =>
    k.content (rewritten entry (renewed true songID)) = { id := k.nextSong, status := .Ready }
  | .requeueing entry songID => (k.content (rewritten entry (renewed false songID))).Wakes k.nextSong
  | _ => False

def Fails (k : Speaker) : Prop :=
  k.comm = .marking MusicCloud.UNKNOWN ∨ k.comm = .requesting MusicCloud.UNKNOWN ∨ k.comm = .failed

theorem not_fails {k : Speaker} (idle : k.comm.loads = none) (running : k.comm ≠ .failed) :
    ¬ k.Fails := by
  rintro (fails | fails | fails)
  · rw [fails] at idle
    cases idle
  · rw [fails] at idle
    cases idle
  · exact running fails

end Speaker

/-- Something is under way that makes the speaker go on with the next song. -/
structure Woken (σ : Situation) (k : Speaker) : Prop where
  guarded : Guarded k.nextSong k.messages
  blocked : k.Fails → ∃ m ∈ k.messages, m.Wakes k.nextSong
  woken : (∃ m ∈ k.messages, m.Wakes k.nextSong) ∨ k.Busy ∨ k.nextSong ∈ σ.plays

/-- A speaker that waits has been woken. -/
def Alive (σ : Situation) (k : Speaker) : Prop := k.Waits → Woken σ k

section Plays
variable {σ τ : Situation} {songID : Int}

theorem mem_plays : songID ∈ σ.plays ↔ { command := .Play, id := songID } ∈ σ.commands := by
  unfold Situation.plays
  rw [List.mem_filterMap]
  constructor
  · rintro ⟨⟨command, id⟩, listed, named⟩
    cases command with
    | Play =>
      cases named
      exact listed
    | Stop => cases named
  · intro listed
    exact ⟨_, listed, rfl⟩

theorem plays_moves {lost : PlaybackCommand → Prop} {ready : Int → Prop} (moves : Situation.Moves lost ready σ τ)
    (selected : σ.next = some songID) (kept : ¬ lost { command := .Play, id := songID })
    (listed : songID ∈ σ.plays) : songID ∈ τ.plays := by
  induction moves with
  | refl => exact listed
  | tail before move ih =>
    have next := Party.Moves.next before selected
    rw [mem_plays] at ih ⊢
    cases move with
    | announce other older _ _ => exact ih
    | select other older _ _ _ => exact ih
    | play other older named _ _ =>
      rw [next] at named
      cases named
      exact List.mem_append_right older (List.mem_singleton_self _)
    | stop other older running replaced =>
      apply List.mem_append_left
      rcases replaced with same | ⟨old, gone, same⟩
      · rw [same] at ih
        exact ih
      · rw [same] at ih
        rcases List.mem_append.mp ih with older | last
        · exact older
        · rw [← List.mem_singleton.mp last] at gone
          exact absurd gone kept

end Plays

namespace Woken
variable {σ : Situation} {k : Speaker}

theorem of_stage (h : Woken σ k) {ok : Bool} (leaves : Speaker.leavesMessages k.comm = true)
    (fails : (k.communicate ok).Fails → ∃ m ∈ k.messages, m.Wakes k.nextSong)
    (busy : k.Busy → (k.communicate ok).Busy) : Woken σ (k.communicate ok) := by
  obtain ⟨-, -, nextSong⟩ := k.communicate_songs ok
  obtain ⟨messages, -⟩ := Speaker.messages_communicate ok leaves
  obtain ⟨guarded, -, woken⟩ := h
  refine ⟨?_, ?_, ?_⟩
  · rw [messages, nextSong]
    exact guarded
  · rw [messages, nextSong]
    exact fails
  · rw [messages, nextSong]
    rcases woken with message | working | listed
    · exact Or.inl message
    · exact Or.inr (Or.inl (busy working))
    · exact Or.inr (Or.inr listed)

theorem of_download (h : Woken σ k) {ok : Bool} {songID : Int} {next : Comm}
    (leaves : Speaker.leavesMessages k.comm = true) (after : (k.communicate ok).comm = next)
    (stage : next = .writing songID ∨ next = .saved songID ∨ next = .testing songID ∨
      next = .announcing songID)
    (busy : k.Busy → songID = k.nextSong) : Woken σ (k.communicate ok) := by
  obtain ⟨-, -, nextSong⟩ := k.communicate_songs ok
  apply h.of_stage leaves
  · rintro (fails | fails | fails) <;> rw [after] at fails <;>
      rcases stage with rfl | rfl | rfl | rfl <;> cases fails
  · intro working
    unfold Speaker.Busy
    rw [after, nextSong]
    rcases stage with rfl | rfl | rfl | rfl <;> exact busy working

theorem of_unloaded (h : Woken σ k) {ok : Bool} (leaves : Speaker.leavesMessages k.comm = true)
    (idle : (k.communicate ok).comm.loads = none) (running : (k.communicate ok).comm ≠ .failed)
    (busy : k.Busy → (k.communicate ok).Busy) : Woken σ (k.communicate ok) :=
  h.of_stage leaves (fun fails => absurd fails (Speaker.not_fails idle running)) busy

section Stages
variable (h : Woken σ k) (ok : Bool) {songID : Int} {entry : Entry}
include h

theorem marking (here : k.comm = .marking songID) : Woken σ (k.communicate ok) := by
  have after := Speaker.communicate_marking ok here
  apply h.of_stage
  · rw [here]
    rfl
  · rw [after]
    rintro (fails | fails | fails)
    · cases fails
    · apply h.blocked
      left
      rw [here, Comm.requesting.inj fails]
    · cases fails
  · unfold Speaker.Busy
    rw [here, after]
    exact id

theorem requesting (here : k.comm = .requesting songID) (known : k.nextSong ≠ UNKNOWN)
    (refused : ok = false → songID = UNKNOWN) : Woken σ (k.communicate ok) := by
  have after := Speaker.communicate_requesting ok here
  apply h.of_stage
  · rw [here]
    rfl
  · rw [after]
    intro fails
    cases ok with
    | true => rcases fails with fails | fails | fails <;> cases fails
    | false =>
      apply h.blocked
      right
      left
      rw [here, refused rfl]
  · unfold Speaker.Busy
    rw [here, after]
    cases ok with
    | true => exact id
    | false =>
      intro same
      exact absurd (same.symm.trans (refused rfl)) known

theorem failed (here : k.comm = .failed) : Woken σ (k.communicate ok) := by
  have after := Speaker.communicate_failed ok here
  apply h.of_unloaded
  · rw [here]
    rfl
  · rw [after]
    rfl
  · rw [after]
    simp
  · unfold Speaker.Busy
    rw [here]
    exact False.elim

theorem sent (here : k.comm = .sent entry) : Woken σ (k.communicate ok) := by
  have after := Speaker.communicate_sent ok here
  apply h.of_unloaded
  · rw [here]
    rfl
  · rw [after]
    dsimp only
    split <;> rfl
  · rw [after]
    dsimp only
    split <;> simp
  · unfold Speaker.Busy
    rw [here, after]
    intro stopped
    dsimp only at stopped ⊢
    rw [if_pos stopped]
    trivial

theorem checkingNext (here : k.comm = .checkingNext entry) (known : k.nextSong ≠ UNKNOWN) :
    Woken σ (k.communicate ok) := by
  have after := Speaker.communicate_checkingNext ok here
  rw [if_pos known] at after
  apply h.of_unloaded
  · rw [here]
    rfl
  · rw [after]
    rfl
  · rw [after]
    simp
  · unfold Speaker.Busy
    rw [after]
    exact fun _ => trivial

theorem checkingReady (here : k.comm = .checkingReady entry) (stored : Stored k) :
    Woken σ (k.communicate ok) := by
  have after := Speaker.communicate_checkingReady ok here
  apply h.of_unloaded
  · rw [here]
    rfl
  · rw [after]
    dsimp only
    split <;> rfl
  · rw [after]
    dsimp only
    split <;> simp
  · unfold Speaker.Busy
    rw [after]
    intro _
    dsimp only
    rcases stored.states with unknown | downloading | ready
    · rw [unknown]
      rfl
    · have quiet : ¬ k.Downloads :=
        Stored.unloaded (by rw [here]; rfl) (by rw [here]; rfl) (by rw [here]; simp)
      exact absurd (stored.downloads downloading) quiet
    · rw [if_pos ready]
      trivial

theorem checkingUnknown (here : k.comm = .checkingUnknown entry) : Woken σ (k.communicate ok) := by
  have after := Speaker.communicate_checkingUnknown ok here
  apply h.of_unloaded
  · rw [here]
    rfl
  · rw [after]
    dsimp only
    split <;> rfl
  · rw [after]
    dsimp only
    split <;> simp
  · unfold Speaker.Busy
    rw [here, after]
    intro unknown
    dsimp only at unknown ⊢
    rw [if_pos unknown]
    trivial

theorem renewing {ready : Bool} (here : k.comm = .renewing entry ready) :
    Woken σ (k.communicate ok) := by
  have after := Speaker.communicate_renewing ok here
  apply h.of_unloaded
  · rw [here]
    rfl
  · rw [after]
    rfl
  · rw [after]
    simp
  · unfold Speaker.Busy
    rw [after]
    exact fun _ => rfl

theorem rewriting {ready : Bool} (here : k.comm = .rewriting entry ready songID)
    (same : songID = k.nextSong) (known : k.nextSong ≠ UNKNOWN) : Woken σ (k.communicate ok) := by
  subst same
  obtain ⟨-, -, nextSong⟩ := k.communicate_songs ok
  obtain ⟨before, messages⟩ := Speaker.messages_rewriting ok here
  have after := Speaker.communicate_rewriting ok here
  have wakes : (Speaker.renewed ready k.nextSong).Wakes k.nextSong := by
    cases ready with
    | true => exact Or.inr ⟨rfl, Or.inr rfl⟩
    | false => exact Or.inr ⟨rfl, Or.inl rfl⟩
  have written := fun e => Speaker.content_setContent (s := k) entry e (Speaker.renewed ready k.nextSong)
  have waking : ∀ e, (k.content e).Wakes k.nextSong →
      ((k.setContent entry (Speaker.renewed ready k.nextSong)).content e).Wakes k.nextSong := by
    intro e woken
    rcases written e with same | new
    · rw [same]
      exact woken
    · rw [new]
      exact wakes
  obtain ⟨guarded, -, woken⟩ := h
  rw [before] at guarded woken
  refine ⟨?_, ?_, ?_⟩
  · rw [messages, nextSong]
    apply guarded_rewritten _ _ guarded
    · exact fun e _ => waking e
    · intro e _ none
      rcases written e with same | new
      · rw [← same]
        exact none
      · rw [new] at none
        exact absurd (congrArg Message.id none) known
  · intro fails
    refine absurd fails (Speaker.not_fails ?_ ?_) <;> rw [after] <;> cases ready <;>
      simp [Speaker.setComm, Comm.loads]
  · rw [messages, nextSong]
    rcases woken with ⟨m, listed, woken⟩ | - | listed
    · obtain ⟨e, waits, rfl⟩ := List.mem_map.mp listed
      exact Or.inl ⟨_, List.mem_map_of_mem waits, waking e woken⟩
    · right
      left
      unfold Speaker.Busy
      rw [nextSong, after]
      have content := Speaker.content_rewritten (s := k) entry (Speaker.renewed ready k.nextSong)
      cases ready with
      | true => exact content
      | false =>
        rw [← content] at wakes
        exact wakes
    · exact Or.inr (Or.inr listed)

theorem requeueing (here : k.comm = .requeueing entry songID)
    (other : k.content (Speaker.rewritten entry (Speaker.renewed false songID)) ≠ .needNone) :
    Woken σ (k.communicate ok) := by
  obtain ⟨-, -, nextSong⟩ := k.communicate_songs ok
  have messages := Speaker.messages_requeueing ok here
  have after := Speaker.communicate_requeueing ok here
  obtain ⟨guarded, -, woken⟩ := h
  refine ⟨?_, ?_, ?_⟩
  · rw [messages, nextSong]
    exact guarded_concat other guarded
  · intro fails
    refine absurd fails (Speaker.not_fails ?_ ?_) <;> rw [after] <;> simp [Speaker.setComm, Comm.loads]
  · rw [messages, nextSong]
    rcases woken with ⟨m, listed, wakes⟩ | busy | listed
    · exact Or.inl ⟨m, List.mem_append_left _ listed, wakes⟩
    · unfold Speaker.Busy at busy
      rw [here] at busy
      exact Or.inl ⟨_, List.mem_append_right _ (List.mem_singleton_self _), busy⟩
    · exact Or.inr (Or.inr listed)

end Stages

section Reports
variable {τ : Situation} (h : Woken σ k) {songID : Int} {entry : Entry}
  (kept : k.nextSong ∈ σ.plays → k.nextSong ∈ τ.plays)
include h kept

theorem of_report (leaves : Speaker.leavesMessages k.comm = true)
    (after : k.communicate false = { k with comm := .idle })
    (ready : k.Busy → k.nextSong ∈ τ.plays) : Woken τ (k.communicate false) := by
  obtain ⟨-, -, nextSong⟩ := k.communicate_songs false
  obtain ⟨messages, -⟩ := Speaker.messages_communicate false leaves
  refine ⟨?_, ?_, ?_⟩
  · rw [messages, nextSong]
    exact h.guarded
  · rw [after]
    exact fun fails => absurd fails (Speaker.not_fails rfl (by simp))
  · rw [messages, nextSong]
    rcases h.woken with waking | working | listed
    · exact Or.inl waking
    · exact Or.inr (Or.inr (ready working))
    · exact Or.inr (Or.inr (kept listed))

theorem announced (here : k.comm = .announcing songID)
    (ready : songID = k.nextSong → k.nextSong ∈ τ.plays) : Woken τ (k.communicate false) := by
  apply h.of_report kept (by rw [here]; rfl) (Speaker.communicate_announcing false here)
  unfold Speaker.Busy
  rw [here]
  exact ready

theorem resent (here : k.comm = .resending entry songID)
    (ready : (k.content (Speaker.rewritten entry (Speaker.renewed true songID))).status = .Ready →
      (k.content (Speaker.rewritten entry (Speaker.renewed true songID))).id = k.nextSong →
        k.nextSong ∈ τ.plays) : Woken τ (k.communicate false) := by
  apply h.of_report kept (by rw [here]; rfl) (Speaker.communicate_resending false here)
  unfold Speaker.Busy
  rw [here]
  intro working
  exact ready (congrArg Message.status working) (congrArg Message.id working)

theorem posted (here : k.comm = .sending entry) (other : (k.content entry).status ≠ .need_song)
    (ready : (k.content entry).status = .Ready → (k.content entry).id = k.nextSong →
      k.nextSong ∈ τ.plays) : Woken τ (k.communicate false) := by
  obtain ⟨-, -, nextSong⟩ := k.communicate_songs false
  have after := Speaker.communicate_sending false here
  obtain ⟨guarded, -, woken⟩ := h
  rw [Speaker.messages_posted false here] at guarded woken
  refine ⟨?_, ?_, ?_⟩
  · rw [nextSong]
    exact guarded.2
  · rw [after]
    exact fun fails => absurd fails (Speaker.not_fails rfl (by simp))
  · rw [nextSong]
    rcases woken with ⟨m, listed, wakes⟩ | working | listed
    · rcases List.mem_cons.mp listed with first | later
      · right
        rw [first] at wakes
        rcases wakes with stopped | ⟨named, needs | isReady⟩
        · left
          unfold Speaker.Busy
          rw [after]
          exact stopped
        · exact absurd needs other
        · exact Or.inr (ready isReady named)
      · exact Or.inl ⟨m, later, wakes⟩
    · unfold Speaker.Busy at working
      rw [here] at working
      exact working.elim
    · exact Or.inr (Or.inr (kept listed))

end Reports

theorem picks (h : Woken σ k) (ok : Bool) (idle : k.comm = .idle) {entry : Entry} {rest : List Entry}
    (queued : k.playbackConnectionQueue = entry :: rest)
    (other : (k.content entry).status ≠ .need_song) : Woken σ (k.communicate ok) := by
  obtain ⟨-, -, nextSong⟩ := k.communicate_songs ok
  have after := Speaker.communicate_picks ok idle queued other
  have remaining : (k.communicate ok).messages = k.messages := by
    rw [after, Speaker.messages_idle idle, queued]
    rfl
  obtain ⟨guarded, -, woken⟩ := h
  refine ⟨?_, ?_, ?_⟩
  · rw [remaining, nextSong]
    exact guarded
  · rw [after]
    rintro (fails | fails | fails) <;> cases fails
  · rw [remaining, nextSong]
    rcases woken with message | busy | listed
    · exact Or.inl message
    · unfold Speaker.Busy at busy
      rw [idle] at busy
      exact busy.elim
    · exact Or.inr (Or.inr listed)

end Woken

namespace Alive
variable {σ τ : Situation} {k t : Speaker}

theorem of_last {l : List Message} {last : Message} (messages : t.messages = l ++ [last])
    (wakes : last.Wakes t.nextSong) (other : last ≠ .needNone) : Alive σ t := by
  intro _
  have listed : ∃ m ∈ t.messages, m.Wakes t.nextSong := by
    refine ⟨last, ?_, wakes⟩
    rw [messages]
    exact List.mem_append_right l (List.mem_singleton_self last)
  refine ⟨?_, fun _ => listed, Or.inl listed⟩
  rw [messages]
  exact guarded_append wakes other l

theorem of_stopped {l : List Message} {last : Message} (messages : t.messages = l ++ [last])
    (stopped : last.status = .Stopped) : Alive σ t := by
  apply of_last messages (Or.inl stopped)
  rintro rfl
  cases stopped

theorem of_playing (playing : t.currentSongState = .PLAYING) : Alive σ t := by
  rintro ⟨-, silent⟩
  exact absurd playing silent

theorem of_plays (h : Alive σ k) (kept : k.Waits → k.nextSong ∈ σ.plays → k.nextSong ∈ τ.plays) :
    Alive τ k := by
  intro waits
  obtain ⟨guarded, blocked, woken⟩ := h waits
  refine ⟨guarded, blocked, ?_⟩
  rcases woken with message | busy | listed
  · exact Or.inl message
  · exact Or.inr (Or.inl busy)
  · exact Or.inr (Or.inr (kept waits listed))

theorem endMusic (h : Alive σ k) : Alive σ k.endMusic := by
  intro waits
  obtain ⟨guarded, blocked, woken⟩ := h waits
  exact ⟨guarded, blocked, woken⟩

theorem fetch {songID : Int} (positive : songID ≠ UNKNOWN) :
    Alive σ ({ k with nextSong := songID, nextSongState := .UNKNOWN }.fetchSong songID) := by
  let j : Speaker := { k with nextSong := songID, nextSongState := .UNKNOWN }
  have taken : (j.fetchSong songID).nextSong = songID := by
    unfold Speaker.fetchSong
    dsimp only
    split <;> (try split) <;> rfl
  have state : (j.fetchSong songID).currentSongState = k.currentSongState := by
    unfold Speaker.fetchSong
    dsimp only
    split <;> (try split) <;> rfl
  rcases Speaker.fetchSong_cases (k := j) songID with ⟨messages, -⟩ | ⟨-, -, messages | ⟨playing, -⟩⟩
  · apply of_last messages
    · exact Or.inr ⟨taken.symm, Or.inl rfl⟩
    · intro same
      exact positive (congrArg Message.id same)
  · apply of_last messages
    · exact Or.inr ⟨taken.symm, Or.inr rfl⟩
    · intro same
      exact positive (congrArg Message.id same)
  · apply of_playing
    exact state.trans playing

theorem stop (h : Alive σ k) (songID : Int) : Alive σ (k.handleStopCommand songID) := by
  unfold Speaker.handleStopCommand
  split
  · have reported : ({ k.endMusic with currentSongState := .STOPPED }.message songID .Stopped).messages =
        k.messages ++ [{ id := songID, status := .Stopped }] := by
      apply Speaker.messages_put <;> rfl
    exact of_stopped reported rfl
  · exact h

theorem poll (h : Alive σ k) (found : Bool) : Alive σ (k.poll found) := by
  unfold Speaker.poll
  split
  · split
    · rename_i first rest _
      have reported : ({ k with
          songEnds := rest, currentSongState := .STOPPED
          songEnd := { id := k.currentSong, status := .Stopped } : Speaker }.put .songEnd).messages = _ :=
        Speaker.messages_songEnd (k := k) rfl rfl
      exact of_stopped reported rfl
    · exact h
  · exact h

section Fetching
variable {next : Option Int}
  (selected : k.nextSong = UNKNOWN ∨ next = some k.nextSong ∧ k.nextSong ≠ k.currentSong)
  (fetches : Fetches next k) (stored : Stored k)
include selected

theorem asked (known : k.nextSong ≠ UNKNOWN) {songID : Int} (asks : k.Asks next songID)
    (other : songID ≠ UNKNOWN) : songID = k.nextSong := by
  rcases asks with none | ⟨named, -⟩
  · exact absurd none other
  · rcases selected with none | ⟨next, -⟩
    · exact absurd none known
    · rw [named] at next
      exact Option.some.inj next

include fetches stored

theorem downloading (h : Alive σ k) (waits : k.Waits) (state : k.nextSongState = .DOWNLOADING) :
    (∃ m ∈ k.messages, m.Wakes k.nextSong) ∨ k.Busy := by
  obtain ⟨-, blocked, -⟩ := h waits
  have works : ∀ songID ∈ k.comm.loads, songID ≠ UNKNOWN → songID = k.nextSong := by
    intro songID loads other
    exact asked selected waits.1 (fetches.loads songID loads) other
  rcases stored.downloads state with marked | ⟨songID, saved⟩ | failed
  · cases here : k.comm with
    | requesting songID =>
      by_cases none : songID = UNKNOWN
      · left
        apply blocked
        right
        left
        rw [here, none]
      · right
        unfold Speaker.Busy
        rw [here]
        exact works songID (by rw [here]; rfl) none
    | opening songID | writing songID =>
      right
      unfold Speaker.Busy
      rw [here]
      exact works songID (by rw [here]; rfl) (stored.served songID (by rw [here]; rfl))
    | _ =>
      rw [here] at marked
      exact absurd rfl marked
  · right
    unfold Speaker.Busy
    rw [saved]
    exact works songID (by rw [saved]; rfl) (stored.served songID (by rw [saved]; rfl))
  · exact Or.inl (blocked (Or.inr (Or.inr failed)))

theorem play (h : Alive σ k) {songID : Int} (loads : Bool) (heard : σ.plays = songID :: τ.plays) :
    Alive τ (k.handlePlayCommand songID loads) := by
  -- a command for another song is none for the next one
  have elsewhere : songID ≠ k.nextSong → Alive τ k := by
    intro other
    apply h.of_plays
    intro _ listed
    rw [heard] at listed
    rcases List.mem_cons.mp listed with same | rest
    · exact absurd same.symm other
    · exact rest
  unfold Speaker.handlePlayCommand
  by_cases current : songID = k.currentSong
  · rw [if_pos current]
    intro waits
    apply elsewhere _ waits
    intro same
    rcases selected with none | ⟨-, different⟩
    · exact waits.1 none
    · exact different (same.symm.trans current)
  rw [if_neg current]
  by_cases starts : songID = k.nextSong ∧ k.currentSongState ≠ .PLAYING ∧ k.nextSongState = .READY
  · rw [if_pos starts]
    split
    · exact of_playing rfl
    · exact of_playing rfl
  rw [if_neg starts]
  by_cases unknown : songID = k.nextSong ∧ k.nextSongState = .UNKNOWN
  · rw [if_pos unknown]
    intro waits
    have asked : (k.message songID .need_song).messages =
        k.messages ++ [{ id := songID, status := .need_song }] := by
      apply Speaker.messages_put <;> rfl
    apply of_last asked
    · exact Or.inr ⟨unknown.1, Or.inl rfl⟩
    · intro same
      exact waits.1 (unknown.1.symm.trans (congrArg Message.id same))
    · exact waits
  · rw [if_neg unknown]
    by_cases other : songID = k.nextSong
    · intro waits
      obtain ⟨guarded, blocked, -⟩ := h waits
      have state : k.nextSongState = .DOWNLOADING := by
        rcases stored.states with no | downloading | ready
        · exact absurd ⟨other, no⟩ unknown
        · exact downloading
        · exact absurd ⟨other, waits.2, ready⟩ starts
      refine ⟨guarded, blocked, ?_⟩
      rcases downloading selected fetches stored h waits state with message | busy
      · exact Or.inl message
      · exact Or.inr (Or.inl busy)
    · exact elsewhere other

omit stored in
theorem takes (before : Woken σ k) (known : k.nextSong ≠ UNKNOWN) (ok : Bool) (idle : k.comm = .idle)
    {entry : Entry} {rest : List Entry} (queued : k.playbackConnectionQueue = entry :: rest)
    (needs : (k.content entry).status = .need_song) : Woken σ (k.communicate ok) := by
  obtain ⟨-, -, nextSong⟩ := k.communicate_songs ok
  have messages := Speaker.messages_idle idle
  rw [queued, List.map_cons] at messages
  have guarded := before.guarded
  rw [messages] at guarded
  have after := Speaker.communicate_takes ok idle queued needs
  have remaining : (k.communicate ok).messages = rest.map k.content := by
    rw [after]
    rfl
  have asks := fetches.queued (k.content entry) (by rw [messages]; exact List.mem_cons_self) needs
  by_cases none : (k.content entry).id = UNKNOWN
  · have lost : k.content entry = .needNone := by
      cases content : k.content entry
      rw [content] at needs none
      exact Message.mk.injEq _ _ _ _ ▸ ⟨none, needs⟩
    have later := guarded.1 lost
    rw [← remaining, ← nextSong] at later
    refine ⟨?_, fun _ => later, Or.inl later⟩
    rw [remaining, nextSong]
    exact guarded.2
  · refine ⟨?_, ?_, ?_⟩
    · rw [remaining, nextSong]
      exact guarded.2
    · rw [after]
      rintro (fails | fails | fails)
      · exact absurd (Comm.marking.inj fails) none
      · cases fails
      · cases fails
    · right
      left
      unfold Speaker.Busy
      rw [nextSong, after]
      exact asked selected known asks none

omit fetches stored in
theorem held (waits : k.Waits) {songID : Int} (holds : k.Holds next songID) : songID = k.nextSong := by
  rcases holds with named | ⟨-, same⟩
  · rcases selected with none | ⟨next, other⟩
    · exact absurd none waits.1
    · exact absurd (Option.some.inj (next.symm.trans named)) other
  · exact same

omit stored in
theorem requeues (waits : k.Waits) {m : Message} (renewal : m ∈ k.renewal) : m ≠ .needNone := by
  rintro rfl
  rcases fetches.reads _ renewal rfl with ⟨-, named⟩ | ⟨-, same⟩
  · rcases selected with none | ⟨next, other⟩
    · exact absurd none waits.1
    · exact absurd (Option.some.inj (next.symm.trans named)) other
  · exact waits.1 same.symm

theorem communicate (h : Alive σ k) (ok : Bool) (silent : k.posts = none)
    (answered : ∀ songID, k.comm = .requesting songID → ok = false →
      k.currentSongState = .PLAYING ∨ songID = UNKNOWN) : Alive σ (k.communicate ok) := by
  obtain ⟨-, state, nextSong⟩ := k.communicate_songs ok
  intro waits
  have before : k.Waits := by
    unfold Speaker.Waits at waits
    rw [state, nextSong] at waits
    exact waits
  have woken := h before
  cases here : k.comm with
  | idle =>
    cases queued : k.playbackConnectionQueue with
    | nil =>
      rw [Speaker.communicate_resting ok here queued]
      exact woken
    | cons entry rest =>
      by_cases needs : (k.content entry).status = .need_song
      · exact takes selected fetches woken before.1 ok here queued needs
      · exact woken.picks ok here queued needs
  | marking songID => exact woken.marking ok here
  | requesting songID =>
    -- the request fails for no song only, as no song is playing
    apply woken.requesting ok here before.1
    intro no
    rcases answered songID here no with playing | none
    · exact absurd playing before.2
    · exact none
  | opening songID =>
    have after := congrArg Speaker.comm (Speaker.communicate_opening ok here)
    apply woken.of_download (by rw [here]; rfl) after (Or.inl rfl)
    unfold Speaker.Busy
    rw [here]
    exact id
  | writing songID =>
    have after := congrArg Speaker.comm (Speaker.communicate_writing ok here)
    apply woken.of_download (by rw [here]; rfl) after (Or.inr (Or.inl rfl))
    unfold Speaker.Busy
    rw [here]
    exact id
  | saved songID =>
    have after := congrArg Speaker.comm (Speaker.communicate_saved ok here)
    apply woken.of_download (by rw [here]; rfl) after (Or.inr (Or.inr (Or.inl rfl)))
    unfold Speaker.Busy
    rw [here]
    exact id
  | failed => exact woken.failed ok here
  | testing songID =>
    have after := congrArg Speaker.comm (Speaker.communicate_testing ok here)
    rw [if_pos before.2] at after
    apply woken.of_download (by rw [here]; rfl) after (Or.inr (Or.inr (Or.inr rfl)))
    unfold Speaker.Busy
    rw [here]
    exact id
  | sent entry => exact woken.sent ok here
  | checkingNext entry => exact woken.checkingNext ok here before.1
  | checkingReady entry => exact woken.checkingReady ok here stored
  | checkingUnknown entry => exact woken.checkingUnknown ok here
  | renewing entry ready => exact woken.renewing ok here
  | rewriting entry ready songID =>
    have same := held selected before (fetches.holds entry ready songID here)
    exact woken.rewriting ok here same before.1
  | requeueing entry songID =>
    apply woken.requeueing ok here
    apply requeues selected fetches before
    unfold Speaker.renewal
    rw [here]
    rfl
  | announcing _ | sending _ | resending _ _ =>
    rw [Speaker.posts, here] at silent
    cases silent

omit selected stored in
theorem reports (h : Alive σ k) {message : Message} (posts : k.posts = some message)
    (kept : k.Waits → k.nextSong ∈ σ.plays → k.nextSong ∈ τ.plays)
    (ready : message.status = .Ready → k.Waits → message.id = k.nextSong → k.nextSong ∈ τ.plays) :
    Alive τ (k.communicate false) := by
  obtain ⟨-, state, nextSong⟩ := k.communicate_songs false
  intro waits
  have before : k.Waits := by
    unfold Speaker.Waits at waits
    rw [state, nextSong] at waits
    exact waits
  have woken := h before
  unfold Speaker.posts at posts
  cases here : k.comm with
  | announcing songID =>
    rw [here] at posts
    cases posts
    exact woken.announced (kept before) here (ready rfl before)
  | sending entry =>
    rw [here] at posts
    cases posts
    exact woken.posted (kept before) here (fetches.outgoing entry here) fun isReady => ready isReady before
  | resending entry songID =>
    rw [here] at posts
    cases posts
    exact woken.resent (kept before) here fun isReady => ready isReady before
  | _ =>
    rw [here] at posts
    cases posts

end Fetching

end Alive
end MusicCloud
