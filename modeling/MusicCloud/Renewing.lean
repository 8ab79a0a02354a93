import MusicCloud.Fetching
import Mathlib.Data.List.DropRight

/-!
A song that the speaker has been told to play is not asked for once more. Of the
report that a song has ended the communication thread makes another message: that the
next song is ready, or that it has to be fetched. A Play command for the song is on its
way only when a Ready message for it has been posted, and from then on the song stays
ready until no report of an end is left.
-/
namespace MusicCloud
open Runs

/-- What the communication thread works on. -/
def Comm.hand : Comm → List Entry
  | .idle => []
  | .marking songID => [.own (Speaker.renewed false songID)]
  | .requesting songID => [.own (Speaker.renewed false songID)]
  | .opening songID => [.own (Speaker.renewed false songID)]
  | .writing songID => [.own (Speaker.renewed false songID)]
  | .saved songID => [.own (Speaker.renewed false songID)]
  | .failed => []
  | .testing songID => [.own (Speaker.renewed false songID)]
  | .announcing songID => [.own (Speaker.renewed false songID)]
  | .sending _ => []
  | .sent entry => [entry]
  | .checkingNext entry => [entry]
  | .checkingReady entry => [entry]
  | .checkingUnknown entry => [entry]
  | .renewing entry _ => [entry]
  | .rewriting entry _ _ => [entry]
  | .resending entry songID => [Speaker.rewritten entry (Speaker.renewed true songID)]
  | .requeueing entry songID => [Speaker.rewritten entry (Speaker.renewed false songID)]

def Comm.ended : Comm → Option Entry
  | .checkingNext entry => some entry
  | .checkingReady entry => some entry
  | .checkingUnknown entry => some entry
  | .renewing entry _ => some entry
  | .rewriting entry _ _ => some entry
  | _ => none

/-- The next song is about to be asked for once more. -/
def Comm.again : Comm → Bool
  | .renewing _ false => true
  | .rewriting _ false _ => true
  | .requeueing _ _ => true
  | _ => false

def Comm.requeues : Comm → Bool
  | .requeueing _ _ => true
  | _ => false

theorem rtakeWhile_cons_of_mem {α : Type} {p : α → Bool} {a b : α} {l : List α} (listed : b ∈ l)
    (stops : ¬ p b) : (a :: l).rtakeWhile p = l.rtakeWhile p := by
  induction l using List.reverseRecOn with
  | nil => cases listed
  | append_singleton l x ih =>
    rw [← List.cons_append, List.rtakeWhile_concat, List.rtakeWhile_concat]
    by_cases goes : p x
    · rw [if_pos goes, if_pos goes]
      rcases List.mem_append.mp listed with before | last
      · rw [ih before]
      · rw [List.mem_singleton.mp last] at stops
        exact absurd goes stops
    · rw [if_neg goes, if_neg goes]

theorem rtakeWhile_cons_of_neg {α : Type} {p : α → Bool} {a : α} {l : List α} (goes : ∀ b ∈ l, p b)
    (stops : ¬ p a) : (a :: l).rtakeWhile p = l := by
  induction l using List.reverseRecOn with
  | nil =>
    rw [← List.nil_append [a], List.rtakeWhile_concat, if_neg stops]
  | append_singleton l x ih =>
    rw [← List.cons_append, List.rtakeWhile_concat,
      if_pos (goes x (List.mem_append_right l (List.mem_singleton_self x))),
      ih fun b listed => goes b (List.mem_append_left [x] listed)]

namespace Speaker
variable {k t : Speaker}

/-- What has been put on the queue since the last song was started. -/
def recent (k : Speaker) : List Entry := k.unsent.rtakeWhile fun entry => entry.playing.isNone

/-- What the communication thread still does for the songs that the server knows of. -/
def work (k : Speaker) : List Entry :=
  (if k.playings = [] ∨ k.comm.requeues then k.comm.hand else []) ++ k.recent

def tasks (k : Speaker) : List Message := k.work.map k.content

theorem recent_eq (caught : k.playings = []) : k.recent = k.unsent := by
  apply List.rtakeWhile_eq_self_iff.mpr
  intro entry listed
  exact Option.isNone_iff_eq_none.mpr (List.filterMap_eq_nil_iff.mp caught entry listed)

theorem work_eq (caught : k.playings = []) : k.work = k.comm.hand ++ k.unsent := by
  unfold work
  rw [if_pos (Or.inl caught), recent_eq caught]

theorem recent_of_same (unsent : t.unsent = k.unsent) : t.recent = k.recent := by
  unfold recent
  rw [unsent]

theorem playings_of_unsent (unsent : t.unsent = k.unsent) : t.playings = k.playings := by
  unfold playings
  rw [unsent]

theorem work_of_hand (unsent : t.unsent = k.unsent) (requeues : t.comm.requeues = false)
    (hand : t.comm.hand.Sublist k.comm.hand) : t.work.Sublist k.work := by
  unfold work
  rw [recent_of_same unsent, playings_of_unsent unsent, requeues]
  apply List.Sublist.append_right
  by_cases caught : k.playings = []
  · rw [if_pos (Or.inl caught), if_pos (Or.inl caught)]
    exact hand
  · rw [if_neg (not_or.mpr ⟨caught, Bool.false_ne_true⟩)]
    exact List.nil_sublist _

theorem work_put {entry : Entry} (silent : entry.playing = none) (comm : t.comm = k.comm)
    (unsent : t.unsent = k.unsent ++ [entry]) : t.work = k.work ++ [entry] := by
  have playings : t.playings = k.playings := by
    unfold playings
    rw [unsent, List.filterMap_append]
    simp [silent]
  unfold work recent
  rw [playings, comm, unsent, List.rtakeWhile_concat_pos _ _ _ (by rw [silent]; rfl), List.append_assoc]

theorem work_started {songID : Int} (comm : t.comm.requeues = false)
    (unsent : t.unsent = k.unsent ++ [.own { id := songID, status := .Playing }]) : t.work = [] := by
  have playings : t.playings ≠ [] := by
    unfold playings
    rw [unsent, List.filterMap_append]
    simp [Entry.playing]
  unfold work recent
  rw [if_neg (not_or.mpr ⟨playings, by rw [comm]; exact Bool.false_ne_true⟩), unsent,
    List.rtakeWhile_concat_neg]
  · rfl
  · simp [Entry.playing]

/-- The first entry has been taken. -/
theorem work_taken {first : Entry} (silent : first.playing = none) (unsent : k.unsent = first :: t.unsent)
    (hand : k.comm.hand = []) (requeues : t.comm.requeues = false) :
    k.playings = [] ∧ k.work = first :: t.unsent ∧ t.work = t.comm.hand ++ t.unsent ∨
      k.playings ≠ [] ∧ t.work = k.work := by
  have playings : k.playings = t.playings := by
    unfold playings
    rw [unsent, List.filterMap_cons, silent]
  by_cases caught : k.playings = []
  · left
    refine ⟨caught, ?_, work_eq (playings ▸ caught)⟩
    rw [work_eq caught, hand, unsent]
    rfl
  · right
    refine ⟨caught, ?_⟩
    obtain ⟨entry, listed, starts⟩ : ∃ entry ∈ t.unsent, entry.playing ≠ none := by
      rw [playings] at caught
      by_contra none
      apply caught
      apply List.filterMap_eq_nil_iff.mpr
      intro entry listed
      by_contra some
      exact none ⟨entry, listed, some⟩
    have same : k.recent = t.recent := by
      unfold recent
      rw [unsent]
      apply rtakeWhile_cons_of_mem listed
      simpa using starts
    unfold work
    rw [hand, same, if_neg (not_or.mpr ⟨playings ▸ caught, by rw [requeues]; exact Bool.false_ne_true⟩)]
    simp

theorem work_sent {entry : Entry} (here : k.comm = .sending entry) (silent : entry.playing = none) :
    ({ k with comm := .sent entry } : Speaker).work = k.work := by
  rcases work_taken (k := k) (t := { k with comm := .sent entry }) silent
    (by unfold unsent; rw [here]; rfl) (by rw [here]; rfl) rfl with ⟨-, before, work⟩ | ⟨-, work⟩
  · rw [before, work]
    rfl
  · exact work

theorem work_rests (caught : k.playings = []) (outgoing : k.comm.outgoing = []) :
    k.work = k.comm.hand ++ ({ k with comm := .idle } : Speaker).work := by
  have unsent : ({ k with comm := .idle } : Speaker).unsent = k.unsent := by
    unfold Speaker.unsent
    rw [outgoing]
    rfl
  have playings : ({ k with comm := .idle } : Speaker).playings = [] := by
    rw [playings_of_unsent unsent, caught]
  rw [work_eq caught, work_eq playings, unsent]
  rfl

def Ended (k : Speaker) : Prop := ∃ m ∈ k.tasks, m.status = .Stopped

theorem tasks_of_fewer (work : t.work.Sublist k.work) (songEnd : t.songEnd = k.songEnd) :
    t.tasks.Sublist k.tasks := by
  unfold tasks
  rw [content_of_same songEnd]
  exact work.map k.content

theorem tasks_append {l : List Entry} (work : t.work = k.work ++ l) (songEnd : t.songEnd = k.songEnd) :
    t.tasks = k.tasks ++ l.map k.content := by
  unfold tasks
  rw [work, content_of_same songEnd, List.map_append]

/-- Messages about the next song that report no end. -/
def Tells (k : Speaker) (l : List Message) : Prop :=
  ∀ m ∈ l, m.status ≠ .Stopped ∧ m.id = k.nextSong ∧
    (m = renewed true k.nextSong → k.currentSongState ≠ .PLAYING)

theorem mem_tasks (caught : k.playings = []) (entry : Entry) (listed : entry ∈ k.comm.hand) :
    k.content entry ∈ k.tasks := by
  unfold tasks
  rw [work_eq caught, List.map_append]
  exact List.mem_append_left _ (List.mem_map_of_mem listed)

theorem ended_of_fewer (tasks : t.tasks.Sublist k.tasks) (ended : t.Ended) : k.Ended := by
  obtain ⟨m, listed, stopped⟩ := ended
  exact ⟨m, tasks.subset listed, stopped⟩

section Stages
variable (ok : Bool)

theorem ended_communicate {entry : Entry} (ended : entry ∈ (k.communicate ok).comm.ended) :
    entry ∈ k.comm.ended ∨ (k.content entry).status = .Stopped := by
  have passes := k.passes_communicate ok
  generalize (k.communicate ok).comm = after at passes ended
  generalize k.comm = before at passes
  cases passes with
  | stops other stopped =>
    cases ended
    exact Or.inr stopped
  | follows other _ | readies other _ | misses other | asks other _ | reads other _ => exact Or.inl ended
  | _ => cases ended

theorem again_communicate (again : (k.communicate ok).comm.again = true) : k.comm.again = true ∨
    (∃ entry, k.comm = .checkingUnknown entry) ∧ k.nextSongState = .UNKNOWN := by
  have passes := k.passes_communicate ok
  generalize (k.communicate ok).comm = after at passes again
  generalize k.comm = before at passes
  cases passes with
  | asks entry unknown => exact Or.inr ⟨⟨entry, rfl⟩, unknown⟩
  | reads entry ready =>
    cases ready with
    | true => cases again
    | false => exact Or.inl rfl
  | asked entry songID => exact Or.inl rfl
  | _ => cases again

theorem again_of_renewal {m : Message} (renews : m ∈ k.renewal) : k.comm.again = true := by
  unfold renewal at renews
  cases here : k.comm with
  | rewriting entry ready songID =>
    rw [here] at renews
    cases ready with
    | true => cases renews
    | false => rfl
  | requeueing entry songID => rfl
  | _ =>
    rw [here] at renews
    cases renews

theorem testing_communicate {songID : Int} (after : (k.communicate ok).comm = .testing songID) :
    k.comm = .saved songID := by
  have passes := k.passes_communicate ok
  rw [after] at passes
  generalize k.comm = before at passes
  cases passes
  rfl

theorem announcing_communicate {songID : Int} (after : (k.communicate ok).comm = .announcing songID) :
    k.comm = .testing songID ∧ k.currentSongState ≠ .PLAYING := by
  have passes := k.passes_communicate ok
  rw [after] at passes
  generalize k.comm = before at passes
  cases passes with
  | waits _ silent => exact ⟨rfl, silent⟩

theorem renewed_communicate {entry : Entry} {ready : Bool} {songID : Int}
    (after : (k.communicate ok).comm = if ready then .resending entry songID else .requeueing entry songID) :
    k.comm = .rewriting entry ready songID := by
  have passes := k.passes_communicate ok
  rw [after] at passes
  generalize k.comm = before at passes
  cases ready with
  | true => cases passes; rfl
  | false => cases passes; rfl

theorem failed_communicate (after : (k.communicate ok).comm = .failed) :
    ∃ songID, k.comm = .requesting songID ∧ ok = false := by
  have passes := k.passes_communicate ok
  rw [after] at passes
  cases here : k.comm with
  | requesting songID =>
    refine ⟨songID, rfl, ?_⟩
    rw [communicate_requesting ok here] at after
    cases ok with
    | true => cases after
    | false => rfl
  | _ =>
    rw [here] at passes
    cases passes

theorem hand_communicate (leaves : leavesMessages k.comm = true) :
    (k.communicate ok).comm.hand.Sublist k.comm.hand ∧ (k.communicate ok).comm.requeues = false := by
  have passes := k.passes_communicate ok
  generalize (k.communicate ok).comm = after at passes
  generalize k.comm = before at passes leaves
  cases passes with
  | rests | takes _ _ | picks _ _ | sends _ | readied _ _ | asked _ _ | requeues _ _ => cases leaves
  | refused _ | fails | plays _ | announces _ | reports _ | ends _ | loads _ | resends _ _ =>
    exact ⟨List.nil_sublist _, rfl⟩
  | _ => exact ⟨List.Sublist.refl _, rfl⟩

theorem nextSongState_communicate (running : k.comm ≠ .failed) :
    (k.communicate ok).nextSongState = k.nextSongState ∨
      (k.communicate ok).nextSongState ≠ .UNKNOWN := by
  unfold communicate
  cases here : k.comm with
  | marking songID =>
    right
    intro no
    cases no
  | saved songID =>
    right
    intro no
    cases no
  | failed => exact absurd here running
  | idle => cases k.playbackConnectionQueue <;> exact Or.inl rfl
  | rewriting entry ready songID => cases entry <;> exact Or.inl rfl
  | _ => exact Or.inl rfl

end Stages

section Rewriting
variable (ok : Bool) {entry : Entry} {ready : Bool} {songID : Int}
  (here : k.comm = .rewriting entry ready songID)
include here

theorem content_rewriting (e : Entry) : (k.communicate ok).content e = k.content e ∨
    (k.communicate ok).content e = renewed ready songID := by
  rw [communicate_rewriting ok here]
  exact content_setContent entry e _

theorem front_rewriting :
    (k.communicate ok).content (rewritten entry (renewed ready songID)) = renewed ready songID := by
  rw [communicate_rewriting ok here]
  exact content_rewritten entry _

theorem unended_rewriting {e : Entry} (stopped : ((k.communicate ok).content e).status = .Stopped) :
    (k.communicate ok).content e = k.content e := by
  rcases content_rewriting ok here e with same | new
  · exact same
  · rw [new] at stopped
    cases ready <;> cases stopped

theorem unsent_rewriting : (k.communicate ok).unsent = k.unsent := by
  unfold unsent
  rw [communicate_rewriting ok here, here]
  cases entry <;> cases ready <;> rfl

theorem comm_rewriting : (k.communicate ok).comm =
    if ready then .resending entry songID else .requeueing entry songID := by
  rw [communicate_rewriting ok here]
  rfl

theorem work_rewriting : (k.communicate ok).work = k.recent ∨
    (k.communicate ok).work = rewritten entry (renewed ready songID) :: k.recent := by
  unfold work
  rw [recent_of_same (unsent_rewriting ok here)]
  split
  · right
    rw [comm_rewriting ok here]
    cases ready <;> rfl
  · exact Or.inl rfl

theorem tasks_rewriting {m : Message} (listed : m ∈ (k.communicate ok).tasks) :
    m = renewed ready songID ∨
      ∃ e ∈ k.recent, m = k.content e ∧ (k.communicate ok).content e = k.content e := by
  have old : ∀ e ∈ k.recent, (k.communicate ok).content e = renewed ready songID ∨
      ∃ e' ∈ k.recent, (k.communicate ok).content e = k.content e' ∧
        (k.communicate ok).content e' = k.content e' := by
    intro e there
    rcases content_rewriting ok here e with same | new
    · exact Or.inr ⟨e, there, same, same⟩
    · exact Or.inl new
  obtain ⟨e, there, rfl⟩ := List.mem_map.mp listed
  rcases work_rewriting ok here with work | work
  · rw [work] at there
    exact old e there
  · rw [work] at there
    rcases List.mem_cons.mp there with rfl | there
    · exact Or.inl (front_rewriting ok here)
    · exact old e there

end Rewriting

end Speaker

/-- The reports and the messages about songs that the communication thread has still to
    work off. Only the dictionary for song ends is there more than once. -/
structure Piled (k : Speaker) : Prop where
  silent : k.currentSongState = .PLAYING → ∀ m ∈ k.tasks, m.status ≠ .Stopped
  ends : k.work.Pairwise fun first second => (k.content first).status = .Stopped →
    (k.content second).status = .Stopped → first = .songEnd ∧ second = .songEnd
  ended : ∀ entry ∈ k.comm.ended, (k.content entry).status = .Stopped
  held : k.playings = [] → ∀ entry ready songID,
    k.comm = (if ready then .resending entry songID else .requeueing entry songID) →
      k.currentSongState ≠ .PLAYING ∧ k.nextSong ≠ UNKNOWN ∧
        k.content (Speaker.rewritten entry (Speaker.renewed ready songID)) =
          Speaker.renewed ready k.nextSong
  read : ∀ entry ready songID, k.comm = .rewriting entry ready songID →
    songID = UNKNOWN ∨ songID = k.currentSong ∨ songID = k.nextSong
  named : ∀ m ∈ k.tasks, m.status = .need_song ∨ m.status = .Ready →
    m.id = UNKNOWN ∨ m.id = k.currentSong ∨ m.id = k.nextSong

/-- What holds of the next song: when a Play command for it is on its way and a report of an
    end is left, the song is ready or about to be. -/
structure Prompts (σ : Situation) (k : Speaker) : Prop where
  waits : k.nextSong ∈ σ.plays ∨ Speaker.renewed true k.nextSong ∈ k.tasks ∨
    k.comm = .announcing k.nextSong → k.currentSongState ≠ .PLAYING
  ready : k.comm = .testing k.nextSong ∨ k.comm = .announcing k.nextSong → k.nextSongState = .READY
  order : k.tasks.Pairwise fun first second =>
    first = Speaker.renewed true k.nextSong → second.status ≠ .Stopped
  asks : k.currentSongState = .PLAYING ∨ k.Ended → k.tasks.Pairwise fun first second =>
    first = Speaker.renewed false k.nextSong → second ≠ .needNone
  stays : k.nextSong ∈ σ.plays → k.Ended →
    k.nextSongState ≠ .UNKNOWN ∧ .needNone ∉ k.tasks ∧ k.comm ≠ .failed
  once : k.nextSong ∈ σ.plays → k.comm.again = false

/-- No song is started that the communication thread is about to ask for. -/
structure Heeds (σ : Situation) (k : Speaker) : Prop where
  piled : Piled k
  plays : ∀ songID ∈ σ.plays, songID = k.currentSong ∨ songID = k.nextSong
  prompts : k.nextSong ≠ UNKNOWN → Prompts σ k

section Kept
variable {σ : Situation} {k t : Speaker}

section Fewer
variable (tasks : t.tasks.Sublist k.tasks)
  (state : t.currentSongState = k.currentSongState) (next : t.nextSong = k.nextSong)
include tasks state next

theorem Piled.of_fewer (h : Piled k) (songEnd : t.songEnd = k.songEnd)
    (current : t.currentSong = k.currentSong)
    (ends : t.work.Pairwise fun first second => (k.content first).status = .Stopped →
      (k.content second).status = .Stopped → first = .songEnd ∧ second = .songEnd)
    (ended : ∀ entry ∈ t.comm.ended, (k.content entry).status = .Stopped)
    (read : ∀ entry ready songID, t.comm = .rewriting entry ready songID → songID = k.nextSong)
    (held : ∀ entry (ready : Bool) songID,
      t.comm ≠ if ready then .resending entry songID else .requeueing entry songID) : Piled t := by
  constructor
  · rw [state]
    intro playing m listed
    exact h.silent playing m (tasks.subset listed)
  · rw [Speaker.content_of_same songEnd]
    exact ends
  · rw [Speaker.content_of_same songEnd]
    exact ended
  · intro _ entry ready songID here
    exact absurd here (held entry ready songID)
  · rw [next]
    intro entry ready songID here
    exact Or.inr (Or.inr (read entry ready songID here))
  · rw [current, next]
    intro m listed
    exact h.named m (tasks.subset listed)

theorem Prompts.of_fewer (h : Prompts σ k)
    (waits : t.comm = .announcing k.nextSong → k.currentSongState ≠ .PLAYING)
    (ready : t.comm = .testing k.nextSong ∨ t.comm = .announcing k.nextSong → t.nextSongState = .READY)
    (stays : k.nextSong ∈ σ.plays → k.Ended → t.nextSongState ≠ .UNKNOWN ∧ t.comm ≠ .failed)
    (once : k.nextSong ∈ σ.plays → t.comm.again = false) : Prompts σ t := by
  constructor
  · rw [next, state]
    rintro (listed | told | announcing)
    · exact h.waits (Or.inl listed)
    · exact h.waits (Or.inr (Or.inl (tasks.subset told)))
    · exact waits announcing
  · rw [next]
    exact ready
  · rw [next]
    exact h.order.sublist tasks
  · rw [next, state]
    rintro (playing | ended)
    · exact (h.asks (Or.inl playing)).sublist tasks
    · exact (h.asks (Or.inr (Speaker.ended_of_fewer tasks ended))).sublist tasks
  · rw [next]
    intro listed ended
    have before := Speaker.ended_of_fewer tasks ended
    obtain ⟨-, none, -⟩ := h.stays listed before
    obtain ⟨known, running⟩ := stays listed before
    exact ⟨known, fun no => none (tasks.subset no), running⟩
  · rw [next]
    exact once

end Fewer

section Rewriting
variable (ok : Bool) {entry : Entry} {ready : Bool} {songID : Int}
  (here : k.comm = .rewriting entry ready songID)
include here

theorem Piled.quiet (h : Piled k) (caught : k.playings = []) : k.currentSongState ≠ .PLAYING := by
  intro playing
  apply h.silent playing (k.content entry)
  · apply Speaker.mem_tasks caught
    rw [here]
    exact List.mem_singleton_self entry
  · apply h.ended
    rw [here]
    rfl

/-- The report of an end becomes a message about the next song. With it no report of an
    end is left that was put since the last song was started: a second one is in the same
    dictionary. -/
theorem Piled.unended (h : Piled k) (caught : k.playings = []) :
    ∀ m ∈ (k.communicate ok).tasks, m.status ≠ .Stopped := by
  have other : (Speaker.renewed ready songID).status ≠ .Stopped := by
    cases ready <;> simp [Speaker.renewed]
  intro m there stopped
  rcases Speaker.tasks_rewriting ok here there with new | ⟨e, old, rfl, same⟩
  · rw [new] at stopped
    exact other stopped
  · have ends := h.ends
    rw [Speaker.work_eq caught, here] at ends
    have ended := h.ended entry (by rw [here]; rfl)
    obtain ⟨one, two⟩ :=
      (List.pairwise_cons.mp ends).1 e (Speaker.recent_eq caught ▸ old) ended stopped
    have front := Speaker.front_rewriting ok here
    rw [one, show Speaker.rewritten .songEnd (Speaker.renewed ready songID) = e from two.symm] at front
    rw [← same, front] at stopped
    exact other stopped

theorem Piled.rewrites (h : Piled k)
    (taken : k.playings = [] → songID = k.nextSong ∧ k.nextSong ≠ UNKNOWN) :
    Piled (k.communicate ok) := by
  obtain ⟨current, state, next⟩ := k.communicate_songs ok
  have other : (Speaker.renewed ready songID).status ≠ .Stopped := by
    cases ready <;> simp [Speaker.renewed]
  have front := Speaker.front_rewriting ok here
  have recent : k.recent.Sublist k.work := List.sublist_append_right _ _
  have before : ∀ e ∈ k.recent, k.content e ∈ k.tasks := fun e there =>
    List.mem_map_of_mem (recent.subset there)
  have renews := Speaker.comm_rewriting ok here
  constructor
  · rw [state]
    intro playing m there
    rcases Speaker.tasks_rewriting ok here there with new | ⟨e, old, same, -⟩
    · rw [new]
      exact other
    · rw [same]
      exact h.silent playing _ (before e old)
  · have ends : k.recent.Pairwise fun first second =>
        ((k.communicate ok).content first).status = .Stopped →
          ((k.communicate ok).content second).status = .Stopped →
            first = .songEnd ∧ second = .songEnd := by
      apply (h.ends.sublist recent).imp
      intro first second ends one two
      rw [Speaker.unended_rewriting ok here one] at one
      rw [Speaker.unended_rewriting ok here two] at two
      exact ends one two
    rcases Speaker.work_rewriting ok here with work | work
    · rw [work]
      exact ends
    · rw [work]
      refine List.pairwise_cons.mpr ⟨?_, ends⟩
      intro second _ one
      rw [front] at one
      exact absurd one other
  · rw [renews]
    intro e no
    cases ready <;> cases no
  · rw [Speaker.playings_of_unsent (Speaker.unsent_rewriting ok here), state, next, renews]
    intro caught e ready' songID' same
    obtain ⟨named, known⟩ := taken caught
    refine ⟨h.quiet here caught, known, ?_⟩
    rw [← named]
    cases ready <;> cases ready' <;> cases same <;> exact front
  · rw [renews]
    intro e ready' songID' no
    cases ready <;> cases no
  · rw [current, next]
    intro m there
    rcases Speaker.tasks_rewriting ok here there with new | ⟨e, old, same, -⟩
    · rw [new]
      exact fun _ => h.read entry ready songID here
    · rw [same]
      exact h.named _ (before e old)

theorem Prompts.rewrites (h : Prompts σ k) (piled : Piled k) (caught : k.playings = []) :
    Prompts σ (k.communicate ok) := by
  obtain ⟨-, state, next⟩ := k.communicate_songs ok
  have quiet := piled.quiet here caught
  have none := piled.unended ok here caught
  have renews := Speaker.comm_rewriting ok here
  constructor
  · rw [state]
    exact fun _ => quiet
  · rw [renews]
    intro no
    cases ready <;> rcases no with no | no <;> cases no
  · apply List.pairwise_of_forall_mem_list
    intro _ _ second there _
    exact none second there
  · rw [state]
    rintro (playing | ⟨m, there, stopped⟩)
    · exact absurd playing quiet
    · exact absurd stopped (none m there)
  · rintro - ⟨m, there, stopped⟩
    exact absurd stopped (none m there)
  · rw [next, renews]
    intro commanded
    cases ready with
    | true => rfl
    | false =>
      have once := h.once commanded
      rw [here] at once
      cases once

end Rewriting

section Grown
variable (comm : t.comm = k.comm) (next : t.nextSong = k.nextSong) {l : List Entry}
  (work : t.work = k.work ++ l) (songEnd : t.songEnd = k.songEnd)
  (state : t.currentSongState = k.currentSongState)
  (tells : k.Tells (l.map k.content))
include comm next work songEnd state tells

theorem Piled.grown (h : Piled k) (current : t.currentSong = k.currentSong)
    (playings : t.playings = k.playings) : Piled t := by
  have content := Speaker.content_of_same songEnd
  have tasks := Speaker.tasks_append work songEnd
  constructor
  · rw [state, tasks]
    intro playing m listed
    rcases List.mem_append.mp listed with old | new
    · exact h.silent playing m old
    · exact (tells m new).1
  · rw [content, work, List.pairwise_append]
    refine ⟨h.ends, ?_, ?_⟩
    · apply List.pairwise_of_forall_mem_list
      intro first there _ _ stopped
      exact absurd stopped (tells _ (List.mem_map_of_mem there)).1
    · intro first _ second there _ stopped
      exact absurd stopped (tells _ (List.mem_map_of_mem there)).1
  · rw [content, comm]
    exact h.ended
  · rw [playings, comm, state, next, content]
    exact h.held
  · rw [comm, current, next]
    exact h.read
  · rw [tasks, current, next]
    intro m listed status
    rcases List.mem_append.mp listed with old | new
    · exact h.named m old status
    · exact Or.inr (Or.inr (tells m new).2.1)

theorem Prompts.grown (h : Prompts σ k) (known : k.nextSong ≠ UNKNOWN)
    (ready : t.nextSongState = k.nextSongState ∨ t.nextSongState = .READY) : Prompts σ t := by
  have tasks := Speaker.tasks_append work songEnd
  have named : ∀ m ∈ l.map k.content, m ≠ .needNone := by
    rintro m there rfl
    exact known (tells _ there).2.1.symm
  have ended : t.Ended → k.Ended := by
    rintro ⟨m, listed, stopped⟩
    rw [tasks] at listed
    rcases List.mem_append.mp listed with old | new
    · exact ⟨m, old, stopped⟩
    · exact absurd stopped (tells m new).1
  constructor
  · rw [next, state, tasks, comm]
    rintro (listed | told | here)
    · exact h.waits (Or.inl listed)
    · rcases List.mem_append.mp told with old | new
      · exact h.waits (Or.inr (Or.inl old))
      · exact (tells _ new).2.2 rfl
    · exact h.waits (Or.inr (Or.inr here))
  · rw [comm, next]
    intro here
    rcases ready with same | ready
    · exact same.trans (h.ready here)
    · exact ready
  · rw [tasks, next, List.pairwise_append]
    refine ⟨h.order, ?_, ?_⟩
    · apply List.pairwise_of_forall_mem_list
      intro _ _ second there _
      exact (tells second there).1
    · intro _ _ second there _
      exact (tells second there).1
  · rw [tasks, next, state, List.pairwise_append]
    intro left
    refine ⟨h.asks (left.imp id ended), ?_, ?_⟩
    · apply List.pairwise_of_forall_mem_list
      intro _ _ second there _
      exact named second there
    · intro _ _ second there _
      exact named second there
  · rw [next, tasks, comm]
    intro listed left
    obtain ⟨unlost, none, running⟩ := h.stays listed (ended left)
    refine ⟨?_, ?_, running⟩
    · rcases ready with same | ready
      · rw [same]
        exact unlost
      · rw [ready]
        intro no
        cases no
    · intro there
      rcases List.mem_append.mp there with old | new
      · exact none old
      · exact named _ new rfl
  · rw [next, comm]
    exact h.once

end Grown

section Over
variable (comm : t.comm = k.comm) (next : t.nextSong = k.nextSong)
  (playing : k.currentSongState = .PLAYING) (silent : t.currentSongState ≠ .PLAYING)
  {last : Entry} (work : t.work = k.work ++ [last]) (stopped : (t.content last).status = .Stopped)
  (content : ∀ e, t.content e = k.content e ∨
    e = .songEnd ∧ last = .songEnd ∧ (t.content e).status = .Stopped)

include work stopped content in
theorem Speaker.mem_tasks_over {m : Message} (listed : m ∈ t.tasks) (other : m.status ≠ .Stopped) :
    m ∈ k.tasks := by
  obtain ⟨e, there, rfl⟩ := List.mem_map.mp listed
  rw [work] at there
  rcases List.mem_append.mp there with old | new
  · rcases content e with same | ⟨-, -, stopped⟩
    · rw [same]
      exact List.mem_map_of_mem old
    · exact absurd stopped other
  · rw [List.mem_singleton.mp new] at other
    exact absurd stopped other

include comm next playing silent work stopped content

theorem Piled.over (h : Piled k) (current : t.currentSong = k.currentSong)
    (playings : t.playings = k.playings) : Piled t := by
  -- no other end has been reported
  have shared : ∀ e ∈ k.work, (t.content e).status = .Stopped → e = .songEnd ∧ last = .songEnd := by
    intro e there stopped
    rcases content e with same | ⟨both, last, -⟩
    · rw [same] at stopped
      exact absurd stopped (h.silent playing _ (List.mem_map_of_mem there))
    · exact ⟨both, last⟩
  refine ⟨fun no => absurd no silent, ?_, ?_, ?_, ?_, ?_⟩
  · rw [work, List.pairwise_append]
    refine ⟨?_, List.pairwise_singleton _ _, ?_⟩
    · apply List.pairwise_of_forall_mem_list
      intro first one second two
      exact fun stopped stopped' => ⟨(shared first one stopped).1, (shared second two stopped').1⟩
    · intro first there second new stopped _
      rw [List.mem_singleton.mp new]
      exact shared first there stopped
  · rw [comm]
    intro e ended
    rcases content e with same | ⟨-, -, stopped⟩
    · rw [same]
      exact h.ended e ended
    · exact stopped
  · rw [playings, comm]
    intro caught entry ready songID here
    exact absurd playing (h.held caught entry ready songID here).1
  · rw [comm, current, next]
    exact h.read
  · rw [current, next]
    intro m listed status
    apply h.named m (Speaker.mem_tasks_over work stopped content listed _) status
    intro no
    rw [no] at status
    rcases status with no | no <;> cases no

theorem Prompts.over (h : Prompts σ k) (ready : t.nextSongState = k.nextSongState) : Prompts σ t := by
  have unwoken : k.nextSong ∉ σ.plays := fun listed => h.waits (Or.inl listed) playing
  constructor
  · exact fun _ => silent
  · rw [comm, next, ready]
    exact h.ready
  · rw [next]
    apply List.pairwise_of_forall_mem_list
    rintro first listed _ - rfl
    have told := Speaker.mem_tasks_over work stopped content listed fun no => by cases no
    exact absurd playing (h.waits (Or.inr (Or.inl told)))
  · rw [next]
    intro _
    unfold Speaker.tasks
    rw [work, List.pairwise_map, List.pairwise_append]
    have asks := List.pairwise_map.mp (h.asks (Or.inl playing))
    refine ⟨asks.imp ?_, List.pairwise_singleton _ _, ?_⟩
    · intro first second asks named none
      rcases content first with one | ⟨-, -, no⟩
      · rcases content second with two | ⟨-, -, no⟩
        · exact asks (one ▸ named) (two ▸ none)
        · rw [none] at no
          cases no
      · rw [named] at no
        cases no
    · intro first _ second new _ none
      rw [List.mem_singleton.mp new] at none
      rw [none] at stopped
      cases stopped
  · rw [next]
    exact fun listed => absurd listed unwoken
  · rw [next]
    exact fun listed => absurd listed unwoken

end Over

end Kept

namespace Heeds
variable {σ τ : Situation} {k t : Speaker}

theorem of_plays (h : Heeds σ k) (fewer : ∀ songID ∈ τ.plays, songID ∈ σ.plays) : Heeds τ k := by
  refine ⟨h.piled, fun songID listed => h.plays songID (fewer songID listed), ?_⟩
  intro known
  obtain ⟨waits, ready, order, asks, stays, once⟩ := h.prompts known
  refine ⟨?_, ready, order, asks, fun listed => stays (fewer _ listed),
    fun listed => once (fewer _ listed)⟩
  rintro (listed | told)
  · exact waits (Or.inl (fewer _ listed))
  · exact waits (Or.inr told)

theorem endMusic (h : Heeds σ k) : Heeds σ k.endMusic := by
  obtain ⟨⟨silent, ends, ended, held, read, named⟩, plays, prompts⟩ := h
  refine ⟨⟨silent, ends, ended, held, read, named⟩, plays, ?_⟩
  intro known
  obtain ⟨waits, ready, order, asks, stays, once⟩ := prompts known
  exact ⟨waits, ready, order, asks, stays, once⟩

section Stages
variable (h : Heeds σ k) (caught : k.nextSong ≠ UNKNOWN → k.playings = [])
include h caught

theorem busy (ok : Bool) (leaves : Speaker.leavesMessages k.comm = true)
    (answered : ∀ songID, k.comm = .requesting songID → ok = false →
      k.currentSongState = .PLAYING ∨ songID = UNKNOWN) : Heeds σ (k.communicate ok) := by
  obtain ⟨current, state, next⟩ := k.communicate_songs ok
  obtain ⟨unsent, songEnd⟩ := Speaker.unsent_communicate ok leaves
  obtain ⟨hand, requeues⟩ := Speaker.hand_communicate ok leaves
  have work := Speaker.work_of_hand unsent requeues hand
  have tasks := Speaker.tasks_of_fewer work songEnd
  refine ⟨h.piled.of_fewer tasks state next songEnd current (h.piled.ends.sublist work) ?_ ?_ ?_, ?_, ?_⟩
  · intro entry ended
    rcases Speaker.ended_communicate ok ended with before | stopped
    · exact h.piled.ended entry before
    · exact stopped
  · intro entry ready songID here
    exact (Speaker.rewriting_communicate ok here).2
  · intro entry ready songID here
    rw [Speaker.renewed_communicate ok here] at leaves
    cases leaves
  · rw [current, next]
    exact h.plays
  · rw [next]
    intro known
    have prompts := h.prompts known
    apply prompts.of_fewer tasks state next
    · intro here
      exact (Speaker.announcing_communicate ok here).2
    · rintro (here | here)
      · rw [Speaker.communicate_saved ok (Speaker.testing_communicate ok here)]
      · have before := (Speaker.announcing_communicate ok here).1
        rw [Speaker.communicate_testing ok before]
        exact prompts.ready (Or.inl before)
    · intro listed ended
      obtain ⟨ready, none, running⟩ := prompts.stays listed ended
      constructor
      · rcases Speaker.nextSongState_communicate ok running with same | ready'
        · rw [same]
          exact ready
        · exact ready'
      · -- a request fails for no song only, as no song is playing
        intro failed
        obtain ⟨songID, here, refused⟩ := Speaker.failed_communicate ok failed
        rcases answered songID here refused with playing | unknown
        · exact prompts.waits (Or.inl listed) playing
        · apply none
          have held := Speaker.mem_tasks (caught known) (.own (Speaker.renewed false songID))
            (by rw [here]; exact List.mem_singleton_self _)
          rw [unknown] at held
          exact held
    · intro listed
      by_contra again
      rcases Speaker.again_communicate ok (by simpa using again) with before | ⟨⟨entry, here⟩, unknown⟩
      · rw [prompts.once listed] at before
        cases before
      · have ended : k.Ended := by
          refine ⟨_, Speaker.mem_tasks (caught known) entry ?_, ?_⟩
          · rw [here]
            exact List.mem_singleton_self entry
          · exact h.piled.ended entry (by rw [here]; rfl)
        exact (prompts.stays listed ended).1 unknown

end Stages

/-- The communication thread comes to a stage at which it has decided nothing yet. -/
theorem of_stage (h : Heeds σ k) (queue : List Entry) {comm : Comm}
    (stage : (∃ entry, comm = .sending entry) ∨ (∃ songID, comm = .marking songID) ∨
      ∃ entry, comm = .sent entry)
    (tasks : ({ k with playbackConnectionQueue := queue, comm := comm } : Speaker).tasks = k.tasks)
    (ends : ({ k with playbackConnectionQueue := queue, comm := comm } : Speaker).work.Pairwise
      fun first second => (k.content first).status = .Stopped →
        (k.content second).status = .Stopped → first = .songEnd ∧ second = .songEnd) :
    Heeds σ { k with playbackConnectionQueue := queue, comm := comm } := by
  have fewer : ({ k with playbackConnectionQueue := queue, comm := comm } : Speaker).tasks.Sublist
      k.tasks := by
    rw [tasks]
  have none : comm.ended = none ∧ comm.again = false ∧ comm ≠ .failed ∧
      ∀ songID, comm ≠ .testing songID ∧ comm ≠ .announcing songID := by
    rcases stage with ⟨entry, rfl⟩ | ⟨songID, rfl⟩ | ⟨entry, rfl⟩ <;> simp [Comm.ended, Comm.again]
  have other : ∀ entry (ready : Bool) songID, comm ≠ .rewriting entry ready songID ∧
      comm ≠ if ready then .resending entry songID else .requeueing entry songID := by
    intro other ready songID
    rcases stage with ⟨entry, rfl⟩ | ⟨songID, rfl⟩ | ⟨entry, rfl⟩ <;> cases ready <;> simp
  obtain ⟨ended, again, running, loads⟩ := none
  refine ⟨h.piled.of_fewer fewer rfl rfl rfl rfl ends ?_ ?_ ?_, h.plays, ?_⟩
  · intro entry no
    rw [ended] at no
    cases no
  · intro entry ready songID here
    exact absurd here (other entry ready songID).1
  · intro entry ready songID
    exact (other entry ready songID).2
  · intro known
    have prompts := h.prompts known
    apply prompts.of_fewer fewer rfl rfl
    · intro here
      exact absurd here (loads _).2
    · rintro (here | here)
      · exact absurd here (loads _).1
      · exact absurd here (loads _).2
    · intro listed ended
      exact ⟨(prompts.stays listed ended).1, running⟩
    · exact fun _ => again

theorem picks (h : Heeds σ k) (ok : Bool) (idle : k.comm = .idle) {entry : Entry} {rest : List Entry}
    (queued : k.playbackConnectionQueue = entry :: rest)
    (other : (k.content entry).status ≠ .need_song) : Heeds σ (k.communicate ok) := by
  rw [Speaker.communicate_picks ok idle queued other]
  have work : ({ k with playbackConnectionQueue := rest, comm := .sending entry } : Speaker).work =
      k.work := by
    have unsent : ({ k with playbackConnectionQueue := rest, comm := .sending entry } :
        Speaker).unsent = k.unsent := by
      unfold Speaker.unsent
      rw [idle, queued]
      rfl
    unfold Speaker.work
    rw [Speaker.recent_of_same unsent, Speaker.playings_of_unsent unsent, idle]
    rfl
  apply h.of_stage rest (Or.inl ⟨entry, rfl⟩)
  · unfold Speaker.tasks
    rw [work]
    rfl
  · rw [work]
    exact h.piled.ends

theorem takes (h : Heeds σ k) (ok : Bool) (idle : k.comm = .idle) {entry : Entry} {rest : List Entry}
    (queued : k.playbackConnectionQueue = entry :: rest)
    (needs : (k.content entry).status = .need_song) : Heeds σ (k.communicate ok) := by
  rw [Speaker.communicate_takes ok idle queued needs]
  have silent : entry.playing = none := by
    cases entry with
    | songEnd => rfl
    | own message =>
      apply Speaker.playing_of_status
      intro playing
      rw [Speaker.content, playing] at needs
      cases needs
  have asked : k.content (.own (Speaker.renewed false (k.content entry).id)) = k.content entry := by
    unfold Speaker.renewed
    rw [← needs]
    rfl
  have taken := Speaker.work_taken (k := k)
    (t := { k with playbackConnectionQueue := rest, comm := .marking (k.content entry).id }) silent
    (by unfold Speaker.unsent; rw [idle, queued]; rfl) (by rw [idle]; rfl) rfl
  apply h.of_stage rest (Or.inr (Or.inl ⟨_, rfl⟩))
  · unfold Speaker.tasks
    rcases taken with ⟨-, before, work⟩ | ⟨-, work⟩
    · rw [before, work]
      exact congrArg (· :: _) asked
    · rw [work]
      rfl
  · have ends := h.piled.ends
    rcases taken with ⟨-, before, work⟩ | ⟨-, work⟩
    · rw [before, List.pairwise_cons] at ends
      rw [work]
      refine List.pairwise_cons.mpr ⟨?_, ends.2⟩
      intro second _ no
      cases no
    · rw [work]
      exact ends

/-- A message has been posted that starts no song. -/
theorem sent (h : Heeds σ k) {entry : Entry} (here : k.comm = .sending entry)
    (silent : entry.playing = none) : Heeds σ (k.communicate false) := by
  rw [Speaker.communicate_sending false here]
  have work := Speaker.work_sent here silent
  apply h.of_stage k.playbackConnectionQueue (Or.inr (Or.inr ⟨entry, rfl⟩))
  · unfold Speaker.tasks
    rw [work]
    rfl
  · rw [work]
    exact h.piled.ends

theorem rewrites (h : Heeds σ k) (ok : Bool) {entry : Entry} {ready : Bool} {songID : Int}
    (here : k.comm = .rewriting entry ready songID)
    (caught : k.nextSong ≠ UNKNOWN → k.playings = [])
    (taken : k.playings = [] → songID = k.nextSong ∧ k.nextSong ≠ UNKNOWN) :
    Heeds σ (k.communicate ok) := by
  obtain ⟨current, -, next⟩ := k.communicate_songs ok
  refine ⟨h.piled.rewrites ok here taken, ?_, ?_⟩
  · rw [current, next]
    exact h.plays
  · rw [next]
    intro known
    exact (h.prompts known).rewrites ok here h.piled (caught known)

theorem requeues (h : Heeds σ k) (ok : Bool) {entry : Entry} {songID : Int}
    (here : k.comm = .requeueing entry songID) (caught : k.nextSong ≠ UNKNOWN → k.playings = []) :
    Heeds σ (k.communicate ok) := by
  have again : k.comm.again = true := by
    rw [here]
    rfl
  have before : k.work = Speaker.rewritten entry (Speaker.renewed false songID) :: k.recent := by
    unfold Speaker.work
    rw [here, if_pos (Or.inr (show (Comm.requeueing entry songID).requeues = true from rfl))]
    rfl
  have held := fun caught => h.piled.held caught entry false songID here
  rw [Speaker.communicate_requeueing ok here]
  generalize shared : Speaker.rewritten entry (Speaker.renewed false songID) = last at before held
  have silent : last.playing = none := by
    rw [← shared]
    cases entry <;> rfl
  have work : ((k.put last).setComm .idle).work = k.recent ++ [last] := by
    have unsent : ((k.put last).setComm .idle).unsent = k.unsent ++ [last] := by
      unfold Speaker.unsent
      rw [here]
      rfl
    unfold Speaker.work Speaker.recent
    rw [unsent, List.rtakeWhile_concat_pos _ _ _ (by rw [silent]; rfl)]
    split <;> rfl
  have tasks : ((k.put last).setComm .idle).tasks = k.recent.map k.content ++ [k.content last] := by
    unfold Speaker.tasks
    rw [work, List.map_append]
    rfl
  have whole : k.tasks = k.content last :: k.recent.map k.content := by
    unfold Speaker.tasks
    rw [before]
    rfl
  have same : ∀ m ∈ ((k.put last).setComm .idle).tasks, m ∈ k.tasks := by
    intro m listed
    rw [tasks] at listed
    rw [whole]
    rcases List.mem_append.mp listed with old | new
    · exact List.mem_cons_of_mem _ old
    · rw [List.mem_singleton.mp new]
      exact List.mem_cons_self
  have ends := h.piled.ends
  rw [before, List.pairwise_cons] at ends
  refine ⟨⟨fun playing m listed => h.piled.silent playing m (same m listed), ?_, ?_, ?_, ?_,
    fun m listed => h.piled.named m (same m listed)⟩, h.plays, ?_⟩
  · rw [work, List.pairwise_append]
    refine ⟨ends.2, List.pairwise_singleton _ _, ?_⟩
    intro first old second new one two
    rw [List.mem_singleton.mp new] at two ⊢
    exact (ends.1 first old two one).symm
  · intro other no
    cases no
  · intro _ other ready own no
    cases ready <;> cases no
  · intro other ready own no
    cases no
  · intro known
    have prompts := h.prompts known
    obtain ⟨quiet, -, content⟩ := held (caught known)
    have order := prompts.order
    have asks := prompts.asks
    rw [whole, List.pairwise_cons] at order asks
    refine ⟨fun _ => quiet, ?_, ?_, ?_, ?_, fun _ => rfl⟩
    · rintro (no | no) <;> cases no
    · rw [tasks, List.pairwise_append]
      refine ⟨order.2, List.pairwise_singleton _ _, ?_⟩
      intro first _ second new _ stopped
      rw [List.mem_singleton.mp new, content] at stopped
      cases stopped
    · rintro (playing | ⟨m, there, stopped⟩)
      · exact absurd playing quiet
      · rw [tasks, List.pairwise_append]
        refine ⟨(asks (Or.inr ⟨m, same m there, stopped⟩)).2, List.pairwise_singleton _ _, ?_⟩
        intro first _ second new _ none
        rw [List.mem_singleton.mp new, content] at none
        exact known (congrArg Message.id none)
    · intro listed
      rw [prompts.once listed] at again
      cases again

/-- The Playing report has been posted. -/
theorem started (h : Heeds σ k) {entry : Entry} (here : k.comm = .sending entry)
    (starts : entry.playing ≠ none) (caught : (k.communicate false).playings = [])
    (none : k.nextSong = UNKNOWN) : Heeds σ.started (k.communicate false) := by
  have playing : (k.content entry).status = .Playing := by
    cases entry with
    | songEnd => exact absurd rfl starts
    | own message =>
      by_contra other
      exact starts (Speaker.playing_of_status other)
  rw [Speaker.communicate_sending false here] at caught ⊢
  have before : k.work = k.playbackConnectionQueue := by
    have goes := List.filterMap_eq_nil_iff.mp caught
    have recent : k.recent = k.playbackConnectionQueue := by
      unfold Speaker.recent Speaker.unsent
      rw [here]
      apply rtakeWhile_cons_of_neg
      · intro e listed
        exact Option.isNone_iff_eq_none.mpr (goes e listed)
      · simpa using starts
    unfold Speaker.work
    rw [recent, here]
    split <;> rfl
  have work : ({ k with comm := .sent entry } : Speaker).work = entry :: k.work := by
    rw [Speaker.work_eq caught, before]
    rfl
  have tasks : ({ k with comm := .sent entry } : Speaker).tasks = k.content entry :: k.tasks := by
    unfold Speaker.tasks
    rw [work]
    rfl
  have other : ∀ status, status ≠ .Playing → (k.content entry).status ≠ status := by
    rintro status differs rfl
    exact differs playing
  refine ⟨⟨?_, ?_, ?_, ?_, ?_, ?_⟩, h.plays, fun known => absurd none known⟩
  · rw [tasks]
    intro plays m listed
    rcases List.mem_cons.mp listed with rfl | old
    · exact other .Stopped (by simp)
    · exact h.piled.silent plays m old
  · rw [work]
    refine List.pairwise_cons.mpr ⟨?_, h.piled.ends⟩
    intro second _ stopped
    exact absurd stopped (other .Stopped (by simp))
  · intro e no
    cases no
  · intro _ e ready songID no
    cases ready <;> cases no
  · intro e ready songID no
    cases no
  · rw [tasks]
    intro m listed status
    rcases List.mem_cons.mp listed with rfl | old
    · rw [playing] at status
      rcases status with no | no <;> cases no
    · exact h.piled.named m old status

/-- The server announces a song, and the speaker takes it as the next one. -/
theorem adopts (h : Heeds σ k) {songID : Int} (caught : k.playings = [])
    (unset : k.nextSong = UNKNOWN) (known : songID ≠ UNKNOWN) (other : songID ≠ k.currentSong)
    (told : ∀ x ∈ σ.plays, x = k.currentSong ∨ x = songID)
    (unread : ∀ entry ready x, k.comm ≠ .rewriting entry ready x) :
    Heeds σ { k with nextSong := songID, nextSongState := .UNKNOWN } := by
  -- nothing has been said about the song yet
  have fresh : songID ∉ σ.plays := by
    intro listed
    rcases h.plays songID listed with current | next
    · exact other current
    · exact known (next.trans unset)
  have absent : ∀ ready, Speaker.renewed ready songID ∉ k.tasks := by
    intro ready listed
    rcases h.piled.named _ listed (by cases ready <;> simp [Speaker.renewed]) with none | current | next
    · exact known none
    · exact other current
    · exact known (next.trans unset)
  have unloaded : k.comm ≠ .testing songID ∧ k.comm ≠ .announcing songID := by
    constructor
    · intro here
      exact absent false (Speaker.mem_tasks caught (.own (Speaker.renewed false songID))
        (by rw [here]; exact List.mem_singleton_self _))
    · intro here
      exact absent false (Speaker.mem_tasks caught (.own (Speaker.renewed false songID))
        (by rw [here]; exact List.mem_singleton_self _))
  refine ⟨⟨h.piled.silent, h.piled.ends, h.piled.ended, ?_, ?_, ?_⟩, told,
    fun _ => ⟨?_, ?_, ?_, ?_, ?_, ?_⟩⟩
  · intro _ entry ready x here
    exact absurd unset (h.piled.held caught entry ready x here).2.1
  · intro entry ready x here
    exact absurd here (unread entry ready x)
  · intro m listed status
    rcases h.piled.named m listed status with none | current | next
    · exact Or.inl none
    · exact Or.inr (Or.inl current)
    · exact Or.inl (next.trans unset)
  · rintro (listed | told | here)
    · exact absurd listed fresh
    · exact absurd told (absent true)
    · exact absurd here unloaded.2
  · rintro (here | here)
    · exact absurd here unloaded.1
    · exact absurd here unloaded.2
  · apply List.pairwise_of_forall_mem_list
    intro first listed _ _ named
    exact absurd (named ▸ listed) (absent true)
  · intro _
    apply List.pairwise_of_forall_mem_list
    intro first listed _ _ named
    exact absurd (named ▸ listed) (absent false)
  · intro listed
    exact absurd listed fresh
  · intro listed
    exact absurd listed fresh

/-- The next song is asked for, or it is reported as ready while no song is playing. -/
theorem grown (h : Heeds σ k) (comm : t.comm = k.comm) (playings : t.playings = k.playings)
    (current : t.currentSong = k.currentSong) (next : t.nextSong = k.nextSong)
    {l : List Entry} (work : t.work = k.work ++ l) (songEnd : t.songEnd = k.songEnd)
    (state : t.currentSongState = k.currentSongState)
    (ready : t.nextSongState = k.nextSongState ∨ t.nextSongState = .READY)
    (known : k.nextSong ≠ UNKNOWN)
    (new : ∀ e ∈ l, k.content e = Speaker.renewed false k.nextSong ∨
      k.content e = Speaker.renewed true k.nextSong ∧ k.currentSongState ≠ .PLAYING) : Heeds σ t := by
  have tells : k.Tells (l.map k.content) := by
    intro m listed
    obtain ⟨e, there, rfl⟩ := List.mem_map.mp listed
    rcases new e there with needs | ⟨told, silent⟩
    · rw [needs]
      refine ⟨?_, rfl, ?_⟩ <;> intro no <;> cases no
    · rw [told]
      refine ⟨?_, rfl, fun _ => silent⟩
      intro no
      cases no
  refine ⟨h.piled.grown comm next work songEnd state tells current playings, ?_, ?_⟩
  · rw [current, next]
    exact h.plays
  · rw [next]
    intro _
    exact (h.prompts known).grown comm next work songEnd state tells known ready

theorem asks (h : Heeds σ k) (known : k.nextSong ≠ UNKNOWN) :
    Heeds σ (k.message k.nextSong .need_song) := by
  have work : (k.message k.nextSong .need_song).work =
      k.work ++ [.own (Speaker.renewed false k.nextSong)] :=
    Speaker.work_put rfl rfl (List.append_assoc _ _ _).symm
  have playings : (k.message k.nextSong .need_song).playings = k.playings :=
    Speaker.playings_silent (.own (Speaker.renewed false k.nextSong)) rfl rfl rfl
  apply h.grown (t := k.message k.nextSong .need_song) rfl playings rfl rfl work rfl rfl (Or.inl rfl)
    known
  intro e listed
  rw [List.mem_singleton.mp listed]
  exact Or.inl rfl

/-- The song that has been playing ends. -/
theorem ends (h : Heeds σ k) (comm : t.comm = k.comm) (playings : t.playings = k.playings)
    (current : t.currentSong = k.currentSong) (next : t.nextSong = k.nextSong)
    (playing : k.currentSongState = .PLAYING) (silent : t.currentSongState ≠ .PLAYING)
    (ready : t.nextSongState = k.nextSongState) {last : Entry} (work : t.work = k.work ++ [last])
    (stopped : (t.content last).status = .Stopped)
    (content : ∀ e, t.content e = k.content e ∨
      e = .songEnd ∧ last = .songEnd ∧ (t.content e).status = .Stopped) : Heeds σ t := by
  refine ⟨h.piled.over comm next playing silent work stopped content current playings, ?_, ?_⟩
  · rw [current, next]
    exact h.plays
  · rw [next]
    intro known
    exact (h.prompts known).over comm next playing silent work stopped content ready

section Playback

theorem fetchSong (h : Heeds σ k) (known : k.nextSong ≠ UNKNOWN) :
    Heeds σ (k.fetchSong k.nextSong) := by
  let j : Speaker := { k with nextSongState := .READY }
  unfold Speaker.fetchSong
  split
  · by_cases silent : k.currentSongState ≠ .PLAYING
    · have work : (j.message k.nextSong .Ready).work =
          k.work ++ [.own (Speaker.renewed true k.nextSong)] :=
        Speaker.work_put (k := k) rfl rfl (List.append_assoc _ _ _).symm
      have playings : (j.message k.nextSong .Ready).playings = k.playings :=
        Speaker.playings_silent (k := k) (.own (Speaker.renewed true k.nextSong)) rfl rfl rfl
      dsimp only
      rw [if_pos silent]
      apply h.grown (t := j.message k.nextSong .Ready) rfl playings rfl rfl work rfl rfl (Or.inr rfl) known
      intro e listed
      rw [List.mem_singleton.mp listed]
      exact Or.inr ⟨rfl, silent⟩
    · dsimp only
      rw [if_neg silent]
      apply h.grown (t := j) (l := []) rfl rfl rfl rfl (List.append_nil _).symm rfl rfl (Or.inr rfl) known
      intro e no
      cases no
  · exact h.asks known

theorem stop (h : Heeds σ k) (songID : Int) : Heeds σ (k.handleStopCommand songID) := by
  unfold Speaker.handleStopCommand
  split
  · rename_i both
    let j : Speaker := { k.endMusic with currentSongState := .STOPPED }
    have work : (j.message songID .Stopped).work = k.work ++ [.own { id := songID, status := .Stopped }] :=
      Speaker.work_put (k := k) rfl rfl (List.append_assoc _ _ _).symm
    have playings : (j.message songID .Stopped).playings = k.playings :=
      Speaker.playings_silent (k := k) (.own { id := songID, status := .Stopped }) rfl rfl rfl
    apply h.ends (t := j.message songID .Stopped) rfl playings rfl rfl both.2 _ rfl work rfl
    · exact fun e => Or.inl (by cases e <;> rfl)
    · intro no
      cases no
  · exact h

theorem poll (h : Heeds σ k) (found : Bool) : Heeds σ (k.poll found) := by
  unfold Speaker.poll
  split
  · rename_i heard
    split
    · rename_i first rest _
      let j : Speaker := { k with
        songEnds := rest, currentSongState := .STOPPED
        songEnd := { id := k.currentSong, status := .Stopped } }
      have work : (j.put .songEnd).work = k.work ++ [.songEnd] :=
        Speaker.work_put (k := k) rfl rfl (List.append_assoc _ _ _).symm
      have playings : (j.put .songEnd).playings = k.playings :=
        Speaker.playings_silent (k := k) .songEnd rfl rfl rfl
      apply h.ends (t := j.put .songEnd) rfl playings rfl rfl heard.1 _ rfl work rfl
      · intro e
        cases e with
        | own message => exact Or.inl rfl
        | songEnd => exact Or.inr ⟨rfl, rfl, rfl⟩
      · intro no
        cases no
    · exact h
  · exact h

/-- The next song is started. -/
theorem starts (h : Heeds σ k) (known : k.nextSong ≠ UNKNOWN) (commanded : k.nextSong ∈ σ.plays)
    (taken : ∀ entry ready x, k.comm = .rewriting entry ready x → x = k.nextSong)
    (plays : ∀ x ∈ τ.plays, x = k.nextSong) :
    Heeds τ (k.started.playMusic.message k.nextSong .Playing) := by
  have requeues : k.comm.requeues = false := by
    have once := (h.prompts known).once commanded
    cases here : k.comm with
    | requeueing entry songID =>
      rw [here] at once
      cases once
    | _ => rfl
  let t : Speaker := k.started.playMusic.message k.nextSong .Playing
  have unsent : t.unsent = k.unsent ++ [.own { id := k.nextSong, status := .Playing }] :=
    (List.append_assoc _ _ _).symm
  have work : t.work = [] := Speaker.work_started (k := k) requeues unsent
  have tasks : t.tasks = [] := by
    unfold Speaker.tasks
    rw [work]
    rfl
  have playings : t.playings ≠ [] := by
    unfold Speaker.playings
    rw [unsent, List.filterMap_append]
    simp [Entry.playing]
  refine ⟨⟨?_, ?_, ?_, ?_, ?_, ?_⟩, fun x listed => Or.inl (plays x listed), fun no => absurd rfl no⟩
  · intro _ m listed
    have no : m ∈ t.tasks := listed
    rw [tasks] at no
    cases no
  · change t.work.Pairwise _
    rw [work]
    exact List.Pairwise.nil
  · intro entry ended
    have same := h.piled.ended entry ended
    cases entry <;> exact same
  · exact fun caught => absurd caught playings
  · intro entry ready x here
    exact Or.inr (Or.inl (taken entry ready x here))
  · intro m listed
    have no : m ∈ t.tasks := listed
    rw [tasks] at no
    cases no

end Playback

section Communication

/-- The server sends a Play command. -/
theorem told (h : Heeds σ k) {songID : Int} (plays : ∀ x ∈ τ.plays, x ∈ σ.plays ∨ x = songID)
    (named : songID = k.currentSong ∨ songID = k.nextSong)
    (next : songID = k.nextSong → k.nextSong ≠ UNKNOWN → k.currentSongState ≠ .PLAYING ∧
      (k.Ended → k.nextSongState ≠ .UNKNOWN ∧ .needNone ∉ k.tasks ∧ k.comm ≠ .failed) ∧
        k.comm.again = false) : Heeds τ k := by
  refine ⟨h.piled, ?_, ?_⟩
  · intro x listed
    rcases plays x listed with old | rfl
    · exact h.plays x old
    · exact named
  · intro known
    have prompts := h.prompts known
    refine ⟨?_, prompts.ready, prompts.order, prompts.asks, ?_, ?_⟩
    · rintro (listed | told)
      · rcases plays _ listed with old | same
        · exact prompts.waits (Or.inl old)
        · exact (next same.symm known).1
      · exact prompts.waits (Or.inr told)
    · intro listed
      rcases plays _ listed with old | same
      · exact prompts.stays old
      · exact (next same.symm known).2.1
    · intro listed
      rcases plays _ listed with old | same
      · exact prompts.once old
      · exact (next same.symm known).2.2

variable (h : Heeds σ k) (caught : k.nextSong ≠ UNKNOWN → k.playings = []) {songID : Int}
  (plays : ∀ x ∈ τ.plays, x ∈ σ.plays ∨ x = songID)
  (named : k.playings ≠ [] → songID = k.currentSong) (some : songID ≠ UNKNOWN)
include h caught plays named some

theorem announces (here : k.comm = .announcing songID) : Heeds τ (k.communicate false) := by
  have before := h.busy caught false (by rw [here]; rfl) (fun other requesting => by
    rw [here] at requesting
    cases requesting)
  rw [Speaker.communicate_announcing false here] at before ⊢
  have hand : k.comm.hand = [.own (Speaker.renewed false songID)] := by
    rw [here]
    rfl
  apply before.told plays
  · by_cases quiet : k.playings = []
    · have listed := Speaker.mem_tasks quiet (.own (Speaker.renewed false songID))
        (by rw [hand]; exact List.mem_singleton_self _)
      exact (h.piled.named _ listed (Or.inl rfl)).resolve_left some
    · exact Or.inl (named quiet)
  · rintro rfl known
    have prompts := h.prompts known
    have quiet := caught known
    have tasks : k.tasks = Speaker.renewed false k.nextSong ::
        ({ k with comm := .idle } : Speaker).tasks := by
      unfold Speaker.tasks
      rw [Speaker.work_rests quiet (by rw [here]; rfl), hand]
      rfl
    refine ⟨prompts.waits (Or.inr (Or.inr here)), ?_, rfl⟩
    rintro ⟨m, listed, stopped⟩
    refine ⟨?_, ?_, ?_⟩
    · intro unknown
      have ready := prompts.ready (Or.inr here)
      rw [unknown] at ready
      cases ready
    · -- the request for the song was put behind those for no song
      have asks := prompts.asks (Or.inr ⟨m, by rw [tasks]; exact List.mem_cons_of_mem _ listed, stopped⟩)
      rw [tasks, List.pairwise_cons] at asks
      exact fun there => asks.1 _ there rfl rfl
    · intro no
      cases no

/-- A Ready message is answered with a Play command. No report of an end is behind it. -/
theorem answered {comm : Comm} (rest : List Message) (before : Heeds σ { k with comm := comm })
    (whole : k.playings = [] → k.tasks = Speaker.renewed true songID :: rest)
    (fewer : k.playings = [] → ∀ m ∈ ({ k with comm := comm } : Speaker).tasks, m ∈ k.tasks)
    (again : comm.again = false) : Heeds τ { k with comm := comm } := by
  have listed : k.playings = [] → Speaker.renewed true songID ∈ k.tasks := by
    intro quiet
    rw [whole quiet]
    exact List.mem_cons_self
  apply before.told plays
  · by_cases quiet : k.playings = []
    · exact (h.piled.named _ (listed quiet) (Or.inr rfl)).resolve_left some
    · exact Or.inl (named quiet)
  · rintro rfl known
    have quiet := caught known
    have prompts := h.prompts known
    have order := prompts.order
    rw [whole quiet, List.pairwise_cons] at order
    refine ⟨prompts.waits (Or.inr (Or.inl (listed quiet))), ?_, again⟩
    rintro ⟨m, there, stopped⟩
    have old := fewer quiet m there
    rw [whole quiet] at old
    rcases List.mem_cons.mp old with rfl | later
    · cases stopped
    · exact absurd stopped (order.1 m later rfl)

theorem reports {entry : Entry} (here : k.comm = .sending entry)
    (posted : k.content entry = Speaker.renewed true songID) : Heeds τ (k.communicate false) := by
  have silent : entry.playing = none := by
    cases entry with
    | songEnd => rfl
    | own message =>
      apply Speaker.playing_of_status
      rw [show message = Speaker.renewed true songID from posted]
      intro no
      cases no
  have before := h.sent here silent
  rw [Speaker.communicate_sending false here] at before ⊢
  apply h.answered caught plays named some (k.playbackConnectionQueue.map k.content) before
  · intro quiet
    unfold Speaker.tasks
    rw [Speaker.work_eq quiet]
    unfold Speaker.unsent
    rw [here, ← posted]
    rfl
  · intro _ m listed
    unfold Speaker.tasks at listed
    rw [Speaker.work_sent here silent] at listed
    exact listed
  · rfl

theorem resends {entry : Entry} {x : Int} (here : k.comm = .resending entry x)
    (posted : k.content (Speaker.rewritten entry (Speaker.renewed true x)) = Speaker.renewed true songID) :
    Heeds τ (k.communicate false) := by
  have before := h.busy caught false (by rw [here]; rfl) (fun other requesting => by
    rw [here] at requesting
    cases requesting)
  rw [Speaker.communicate_resending false here] at before ⊢
  have work := fun quiet => Speaker.work_rests (k := k) quiet (by rw [here]; rfl)
  apply h.answered caught plays named some _ before
  · intro quiet
    unfold Speaker.tasks
    rw [work quiet, here, ← posted]
    rfl
  · intro quiet m listed
    unfold Speaker.tasks
    rw [work quiet, List.map_append]
    exact List.mem_append_right _ listed
  · rfl

end Communication

section Steps
variable (h : Heeds σ k) (caught : k.nextSong ≠ UNKNOWN → k.playings = [])
include h caught

theorem works (ok : Bool) (silent : k.posts = none)
    (taken : k.playings = [] → ∀ entry ready songID, k.comm = .rewriting entry ready songID →
      songID = k.nextSong ∧ k.nextSong ≠ UNKNOWN)
    (answered : ∀ songID, k.comm = .requesting songID → ok = false →
      k.currentSongState = .PLAYING ∨ songID = UNKNOWN) : Heeds σ (k.communicate ok) := by
  cases here : k.comm with
  | idle =>
    cases queued : k.playbackConnectionQueue with
    | nil =>
      rw [Speaker.communicate_resting ok here queued]
      exact h
    | cons entry rest =>
      by_cases needs : (k.content entry).status = .need_song
      · exact h.takes ok here queued needs
      · exact h.picks ok here queued needs
  | sending entry =>
    rw [Speaker.posts, here] at silent
    cases silent
  | rewriting entry ready songID =>
    exact h.rewrites ok here caught fun quiet => taken quiet entry ready songID here
  | requeueing entry songID => exact h.requeues ok here caught
  | _ => exact h.busy caught ok (by rw [here]; rfl) answered

theorem posted {message : Message} (posts : k.posts = some message) (other : message.status ≠ .Playing)
    (plays : ∀ x ∈ τ.plays, x ∈ σ.plays ∨ message = Speaker.renewed true x ∧ x ≠ UNKNOWN ∧
      (k.playings ≠ [] → x = k.currentSong)) : Heeds τ (k.communicate false) := by
  have unasked : ∀ songID, k.comm = .requesting songID → false = false →
      k.currentSongState = .PLAYING ∨ songID = UNKNOWN := by
    intro songID here
    rw [Speaker.posts, here] at posts
    cases posts
  by_cases new : ∃ x ∈ τ.plays, x ∉ σ.plays
  · obtain ⟨x, listed, unlisted⟩ := new
    obtain ⟨message, some, current⟩ := (plays x listed).resolve_left unlisted
    have only : ∀ y ∈ τ.plays, y ∈ σ.plays ∨ y = x := by
      intro y there
      rcases plays y there with old | ⟨same, -⟩
      · exact Or.inl old
      · exact Or.inr (congrArg Message.id (same.symm.trans message))
    rw [message] at posts
    cases here : k.comm with
    | announcing songID =>
      rw [Speaker.posts, here] at posts
      cases posts
      exact h.announces caught only current some here
    | sending entry =>
      rw [Speaker.posts, here] at posts
      exact h.reports caught only current some here (Option.some.inj posts)
    | resending entry songID =>
      rw [Speaker.posts, here] at posts
      exact h.resends caught only current some here (Option.some.inj posts)
    | _ =>
      rw [Speaker.posts, here] at posts
      cases posts
  · have fewer : ∀ x ∈ τ.plays, x ∈ σ.plays := by
      intro x listed
      by_contra unlisted
      exact new ⟨x, listed, unlisted⟩
    apply Heeds.of_plays _ fewer
    cases here : k.comm with
    | announcing songID => exact h.busy caught false (by rw [here]; rfl) unasked
    | resending entry songID => exact h.busy caught false (by rw [here]; rfl) unasked
    | sending entry =>
      apply h.sent here
      rw [Speaker.posts, here] at posts
      cases entry with
      | songEnd => rfl
      | own own =>
        apply Speaker.playing_of_status
        rw [show own = message from Option.some.inj posts]
        exact other
    | _ =>
      rw [Speaker.posts, here] at posts
      cases posts

end Steps

end Heeds

theorem Situation.mem_plays_of_moves {lost : PlaybackCommand → Prop} {ready : Int → Prop}
    {σ τ : Situation} (moves : Situation.Moves lost ready σ τ) {songID : Int}
    (listed : songID ∈ τ.plays) : songID ∈ σ.plays ∨ ready songID ∧ τ.next = some songID := by
  induction moves with
  | refl => exact Or.inl listed
  | tail before move ih =>
    rename_i mid last
    have later : songID ∈ mid.plays → songID ∈ σ.plays ∨ ready songID ∧ last.next = some songID := by
      intro old
      rcases ih old with kept | ⟨told, selected⟩
      · exact Or.inl kept
      · exact Or.inr ⟨told, Party.Moves.next (.single move) selected⟩
    cases move with
    | announce other older selected kept => exact later listed
    | select other older unset differs kept => exact later listed
    | play other older selected told kept =>
      have both : songID ∈ ({ mid with commands := older } : Situation).plays ++ [other] := by
        simpa [Situation.plays] using listed
      rcases List.mem_append.mp both with old | new
      · exact later ((kept.sublist.filterMap _).subset old)
      · rw [List.mem_singleton.mp new]
        exact Or.inr ⟨told, selected⟩
    | stop other older running kept =>
      have old : songID ∈ ({ mid with commands := older } : Situation).plays := by
        simpa [Situation.plays] using listed
      exact later ((kept.sublist.filterMap _).subset old)

end MusicCloud
