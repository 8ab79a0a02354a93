import MusicCloud.SpeakerMessages

/-!
The speaker follows the announcements of the server. The song that it takes as the
next one is the next song of the server, it asks for no other song, and a song that
it takes as ready is completely on disk. `UNKNOWN` stands for no song throughout.
-/
namespace MusicCloud
open Runs

/-- What the speaker knows of the songs of the server. -/
structure Follows (σ : Situation) (k : Speaker) : Prop where
  current : k.currentSong = UNKNOWN ∨ σ.active = some k.currentSong ∨ σ.next = some k.currentSong
  next : k.nextSong = UNKNOWN ∨ σ.next = some k.nextSong ∧ k.nextSong ≠ k.currentSong
  announced : ∀ songID ∈ σ.announcements, songID = k.currentSong ∨ σ.next = some songID
  order : σ.announcements.Pairwise fun first second =>
    second = k.currentSong → first = k.currentSong
  fresh : k.nextSong ≠ UNKNOWN → ∀ songID ∈ σ.announcements, songID = k.nextSong
  heard : ∀ songID, σ.next = some songID →
    songID = k.currentSong ∨ songID = k.nextSong ∨ songID ∈ σ.announcements
  reported : σ.next = some k.currentSong → k.playings ≠ []

namespace Follows
variable {σ τ : Situation} {k t : Speaker}

theorem of_same (h : Follows σ k) (current : t.currentSong = k.currentSong)
    (next : t.nextSong = k.nextSong) (playings : t.playings = k.playings) : Follows σ t := by
  obtain ⟨current', next', announced, order, fresh, heard, reported⟩ := h
  constructor
  · rw [current]
    exact current'
  · rw [next, current]
    exact next'
  · rw [current]
    exact announced
  · rw [current]
    exact order
  · rw [next]
    exact fresh
  · rw [current, next]
    exact heard
  · rw [current, playings]
    exact reported

theorem unset (h : Follows σ k) (none : σ.next = none) : k.nextSong = UNKNOWN := by
  rcases h.next with same | ⟨selected, -⟩
  · exact same
  · rw [none] at selected
    cases selected

theorem selected (h : Follows σ k) (known : k.nextSong ≠ UNKNOWN) :
    σ.next = some k.nextSong ∧ k.nextSong ≠ k.currentSong := by
  rcases h.next with none | next
  · exact absurd none known
  · exact next

theorem current_of_unset (h : Follows σ k) (none : σ.next = none) :
    ∀ songID ∈ σ.announcements, songID = k.currentSong := by
  intro songID listed
  rcases h.announced songID listed with same | selected
  · exact same
  · rw [none] at selected
    cases selected

theorem announce {songID : Int} {older : List Int} (h : Follows σ k)
    (kept : Kept (fun _ => True) older σ.announcements) (selected : σ.next = some songID) :
    Follows { σ with announcements := older ++ [songID] } k := by
  obtain ⟨current, next, announced, order, fresh, heard, reported⟩ := h
  have before : ∀ x ∈ older, x ∈ σ.announcements := kept.sublist.subset
  refine ⟨current, next, ?_, ?_, ?_, ?_, reported⟩
  · intro x listed
    rcases List.mem_append.mp listed with old | new
    · exact announced x (before x old)
    · rw [List.mem_singleton.mp new]
      exact Or.inr selected
  · rw [List.pairwise_append]
    refine ⟨order.sublist kept.sublist, List.pairwise_singleton _ _, ?_⟩
    intro first old second new same
    rw [List.mem_singleton.mp new] at same
    rcases announced first (before first old) with current | next
    · exact current
    · rw [selected] at next
      exact (Option.some.inj next).symm.trans same
  · intro known x listed
    rcases List.mem_append.mp listed with old | new
    · exact fresh known x (before x old)
    · rcases next with none | ⟨next, -⟩
      · exact absurd none known
      · rw [selected] at next
        rw [List.mem_singleton.mp new]
        exact Option.some.inj next
  · intro x next
    rw [selected] at next
    right
    right
    apply List.mem_append_right
    rw [Option.some.inj next]
    exact List.mem_singleton_self x

theorem move {lost : PlaybackCommand → Prop} {ready : Int → Prop} (h : Follows σ k) (move : Situation.Move lost ready σ τ)
    (known : ∀ songID, τ.next = some songID → songID ≠ UNKNOWN) : Follows τ k := by
  cases move with
  | announce songID older selected kept => exact h.announce kept selected
  | select songID older none other kept =>
    have unknown := h.unset none
    have different : songID ≠ k.currentSong := by
      rintro rfl
      rcases h.current with no | active | next
      · exact known _ rfl no
      · exact other active
      · rw [none] at next
        cases next
    have current := h.current_of_unset none
    -- the song is selected first and announced then
    have chosen : Follows { σ with next := some songID, announcements := older ++ [songID] } k := by
      refine ⟨?_, Or.inl unknown, ?_, ?_, fun some => absurd unknown some, ?_, ?_⟩
      · rcases h.current with no | active | next
        · exact Or.inl no
        · exact Or.inr (Or.inl active)
        · rw [none] at next
          cases next
      · intro x listed
        rcases List.mem_append.mp listed with old | new
        · exact Or.inl (current x (kept.sublist.subset old))
        · rw [List.mem_singleton.mp new]
          exact Or.inr rfl
      · rw [List.pairwise_append]
        refine ⟨h.order.sublist kept.sublist, List.pairwise_singleton _ _, ?_⟩
        intro first old second new same
        rw [List.mem_singleton.mp new] at same
        exact absurd same different
      · intro x next
        right
        right
        apply List.mem_append_right
        rw [Option.some.inj next]
        exact List.mem_singleton_self x
      · intro next
        exact absurd (Option.some.inj next) different
    exact chosen
  | play songID older selected _ kept =>
    exact ⟨h.current, h.next, h.announced, h.order, h.fresh, h.heard, h.reported⟩
  | stop songID older running kept =>
    exact ⟨h.current, h.next, h.announced, h.order, h.fresh, h.heard, h.reported⟩

theorem started (h : Follows σ k) (named : σ.next = some k.currentSong)
    (current : t.currentSong = k.currentSong) (next : t.nextSong = k.nextSong) :
    Follows σ.started t := by
  have unknown : k.nextSong = UNKNOWN := by
    rcases h.next with none | ⟨selected, other⟩
    · exact none
    · rw [named] at selected
      exact absurd (Option.some.inj selected).symm other
  constructor
  · rw [current]
    exact Or.inr (Or.inl named)
  · rw [next]
    exact Or.inl unknown
  · intro songID listed
    rw [current]
    rcases h.announced songID listed with same | selected
    · exact Or.inl same
    · rw [named] at selected
      exact Or.inl (Option.some.inj selected).symm
  · rw [current]
    exact h.order
  · rw [next]
    intro known
    exact absurd unknown known
  · intro songID no
    cases no
  · intro no
    cases no

theorem hears (h : Follows σ k) (active : τ.active = σ.active) (next : τ.next = σ.next)
    {first : Option Int} (announcements : σ.announcements = first.toList ++ τ.announcements)
    (old : ∀ songID ∈ first, songID = k.currentSong ∨ songID = k.nextSong) : Follows τ k := by
  obtain ⟨current', next', announced, order, fresh, heard, reported⟩ := h
  have fewer : τ.announcements.Sublist σ.announcements := by
    rw [announcements]
    exact List.sublist_append_right _ _
  rw [← active, ← next] at current'
  rw [← next] at next' reported
  refine ⟨current', next', ?_, order.sublist fewer, ?_, ?_, reported⟩
  · intro songID listed
    rw [next]
    exact announced songID (fewer.subset listed)
  · intro known songID listed
    exact fresh known songID (fewer.subset listed)
  · intro songID selected
    rw [next] at selected
    rcases heard songID selected with same | same | listed
    · exact Or.inl same
    · exact Or.inr (Or.inl same)
    · rw [announcements] at listed
      rcases List.mem_append.mp listed with now | later
      · rcases old songID (Option.mem_toList.mp now) with same | same
        · exact Or.inl same
        · exact Or.inr (Or.inl same)
      · exact Or.inr (Or.inr later)

theorem upcoming {songID : Int} (h : Follows σ k) (active : τ.active = σ.active)
    (next : τ.next = σ.next) (announcements : σ.announcements = songID :: τ.announcements)
    (other : songID ≠ k.currentSong) (current : t.currentSong = k.currentSong)
    (taken : t.nextSong = songID) (playings : t.playings = k.playings) :
    σ.next = some songID ∧ Follows τ t := by
  have first : songID ∈ σ.announcements := by
    rw [announcements]
    exact List.mem_cons_self
  have selected : σ.next = some songID := by
    rcases h.announced songID first with same | selected
    · exact absurd same other
    · exact selected
  have order := h.order
  rw [announcements, List.pairwise_cons] at order
  have rest : ∀ x ∈ τ.announcements, x = songID := by
    intro x listed
    have before : x ∈ σ.announcements := by
      rw [announcements]
      exact List.mem_cons_of_mem songID listed
    rcases h.announced x before with same | next
    · exact absurd (order.1 x listed same) other
    · rw [selected] at next
      exact (Option.some.inj next).symm
  refine ⟨selected, ?_⟩
  constructor
  · rw [current, active, next]
    exact h.current
  · rw [taken, current, next]
    exact Or.inr ⟨selected, other⟩
  · intro x listed
    rw [next, rest x listed]
    exact Or.inr selected
  · rw [current]
    exact order.2
  · intro _ x listed
    rw [taken]
    exact rest x listed
  · intro x selected'
    rw [next, selected] at selected'
    rw [taken]
    exact Or.inr (Or.inl (Option.some.inj selected').symm)
  · rw [current, next, playings]
    exact h.reported

theorem starts (h : Follows σ k) (known : k.nextSong ≠ UNKNOWN) (next : τ.next = σ.next)
    (announcements : τ.announcements = σ.announcements) (current : t.currentSong = k.nextSong)
    (none : t.nextSong = UNKNOWN) (playings : t.playings ≠ []) : Follows τ t := by
  obtain ⟨selected, other⟩ := h.selected known
  have fresh := h.fresh known
  constructor
  · rw [current, next]
    exact Or.inr (Or.inr selected)
  · exact Or.inl none
  · rw [announcements, current]
    intro songID listed
    exact Or.inl (fresh songID listed)
  · rw [announcements, current]
    apply List.pairwise_of_forall_mem_list
    intro first listed _ _ _
    exact fresh first listed
  · intro some
    exact absurd none some
  · rw [next, current]
    intro songID named
    rw [selected] at named
    exact Or.inl (Option.some.inj named).symm
  · intro _
    exact playings

end Follows
end MusicCloud
