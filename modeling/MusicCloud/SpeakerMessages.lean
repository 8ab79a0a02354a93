import MusicCloud.SongAgreement

/-!
The messages that the speaker has yet to post, with the content that their
dictionaries have now. A message wakes a song when the server or the speaker goes
on with that song once it has been posted. A request for no song at all fails, and
then it needs a message behind it that wakes the next song.
-/
namespace MusicCloud

def Message.Wakes (songID : Int) (message : Message) : Prop :=
  message.status = .Stopped ∨
    message.id = songID ∧ (message.status = .need_song ∨ message.status = .Ready)

def Message.needNone : Message := { id := UNKNOWN, status := .need_song }

/-- Behind each request for no song a message wakes the song. -/
def Guarded (songID : Int) : List Message → Prop
  | [] => True
  | first :: rest =>
    (first = .needNone → ∃ later ∈ rest, later.Wakes songID) ∧ Guarded songID rest

section Guarded
variable {songID : Int}

theorem guarded_append {last : Message} (wakes : last.Wakes songID) (other : last ≠ .needNone)
    (l : List Message) : Guarded songID (l ++ [last]) := by
  induction l with
  | nil =>
    refine ⟨?_, trivial⟩
    intro no
    exact absurd no other
  | cons first rest ih =>
    refine ⟨?_, ih⟩
    intro _
    exact ⟨last, List.mem_append_right rest (List.mem_singleton_self last), wakes⟩

theorem guarded_concat {last : Message} (other : last ≠ .needNone) {l : List Message}
    (guarded : Guarded songID l) : Guarded songID (l ++ [last]) := by
  induction l with
  | nil => exact ⟨fun no => absurd no other, trivial⟩
  | cons first rest ih =>
    obtain ⟨here, later⟩ := guarded
    refine ⟨?_, ih later⟩
    intro none
    obtain ⟨m, listed, wakes⟩ := here none
    exact ⟨m, List.mem_append_left _ listed, wakes⟩

theorem guarded_rewritten {f g : Entry → Message} {l : List Entry}
    (wakes : ∀ entry ∈ l, (f entry).Wakes songID → (g entry).Wakes songID)
    (asks : ∀ entry ∈ l, g entry = .needNone → f entry = .needNone)
    (guarded : Guarded songID (l.map f)) : Guarded songID (l.map g) := by
  induction l with
  | nil => trivial
  | cons first rest ih =>
    obtain ⟨here, later⟩ := guarded
    constructor
    · intro none
      obtain ⟨m, listed, woken⟩ := here (asks first List.mem_cons_self none)
      obtain ⟨entry, behind, rfl⟩ := List.mem_map.mp listed
      exact ⟨g entry, List.mem_map_of_mem behind,
        wakes entry (List.mem_cons_of_mem first behind) woken⟩
    · apply ih
      · intro entry behind
        exact wakes entry (List.mem_cons_of_mem first behind)
      · intro entry behind
        exact asks entry (List.mem_cons_of_mem first behind)
      · exact later

end Guarded

namespace Speaker
variable {k : Speaker}

def messages (k : Speaker) : List Message := k.unsent.map k.content

theorem messages_put {t : Speaker} (message : Message) (comm : t.comm = k.comm)
    (queue : t.playbackConnectionQueue = k.playbackConnectionQueue ++ [.own message])
    (songEnd : t.songEnd = k.songEnd) : t.messages = k.messages ++ [message] := by
  unfold messages unsent
  rw [comm, queue, content_of_same songEnd, ← List.append_assoc, List.map_append]
  rfl

theorem messages_songEnd {t : Speaker} (comm : t.comm = k.comm)
    (queue : t.playbackConnectionQueue = k.playbackConnectionQueue ++ [.songEnd]) :
    t.messages = k.unsent.map t.content ++ [t.songEnd] := by
  unfold messages unsent
  rw [comm, queue, ← List.append_assoc, List.map_append]
  rfl

theorem messages_idle (here : k.comm = .idle) :
    k.messages = k.playbackConnectionQueue.map k.content := by
  unfold messages unsent
  rw [here]
  rfl

theorem fetchSong_cases (songID : Int) :
    (k.fetchSong songID).messages = k.messages ++ [{ id := songID, status := .need_song }] ∧
        (k.fetchSong songID).nextSongState = k.nextSongState ∨
      k.files songID ≠ .missing ∧ (k.fetchSong songID).nextSongState = .READY ∧
        ((k.fetchSong songID).messages = k.messages ++ [{ id := songID, status := .Ready }] ∨
          k.currentSongState = .PLAYING ∧ (k.fetchSong songID).messages = k.messages) := by
  unfold fetchSong
  by_cases found : k.checkForSong songID = true
  · rw [if_pos found]
    right
    refine ⟨of_decide_eq_true found, ?_⟩
    by_cases playing : k.currentSongState = .PLAYING
    · have silent : ¬ (k.currentSongState ≠ .PLAYING) := not_not_intro playing
      dsimp only
      rw [if_neg silent]
      exact ⟨rfl, Or.inr ⟨playing, rfl⟩⟩
    · dsimp only
      rw [if_pos playing]
      refine ⟨rfl, Or.inl ?_⟩
      apply messages_put <;> rfl
  · rw [if_neg found]
    left
    refine ⟨?_, rfl⟩
    apply messages_put <;> rfl

section Communication
variable (ok : Bool)

theorem messages_posted {entry : Entry} (here : k.comm = .sending entry) :
    k.messages = k.content entry :: (k.communicate ok).messages := by
  unfold communicate messages unsent
  rw [here]
  rfl

theorem messages_rewriting {entry : Entry} {ready : Bool} {songID : Int}
    (here : k.comm = .rewriting entry ready songID) :
    k.messages = k.playbackConnectionQueue.map k.content ∧
      (k.communicate ok).messages = k.playbackConnectionQueue.map
        (k.setContent entry (renewed ready songID)).content := by
  rw [communicate_rewriting ok here]
  unfold messages unsent
  rw [here]
  refine ⟨rfl, ?_⟩
  cases entry <;> cases ready <;> rfl

theorem messages_requeueing {entry : Entry} {songID : Int} (here : k.comm = .requeueing entry songID) :
    (k.communicate ok).messages =
      k.messages ++ [k.content (rewritten entry (renewed false songID))] := by
  rw [communicate_requeueing ok here]
  have content : ((k.put (rewritten entry (renewed false songID))).setComm .idle).content = k.content :=
    content_of_same rfl
  unfold messages unsent
  rw [content, here]
  change (k.playbackConnectionQueue ++ [_]).map k.content = k.playbackConnectionQueue.map k.content ++ _
  rw [List.map_append]
  rfl

def leavesMessages : Comm → Bool
  | .idle => false
  | .sending _ => false
  | .rewriting _ _ _ => false
  | .requeueing _ _ => false
  | _ => true

theorem unsent_communicate (leaves : leavesMessages k.comm = true) :
    (k.communicate ok).unsent = k.unsent ∧ (k.communicate ok).songEnd = k.songEnd := by
  unfold communicate unsent
  cases here : k.comm with
  | idle => simp [here, leavesMessages] at leaves
  | sending entry => simp [here, leavesMessages] at leaves
  | rewriting entry ready songID => simp [here, leavesMessages] at leaves
  | requeueing entry songID => simp [here, leavesMessages] at leaves
  | requesting _ | testing _ | sent _ | checkingNext _ | checkingReady _ | checkingUnknown _ =>
    dsimp only
    split <;> exact ⟨rfl, rfl⟩
  | _ => exact ⟨rfl, rfl⟩

theorem messages_communicate (leaves : leavesMessages k.comm = true) :
    (k.communicate ok).messages = k.messages ∧ (k.communicate ok).songEnd = k.songEnd := by
  obtain ⟨unsent, songEnd⟩ := unsent_communicate ok leaves
  refine ⟨?_, songEnd⟩
  unfold messages
  rw [unsent, content_of_same songEnd]

end Communication

end Speaker
end MusicCloud
