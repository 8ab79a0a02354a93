import MusicCloud.Runs

/-!
The update queue of one session (`SessionUpdateQueue`): long polls waiting
for an update on one side, at most one pending update of each type on the
other. Updates are abstract here apart from their type, so the same
definitions also run on updates tagged with their position in the input.
`sent` is the history of `sendResponse`; nothing in the queue reads it.
-/
namespace MusicCloud
open Runs

abbrev Channel := Nat

inductive UpdateType where
  | current_song | votes | likes | song_list | upcoming_song | playback_command
  deriving DecidableEq, Repr

class HasUpdateType (Update : Type) where
  getUpdateType : Update → UpdateType

export HasUpdateType (getUpdateType)

structure SessionUpdateQueue (Update : Type) where
  channelQueue : List Channel
  updates : UpdateType → Option Update
  updateTypeQueue : List UpdateType
  sent : List (Channel × Update)

namespace SessionUpdateQueue
variable {Update : Type}

def empty : SessionUpdateQueue Update :=
  { channelQueue := [], updates := fun _ => none, updateTypeQueue := [], sent := [] }

def sendResponse (ch : Channel) (update : Update) (q : SessionUpdateQueue Update) :
    SessionUpdateQueue Update :=
  { q with sent := q.sent ++ [(ch, update)] }

def queueRequest (ch : Channel) (q : SessionUpdateQueue Update) : SessionUpdateQueue Update :=
  match q.updateTypeQueue with
  | updateType :: rest =>
    let q := { q with updateTypeQueue := rest }
    match q.updates updateType with
    | some update =>
      sendResponse ch update { q with updates := Function.update q.updates updateType none }
    | none => { q with channelQueue := q.channelQueue ++ [ch] }
  | [] => { q with channelQueue := q.channelQueue ++ [ch] }

/-- Only closed channels at the head are removed. -/
def updateQueueSize (isActive : Channel → Bool) (q : SessionUpdateQueue Update) :
    SessionUpdateQueue Update :=
  { q with channelQueue := q.channelQueue.dropWhile (fun ch => !isActive ch) }

def queueUpdate [HasUpdateType Update] (isActive : Channel → Bool) (update : Update)
    (queue : SessionUpdateQueue Update) : SessionUpdateQueue Update :=
  let q := queue.updateQueueSize isActive
  match q.channelQueue with
  | chan :: rest => sendResponse chan update { q with channelQueue := rest }
  | [] =>
    if (q.updates (getUpdateType update)).isSome then
      { q with updates := Function.update q.updates (getUpdateType update) (some update) }
    else
      { q with
        updates := Function.update q.updates (getUpdateType update) (some update)
        updateTypeQueue := q.updateTypeQueue ++ [getUpdateType update] }

def closePendingRequests (q : SessionUpdateQueue Update) :
    SessionUpdateQueue Update × List Channel :=
  ({ q with channelQueue := [] }, q.channelQueue)

def pending (q : SessionUpdateQueue Update) : List Update :=
  q.updateTypeQueue.filterMap q.updates

def written (q : SessionUpdateQueue Update) : List Update := q.sent.map Prod.snd

/-- The three collections are in step, and requests never wait beside updates. -/
structure Consistent [HasUpdateType Update] (q : SessionUpdateQueue Update) : Prop where
  nodup : q.updateTypeQueue.Nodup
  keys : ∀ t, t ∈ q.updateTypeQueue ↔ (q.updates t).isSome
  typed : ∀ t u, q.updates t = some u → getUpdateType u = t
  oneSided : q.channelQueue = [] ∨ q.updateTypeQueue = []

section Operations
variable [HasUpdateType Update] {q : SessionUpdateQueue Update}

theorem consistent_empty : (empty : SessionUpdateQueue Update).Consistent :=
  ⟨List.nodup_nil, by simp [empty], by simp [empty], Or.inl rfl⟩

theorem Consistent.no_updates (h : q.Consistent) (none : q.updateTypeQueue = []) (t : UpdateType) :
    q.updates t = Option.none := by
  have := h.keys t
  simpa [none] using this

theorem queueRequest_cases (h : q.Consistent) (ch : Channel) :
    (∃ t rest u, q.updateTypeQueue = t :: rest ∧ q.updates t = some u ∧
      q.queueRequest ch = { q with
        updateTypeQueue := rest
        updates := Function.update q.updates t none
        sent := q.sent ++ [(ch, u)] }) ∨
    (q.updateTypeQueue = [] ∧
      q.queueRequest ch = { q with channelQueue := q.channelQueue ++ [ch] }) := by
  unfold queueRequest
  split
  · rename_i t rest queued
    have present : (q.updates t).isSome := (h.keys t).mp (by simp [queued])
    obtain ⟨u, hu⟩ := Option.isSome_iff_exists.mp present
    exact Or.inl ⟨t, rest, u, queued, hu, by simp [hu, sendResponse]⟩
  · rename_i queued
    exact Or.inr ⟨queued, rfl⟩

theorem queueUpdate_cases (h : q.Consistent) (isActive : Channel → Bool) (u : Update) :
    (∃ ch rest, q.channelQueue.dropWhile (fun c => !isActive c) = ch :: rest ∧
      q.updateTypeQueue = [] ∧
      q.queueUpdate isActive u =
        { q with channelQueue := rest, sent := q.sent ++ [(ch, u)] }) ∨
    (q.channelQueue.dropWhile (fun c => !isActive c) = [] ∧
      (∃ old, q.updates (getUpdateType u) = some old) ∧
      q.queueUpdate isActive u = { q with
        channelQueue := []
        updates := Function.update q.updates (getUpdateType u) (some u) }) ∨
    (q.channelQueue.dropWhile (fun c => !isActive c) = [] ∧
      q.updates (getUpdateType u) = none ∧
      q.queueUpdate isActive u = { q with
        channelQueue := []
        updates := Function.update q.updates (getUpdateType u) (some u)
        updateTypeQueue := q.updateTypeQueue ++ [getUpdateType u] }) := by
  unfold queueUpdate updateQueueSize
  cases waiting : q.channelQueue.dropWhile (fun c => !isActive c) with
  | cons ch rest =>
    have none : q.updateTypeQueue = [] := by
      rcases h.oneSided with no | no
      · simp [no] at waiting
      · exact no
    exact Or.inl ⟨ch, rest, rfl, none, rfl⟩
  | nil =>
    cases old : q.updates (getUpdateType u) with
    | some o => exact Or.inr (Or.inl ⟨rfl, ⟨o, rfl⟩, by simp [old]⟩)
    | none => exact Or.inr (Or.inr ⟨rfl, rfl, by simp [old]⟩)

theorem Consistent.queueRequest (h : q.Consistent) (ch : Channel) :
    (q.queueRequest ch).Consistent := by
  rcases queueRequest_cases h ch with ⟨t, rest, u, queued, hu, eq⟩ | ⟨queued, eq⟩
  · have nodup := h.nodup
    rw [queued] at nodup
    obtain ⟨fresh, nodup⟩ := List.nodup_cons.mp nodup
    rw [eq]
    refine ⟨nodup, ?_, ?_, ?_⟩
    · intro s
      have keys := h.keys s
      rw [queued] at keys
      by_cases same : s = t
      · subst s; simp [fresh]
      · simpa [same] using keys
    · intro s v hv
      by_cases same : s = t
      · subst s; simp at hv
      · exact h.typed s v (by simpa [same] using hv)
    · rcases h.oneSided with no | no
      · exact Or.inl no
      · simp [queued] at no
  · rw [eq]
    exact ⟨h.nodup, h.keys, h.typed, Or.inr queued⟩

theorem Consistent.queueUpdate (h : q.Consistent) (isActive : Channel → Bool) (u : Update) :
    (q.queueUpdate isActive u).Consistent := by
  have typed : ∀ t v, Function.update q.updates (getUpdateType u) (some u) t = some v →
      getUpdateType v = t := by
    intro t v hv
    by_cases same : t = getUpdateType u
    · subst t; simp at hv; rw [hv]
    · exact h.typed t v (by simpa [same] using hv)
  rcases queueUpdate_cases h isActive u with
    ⟨ch, rest, -, queued, eq⟩ | ⟨-, ⟨old, hold⟩, eq⟩ | ⟨-, absent, eq⟩
  · rw [eq]
    exact ⟨h.nodup, h.keys, h.typed, Or.inr queued⟩
  · rw [eq]
    refine ⟨h.nodup, ?_, typed, Or.inl rfl⟩
    intro t
    by_cases same : t = getUpdateType u
    · subst t; simp [h.keys, hold]
    · simp [same, h.keys]
  · rw [eq]
    have fresh : getUpdateType u ∉ q.updateTypeQueue := by simp [h.keys, absent]
    refine ⟨?_, ?_, typed, Or.inl rfl⟩
    · simpa [List.nodup_append] using ⟨h.nodup, fun t ht same => fresh (same ▸ ht)⟩
    · intro t
      by_cases same : t = getUpdateType u
      · subst t; simp
      · simp [same, h.keys]

theorem Consistent.closePendingRequests (h : q.Consistent) :
    q.closePendingRequests.1.Consistent :=
  ⟨h.nodup, h.keys, h.typed, Or.inl rfl⟩

end Operations

end SessionUpdateQueue
end MusicCloud
