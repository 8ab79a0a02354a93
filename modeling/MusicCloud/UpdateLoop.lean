import MusicCloud.Runs

/-!
The long polls of the phone (`ClientSession`). Each completion of a poll asks for the
next one while `requestingUpdates` is set. The user interface sets and clears the flag
while polls are under way; so a loop that has been stopped goes on when another one is
started early.
-/
namespace MusicCloud
open Runs

structure UpdateRequest where
  task : Nat
  clientID : Int
  deriving DecidableEq, Repr

structure ClientSession where
  clientID : Int
  requestingUpdates : Bool
  outstanding : List UpdateRequest
  tasksCreated : Nat
  /-- Calls of `updateRequestLoop` that background threads have yet to make. -/
  performing : Nat
  deriving DecidableEq, Repr

inductive SessionEvent where
  | startUpdateRequests
  | stopUpdateRequests
  /-- A response to `authenticate` or `deauthenticate` sets the id. -/
  | identified (clientID : Int)
  | success (request : UpdateRequest)
  | failure (request : UpdateRequest) (code : Int)
  | performs
  deriving DecidableEq, Repr

def timeoutCode : Int := -1001

namespace ClientSession

def initial : ClientSession :=
  { clientID := 0, requestingUpdates := false, outstanding := [], tasksCreated := 0, performing := 0 }

def updateRequestLoop (s : ClientSession) : ClientSession :=
  { s with
    outstanding := s.outstanding ++ [{ task := s.tasksCreated, clientID := s.clientID }]
    tasksCreated := s.tasksCreated + 1 }

def startUpdateRequests (s : ClientSession) : ClientSession :=
  if s.requestingUpdates then s else { s with requestingUpdates := true }.updateRequestLoop

def stopUpdateRequests (s : ClientSession) : ClientSession :=
  if s.requestingUpdates then { s with requestingUpdates := false } else s

def performLoop (s : ClientSession) : ClientSession :=
  if s.requestingUpdates then { s with performing := s.performing + 1 } else s

def completed (request : UpdateRequest) (s : ClientSession) : ClientSession :=
  { s with outstanding := s.outstanding.erase request }

def step (s : ClientSession) : SessionEvent → ClientSession
  | .startUpdateRequests => s.startUpdateRequests
  | .stopUpdateRequests => s.stopUpdateRequests
  | .identified clientID => { s with clientID := clientID }
  | .success request => if request ∈ s.outstanding then (s.completed request).performLoop else s
  | .failure request code =>
    if request ∈ s.outstanding then
      if code = timeoutCode then (s.completed request).performLoop
      else { s.completed request with requestingUpdates := false }
    else s
  | .performs =>
    if 0 < s.performing then { s with performing := s.performing - 1 }.updateRequestLoop else s

def continuing (s : ClientSession) : List UpdateRequest :=
  s.outstanding.filter fun request => decide (s.performing < (s.step (.success request)).performing)

/-- The loops that go on: one for each of these requests, and one for each request that
    an earlier completion is about to issue. -/
def loops (s : ClientSession) : Nat :=
  s.continuing.length + if s.requestingUpdates then s.performing else 0

structure OneLoop (s : ClientSession) : Prop where
  requests : s.continuing.length ≤ 1
  loops : s.loops ≤ 1

/-- A loop is started only when nothing is left of the one before. -/
def StartsAfresh (s : ClientSession) (e : SessionEvent) : Prop :=
  e = .startUpdateRequests → s.requestingUpdates = false → s.outstanding = [] ∧ s.performing = 0

instance (s : ClientSession) (e : SessionEvent) : Decidable (s.StartsAfresh e) :=
  inferInstanceAs (Decidable (_ → _ → _))

section Loops
variable {s : ClientSession}

theorem continuing_eq : s.continuing = if s.requestingUpdates then s.outstanding else [] := by
  unfold continuing
  by_cases on : s.requestingUpdates = true
  · rw [if_pos on]
    apply List.filter_eq_self.mpr
    intro request listed
    simp [step, listed, completed, performLoop, on]
  · rw [if_neg on]
    apply List.filter_eq_nil_iff.mpr
    intro request listed
    simp [step, listed, completed, performLoop, on]

theorem loops_eq : s.loops =
    if s.requestingUpdates then s.outstanding.length + s.performing else 0 := by
  unfold loops
  rw [continuing_eq]
  split <;> rfl

theorem oneLoop_iff :
    s.OneLoop ↔ (s.requestingUpdates = true → s.outstanding.length + s.performing ≤ 1) := by
  constructor
  · intro one on
    have loops := one.loops
    rwa [loops_eq, if_pos on] at loops
  · intro bound
    refine ⟨?_, ?_⟩
    · rw [continuing_eq]
      split
      · rename_i on
        have := bound on
        omega
      · exact Nat.zero_le 1
    · rw [loops_eq]
      split
      · rename_i on
        exact bound on
      · exact Nat.zero_le 1

theorem oneLoop_completed {request : UpdateRequest} (h : s.OneLoop) (listed : request ∈ s.outstanding) :
    (s.completed request).performLoop.OneLoop := by
  rw [oneLoop_iff] at h ⊢
  have fewer := List.length_erase_of_mem listed
  have some := List.length_pos_of_mem listed
  unfold performLoop completed
  dsimp only
  split
  · rename_i on
    intro _
    have before := h on
    dsimp only
    omega
  · rename_i off
    intro on
    exact absurd on off

theorem oneLoop_step (h : s.OneLoop) (e : SessionEvent) : (s.step e).OneLoop ↔ s.StartsAfresh e := by
  have admitted : e ≠ .startUpdateRequests → s.StartsAfresh e := fun other start => absurd start other
  cases e with
  | startUpdateRequests =>
    change (s.startUpdateRequests).OneLoop ↔ _
    unfold startUpdateRequests StartsAfresh
    by_cases on : s.requestingUpdates = true
    · rw [if_pos on]
      exact iff_of_true h fun _ off => by rw [on] at off; cases off
    · have off : s.requestingUpdates = false := Bool.not_eq_true _ ▸ on
      rw [if_neg on, oneLoop_iff, ← List.length_eq_zero_iff]
      simp only [updateRequestLoop, List.length_append, List.length_singleton, forall_const, off]
      omega
  | stopUpdateRequests =>
    refine iff_of_true ?_ (admitted (by simp))
    change (s.stopUpdateRequests).OneLoop
    unfold stopUpdateRequests
    split
    · exact oneLoop_iff.mpr fun on => by cases on
    · exact h
  | identified clientID =>
    refine iff_of_true ?_ (admitted (by simp))
    rw [oneLoop_iff] at h ⊢
    exact h
  | success request =>
    refine iff_of_true ?_ (admitted (by simp))
    rw [step]
    split
    · rename_i listed
      exact oneLoop_completed h listed
    · exact h
  | failure request code =>
    refine iff_of_true ?_ (admitted (by simp))
    rw [step]
    split
    · rename_i listed
      split
      · exact oneLoop_completed h listed
      · exact oneLoop_iff.mpr fun on => by cases on
    · exact h
  | performs =>
    refine iff_of_true ?_ (admitted (by simp))
    rw [step]
    split
    · rename_i waiting
      rw [oneLoop_iff] at h ⊢
      intro on
      have before := h on
      simp only [updateRequestLoop, List.length_append, List.length_singleton]
      omega
    · exact h

end Loops
end ClientSession

/-- A phone never has two update loops exactly if every loop is started when no request
    of an earlier one is outstanding or about to be issued. -/
theorem one_update_loop_iff (es : List SessionEvent) :
    (∀ n, (run ClientSession.step .initial (es.take n)).OneLoop) ↔
      StepsMeet ClientSession.step ClientSession.StartsAfresh .initial es := by
  apply holds_throughout_iff ClientSession.step (fun _ => True)
  · intro s e _
    exact trivial
  · intro s e _ one
    exact ClientSession.oneLoop_step one e
  · exact trivial
  · exact ClientSession.oneLoop_iff.mpr fun on => by cases on

/-- The user leaves the party and comes back while a poll is under way. -/
theorem restarted_loop_doubled :
    ¬ ∀ es : List SessionEvent, (run ClientSession.step .initial es).continuing.length ≤ 1 := by
  intro always
  have twice := always [.startUpdateRequests, .stopUpdateRequests, .startUpdateRequests]
  revert twice
  decide

end MusicCloud
