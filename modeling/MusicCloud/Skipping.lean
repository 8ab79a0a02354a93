import MusicCloud.Totals

/-!
Skipping the active song. A dislike reads the statistics in one step and decides
in another whether enough people dislike the active song, which may by then be
another song.
-/
namespace MusicCloud
open Runs

namespace Observed

def Skips (s : Concurrent) (t : Nat) (e : Occurrence) : Prop :=
  e = .turn (.proceeds t) ∧ ∃ stats, s.threads t = .decideSkip stats ∧
    s.server.nextSong = none ∧ Server.unpopular stats s.server.db.getSessionCount

/-- The dislikes of the active song outnumber its likes by more than a quarter
    of the user sessions. -/
def ActiveUnpopular (server : Server) : Prop :=
  ∃ active, server.activeSong = some active ∧
    4 * ((server.db.dislikesOf active.id : Int) - server.db.likesOf active.id) >
      server.db.getSessionCount

instance (server : Server) : Decidable (ActiveUnpopular server) :=
  decidable_of_iff (server.activeSong.any fun active =>
      decide (4 * ((server.db.dislikesOf active.id : Int) - server.db.likesOf active.id) >
        server.db.getSessionCount)) <| by
    rw [Option.any_eq_true]
    simp [ActiveUnpopular]

def SkipsUnpopular (o : Observed) (e : Occurrence) : Prop :=
  ∀ t, Skips o.now t e → ActiveUnpopular o.now.server

/-- A request that skips has not been overtaken: since it read the statistics,
    no song has started and no reaction to the active song has been stored. -/
def SkipsInTime (o : Observed) (e : Occurrence) : Prop :=
  ∀ t, Skips o.now t e → o.overtaken t = false

theorem skipsUnpopular_of_inTime {o : Observed} (h : o.UpToDate) (e : Occurrence)
    (inTime : o.SkipsInTime e) : o.SkipsUnpopular e := by
  intro t skips
  have kept := inTime t skips
  obtain ⟨-, stats, here, -, unpopular⟩ := skips
  have held : SessionUpdate.likes stats ∈ made (o.now.threads t) := by
    rw [here]
    exact List.mem_singleton_self _
  obtain ⟨active, running, likes, dislikes⟩ := h.current t _ held kept
  refine ⟨active, running, ?_⟩
  rw [← likes, ← dislikes]
  exact of_decide_eq_true unpopular

end Observed

/-- Every skip of a run is entered on the dislikes of the song that is active
    then, if no request that skips has been overtaken. -/
theorem skipped_on_own_dislikes (music : List MusicRow) (clock : Nat) (calls : List Call)
    (occurrences : List Occurrence)
    (inTime : StepsMeet Observed.step Observed.SkipsInTime
      (.start (run Server.call (.start music clock) calls)) occurrences) :
    StepsMeet Observed.step Observed.SkipsUnpopular
      (.start (run Server.call (.start music clock) calls)) occurrences := by
  have agrees := Server.agrees_run music clock calls
  have positive := Server.positive_run music clock calls
  have first := Observed.upToDate_start agrees positive
  apply stepsMeet_of_invariant Observed.step Observed.UpToDate _ _ occurrences _ first inTime
  · intro o e h _
    exact h.step e
  · intro o e h inTime
    exact Observed.skipsUnpopular_of_inTime h e inTime

deriving instance DecidableEq for Thread

def partyCalls : List Call :=
  startedCalls ++ [.authenticateUser (some "1234") "10.0.0.3",
    .authenticateUser (some "1234") "10.0.0.4"]

def dislikedOccurrences : List Occurrence :=
  .turn (.arrives 0 (.dislike 1 2)) :: List.replicate 6 (.turn (.proceeds 0))

theorem disliked_song_skipped :
    StepsMeet Observed.step Observed.SkipsUnpopular
      (.start (run Server.call (.start twoSongs 0) partyCalls)) dislikedOccurrences := by
  apply skipped_on_own_dislikes
  have early : ∀ o : Observed, Observed.made (o.now.threads 0) = [] ∨ o.overtaken 0 = false →
      ∀ e, e = .turn (.proceeds 0) → o.SkipsInTime e := by
    rintro o (empty | kept) e rfl t ⟨same, stats, here, -⟩
    · cases same
      rw [here] at empty
      cases empty
    · cases same
      exact kept
  refine ⟨?_, ?_, ?_, ?_, ?_, ?_, ?_, trivial⟩
  · rintro t ⟨same, -⟩
    cases same
  all_goals
    refine early _ ?_ _ rfl
    decide +kernel

def overtakenOccurrences : List Occurrence :=
  [.turn (.arrives 0 (.dislike 1 2)), .turn (.arrives 1 (.dislike 1 3))] ++
    List.replicate 5 (.turn (.proceeds 0)) ++ List.replicate 5 (.turn (.proceeds 1)) ++
    [.turn (.proceeds 0), .playing 1 2]

/-- Then the second song is skipped, though nobody dislikes it. -/
theorem undisliked_song_skipped :
    ¬ ∀ (music : List MusicRow) (clock : Nat) (calls : List Call) (occurrences : List Occurrence),
      StepsMeet Observed.step Observed.SkipsUnpopular
        (.start (run Server.call (.start music clock) calls)) occurrences := by
  intro always
  have all := always twoSongs 0 partyCalls (overtakenOccurrences ++ [.turn (.proceeds 1)])
  have last := ((stepsMeet_concat _ _ _ _ _).mp all).2
  have decides : (run Observed.step (.start (run Server.call (.start twoSongs 0) partyCalls))
      overtakenOccurrences).now.threads 1 =
        .decideSkip { id := 1, likes := 0, dislikes := 2, balance := -1 } := by
    decide +kernel
  have disliked := last 1 ⟨rfl, _, decides, by decide +kernel, by decide +kernel⟩
  revert disliked
  decide +kernel

end MusicCloud
