import MusicCloud.StatusReports
import MusicCloud.Interleavings

/-!
The identity of sessions that are created while other requests run. The row
number read after the insertion is that of the connection's last insertion, so
it is the new session's own only if no vote, like or dislike is stored in
between.
-/
namespace MusicCloud
open Runs

namespace Concurrent
variable {s : Concurrent} {t : Nat}

structure IdentitiesKept (s : Concurrent) : Prop where
  own : ∀ c ∈ s.created, c.session.id = c.row
  distinct : (s.created.map fun c => c.session.id).Nodup
  vacant : ∀ c ∈ s.created, c.replaced = none

def assigns (db : Database) : Thread → Option Int
  | .insertVote _ sessionID => some sessionID
  | .insertLike _ _ _ => some (freshRowid (db.likes.map LikeRow.rowid))
  | _ => none

/-- No vote or reaction is stored between the insertion of a session and the
    query for its number, unless it gets that very number. -/
def InsertsApart (s : Concurrent) : Turn → Prop
  | .arrives _ _ => True
  | .proceeds t => ∀ rowid, assigns s.server.db (s.threads t) = some rowid →
      ∀ u ip type row, s.threads u = .selectRowid ip type row → row = rowid

section Invariant

/-- The row that a thread has inserted and has not put in the map yet. -/
def holds : Thread → Option Int
  | .selectRowid _ _ row => some row
  | .insertChild _ _ row _ => some row
  | .stopTransaction _ _ row _ => some row
  | .putSession _ _ row _ => some row
  | _ => none

def numbered : Thread → Option (Int × Int)
  | .insertChild _ _ row sessionID => some (row, sessionID)
  | .stopTransaction _ _ row sessionID => some (row, sessionID)
  | .putSession _ _ row sessionID => some (row, sessionID)
  | _ => none

def inTransaction : Thread → Bool
  | .insertSession _ _ _ => true
  | .selectRowid _ _ _ => true
  | .insertChild _ _ _ _ => true
  | .stopTransaction _ _ _ _ => true
  | _ => false

structure Own (server : Server) (lock : Option Nat) (u : Nat) (thread : Thread) : Prop where
  locked : inTransaction thread = true → lock = some u
  last : ∀ ip type row, thread = .selectRowid ip type row → server.db.lastInsertRowid = row
  same : ∀ row sessionID, numbered thread = some (row, sessionID) → sessionID = row
  pending : ∀ row, holds thread = some row →
    row ≤ server.db.sessionSequence ∧ server.sessionMap row = none

structure Numbered (s : Concurrent) : Prop where
  agrees : s.server.playback.Agrees
  own : ∀ u, Own s.server s.transactionLock u (s.threads u)
  apart : ∀ u v row, holds (s.threads u) = some row → holds (s.threads v) = some row → u = v
  above : ∀ id, s.server.db.sessionSequence < id → s.server.sessionMap id = none
  listed : ∀ c ∈ s.created, (s.server.sessionMap c.session.id).isSome
  kept : s.IdentitiesKept

theorem Own.frame {server server' : Server} {lock lock' : Option Nat} {u : Nat} {thread : Thread}
    (own : Own server lock u thread) (locked : lock = some u → lock' = some u)
    (last : ∀ ip type row, thread = .selectRowid ip type row →
      server'.db.lastInsertRowid = server.db.lastInsertRowid)
    (sequence : server.db.sessionSequence ≤ server'.db.sessionSequence)
    (map : ∀ row, holds thread = some row → server'.sessionMap row = none) :
    Own server' lock' u thread := by
  constructor
  · intro inside
    exact locked (own.locked inside)
  · intro ip type row here
    rw [last ip type row here]
    exact own.last ip type row here
  · exact own.same
  · intro row held
    have bound := (own.pending row held).1
    exact ⟨by omega, map row held⟩

theorem own_of_outside {server : Server} {lock : Option Nat} {u : Nat} {thread : Thread}
    (outside : inTransaction thread = false) (free : holds thread = none)
    (fresh : numbered thread = none) : Own server lock u thread := by
  constructor
  · simp [outside]
  · rintro ip type row rfl
    cases free
  · simp [fresh]
  · simp [free]

theorem threads_goto (s : Concurrent) (t u : Nat) (thread : Thread) :
    (s.goto t thread).threads u = if u = t then thread else s.threads u := by
  by_cases same : u = t
  · subst same
    simp [goto]
  · simp [goto, same]

theorem Numbered.goto (h : s.Numbered) (server : Server) (lock : Option Nat) {thread : Thread}
    (agrees : server.playback.Agrees)
    (others : ∀ u, u ≠ t → Own server lock u (s.threads u)) (own : Own server lock t thread)
    (holder : ∀ row, holds thread = some row → holds (s.threads t) = some row ∨
      ∀ u, u ≠ t → holds (s.threads u) ≠ some row)
    (above : ∀ id, server.db.sessionSequence < id → server.sessionMap id = none)
    (listed : ∀ id, (s.server.sessionMap id).isSome → (server.sessionMap id).isSome) :
    ({ s with server := server, transactionLock := lock }.goto t thread).Numbered := by
  constructor
  · exact agrees
  · intro u
    rw [threads_goto]
    by_cases same : u = t
    · rw [if_pos same, same]
      exact own
    · rw [if_neg same]
      exact others u same
  · intro u v row first second
    rw [threads_goto] at first second
    by_cases left : u = t <;> by_cases right : v = t
    · omega
    · rw [if_pos left] at first
      rw [if_neg right] at second
      rcases holder row first with before | fresh
      · exact left.trans (h.apart t v row before second)
      · exact absurd second (fresh v right)
    · rw [if_neg left] at first
      rw [if_pos right] at second
      rcases holder row second with before | fresh
      · exact (h.apart u t row first before).trans right.symm
      · exact absurd first (fresh u left)
    · rw [if_neg left] at first
      rw [if_neg right] at second
      exact h.apart u v row first second
  · exact above
  · intro c hc
    exact listed _ (h.listed c hc)
  · exact ⟨h.kept.own, h.kept.distinct, h.kept.vacant⟩

/-- What a statement or region does to the roster unless it adds a session. -/
structure Calm (server server' : Server) : Prop where
  agrees : server'.playback.Agrees
  sequence : server'.db.sessionSequence = server.db.sessionSequence
  map : ∀ id, (server'.sessionMap id).isSome = (server.sessionMap id).isSome

theorem Calm.refl {server : Server} (agrees : server.playback.Agrees) : Calm server server :=
  ⟨agrees, rfl, fun _ => rfl⟩

theorem Numbered.calm (h : s.Numbered) {server : Server} {thread : Thread}
    (calm : Calm s.server server)
    (last : ∀ u ip type row, s.threads u = .selectRowid ip type row →
      server.db.lastInsertRowid = row)
    (outside : inTransaction thread = false) (free : holds thread = none)
    (fresh : numbered thread = none) : ({ s with server := server }.goto t thread).Numbered := by
  have vacant : ∀ id, s.server.sessionMap id = none → server.sessionMap id = none := by
    intro id none
    have same := calm.map id
    rw [none] at same
    simpa using same
  apply h.goto server s.transactionLock calm.agrees
  · intro u _
    apply (h.own u).frame
    · exact fun same => same
    · intro ip type row here
      rw [last u ip type row here, (h.own u).last ip type row here]
    · exact calm.sequence.ge
    · intro row held
      exact vacant row ((h.own u).pending row held).2
  · exact own_of_outside outside free fresh
  · simp [free]
  · intro id bound
    rw [calm.sequence] at bound
    exact vacant id (h.above id bound)
  · intro id some
    rwa [calm.map id]

end Invariant

section Regions
variable {server : Server}

theorem calm_of_acts {report : Option (Int × Status)} {server' : Server}
    (agrees : server.playback.Agrees) (acts : Server.Acts report server server') :
    Calm server server' := by
  have handed := Server.handed_of_acts acts
  refine ⟨Server.agrees_of_acts acts agrees, handed.sequence, ?_⟩
  intro id
  obtain ⟨us, told⟩ := handed.map id
  rw [told, Option.isSome_map]

theorem lastInsertRowid_of_acts {report : Option (Int × Status)} {server' : Server}
    (acts : Server.Acts report server server') :
    server'.db.lastInsertRowid = server.db.lastInsertRowid := by
  induction acts with
  | refl => rfl
  | tail _ act ih =>
    rw [← ih]
    cases act with
    | start song =>
      unfold Server.started Database.updateNextSong
      split <;> rfl
    | _ => rfl

theorem acts_decideSkip (stats : LikeData) :
    Server.Acts none server (finalState (Server.decideSkip stats server)) := by
  rw [decideSkip_apply]
  split
  · exact Server.acts_skipToNext none
  · exact .refl

theorem calm_deliver (agrees : server.playback.Agrees) (update : SessionUpdate) (ids : List Int) :
    Calm server { server with
      sessionMap := ids.foldl (Server.deliver server.isActive update) server.sessionMap } := by
  refine ⟨agrees, rfl, ?_⟩
  intro id
  generalize server.isActive = isActive
  dsimp only
  generalize server.sessionMap = sessionMap
  induction ids generalizing sessionMap with
  | nil => rfl
  | cons target ids ih =>
    rw [List.foldl_cons, ih, Server.deliver_apply, Option.isSome_map]

end Regions

section Step

theorem numbered_start (server : Server) (agrees : server.playback.Agrees)
    (roster : server.RosterAgrees) : (start server).Numbered := by
  constructor
  · exact agrees
  · intro u
    exact own_of_outside rfl rfl rfl
  · intro u v row first
    cases first
  · intro id bound
    by_contra live
    obtain ⟨session, found⟩ := Option.ne_none_iff_exists'.mp live
    obtain ⟨-, r, listed, rid, -⟩ := roster.live id session found
    have := (roster.numbered r listed).2
    change server.db.sessionSequence < id at bound
    omega
  · intro c created
    cases created
  · exact ⟨by simp [start], by simp [start], by simp [start]⟩

theorem numbered_arrive (h : s.Numbered) (job : Job) : (s.arrive t job).Numbered := by
  unfold arrive
  split
  · have free : holds (firstStatement s.server job) = none ∧
        inTransaction (firstStatement s.server job) = false ∧
        numbered (firstStatement s.server job) = none := by
      unfold firstStatement
      split
      · split
        · exact ⟨rfl, rfl, rfl⟩
        · split <;> exact ⟨rfl, rfl, rfl⟩
      all_goals split <;> exact ⟨rfl, rfl, rfl⟩
    exact h.calm (.refl h.agrees) (fun u => (h.own u).last) free.2.1 free.1 free.2.2
  · exact h

theorem Numbered.alone (h : s.Numbered) (inside : inTransaction (s.threads t) = true) {u : Nat}
    (other : u ≠ t) : inTransaction (s.threads u) = false := by
  by_contra also
  have mine := (h.own t).locked inside
  have yours := (h.own u).locked (by simpa using also)
  rw [mine] at yours
  exact other (Option.some.inj yours).symm

section CreateSession
variable {ip : String} {type : SessionType}

theorem numbered_startTransaction (h : s.Numbered) {time : Int}
    (free : s.transactionLock = none) :
    ({ s with transactionLock := some t }.goto t (.insertSession ip type time)).Numbered := by
  apply h.goto s.server (some t) h.agrees
  · intro u other
    apply (h.own u).frame
    · simp [free]
    · intro _ _ _ _
      rfl
    · exact le_refl _
    · intro row held
      exact ((h.own u).pending row held).2
  · constructor <;> simp [holds, numbered]
  · simp [holds]
  · exact h.above
  · exact fun _ some => some

theorem numbered_insertSession (h : s.Numbered) {time : Int}
    (here : s.threads t = .insertSession ip type time) :
    ({ s with server := { s.server with db := s.server.db.insertSession ip type time } }.goto t
      (.selectRowid ip type (s.server.db.sessionSequence + 1))).Numbered := by
  have inside : inTransaction (s.threads t) = true := by rw [here]; rfl
  have vacant : s.server.sessionMap (s.server.db.sessionSequence + 1) = none := by
    apply h.above
    omega
  apply h.goto { s.server with db := s.server.db.insertSession ip type time } s.transactionLock
  · exact h.agrees
  · intro u other
    apply (h.own u).frame
    · exact fun same => same
    · intro ip type row waits
      have outside := h.alone inside other
      rw [waits] at outside
      cases outside
    · simp only [Database.insertSession]
      omega
    · intro row held
      exact ((h.own u).pending row held).2
  · constructor
    · intro _
      exact (h.own t).locked inside
    · intro ip' type' row same
      cases same
      rfl
    · intro row sessionID read
      cases read
    · intro row held
      cases held
      exact ⟨le_refl _, vacant⟩
  · intro row held
    cases held
    right
    intro u other held
    have bound := ((h.own u).pending _ held).1
    omega
  · intro id bound
    apply h.above
    simp only [Database.insertSession] at bound
    omega
  · exact fun _ some => some

theorem numbered_selectRowid (h : s.Numbered) {row : Int}
    (here : s.threads t = .selectRowid ip type row) :
    (s.goto t (.insertChild ip type row s.server.db.lastInsertRowid)).Numbered := by
  have own := h.own t
  rw [here] at own
  apply h.goto s.server s.transactionLock h.agrees
  · intro u _
    exact h.own u
  · constructor
    · intro _
      exact own.locked rfl
    · simp
    · intro row' sessionID read
      cases read
      exact own.last ip type row rfl
    · exact own.pending
  · intro row' held
    left
    rw [here]
    exact held
  · exact h.above
  · exact fun _ some => some

theorem numbered_insertChild (h : s.Numbered) {row sessionID : Int}
    (here : s.threads t = .insertChild ip type row sessionID) :
    ({ s with server :=
      { s.server with db := s.server.db.insertChildSession type sessionID } }.goto t
      (.stopTransaction ip type row sessionID)).Numbered := by
  have own := h.own t
  rw [here] at own
  have inside : inTransaction (s.threads t) = true := by rw [here]; rfl
  have sequence : (s.server.db.insertChildSession type sessionID).sessionSequence =
      s.server.db.sessionSequence := by cases type <;> rfl
  apply h.goto { s.server with db := s.server.db.insertChildSession type sessionID }
    s.transactionLock
  · cases type <;> exact h.agrees
  · intro u other
    apply (h.own u).frame
    · exact fun same => same
    · intro ip type row waits
      have outside := h.alone inside other
      rw [waits] at outside
      cases outside
    · exact sequence.ge
    · intro row held
      exact ((h.own u).pending row held).2
  · constructor
    · intro _
      exact own.locked rfl
    · simp
    · exact own.same
    · intro row held
      rw [sequence]
      exact own.pending row held
  · intro row' held
    left
    rw [here]
    exact held
  · intro id bound
    apply h.above
    rwa [sequence] at bound
  · exact fun _ some => some

theorem numbered_stopTransaction (h : s.Numbered) {row sessionID : Int}
    (here : s.threads t = .stopTransaction ip type row sessionID) :
    ({ s with transactionLock := none }.goto t (.putSession ip type row sessionID)).Numbered := by
  have own := h.own t
  rw [here] at own
  have inside : inTransaction (s.threads t) = true := by rw [here]; rfl
  apply h.goto s.server none h.agrees
  · intro u other
    constructor
    · intro also
      rw [h.alone inside other] at also
      cases also
    · exact (h.own u).last
    · exact (h.own u).same
    · exact (h.own u).pending
  · constructor
    · simp [inTransaction]
    · simp
    · exact own.same
    · exact own.pending
  · intro row' held
    left
    rw [here]
    exact held
  · exact h.above
  · exact fun _ some => some

theorem numbered_putSession (h : s.Numbered) {row sessionID : Int}
    (here : s.threads t = .putSession ip type row sessionID) : (s.proceed t).Numbered := by
  have own := h.own t
  rw [here] at own
  have same : sessionID = row := own.same row sessionID rfl
  subst same
  obtain ⟨bound, vacant⟩ := own.pending sessionID rfl
  let session := Session.create sessionID ip type
  let server := { s.server with
    sessionMap := Function.update s.server.sessionMap sessionID (some session) }
  have moved : ({ s with server := server, transactionLock := s.transactionLock }.goto t
      .idle).Numbered := by
    apply h.goto server s.transactionLock
    · exact h.agrees
    · intro u other
      apply (h.own u).frame
      · exact fun same => same
      · intro _ _ _ _
        rfl
      · exact le_refl _
      · intro row held
        have differs : row ≠ sessionID := by
          rintro rfl
          exact other (h.apart u t row held (by rw [here]; rfl))
        simpa [server, differs] using ((h.own u).pending row held).2
    · exact own_of_outside rfl rfl rfl
    · simp [holds]
    · intro id above
      have differs : id ≠ sessionID := by
        change s.server.db.sessionSequence < id at above
        omega
      simpa [server, differs] using h.above id above
    · intro id some
      by_cases eq : id = sessionID
      · simp [server, eq]
      · simpa [server, eq] using some
  unfold proceed
  rw [here]
  dsimp only
  refine ⟨moved.agrees, moved.own, moved.apart, moved.above, ?_, ?_⟩
  · intro c hc
    rcases List.mem_append.mp hc with old | new
    · exact moved.listed c old
    · rw [List.mem_singleton.mp new]
      simp [goto, Session.create]
  · constructor
    · intro c hc
      rcases List.mem_append.mp hc with old | new
      · exact h.kept.own c old
      · rw [List.mem_singleton.mp new]
        rfl
    · change ((s.created ++ [_]).map fun c : Creation => c.session.id).Nodup
      rw [List.map_append]
      apply List.Nodup.append h.kept.distinct (List.nodup_singleton _)
      intro id old new
      obtain ⟨c, hc, rfl⟩ := List.mem_map.mp old
      have live := h.listed c hc
      have eq : c.session.id = sessionID := List.mem_singleton.mp new
      rw [eq, vacant] at live
      cases live
    · intro c hc
      rcases List.mem_append.mp hc with old | new
      · exact h.kept.vacant c old
      · rw [List.mem_singleton.mp new]
        exact vacant

end CreateSession

theorem numbered_step (h : s.Numbered) (e : Turn) (separate : s.InsertsApart e) :
    (s.step e).Numbered := by
  cases e with
  | arrives t job => exact numbered_arrive h job
  | proceeds t =>
    have last := fun u => (h.own u).last
    rw [step]
    cases here : s.threads t with
    | idle =>
      rw [proceed, here]
      exact h
    | startTransaction ip type time =>
      rw [proceed, here]
      dsimp only
      split
      · rename_i free
        exact numbered_startTransaction h (Option.isNone_iff_eq_none.mp free)
      · exact h
    | insertSession ip type time =>
      rw [proceed, here]
      exact numbered_insertSession h here
    | selectRowid ip type row =>
      rw [proceed, here]
      exact numbered_selectRowid h here
    | insertChild ip type row sessionID =>
      rw [proceed, here]
      exact numbered_insertChild h here
    | stopTransaction ip type row sessionID =>
      rw [proceed, here]
      exact numbered_stopTransaction h here
    | putSession ip type row sessionID => exact numbered_putSession h here
    | insertVote songID sessionID =>
      have calm : Calm s.server
          { s.server with db := s.server.db.insertVote sessionID songID } :=
        ⟨h.agrees, rfl, fun _ => rfl⟩
      rw [proceed, here]
      apply h.calm calm _ rfl rfl rfl
      intro u ip type row waits
      exact (separate sessionID (by rw [here]; rfl) u ip type row waits).symm
    | insertLike songID sessionID value =>
      have calm : Calm s.server
          { s.server with db := s.server.db.insertLike sessionID songID value } :=
        ⟨h.agrees, rfl, fun _ => rfl⟩
      rw [proceed, here]
      apply h.calm calm _ rfl rfl rfl
      intro u ip type row waits
      exact (separate _ (by rw [here]; rfl) u ip type row waits).symm
    | selectVotes =>
      rw [proceed, here]
      exact h.calm (.refl h.agrees) last rfl rfl rfl
    | getActiveSong disliked =>
      have acts := Server.acts_getActiveSong none h.agrees
      have calm := calm_of_acts h.agrees acts
      have kept := lastInsertRowid_of_acts acts
      rw [proceed, here]
      dsimp only
      generalize Server.getActiveSong s.server = found at calm kept ⊢
      cases found with
      | ok active server =>
        exact h.calm calm (fun u ip type row waits => kept.trans (last u ip type row waits)) rfl rfl rfl
      | error e server =>
        exact h.calm calm (fun u ip type row waits => kept.trans (last u ip type row waits)) rfl rfl rfl
    | selectReactions disliked songID =>
      rw [proceed, here]
      dsimp only
      split
      · exact h.calm (.refl h.agrees) last rfl rfl rfl
      · exact h.calm (.refl h.agrees) last rfl rfl rfl
    | selectSessions update disliked =>
      rw [proceed, here]
      exact h.calm (.refl h.agrees) last rfl rfl rfl
    | sendUpdates update ids disliked =>
      rw [proceed, here]
      have calm := calm_deliver h.agrees update ids
      cases disliked with
      | none => exact h.calm calm last rfl rfl rfl
      | some stats => exact h.calm calm last rfl rfl rfl
    | decideSkip stats =>
      have acts : Server.Acts none s.server _ := acts_decideSkip stats
      have kept := lastInsertRowid_of_acts acts
      rw [proceed, here]
      exact h.calm (calm_of_acts h.agrees acts)
        (fun u ip type row waits => kept.trans (last u ip type row waits)) rfl rfl rfl

end Step

end Concurrent

/-- Every session gets the number of its own row, a number of its own, and a
    free place in the session map, in every run in which no vote or reaction is
    stored between the insertion of a session and the query for its number. -/
theorem session_identity_kept (music : List MusicRow) (clock : Nat) (calls : List Call)
    (turns : List Turn)
    (separate : StepsMeet Concurrent.step Concurrent.InsertsApart
      (.start (run Server.call (.start music clock) calls)) turns) :
    (run Concurrent.step (.start (run Server.call (.start music clock) calls)) turns).IdentitiesKept := by
  have agrees := Server.agrees_run music clock calls
  have roster := Server.rosterAgrees_run music clock calls
  have first := Concurrent.numbered_start _ agrees roster
  have last := invariant_of_stepsMeet Concurrent.step Concurrent.Numbered
    (fun s e h separate => Concurrent.numbered_step h e separate) turns _ first separate
  exact last.kept

def guestCalls : List Call := [.authenticateUser (some "1234") "10.0.0.2"]

def joinTurns : List Turn :=
  Concurrent.uninterrupted 0 (.createSession (some "1234") "10.0.0.3" .User)

theorem second_guest_numbered :
    (run Concurrent.step (.start (run Server.call (.start twoSongs 0) guestCalls))
      joinTurns).IdentitiesKept := by
  apply session_identity_kept
  refine ⟨trivial, ?_, ?_, ?_, ?_, ?_, ?_, trivial⟩
  all_goals intro _ stored; cases stored

def votedTurns : List Turn :=
  [.arrives 0 (.createSession (some "1234") "10.0.0.3" .User), .arrives 1 (.vote 1 1),
    .proceeds 0, .proceeds 0, .proceeds 1, .proceeds 0, .proceeds 0, .proceeds 0, .proceeds 0]

/-- Then the second guest gets the first one's number, and her place in the map. -/
theorem vote_gives_wrong_session :
    ¬ ∀ (music : List MusicRow) (clock : Nat) (calls : List Call) (turns : List Turn),
      (run Concurrent.step (.start (run Server.call (.start music clock) calls))
        turns).IdentitiesKept := by
  intro always
  have own := (always twoSongs 0 guestCalls votedTurns).own
  have wrong : (run Concurrent.step (.start (run Server.call (.start twoSongs 0) guestCalls))
      votedTurns).created.map (fun c => (c.row, c.session.id)) = [(2, 1)] := by decide
  have listed := wrong ▸ List.mem_singleton_self ((2, 1) : Int × Int)
  obtain ⟨c, created, numbers⟩ := List.mem_map.mp listed
  have same := own c created
  have row := congrArg Prod.fst numbers
  have id := congrArg Prod.snd numbers
  dsimp only at row id
  omega

end MusicCloud
