import MusicCloud.Requests

/-!
Whose votes and reactions the database holds. A session that posts one should
be a guest's, and should leave no row behind when it ends; the code checks
neither. Phones and speakers validate their sessions in the same way, and the
foreign keys of `votes` and `likes` are not enforced.
-/
namespace MusicCloud
open Runs Tables

namespace Database
variable {db : Database}

def rowHolders (db : Database) : List Int :=
  db.votes.map VoteRow.session_id ++ db.likes.map LikeRow.session_id

theorem mem_rowHolders_insertVote {sessionID songID id : Int} :
    id ∈ (db.insertVote sessionID songID).rowHolders ↔ id ∈ db.rowHolders ∨ id = sessionID := by
  simp only [rowHolders, insertVote, List.mem_append]
  rw [mem_column_insertOrReplace VoteRow.session_id VoteRow.session_id _ _ fun _ same => same,
    or_right_comm]

theorem mem_rowHolders_insertLike {sessionID songID value id : Int} :
    id ∈ (db.insertLike sessionID songID value).rowHolders ↔
      id ∈ db.rowHolders ∨ id = sessionID := by
  simp only [rowHolders, insertLike, List.mem_append]
  rw [mem_column_insertOrReplace _ LikeRow.session_id _ _ fun _ same => (Prod.mk.inj same).1,
    or_assoc]

theorem rowHolders_mono {db' : Database} (votes : db'.votes ⊆ db.votes)
    (likes : db'.likes ⊆ db.likes) : db'.rowHolders ⊆ db.rowHolders := by
  intro id holds
  rcases List.mem_append.mp holds with voted | reacted
  · exact List.mem_append_left _ (List.map_subset _ votes voted)
  · exact List.mem_append_right _ (List.map_subset _ likes reacted)

end Database

namespace Server
variable {s : Server}

def isUser (s : Server) (id : Int) : Prop :=
  ∃ r ∈ s.db.sessions, r.id = id ∧ r.sessionType = .User

/-- Every vote and reaction belongs to a user session of the table, and no more
    votes are counted than there are such sessions. -/
structure PeopleVote (s : Server) : Prop where
  guests : ∀ id ∈ s.db.rowHolders, s.isUser id
  counted : (s.db.getVotes.map VoteData.votes).sum ≤ s.db.getSessionCount

def writer : Call → Option Int
  | .vote songID sessionID => if songID < 0 ∨ sessionID < 0 then none else some sessionID
  | .like songID sessionID => if songID < 0 ∨ sessionID < 0 then none else some sessionID
  | .dislike songID sessionID => if songID < 0 ∨ sessionID < 0 then none else some sessionID
  | _ => none

/-- A session that ends holds no row; one that posts a row is a user's. -/
def GuestsStay (s : Server) (e : Event) : Prop :=
  match s.comesTo e with
  | some (.destroySession id) => id ∉ s.db.rowHolders
  | some c => ∀ id, writer c = some id → s.isUser id
  | none => True

section Rows

theorem mem_rowHolders_stored (s : Server) (c : Call) (id : Int) :
    id ∈ (s.stored c).db.rowHolders ↔ id ∈ s.db.rowHolders ∨ writer c = some id := by
  cases c with
  | vote songID sessionID =>
    by_cases invalid : songID < 0 ∨ sessionID < 0
    · simp [stored, writer, invalid]
    · rw [stored, writer, if_neg invalid, if_neg invalid, Database.mem_rowHolders_insertVote,
        Option.some_inj, eq_comm]
  | like songID sessionID | dislike songID sessionID =>
    by_cases invalid : songID < 0 ∨ sessionID < 0
    · simp [stored, writer, invalid]
    · rw [stored, writer, if_neg invalid, if_neg invalid, reacted,
        Database.mem_rowHolders_insertLike, Option.some_inj, eq_comm]
  | _ => simp [stored, writer]

theorem stored_votes_nodup (nodup : (s.db.votes.map VoteRow.session_id).Nodup) (c : Call) :
    ((s.stored c).db.votes.map VoteRow.session_id).Nodup := by
  unfold stored
  split
  · split
    · exact nodup
    · exact keys_nodup_insertOrReplace VoteRow.session_id nodup _
  · split <;> exact nodup
  · split <;> exact nodup
  · exact nodup

section Step
variable (agrees : s.playback.Agrees) (positive : ∀ r ∈ s.db.songs, 0 < r.id)
include agrees positive

theorem rowHolders_call (c : Call) {id : Int} (holds : id ∈ (s.call c).db.rowHolders) :
    id ∈ s.db.rowHolders ∨ writer c = some id := by
  cases starts : s.startsNext c with
  | some next =>
    obtain ⟨-, votes, likes, -⟩ := call_started agrees positive starts
    refine Or.inl (Database.rowHolders_mono ?_ ?_ holds)
    · rw [votes]
      exact List.filter_subset_self _
    · rw [likes]
      exact List.filter_subset_self _
  | none =>
    have kept := call_unstarted agrees starts
    have rows : (s.call c).db.rowHolders = (s.stored c).db.rowHolders := by
      rw [Database.rowHolders, kept.votes, kept.likes, Database.rowHolders]
    exact (mem_rowHolders_stored s c id).mp (rows ▸ holds)

theorem votes_nodup_call (nodup : (s.db.votes.map VoteRow.session_id).Nodup) (c : Call) :
    ((s.call c).db.votes.map VoteRow.session_id).Nodup := by
  cases starts : s.startsNext c with
  | some next =>
    rw [(call_started agrees positive starts).2.1]
    exact keys_nodup_filter nodup _
  | none =>
    rw [(call_unstarted agrees starts).votes]
    exact stored_votes_nodup nodup c

omit positive in
theorem rowHolders_kept {c : Call} (starts : s.startsNext c = none) {id : Int}
    (holds : id ∈ s.db.rowHolders ∨ writer c = some id) : id ∈ (s.call c).db.rowHolders := by
  have kept := call_unstarted agrees starts
  rw [Database.rowHolders, kept.votes, kept.likes]
  exact (mem_rowHolders_stored s c id).mpr holds

end Step

end Rows

section Counting

theorem counted_of_guests (agrees : s.playback.Agrees)
    (nodup : (s.db.votes.map VoteRow.session_id).Nodup)
    (guests : ∀ id ∈ s.db.rowHolders, s.isUser id) :
    (s.db.getVotes.map VoteData.votes).sum ≤ s.db.getSessionCount := by
  have songs : (s.db.songs.map SongRow.id).Nodup := agrees.nodup
  have counted : (s.db.getVotes.map VoteData.votes).sum =
      (((s.db.songs.map SongRow.id).map fun id =>
        s.db.votes.countP fun v => v.song_id = id).sum : Nat) := by
    rw [Database.getVotes_eq, List.map_map, List.map_map, Nat.cast_list_sum, List.map_map]
    rfl
  have votes := sum_countP_le VoteRow.song_id songs s.db.votes
  have voters : s.db.votes.map VoteRow.session_id ⊆ s.db.sessionIds .User := by
    intro id voted
    obtain ⟨r, hr, rid, type⟩ := guests id (List.mem_append_left _ voted)
    exact List.mem_map.mpr ⟨r, List.mem_filter.mpr ⟨hr, decide_eq_true type⟩, rid⟩
  have sessions := nodup.length_le_of_subset voters
  rw [List.length_map, Database.sessionIds, List.length_map] at sessions
  rw [counted, Database.getSessionCount]
  exact_mod_cast votes.trans sessions

end Counting

section Sessions

theorem isUser_of_sessions {t : Server} (same : t.db.sessions = s.db.sessions) {id : Int} :
    t.isUser id ↔ s.isUser id := by
  rw [isUser, isUser, same]

theorem isUser_call (agrees : s.playback.Agrees) {c : Call} {id : Int}
    (stays : c ≠ .destroySession id) (user : s.isUser id) : (s.call c).isUser id := by
  rw [isUser_of_sessions (handed_call agrees c).sessions]
  obtain ⟨r, hr, rid, type⟩ := user
  have joined : ∀ ip type, r ∈ (s.joined ip type).db.sessions := by
    intro ip type
    cases type <;> exact List.mem_append_left _ hr
  refine ⟨r, ?_, rid, type⟩
  unfold reseated
  split
  · split
    · exact joined _ _
    · exact hr
  · split
    · exact joined _ _
    · exact hr
  · split
    · exact hr
    · refine List.mem_filter.mpr ⟨hr, decide_eq_true ?_⟩
      rintro rfl
      exact stays (by rw [rid])
  · split <;> exact hr
  · exact hr
  · exact hr

theorem writer_reseated {c : Call} {id : Int} (writes : writer c = some id) :
    s.reseated c = s ∧ s.startsNext c = none := by
  cases c with
  | vote => exact ⟨rfl, rfl⟩
  | like => exact ⟨rfl, rfl⟩
  | dislike => exact ⟨rfl, rfl⟩
  | _ => cases writes

end Sessions

section Runs
variable {music : List MusicRow}

theorem guests_serve (sound : s.Sound music) {e : Event} (stay : s.GuestsStay e)
    (guests : ∀ id ∈ s.db.rowHolders, s.isUser id) :
    ∀ id ∈ (s.serve e).db.rowHolders, (s.serve e).isUser id := by
  rw [serve_eq]
  rw [GuestsStay] at stay
  cases called : s.comesTo e with
  | none => exact guests
  | some c =>
    rw [called] at stay
    intro id holds
    have before := rowHolders_call sound.agrees sound.positive c holds
    have user : s.isUser id := by
      rcases before with old | writes
      · exact guests id old
      · cases c with
        | destroySession => cases writes
        | _ => exact stay id writes
    refine isUser_call sound.agrees ?_ user
    rintro rfl
    rcases before with old | writes
    · exact stay old
    · cases writes

theorem peopleVote_run (clock : Nat) (events : List Event)
    (stay : StepsMeet serve GuestsStay (start music clock) events) :
    (run serve (start music clock) events).PeopleVote := by
  obtain ⟨sound, nodup, guests⟩ := invariant_of_stepsMeet serve
    (fun s => s.Sound music ∧ (s.db.votes.map VoteRow.session_id).Nodup ∧
      ∀ id ∈ s.db.rowHolders, s.isUser id)
    (fun s e ⟨sound, nodup, guests⟩ stay => ⟨sound.serve e, by
      rw [serve_eq]
      cases s.comesTo e with
      | none => exact nodup
      | some c => exact votes_nodup_call sound.agrees sound.positive nodup c,
      guests_serve sound stay guests⟩)
    events _ ⟨sound_start music clock, List.nodup_nil, by simp [start, Database.create, Database.rowHolders]⟩ stay
  exact ⟨guests, counted_of_guests sound.agrees nodup guests⟩

theorem not_guests_serve (sound : s.Sound music) {e : Event} (broken : ¬ s.GuestsStay e)
    (guests : ∀ id ∈ s.db.rowHolders, s.isUser id) : ¬ (s.serve e).PeopleVote := by
  intro after
  rw [serve_eq] at after
  rw [GuestsStay] at broken
  cases called : s.comesTo e with
  | none => simp [called] at broken
  | some c =>
    rw [called] at broken after
    have written : (∀ id, c ≠ .destroySession id) → False := by
      intro other
      obtain ⟨id, writes, stranger⟩ : ∃ id, writer c = some id ∧ ¬ s.isUser id := by
        cases c with
        | destroySession id => exact absurd rfl (other id)
        | _ => simpa using broken
      obtain ⟨kept, starts⟩ := writer_reseated (s := s) writes
      have holds := rowHolders_kept sound.agrees starts (Or.inr writes)
      have sessions := (handed_call sound.agrees c).sessions
      rw [kept] at sessions
      exact stranger ((isUser_of_sessions sessions).mp (after.guests id holds))
    cases c with
    | destroySession id =>
      have holds : id ∈ s.db.rowHolders := not_not.mp broken
      obtain ⟨r, hr, rid, -⟩ := guests id holds
      have valid : ¬ id < 0 := by
        have := (sound.roster.numbered r hr).1
        omega
      obtain ⟨r', hr', rid', -⟩ := after.guests id
        (rowHolders_kept sound.agrees (c := .destroySession id) rfl (Or.inl holds))
      rw [(handed_call sound.agrees (.destroySession id)).sessions, reseated, if_neg valid] at hr'
      exact of_decide_eq_true (List.mem_filter.mp hr').2 rid'
    | _ => exact written (by simp)

end Runs

end Server

/-- Only people at the party vote, in every state of a run, exactly when every
    session that posts a vote or a reaction is a user's and no session ends that
    a stored vote or reaction belongs to. -/
theorem only_people_vote_iff (music : List MusicRow) (clock : Nat) (events : List Event) :
    (∀ ran, ran <+: events → (run Server.serve (.start music clock) ran).PeopleVote) ↔
      StepsMeet Server.serve Server.GuestsStay (.start music clock) events := by
  constructor
  · intro always
    induction events using List.reverseRecOn with
    | nil => trivial
    | append_singleton events e ih =>
      refine (stepsMeet_concat _ _ _ _ _).mpr ⟨ih fun ran before => ?_, ?_⟩
      · exact always ran (before.trans (List.prefix_append events [e]))
      · by_contra broken
        have before := always events (List.prefix_append events [e])
        refine Server.not_guests_serve (Server.sound_run music clock events) broken before.guests ?_
        rw [← run_concat Server.serve]
        exact always _ (List.prefix_refl _)
  · rintro stay ran ⟨rest, rfl⟩
    exact Server.peopleVote_run clock ran ((stepsMeet_append _ _ _ ran rest).mp stay).1

def guestLeftEvents : List Event :=
  [.request "10.0.0.2" (.clientAuthenticate (some "1234")), .request "10.0.0.2" (.vote 1 1),
    .request "10.0.0.2" (.clientDeauthenticate 1)]

/-- Her vote is still counted, though there is no session any more. -/
theorem vote_of_departed_counted :
    ¬ ∀ (music : List MusicRow) (clock : Nat) (events : List Event),
      (run Server.serve (.start music clock) events).PeopleVote := by
  intro always
  have counted := (always twoSongs 0 guestLeftEvents).counted
  revert counted
  decide

end MusicCloud
