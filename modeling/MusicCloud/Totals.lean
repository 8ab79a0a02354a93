import MusicCloud.Likes
import MusicCloud.SessionIdentity

/-!
The totals that concurrent requests read and hand on. Reading and using them are
different steps, so a request may act on totals that have been overtaken: the
rows they were made from have been rewritten since. `Observed` adds that history
to the concurrent requests; a request that has not been overtaken holds the
totals of the tables as they are.
-/
namespace MusicCloud
open Runs Tables

inductive Occurrence where
  | turn (e : Turn)
  | playing (sessionID songID : Int)

def playingReport (sessionID songID : Int) : Call :=
  .speakerStatusUpdate sessionID (some { id := songID, status := some .Playing })

structure Observed where
  now : Concurrent
  /-- The totals that the thread holds have been overtaken. -/
  overtaken : Nat → Bool
  voted : Bool
  reacted : Bool

namespace Observed

def start (server : Server) : Observed :=
  { now := .start server, overtaken := fun _ => false, voted := false, reacted := false }

def made : Thread → List SessionUpdate
  | .selectSessions update disliked => update :: (disliked.map SessionUpdate.likes).toList
  | .sendUpdates update _ disliked => update :: (disliked.map SessionUpdate.likes).toList
  | .decideSkip stats => [.likes stats]
  | _ => []

def storesVote : Thread → Bool
  | .insertVote _ _ => true
  | _ => false

def storesReaction : Thread → Option Int
  | .insertLike songID _ _ => some songID
  | _ => none

/-- The occurrence rewrites the rows that an update of this kind is made from. -/
def rewrites (s : Concurrent) : Occurrence → SessionUpdate → Bool
  | .turn (.arrives _ _), _ => false
  | .turn (.proceeds t), .votes _ => storesVote (s.threads t)
  | .turn (.proceeds t), .likes _ =>
    (storesReaction (s.threads t)).any fun songID =>
      decide (s.server.activeSong.map (fun a => a.id) = some songID)
  | .turn (.proceeds _), _ => false
  | .playing sessionID songID, .votes _ =>
    (s.server.startsNext (playingReport sessionID songID)).isSome
  | .playing sessionID songID, .likes _ =>
    (s.server.startsNext (playingReport sessionID songID)).isSome
  | .playing _ _, _ => false

def occur (s : Concurrent) : Occurrence → Concurrent
  | .turn e => s.step e
  | .playing sessionID songID =>
    { s with server := s.server.call (playingReport sessionID songID) }

def stores (p : Thread → Bool) (s : Concurrent) : Occurrence → Bool
  | .turn (.proceeds t) => p (s.threads t)
  | _ => false

def step (o : Observed) (e : Occurrence) : Observed :=
  { now := occur o.now e
    overtaken := fun u => !(made (o.now.threads u)).isEmpty &&
      (o.overtaken u || (made (o.now.threads u)).any (rewrites o.now e))
    voted := o.voted || stores storesVote o.now e
    reacted := o.reacted || stores (fun t => (storesReaction t).isSome) o.now e }

def Current (server : Server) : SessionUpdate → Prop
  | .votes votes => votes = server.db.getVotes
  | .likes stats => ∃ active, server.activeSong = some active ∧
      stats.likes = server.db.likesOf active.id ∧ stats.dislikes = server.db.dislikesOf active.id
  | _ => True

section Rows
variable {server server' : Server}

def SameRows (server server' : Server) : SessionUpdate → Prop
  | .votes _ => server'.db.songs.map SongRow.id = server.db.songs.map SongRow.id ∧
      server'.db.votes = server.db.votes
  | .likes _ => server'.activeSong.map (fun a => a.id) = server.activeSong.map (fun a => a.id) ∧
      ∀ active, server.activeSong = some active →
        server'.db.likes.filter (fun l => l.song_id = active.id) =
          server.db.likes.filter fun l => l.song_id = active.id
  | _ => True

theorem sameRows_of_same (update : SessionUpdate)
    (songs : server'.db.songs.map SongRow.id = server.db.songs.map SongRow.id)
    (votes : server'.db.votes = server.db.votes) (likes : server'.db.likes = server.db.likes)
    (active : server'.activeSong.map (fun a => a.id) = server.activeSong.map fun a => a.id) :
    SameRows server server' update := by
  unfold SameRows
  split
  · exact ⟨songs, votes⟩
  · exact ⟨active, fun _ _ => by rw [likes]⟩
  · trivial

theorem likesOf_eq (db : Database) (songID : Int) : db.likesOf songID =
    (db.likes.filter fun l => l.song_id = songID).countP fun l => l.value > 0 := by
  unfold Database.likesOf
  rw [List.countP_filter]
  exact List.countP_congr fun l _ => by simp [and_comm]

theorem dislikesOf_eq (db : Database) (songID : Int) : db.dislikesOf songID =
    (db.likes.filter fun l => l.song_id = songID).countP fun l => l.value < 0 := by
  unfold Database.dislikesOf
  rw [List.countP_filter]
  exact List.countP_congr fun l _ => by simp [and_comm]

theorem Current.of_sameRows {update : SessionUpdate} (current : Current server update)
    (same : SameRows server server' update) : Current server' update := by
  cases update with
  | votes votes =>
    obtain ⟨songs, rows⟩ := same
    have shown : votes = server.db.getVotes := current
    change votes = server'.db.getVotes
    let line (db : Database) (id : Int) : VoteData :=
      { id := id, votes := (db.votes.countP fun v => v.song_id = id : Nat) }
    have lines : ∀ db : Database, db.getVotes = (db.songs.map SongRow.id).map (line db) := by
      intro db
      rw [Database.getVotes_eq, List.map_map]
      rfl
    rw [shown, lines, lines, songs]
    simp only [line, rows]
  | likes stats =>
    obtain ⟨ids, rows⟩ := same
    obtain ⟨active, running, likes, dislikes⟩ := current
    rw [running] at ids
    obtain ⟨active', running', id⟩ := Option.map_eq_some_iff.mp ids
    refine ⟨active', running', ?_, ?_⟩
    · rw [likes, id, likesOf_eq, likesOf_eq, rows active running]
    · rw [dislikes, id, dislikesOf_eq, dislikesOf_eq, rows active running]
  | _ => trivial

end Rows

section Step
variable {s : Concurrent}

theorem getActiveSong_same (server : Server) :
    (finalState (Server.getActiveSong server)).db = server.db ∧
      (finalState (Server.getActiveSong server)).activeSong.map (fun a => a.id) =
        server.activeSong.map fun a => a.id := by
  rw [Server.getActiveSong_apply]
  cases running : server.activeSong with
  | none =>
    dsimp only
    split <;> simp [running]
  | some active => simp [Server.refreshed]

theorem decideSkip_same (server : Server) (stats : LikeData) :
    (finalState (Server.decideSkip stats server)).db = server.db ∧
      (finalState (Server.decideSkip stats server)).activeSong = server.activeSong := by
  rw [Concurrent.decideSkip_apply]
  split
  · rw [Server.skipToNext_apply]
    split
    · exact ⟨rfl, rfl⟩
    · split
      · simp [Server.cleared, Server.cancelSongTimerTask_eq]
      · split <;> simp [Server.skippedTo, Server.renewed, Server.scheduled, Server.selected,
          Server.broadcastUpdate, Server.cleared, Server.cancelSongTimerTask_eq]
  · exact ⟨rfl, rfl⟩

theorem playing_unstarted {server : Server} (agrees : server.playback.Agrees)
    {sessionID songID : Int}
    (starts : server.startsNext (playingReport sessionID songID) = none)
    (update : SessionUpdate) :
    SameRows server (server.call (playingReport sessionID songID)) update := by
  have kept : Server.Unstarted server (server.call (playingReport sessionID songID)) :=
    Server.call_unstarted agrees starts
  have ids := Server.songIds_of_changes (Server.changes_call agrees (playingReport sessionID songID))
  exact sameRows_of_same update ids kept.votes kept.likes kept.active

theorem insertLike_sameRows {server : Server} {sessionID songID value : Int}
    {update : SessionUpdate} (other : ∀ stats, update = .likes stats →
      server.activeSong.map (fun a => a.id) ≠ some songID) :
    SameRows server { server with db := server.db.insertLike sessionID songID value } update := by
  cases update with
  | votes votes => exact ⟨rfl, rfl⟩
  | likes stats =>
    refine ⟨rfl, ?_⟩
    intro active running
    obtain ⟨rowid, rows⟩ := Server.likes_insertLike sessionID songID value server.db active.id
    have differs : songID ≠ active.id := by
      rintro rfl
      exact other stats rfl (by rw [running]; rfl)
    rw [if_neg differs] at rows
    exact rows
  | _ => trivial

theorem sameRows_occur (agrees : s.server.playback.Agrees) {e : Occurrence}
    {update : SessionUpdate} (kept : rewrites s e update = false) :
    SameRows s.server (occur s e).server update := by
  have same : ∀ server : Server, server.db.songs = s.server.db.songs →
      server.db.votes = s.server.db.votes → server.db.likes = s.server.db.likes →
      server.activeSong = s.server.activeSong → SameRows s.server server update := by
    intro server songs votes likes active
    exact sameRows_of_same update (by rw [songs]) votes likes (by rw [active])
  cases e with
  | playing sessionID songID =>
    cases update with
    | votes votes => exact playing_unstarted agrees (by simpa [rewrites] using kept) _
    | likes stats => exact playing_unstarted agrees (by simpa [rewrites] using kept) _
    | _ => trivial
  | turn e =>
    cases e with
    | arrives t job =>
      rw [occur, Concurrent.step, Concurrent.arrive]
      split <;> exact same _ rfl rfl rfl rfl
    | proceeds t =>
      rw [occur, Concurrent.step]
      cases here : s.threads t with
      | insertVote songID sessionID =>
        rw [Concurrent.proceed, here]
        cases update with
        | votes votes => simp [rewrites, here, storesVote] at kept
        | likes stats => exact ⟨rfl, fun _ _ => rfl⟩
        | _ => trivial
      | insertLike songID sessionID value =>
        rw [Concurrent.proceed, here]
        apply insertLike_sameRows
        rintro stats rfl
        simpa [rewrites, here, storesReaction] using kept
      | getActiveSong disliked =>
        obtain ⟨rows, active⟩ := getActiveSong_same s.server
        rw [Concurrent.proceed, here]
        dsimp only
        generalize Server.getActiveSong s.server = found at rows active ⊢
        have all := sameRows_of_same update (congrArg (fun db => db.songs.map SongRow.id) rows)
          (congrArg Database.votes rows) (congrArg Database.likes rows) active
        cases found <;> exact all
      | decideSkip stats =>
        obtain ⟨rows, active⟩ := decideSkip_same s.server stats
        rw [Concurrent.proceed, here]
        exact same _ (congrArg Database.songs rows) (congrArg Database.votes rows)
          (congrArg Database.likes rows) active
      | selectReactions _ _ | startTransaction _ _ _ =>
        rw [Concurrent.proceed, here]
        dsimp only
        split <;> exact same _ rfl rfl rfl rfl
      | insertChild ip type row sessionID =>
        rw [Concurrent.proceed, here]
        cases type <;> exact same _ rfl rfl rfl rfl
      | _ =>
        rw [Concurrent.proceed, here]
        exact same _ rfl rfl rfl rfl

theorem agrees_occur (agrees : s.server.playback.Agrees) (e : Occurrence) :
    (occur s e).server.playback.Agrees := by
  cases e with
  | playing sessionID songID => exact Server.agrees_call agrees _
  | turn e =>
    cases e with
    | arrives t job =>
      rw [occur, Concurrent.step, Concurrent.arrive]
      split <;> exact agrees
    | proceeds t =>
      rw [occur, Concurrent.step]
      cases here : s.threads t with
      | startTransaction _ _ _ | selectReactions _ _ =>
        rw [Concurrent.proceed, here]
        dsimp only
        split <;> exact agrees
      | insertChild ip type row sessionID =>
        rw [Concurrent.proceed, here]
        cases type <;> exact agrees
      | getActiveSong disliked =>
        have acts := Server.acts_getActiveSong none agrees
        have after := Server.agrees_of_acts acts agrees
        rw [Concurrent.proceed, here]
        dsimp only
        generalize Server.getActiveSong s.server = found at after ⊢
        cases found <;> exact after
      | decideSkip stats =>
        have after := Server.agrees_of_acts (Concurrent.acts_decideSkip stats) agrees
        rw [Concurrent.proceed, here]
        exact after
      | _ =>
        rw [Concurrent.proceed, here]
        exact agrees

theorem active_occur (agrees : s.server.playback.Agrees) (positive : ∀ r ∈ s.server.db.songs, 0 < r.id)
    (e : Occurrence) (running : s.server.activeSong ≠ none) :
    (occur s e).server.activeSong ≠ none := by
  have kept : ∀ active : Option ActiveSong,
      active.map (fun a => a.id) = s.server.activeSong.map (fun a => a.id) → active ≠ none := by
    rintro active same rfl
    exact running (Option.map_eq_none_iff.mp same.symm)
  cases rewritten : rewrites s e (.likes { id := 0, likes := 0, dislikes := 0, balance := 0 }) with
  | false => exact kept _ (sameRows_occur agrees rewritten).1
  | true =>
    cases e with
    | playing sessionID songID =>
      obtain ⟨next, starts⟩ := Option.isSome_iff_exists.mp rewritten
      have ids := (Server.call_started agrees positive starts).2.2.2
      rintro none
      change (s.server.call (playingReport sessionID songID)).activeSong = _ at none
      rw [none] at ids
      cases ids
    | turn e =>
      cases e with
      | arrives t job => cases rewritten
      | proceeds t =>
        cases here : s.threads t with
        | insertLike songID sessionID value =>
          rw [occur, Concurrent.step, Concurrent.proceed, here]
          exact running
        | _ => simp [rewrites, here, storesReaction] at rewritten

theorem positive_occur (agrees : s.server.playback.Agrees)
    (positive : ∀ r ∈ s.server.db.songs, 0 < r.id) (e : Occurrence) :
    ∀ r ∈ (occur s e).server.db.songs, 0 < r.id := by
  have ids : (occur s e).server.db.songs.map SongRow.id = s.server.db.songs.map SongRow.id := by
    cases rewritten : rewrites s e (.votes []) with
    | false => exact (sameRows_occur agrees rewritten).1
    | true =>
      cases e with
      | playing sessionID songID =>
        exact Server.songIds_of_changes (Server.changes_call agrees (playingReport sessionID songID))
      | turn e =>
        cases e with
        | arrives t job => cases rewritten
        | proceeds t =>
          cases here : s.threads t with
          | insertVote songID sessionID => rw [occur, Concurrent.step, Concurrent.proceed, here]; rfl
          | _ => simp [rewrites, here, storesVote] at rewritten
  exact Server.positive_of_songIds ids positive

theorem proceed_other {t u : Nat} (other : u ≠ t) : (s.proceed t).threads u = s.threads u := by
  unfold Concurrent.proceed
  split
  any_goals split
  all_goals simp [Concurrent.goto, other]

def needsSong : Thread → Bool
  | .selectReactions _ _ => true
  | _ => false

theorem made_firstStatement (server : Server) (job : Job) :
    made (Concurrent.firstStatement server job) = [] ∧
      needsSong (Concurrent.firstStatement server job) = false := by
  cases job with
  | createSession pin ip type =>
    cases pin with
    | none => exact ⟨rfl, rfl⟩
    | some pin =>
      rw [Concurrent.firstStatement]
      split <;> exact ⟨rfl, rfl⟩
  | _ =>
    rw [Concurrent.firstStatement]
    split <;> exact ⟨rfl, rfl⟩

theorem made_proceed (agrees : s.server.playback.Agrees) (u : Nat)
    (running : needsSong (s.threads u) = true → s.server.activeSong ≠ none)
    {update : SessionUpdate} (holds : update ∈ made ((s.proceed u).threads u)) :
    update ∈ made (s.threads u) ∨
      made (s.threads u) = [] ∧ Current (s.proceed u).server update := by
  cases here : s.threads u with
  | selectVotes =>
    rw [Concurrent.proceed, here] at holds ⊢
    have shown : update = .votes s.server.db.getVotes := by
      simpa [Concurrent.goto, made] using holds
    subst shown
    exact Or.inr ⟨rfl, rfl⟩
  | selectReactions disliked songID =>
    rw [here] at running
    obtain ⟨active, found⟩ := Option.ne_none_iff_exists'.mp (running rfl)
    rw [Concurrent.proceed, here] at holds ⊢
    dsimp only at holds ⊢
    cases read : Server.likeData s.server.db songID with
    | error e => simp [read, Concurrent.goto, made] at holds
    | ok stats =>
      have shown : update = .likes stats := by
        cases disliked <;> simpa [read, Concurrent.goto, made] using holds
      subst shown
      exact Or.inr ⟨rfl, active, found, Server.likeData_counts agrees found read⟩
  | getActiveSong disliked =>
    rw [Concurrent.proceed, here] at holds
    dsimp only at holds
    split at holds <;> simp [Concurrent.goto, made] at holds
  | selectSessions first disliked =>
    rw [Concurrent.proceed, here] at holds
    left
    simpa [Concurrent.goto, made] using holds
  | sendUpdates first ids disliked =>
    rw [Concurrent.proceed, here] at holds
    left
    cases disliked with
    | none => simp [Concurrent.goto, made] at holds
    | some stats =>
      have shown : update = .likes stats := by simpa [Concurrent.goto, made] using holds
      simp [made, shown]
  | startTransaction ip type time =>
    rw [Concurrent.proceed, here] at holds
    dsimp only at holds
    split at holds
    · simp [Concurrent.goto, made] at holds
    · simp [here, made] at holds
  | idle => simp [Concurrent.proceed, here, made] at holds
  | _ => simp [Concurrent.proceed, here, Concurrent.goto, made] at holds

theorem made_occur (agrees : s.server.playback.Agrees) (e : Occurrence) (u : Nat)
    (running : needsSong (s.threads u) = true → s.server.activeSong ≠ none)
    {update : SessionUpdate} (holds : update ∈ made ((occur s e).threads u)) :
    update ∈ made (s.threads u) ∨
      made (s.threads u) = [] ∧ Current (occur s e).server update := by
  cases e with
  | playing sessionID songID => exact Or.inl holds
  | turn e =>
    cases e with
    | arrives t job =>
      rw [occur, Concurrent.step, Concurrent.arrive] at holds
      split at holds
      · rw [Concurrent.threads_goto] at holds
        split at holds
        · rw [(made_firstStatement s.server job).1] at holds
          cases holds
        · exact Or.inl holds
      · exact Or.inl holds
    | proceeds t =>
      by_cases own : u = t
      · subst own
        exact made_proceed agrees u running holds
      · rw [occur, Concurrent.step, proceed_other own] at holds
        exact Or.inl holds

theorem needsSong_occur (agrees : s.server.playback.Agrees)
    (positive : ∀ r ∈ s.server.db.songs, 0 < r.id) (e : Occurrence) (u : Nat)
    (running : needsSong (s.threads u) = true → s.server.activeSong ≠ none)
    (needs : needsSong ((occur s e).threads u) = true) :
    (occur s e).server.activeSong ≠ none := by
  by_cases before : needsSong (s.threads u) = true
  · exact active_occur agrees positive e (running before)
  · cases e with
    | playing sessionID songID => exact absurd needs before
    | turn e =>
      cases e with
      | arrives t job =>
        rw [occur, Concurrent.step, Concurrent.arrive] at needs
        split at needs
        · rw [Concurrent.threads_goto] at needs
          split at needs
          · rw [(made_firstStatement s.server job).2] at needs
            cases needs
          · exact absurd needs before
        · exact absurd needs before
      | proceeds t =>
        by_cases own : u = t
        · subst own
          rw [occur, Concurrent.step] at needs ⊢
          cases here : s.threads u with
          | getActiveSong disliked =>
            rw [Concurrent.proceed, here] at needs ⊢
            dsimp only at needs ⊢
            rw [Server.getActiveSong_apply] at needs ⊢
            cases found : s.server.activeSong with
            | none =>
              rw [found] at needs
              dsimp only at needs
              split at needs
              · rename_i same
                split at same <;> cases same
              · simp [Concurrent.goto, needsSong] at needs
            | some active =>
              dsimp only [Server.refreshed, Concurrent.goto]
              simp
          | selectReactions disliked songID => simp [here, needsSong] at before
          | sendUpdates update ids disliked =>
            cases disliked <;> simp [Concurrent.proceed, here, Concurrent.goto, needsSong] at needs
          | startTransaction ip type time =>
            rw [Concurrent.proceed, here] at needs
            dsimp only at needs
            split at needs
            · simp [Concurrent.goto, needsSong] at needs
            · simp [here, needsSong] at needs
          | idle => simp [Concurrent.proceed, here, needsSong] at needs
          | _ => simp [Concurrent.proceed, here, Concurrent.goto, needsSong] at needs
        · rw [occur, Concurrent.step, proceed_other own] at needs
          exact absurd needs before

end Step

section Invariant

/-- A thread that has not been overtaken holds the totals of the tables. -/
structure UpToDate (o : Observed) : Prop where
  agrees : o.now.server.playback.Agrees
  positive : ∀ r ∈ o.now.server.db.songs, 0 < r.id
  running : ∀ u, needsSong (o.now.threads u) = true → o.now.server.activeSong ≠ none
  current : ∀ u update, update ∈ made (o.now.threads u) → o.overtaken u = false →
    Current o.now.server update

theorem UpToDate.step {o : Observed} (h : o.UpToDate) (e : Occurrence) : (o.step e).UpToDate := by
  constructor
  · exact agrees_occur h.agrees e
  · exact positive_occur h.agrees h.positive e
  · intro u needs
    exact needsSong_occur h.agrees h.positive e u (h.running u) needs
  · intro u update holds kept
    rcases made_occur h.agrees e u (h.running u) holds with before | ⟨-, read⟩
    · have some : (made (o.now.threads u)).isEmpty = false := by
        cases eq : made (o.now.threads u) with
        | nil => simp [eq] at before
        | cons => rfl
      simp only [Observed.step, some, Bool.not_false, Bool.true_and, Bool.or_eq_false_iff,
        List.any_eq_false] at kept
      have rows := sameRows_occur h.agrees (by simpa using kept.2 update before)
      exact (h.current u update before kept.1).of_sameRows rows
    · exact read

theorem upToDate_start {server : Server} (agrees : server.playback.Agrees)
    (positive : ∀ r ∈ server.db.songs, 0 < r.id) : (start server).UpToDate := by
  constructor
  · exact agrees
  · exact positive
  · intro u needs
    cases needs
  · intro u update holds
    cases holds

end Invariant

end Observed
end MusicCloud
