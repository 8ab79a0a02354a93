import MusicCloud.Skipping

/-!
What the phones end up showing. Requests write a row, read the totals and hand
them on in different steps, so totals read early may be handed on late. The
totals handed on last are those of the tables if the last request to hand them
on has not been overtaken.
-/
namespace MusicCloud
open Runs Tables

namespace Observed

def posts : Occurrence → Bool
  | .turn (.arrives _ (.createSession _ _ _)) => false
  | .turn _ => true
  | .playing _ _ => false

def willHand : Thread → Option UpdateType
  | .insertVote _ _ => some .votes
  | .selectVotes => some .votes
  | .insertLike _ _ _ => some .likes
  | .getActiveSong _ => some .likes
  | .selectReactions _ _ => some .likes
  | .selectSessions update _ => some (getUpdateType update)
  | .sendUpdates update _ _ => some (getUpdateType update)
  | _ => none

/-- The last update of a type that a session was handed. -/
def lastHanded (type : UpdateType) (session : Session) : Option SessionUpdate :=
  (session.handed.filter fun update => decide (getUpdateType update = type)).getLast?

def Settled (type : UpdateType) (server : Server) : Prop :=
  ∀ id session, server.sessionMap id = some session → session.clientType = .User →
    ∃ update, lastHanded type session = some update ∧ getUpdateType update = type ∧
      Current server update

/-- Totals that have been overtaken are not the last ones of their type to be
    handed on: another request has yet to hand on its own. -/
def HandsInTime (o : Observed) (e : Occurrence) : Prop :=
  ∀ t update ids disliked, e = .turn (.proceeds t) →
    o.now.threads t = .sendUpdates update ids disliked → o.overtaken t = true →
    ∃ u, u ≠ t ∧ willHand (o.now.threads u) = some (getUpdateType update)

structure Converged (o : Observed) : Prop where
  votes : (∀ t, o.now.threads t = .idle) → o.voted = true → Settled .votes o.now.server
  likes : (∀ t, o.now.threads t = .idle) → o.reacted = true →
    o.now.server.activeSong ≠ none → Settled .likes o.now.server

section Frame
variable {server server' : Server}

def HandedOnly (type : UpdateType) (server server' : Server) : Prop :=
  ∀ id session', server'.sessionMap id = some session' → ∃ session,
    server.sessionMap id = some session ∧ session'.clientType = session.clientType ∧
      lastHanded type session' = lastHanded type session

theorem lastHanded_sendUpdates (type : UpdateType) (isActive : Channel → Bool)
    (session : Session) (us : List SessionUpdate) (other : ∀ u ∈ us, getUpdateType u ≠ type) :
    lastHanded type (session.sendUpdates isActive us) = lastHanded type session := by
  unfold lastHanded
  rw [Session.sendUpdates_handed, List.filter_append]
  have none : us.filter (fun update => decide (getUpdateType update = type)) = [] := by
    apply List.filter_eq_nil_iff.mpr
    intro u hu
    simpa using other u hu
  rw [none, List.append_nil]

theorem handedOnly_of_map {type : UpdateType} (same : server'.sessionMap = server.sessionMap) :
    HandedOnly type server server' := by
  intro id session' found
  rw [same] at found
  exact ⟨session', found, rfl, rfl⟩

theorem handedOnly_broadcast {type : UpdateType} (update : SessionUpdate)
    (receivers : SessionType) (other : getUpdateType update ≠ type) :
    HandedOnly type server (server.broadcastUpdate update receivers) := by
  intro id session' found
  rw [Server.broadcastUpdate_sessionMap] at found
  obtain ⟨session, live, rfl⟩ := Option.map_eq_some_iff.mp found
  refine ⟨session, live, by simp, ?_⟩
  apply lastHanded_sendUpdates
  intro u hu
  rw [List.eq_of_mem_replicate hu]
  exact other

theorem HandedOnly.trans {type : UpdateType} {server'' : Server}
    (first : HandedOnly type server server') (second : HandedOnly type server' server'') :
    HandedOnly type server server'' := by
  intro id session'' found
  obtain ⟨session', found', kind', last'⟩ := second id session'' found
  obtain ⟨session, found, kind, last⟩ := first id session' found'
  exact ⟨session, found, kind'.trans kind, last'.trans last⟩

theorem Settled.kept {type : UpdateType} (h : Settled type server)
    (handed : HandedOnly type server server')
    (rows : ∀ update, getUpdateType update = type → SameRows server server' update) :
    Settled type server' := by
  intro id session' found user
  obtain ⟨session, live, kind, last⟩ := handed id session' found
  obtain ⟨update, shown, same, current⟩ := h id session live (kind ▸ user)
  exact ⟨update, last.trans shown, same, current.of_sameRows (rows update same)⟩

theorem settled_broadcast (roster : server.RosterAgrees) {update : SessionUpdate}
    (current : Current server update) :
    Settled (getUpdateType update) (server.broadcastUpdate update .User) := by
  intro id session' found user
  rw [Server.broadcastUpdate_sessionMap] at found
  obtain ⟨session, live, rfl⟩ := Option.map_eq_some_iff.mp found
  rw [Session.sendUpdates_clientType] at user
  have once := roster.count_sessionIds live .User
  rw [if_pos user] at once
  refine ⟨update, ?_, rfl, ?_⟩
  · unfold lastHanded
    simp [once, Session.sendUpdate]
  · exact current.of_sameRows (sameRows_of_same update rfl rfl rfl rfl)

end Frame

section Step
variable {s : Concurrent}

def isVisit : Thread → Bool
  | .startTransaction _ _ _ => false
  | .insertSession _ _ _ => false
  | .selectRowid _ _ _ => false
  | .insertChild _ _ _ _ => false
  | .stopTransaction _ _ _ _ => false
  | .putSession _ _ _ _ => false
  | _ => true

theorem handedOnly_decideSkip {type : UpdateType} (totals : type = .votes ∨ type = .likes)
    (server : Server) (stats : LikeData) :
    HandedOnly type server (finalState (Server.decideSkip stats server)) := by
  have other : ∀ song, getUpdateType (SessionUpdate.upcoming_song song) ≠ type := by
    rintro song rfl
    rcases totals with eq | eq <;> cases eq
  have cleared : server.cleared.sessionMap = server.sessionMap := by
    simp [Server.cleared, Server.cancelSongTimerTask_eq]
  have skipped : ∀ song, HandedOnly type server (server.skippedTo song) := by
    intro song
    have chosen : HandedOnly type server (server.cleared.selected song) := handedOnly_of_map cleared
    exact (chosen.trans (handedOnly_broadcast _ _ (other song))).trans
      (handedOnly_broadcast _ _ (other song))
  rw [Concurrent.decideSkip_apply]
  split
  · rw [Server.skipToNext_apply]
    split
    · exact handedOnly_of_map rfl
    · split
      · exact handedOnly_of_map cleared
      · split
        · exact (skipped _).trans (handedOnly_of_map rfl)
        · exact (skipped _).trans (handedOnly_of_map rfl)
  · exact handedOnly_of_map rfl

theorem willHand_of_rewrites {t : Nat} {update : SessionUpdate}
    (rewritten : rewrites s (.turn (.proceeds t)) update = true) :
    willHand ((s.proceed t).threads t) = some (getUpdateType update) := by
  cases update with
  | votes votes =>
    cases here : s.threads t with
    | insertVote songID sessionID => simp [Concurrent.proceed, here, Concurrent.goto, willHand, getUpdateType]
    | _ => simp [rewrites, here, storesVote] at rewritten
  | likes stats =>
    cases here : s.threads t with
    | insertLike songID sessionID value =>
      simp [Concurrent.proceed, here, Concurrent.goto, willHand, getUpdateType]
    | _ => simp [rewrites, here, storesReaction] at rewritten
  | _ => cases rewritten

theorem willHand_proceed {t : Nat} {type : UpdateType} (agrees : s.server.playback.Agrees)
    (positive : ∀ r ∈ s.server.db.songs, 0 < r.id)
    (found : ∀ disliked songID, s.threads t = .selectReactions disliked songID →
      s.server.activeSong.map (fun a => a.id) = some songID)
    (will : willHand (s.threads t) = some type)
    (early : ∀ update ids disliked, s.threads t ≠ .sendUpdates update ids disliked) :
    willHand ((s.proceed t).threads t) = some type ∨
      type = .likes ∧ s.server.activeSong = none := by
  cases here : s.threads t with
  | getActiveSong disliked =>
    rw [here] at will
    cases will
    rw [Concurrent.proceed, here]
    dsimp only
    rw [Server.getActiveSong_apply]
    cases running : s.server.activeSong with
    | none => exact Or.inr ⟨rfl, rfl⟩
    | some active => simp [Concurrent.goto, willHand]
  | selectReactions disliked songID =>
    rw [here] at will
    cases will
    obtain ⟨active, running, rfl⟩ := Option.map_eq_some_iff.mp (found disliked songID here)
    have nonneg : 0 ≤ active.id := by
      obtain ⟨r, hr, id⟩ := agrees.listed active.toSong (by simp [Server.playback, running])
      have := positive r hr
      omega
    obtain ⟨balance, read⟩ := Server.likeData_eq agrees running nonneg
    rw [Concurrent.proceed, here]
    dsimp only
    rw [read]
    simp [Concurrent.goto, willHand, getUpdateType]
  | sendUpdates update ids disliked => exact absurd here (early update ids disliked)
  | selectVotes =>
    rw [here] at will
    left
    simpa [Concurrent.proceed, here, Concurrent.goto, willHand, getUpdateType] using will
  | insertVote _ _ | insertLike _ _ _ | selectSessions _ _ =>
    rw [here] at will
    left
    simpa [Concurrent.proceed, here, Concurrent.goto, willHand] using will
  | _ =>
    rw [here] at will
    cases will

theorem handedOnly_proceed {t : Nat} {type : UpdateType} (totals : type = .votes ∨ type = .likes)
    (visit : isVisit (s.threads t) = true)
    (early : ∀ update ids disliked, s.threads t = .sendUpdates update ids disliked →
      getUpdateType update ≠ type ∧ ids = s.server.db.sessionIds .User) :
    HandedOnly type s.server (s.proceed t).server := by
  cases here : s.threads t with
  | getActiveSong disliked =>
    rw [Concurrent.proceed, here]
    dsimp only
    rw [Server.getActiveSong_apply]
    cases s.server.activeSong with
    | none =>
      dsimp only
      split
      · rename_i same
        split at same <;> cases same
      · rename_i same
        split at same <;> cases same <;> exact handedOnly_of_map rfl
    | some active => exact handedOnly_of_map rfl
  | selectReactions disliked songID =>
    rw [Concurrent.proceed, here]
    dsimp only
    split <;> exact handedOnly_of_map rfl
  | sendUpdates update ids disliked =>
    obtain ⟨other, rfl⟩ := early update ids disliked here
    rw [Concurrent.proceed, here]
    exact handedOnly_broadcast update .User other
  | decideSkip stats =>
    rw [Concurrent.proceed, here]
    exact handedOnly_decideSkip totals s.server stats
  | idle | insertVote _ _ | selectVotes | insertLike _ _ _ | selectSessions _ _ =>
    rw [Concurrent.proceed, here]
    exact handedOnly_of_map rfl
  | _ =>
    rw [here] at visit
    cases visit

theorem handed_proceed {t : Nat} (agrees : s.server.playback.Agrees)
    (visit : isVisit (s.threads t) = true)
    (listed : ∀ update ids disliked, s.threads t = .sendUpdates update ids disliked →
      ids = s.server.db.sessionIds .User) :
    Server.Handed s.server (s.proceed t).server := by
  cases here : s.threads t with
  | getActiveSong disliked =>
    have handed := Server.handed_of_acts (Server.acts_getActiveSong none agrees)
    rw [Concurrent.proceed, here]
    dsimp only
    generalize Server.getActiveSong s.server = found at handed ⊢
    cases found <;> exact handed
  | selectReactions disliked songID =>
    rw [Concurrent.proceed, here]
    dsimp only
    split <;> exact .refl s.server
  | sendUpdates update ids disliked =>
    obtain rfl := listed update ids disliked here
    rw [Concurrent.proceed, here]
    exact Server.handed_of_act (.broadcast s.server update .User : Server.Act none _ _)
  | decideSkip stats =>
    rw [Concurrent.proceed, here]
    exact Server.handed_of_acts (Concurrent.acts_decideSkip stats)
  | idle | selectVotes | selectSessions _ _ =>
    rw [Concurrent.proceed, here]
    exact .refl s.server
  | insertVote _ _ | insertLike _ _ _ =>
    rw [Concurrent.proceed, here]
    exact .of_same rfl rfl rfl rfl
  | _ =>
    rw [here] at visit
    cases visit

def stored (o : Observed) (type : UpdateType) : Bool :=
  if type = .votes then o.voted else o.reacted

structure Converging (o : Observed) : Prop where
  upToDate : o.UpToDate
  roster : o.now.server.RosterAgrees
  visits : ∀ t, isVisit (o.now.threads t) = true
  listed : ∀ t update ids disliked, o.now.threads t = .sendUpdates update ids disliked →
    ids = o.now.server.db.sessionIds .User
  found : ∀ t disliked songID, o.now.threads t = .selectReactions disliked songID →
    o.now.server.activeSong.map (fun a => a.id) = some songID
  settling : ∀ type, type = .votes ∨ type = .likes → o.stored type = true →
    (type = .likes → o.now.server.activeSong ≠ none) →
    (∃ t, willHand (o.now.threads t) = some type) ∨ Settled type o.now.server

variable {o : Observed}

theorem isVisit_firstStatement (server : Server) {job : Job}
    (posts : posts (.turn (.arrives 0 job)) = true) :
    isVisit (Concurrent.firstStatement server job) = true := by
  cases job with
  | createSession => cases posts
  | _ =>
    rw [Concurrent.firstStatement]
    split <;> rfl

theorem Converging.arrives (h : o.Converging) (t : Nat) {job : Job}
    (posting : posts (.turn (.arrives t job)) = true) :
    (o.step (.turn (.arrives t job))).Converging := by
  have upToDate := h.upToDate.step (.turn (.arrives t job))
  have visit : isVisit (Concurrent.firstStatement o.now.server job) = true := by
    apply isVisit_firstStatement
    cases job <;> first | rfl | cases posting
  have first : ∀ update ids disliked,
      Concurrent.firstStatement o.now.server job ≠ .sendUpdates update ids disliked := by
    intro update ids disliked eq
    have empty := (made_firstStatement o.now.server job).1
    rw [eq] at empty
    cases empty
  have reads : ∀ disliked songID,
      Concurrent.firstStatement o.now.server job ≠ .selectReactions disliked songID := by
    intro disliked songID eq
    have idle := (made_firstStatement o.now.server job).2
    rw [eq] at idle
    cases idle
  have same : (o.step (.turn (.arrives t job))).now.server = o.now.server := by
    change (o.now.arrive t job).server = _
    rw [Concurrent.arrive]
    split <;> rfl
  have threads : ∀ u, (o.step (.turn (.arrives t job))).now.threads u = o.now.threads u ∨
      o.now.threads u = .idle ∧ (o.step (.turn (.arrives t job))).now.threads u =
        Concurrent.firstStatement o.now.server job := by
    intro u
    change (o.now.arrive t job).threads u = _ ∨ _ ∧ (o.now.arrive t job).threads u = _
    rw [Concurrent.arrive]
    cases here : o.now.threads t with
    | idle =>
      dsimp only
      rw [Concurrent.threads_goto]
      by_cases own : u = t
      · rw [if_pos own, own]
        exact Or.inr ⟨here, rfl⟩
      · rw [if_neg own]
        exact Or.inl rfl
    | _ => exact Or.inl rfl
  constructor
  · exact upToDate
  · rw [same]
    exact h.roster
  · intro u
    rcases threads u with kept | ⟨-, new⟩
    · rw [kept]
      exact h.visits u
    · rw [new]
      exact visit
  · intro u update ids disliked here
    rcases threads u with kept | ⟨-, new⟩
    · rw [same]
      exact h.listed u update ids disliked (kept ▸ here)
    · exact absurd (new.symm.trans here) (first update ids disliked)
  · intro u disliked songID here
    rcases threads u with kept | ⟨-, new⟩
    · rw [same]
      exact h.found u disliked songID (kept ▸ here)
    · exact absurd (new.symm.trans here) (reads disliked songID)
  · intro type totals rows needs
    have before : o.stored type = true := by
      simpa [stored, Observed.step, stores] using rows
    rw [same] at needs ⊢
    rcases h.settling type totals before needs with ⟨u, will⟩ | settled
    · left
      refine ⟨u, ?_⟩
      rcases threads u with kept | ⟨idle, -⟩
      · rw [kept]
        exact will
      · rw [idle] at will
        cases will
    · exact Or.inr settled

theorem rewritesVotes {t : Nat} (stores : storesVote (o.now.threads t) = true) :
    rewrites o.now (.turn (.proceeds t)) (.votes []) = true := stores

theorem stored_before {t : Nat} {type : UpdateType}
    (rows : (o.step (.turn (.proceeds t))).stored type = true)
    (totals : type = .votes ∨ type = .likes)
    (done : willHand ((o.now.proceed t).threads t) ≠ some type) : o.stored type = true := by
  rcases totals with rfl | rfl
  · have either : o.voted = true ∨ storesVote (o.now.threads t) = true := by
      simpa [stored, Observed.step, stores] using rows
    rcases either with before | stores
    · exact before
    · exact absurd (willHand_of_rewrites (rewritesVotes stores)) done
  · have either : o.reacted = true ∨ (storesReaction (o.now.threads t)).isSome = true := by
      simpa [stored, Observed.step, stores] using rows
    rcases either with before | stores
    · exact before
    · cases here : o.now.threads t with
      | insertLike songID sessionID value =>
        simp [Concurrent.proceed, here, Concurrent.goto, willHand] at done
      | _ => simp [here, storesReaction] at stores

/-- What a step of a thread does to the totals of one type: either some request
    has yet to hand on its own, or they are settled. -/
theorem Converging.settles (h : o.Converging) (t : Nat)
    (inTime : o.HandsInTime (.turn (.proceeds t))) {type : UpdateType}
    (totals : type = .votes ∨ type = .likes)
    (rows : (o.step (.turn (.proceeds t))).stored type = true)
    (needs : type = .likes → o.now.server.activeSong ≠ none) :
    (∃ u, willHand ((o.now.proceed t).threads u) = some type) ∨
      Settled type (o.now.proceed t).server := by
  by_cases pending : willHand ((o.now.proceed t).threads t) = some type
  · exact Or.inl ⟨t, pending⟩
  have others : ∀ u, u ≠ t → willHand (o.now.threads u) = some type →
      ∃ v, willHand ((o.now.proceed t).threads v) = some type := by
    intro u other will
    exact ⟨u, by rw [proceed_other other]; exact will⟩
  by_cases hands : ∃ update ids disliked, o.now.threads t = .sendUpdates update ids disliked ∧
      getUpdateType update = type
  · obtain ⟨update, ids, disliked, here, rfl⟩ := hands
    cases late : o.overtaken t with
    | true =>
      obtain ⟨u, other, will⟩ := inTime t update ids disliked rfl here late
      exact Or.inl (others u other will)
    | false =>
      have held : update ∈ made (o.now.threads t) := by
        rw [here]
        exact List.mem_cons_self
      obtain rfl := h.listed t update ids disliked here
      right
      rw [Concurrent.proceed, here]
      exact settled_broadcast h.roster (h.upToDate.current t update held late)
  · have early : ∀ update ids disliked, o.now.threads t = .sendUpdates update ids disliked →
        getUpdateType update ≠ type ∧ ids = o.now.server.db.sessionIds .User := by
      intro update ids disliked here
      exact ⟨fun same => hands ⟨update, ids, disliked, here, same⟩, h.listed t update ids disliked here⟩
    rcases h.settling type totals (stored_before rows totals pending) needs with ⟨u, will⟩ | settled
    · left
      by_cases own : u = t
      · subst own
        have reads : ∀ update ids disliked, o.now.threads u ≠ .sendUpdates update ids disliked := by
          intro update ids disliked here
          rw [here] at will
          exact (early update ids disliked here).1 (Option.some.inj will)
        rcases willHand_proceed h.upToDate.agrees h.upToDate.positive (h.found u) will reads with
          now | ⟨likes, none⟩
        · exact ⟨u, now⟩
        · exact absurd none (needs likes)
      · exact others u own will
    · right
      apply settled.kept (handedOnly_proceed totals (h.visits t) early)
      intro update same
      apply sameRows_occur (e := .turn (.proceeds t)) h.upToDate.agrees
      by_contra rewritten
      have will := willHand_of_rewrites (by simpa using rewritten)
      rw [same] at will
      exact pending will

theorem listed_proceed {t : Nat} {update : SessionUpdate} {ids : List Int}
    {disliked : Option LikeData}
    (here : (s.proceed t).threads t = .sendUpdates update ids disliked) :
    s.threads t = .sendUpdates update ids disliked ∨ ids = s.server.db.sessionIds .User := by
  cases before : s.threads t with
  | selectSessions first second =>
    right
    simp only [Concurrent.proceed, before, Concurrent.goto, Function.update_self,
      Thread.sendUpdates.injEq] at here
    exact here.2.1.symm
  | getActiveSong _ | selectReactions _ _ =>
    rw [Concurrent.proceed, before] at here
    dsimp only at here
    split at here <;> simp [Concurrent.goto] at here
  | sendUpdates first others second =>
    cases second <;> simp [Concurrent.proceed, before, Concurrent.goto] at here
  | startTransaction ip type time =>
    rw [Concurrent.proceed, before] at here
    dsimp only at here
    split at here
    · simp [Concurrent.goto] at here
    · simp [before] at here
  | idle => simp [Concurrent.proceed, before] at here
  | _ => simp [Concurrent.proceed, before, Concurrent.goto] at here

theorem found_proceed {t : Nat} {disliked : Bool} {songID : Int}
    (here : (s.proceed t).threads t = .selectReactions disliked songID) :
    s.threads t = .selectReactions disliked songID ∨
      (s.proceed t).server.activeSong.map (fun a => a.id) = some songID := by
  cases before : s.threads t with
  | getActiveSong first =>
    right
    rw [Concurrent.proceed, before] at here ⊢
    dsimp only at here ⊢
    rw [Server.getActiveSong_apply] at here ⊢
    cases running : s.server.activeSong with
    | none =>
      rw [running] at here
      dsimp only at here
      split at here
      · rename_i same
        split at same <;> cases same
      · simp [Concurrent.goto] at here
    | some active =>
      rw [running] at here
      simp only [Concurrent.goto, Function.update_self, Thread.selectReactions.injEq] at here
      simp [Concurrent.goto, Server.refreshed, ← here.2]
  | selectReactions first songID =>
    rw [Concurrent.proceed, before] at here
    dsimp only at here
    split at here
    · simp [Concurrent.goto] at here
    · simp [Concurrent.goto] at here
  | sendUpdates first others second =>
    cases second <;> simp [Concurrent.proceed, before, Concurrent.goto] at here
  | startTransaction ip type time =>
    rw [Concurrent.proceed, before] at here
    dsimp only at here
    split at here
    · simp [Concurrent.goto] at here
    · simp [before] at here
  | idle => simp [Concurrent.proceed, before] at here
  | _ => simp [Concurrent.proceed, before, Concurrent.goto] at here

theorem active_proceed (h : o.Converging) (t : Nat) :
    (o.now.proceed t).server.activeSong.map (fun a => a.id) =
      o.now.server.activeSong.map fun a => a.id := by
  let figures : LikeData := { id := 0, likes := 0, dislikes := 0, balance := 0 }
  cases rewritten : rewrites o.now (.turn (.proceeds t)) (.likes figures) with
  | false =>
    have same := sameRows_occur h.upToDate.agrees rewritten
    exact same.1
  | true =>
    cases here : o.now.threads t with
    | insertLike songID sessionID value => rw [Concurrent.proceed, here]; rfl
    | _ => simp [rewrites, here, storesReaction] at rewritten

theorem Converging.proceeds (h : o.Converging) (t : Nat)
    (inTime : o.HandsInTime (.turn (.proceeds t))) :
    (o.step (.turn (.proceeds t))).Converging := by
  have active := active_proceed h t
  have handed := handed_proceed h.upToDate.agrees (h.visits t) (h.listed t)
  constructor
  · exact h.upToDate.step _
  · exact h.roster.handed handed
  · intro u
    change isVisit ((o.now.proceed t).threads u) = true
    by_cases own : u = t
    · subst own
      have visit := h.visits u
      cases here : o.now.threads u with
      | getActiveSong _ | selectReactions _ _ =>
        rw [Concurrent.proceed, here]
        dsimp only
        split <;> simp [Concurrent.goto, isVisit]
      | sendUpdates update ids disliked =>
        cases disliked <;> simp [Concurrent.proceed, here, Concurrent.goto, isVisit]
      | idle => simp [Concurrent.proceed, here, isVisit]
      | insertVote => simp [Concurrent.proceed, here, Concurrent.goto, isVisit]
      | selectVotes => simp [Concurrent.proceed, here, Concurrent.goto, isVisit]
      | insertLike => simp [Concurrent.proceed, here, Concurrent.goto, isVisit]
      | selectSessions => simp [Concurrent.proceed, here, Concurrent.goto, isVisit]
      | decideSkip => simp [Concurrent.proceed, here, Concurrent.goto, isVisit]
      | _ => simp [here, isVisit] at visit
    · rw [proceed_other own]
      exact h.visits u
  · intro u update ids disliked here
    change (o.now.proceed t).threads u = _ at here
    change ids = (o.now.proceed t).server.db.sessionIds .User
    have sessions : (o.now.proceed t).server.db.sessionIds .User =
        o.now.server.db.sessionIds .User := by
      unfold Database.sessionIds
      rw [handed.sessions]
    rw [sessions]
    by_cases own : u = t
    · subst own
      rcases listed_proceed here with before | read
      · exact h.listed u update ids disliked before
      · exact read
    · rw [proceed_other own] at here
      exact h.listed u update ids disliked here
  · intro u disliked songID here
    change (o.now.proceed t).threads u = _ at here
    change (o.now.proceed t).server.activeSong.map (fun a => a.id) = some songID
    by_cases own : u = t
    · subst own
      rcases found_proceed here with before | read
      · rw [active]
        exact h.found u disliked songID before
      · exact read
    · rw [active]
      rw [proceed_other own] at here
      exact h.found u disliked songID here
  · intro type totals rows needs
    apply h.settles t inTime totals rows
    intro likes none
    apply needs likes
    have same := active
    rw [none] at same
    exact Option.map_eq_none_iff.mp same

theorem Converging.step (h : o.Converging) {e : Occurrence} (posting : posts e = true)
    (inTime : o.HandsInTime e) : (o.step e).Converging := by
  cases e with
  | playing sessionID songID => cases posting
  | turn e =>
    cases e with
    | arrives t job => exact h.arrives t posting
    | proceeds t => exact h.proceeds t inTime

theorem converging_start {server : Server} (agrees : server.playback.Agrees)
    (positive : ∀ r ∈ server.db.songs, 0 < r.id) (roster : server.RosterAgrees) :
    (start server).Converging := by
  constructor
  · exact upToDate_start agrees positive
  · exact roster
  · intro t
    rfl
  · intro t update ids disliked here
    cases here
  · intro t disliked songID here
    cases here
  · intro type totals rows
    rcases totals with rfl | rfl <;> cases rows

def requestOf : Occurrence → Option Nat
  | .turn (.arrives t _) => some t
  | .turn (.proceeds t) => some t
  | .playing _ _ => none

theorem idle_of_absent {t : Nat} (idle : o.now.threads t = .idle) {es : List Occurrence}
    (absent : ∀ e ∈ es, requestOf e ≠ some t) :
    (run Observed.step o es).now.threads t = .idle := by
  apply invariant_of_stepsMeet Observed.step (fun o => o.now.threads t = .idle) _ es o idle
    (stepsMeet_of_forall Observed.step (fun _ e => requestOf e ≠ some t) es o
      (fun e he _ => absent e he))
  intro o e idle other
  cases e with
  | playing sessionID songID => exact idle
  | turn e =>
    cases e with
    | arrives u job =>
      have differs : t ≠ u := by
        rintro rfl
        exact other rfl
      change (o.now.arrive u job).threads t = .idle
      unfold Concurrent.arrive
      split
      · rw [Concurrent.threads_goto, if_neg differs]
        exact idle
      · exact idle
    | proceeds u =>
      have differs : t ≠ u := by
        rintro rfl
        exact other rfl
      change (o.now.proceed u).threads t = .idle
      rw [proceed_other differs]
      exact idle

theorem Converging.converged (h : o.Converging) : o.Converged := by
  have none : ∀ type, (∀ t, o.now.threads t = .idle) →
      ¬ ∃ t, willHand (o.now.threads t) = some type := by
    rintro type idle ⟨t, will⟩
    rw [idle t] at will
    cases will
  constructor
  · intro idle voted
    have rows : o.stored .votes = true := by simpa [stored] using voted
    rcases h.settling .votes (Or.inl rfl) rows (by intro no; cases no) with will | settled
    · exact absurd will (none .votes idle)
    · exact settled
  · intro idle reacted running
    have rows : o.stored .likes = true := by simpa [stored] using reacted
    rcases h.settling .likes (Or.inr rfl) rows (fun _ => running) with will | settled
    · exact absurd will (none .likes idle)
    · exact settled

end Step

end Observed

/-- Once all requests have completed, every user session was last handed the
    totals of the tables, if totals that have been overtaken are handed on only
    while another request has yet to hand on its own. -/
theorem totals_converge (music : List MusicRow) (clock : Nat) (calls : List Call)
    (occurrences : List Occurrence) (posting : ∀ e ∈ occurrences, Observed.posts e = true)
    (inTime : StepsMeet Observed.step Observed.HandsInTime
      (.start (run Server.call (.start music clock) calls)) occurrences) :
    (run Observed.step (.start (run Server.call (.start music clock) calls))
      occurrences).Converged := by
  have agrees := Server.agrees_run music clock calls
  have positive := Server.positive_run music clock calls
  have roster := Server.rosterAgrees_run music clock calls
  have both := (stepsMeet_and Observed.step _ _ _ _).mpr ⟨inTime, stepsMeet_of_forall
    Observed.step (fun _ e => Observed.posts e = true) occurrences _ (fun e he _ => posting e he)⟩
  have last := invariant_of_stepsMeet Observed.step Observed.Converging
    (fun o e h cond => h.step cond.2 cond.1) occurrences _
    (Observed.converging_start agrees positive roster) both
  exact last.converged

def votedOccurrences : List Occurrence :=
  .turn (.arrives 0 (.vote 1 2)) :: List.replicate 4 (.turn (.proceeds 0))

theorem one_vote_converges :
    (run Observed.step (.start (run Server.call (.start twoSongs 0) partyCalls))
      votedOccurrences).Converged := by
  apply totals_converge
  · decide
  · have early : ∀ o : Observed, o.overtaken 0 = false →
        ∀ e, e = .turn (.proceeds 0) → o.HandsInTime e := by
      rintro o kept e rfl t update ids disliked same here late
      cases same
      rw [kept] at late
      cases late
    refine ⟨?_, ?_, ?_, ?_, ?_, trivial⟩
    · rintro t update ids disliked same
      cases same
    all_goals
      refine early _ ?_ _ rfl
      decide +kernel

/-- Two guests vote. The first request reads the totals before the second vote
    is stored, and hands them on last. -/
def lateOccurrences : List Occurrence :=
  [.turn (.arrives 0 (.vote 1 2)), .turn (.arrives 1 (.vote 1 3))] ++
    List.replicate 2 (.turn (.proceeds 0)) ++ List.replicate 4 (.turn (.proceeds 1)) ++
    List.replicate 2 (.turn (.proceeds 0))

/-- Then every phone shows one vote where the table holds two. -/
theorem late_totals_stay :
    ¬ ∀ (music : List MusicRow) (clock : Nat) (calls : List Call) (occurrences : List Occurrence),
      (∀ e ∈ occurrences, Observed.posts e = true) →
        (run Observed.step (.start (run Server.call (.start music clock) calls))
          occurrences).Converged := by
  intro always
  have converged := always twoSongs 0 partyCalls lateOccurrences (by decide)
  have completed : ∀ t, (run Observed.step (.start (run Server.call (.start twoSongs 0) partyCalls))
      lateOccurrences).now.threads t = .idle := by
    intro t
    by_cases runs : t = 0 ∨ t = 1
    · rcases runs with rfl | rfl <;> decide +kernel
    · push Not at runs
      apply Observed.idle_of_absent rfl
      simp [lateOccurrences, Observed.requestOf, runs.1.symm, runs.2.symm]
  have settled := converged.votes completed (by decide +kernel)
  have shown : ((run Observed.step (.start (run Server.call (.start twoSongs 0) partyCalls))
      lateOccurrences).now.server.sessionMap 2).map
        (fun session => (session.clientType, Observed.lastHanded .votes session)) =
      some (.User, some (.votes [{ id := 1, votes := 1 }, { id := 2, votes := 0 }])) := by
    decide +kernel
  obtain ⟨session, live, seen⟩ := Option.map_eq_some_iff.mp shown
  obtain ⟨user, last⟩ := Prod.mk.inj seen
  obtain ⟨update, same, -, current⟩ := settled 2 session live user
  rw [last] at same
  obtain rfl := Option.some.inj same
  have counted : [{ id := 1, votes := 1 }, { id := 2, votes := 0 }] =
      (run Observed.step (.start (run Server.call (.start twoSongs 0) partyCalls))
        lateOccurrences).now.server.db.getVotes := current
  revert counted
  decide +kernel

end MusicCloud
