import MusicCloud.Effects

/-!
The server as its clients see it: requests, timer tasks and changes of its
environment. A request is one call at most, so what every call keeps, every
event keeps.
-/
namespace MusicCloud
open Runs

inductive Event where
  | request (ip : String) (req : Request)
  | fireTask (task : TimerTask)
  | channelClosed (ch : Channel)
  | clockAdvanced (ms : Nat)
  | rescanned (rank : Int → Nat)

namespace Server
variable {s : Server}

def serve (s : Server) : Event → Server
  | .request ip req => finalState (handle ip req s)
  | .fireTask task => s.call (.fireTask task)
  | .channelClosed ch => s.call (.channelClosed ch)
  | .clockAdvanced ms => s.call (.clockAdvanced ms)
  | .rescanned rank => s.call (.rescanned rank)

def admits (s : Server) (sessionID : Int) (ip : String) : Bool :=
  decide (0 ≤ sessionID) &&
    ((s.db.sessions.filter fun r => r.id = sessionID).all (fun r => r.ipAddress == ip) &&
      (s.db.sessions.filter fun r => r.id = sessionID).length == 1)

/-- The call that a request comes to; a request that is refused or that only
    reads comes to none. -/
def requested (s : Server) (ip : String) : Request → Option Call
  | .clientAuthenticate pin => some (.authenticateUser pin ip)
  | .clientDeauthenticate id => if s.admits id ip then some (.destroySession id) else none
  | .vote clientID id => if s.admits clientID ip then some (.vote id clientID) else none
  | .like clientID id => if s.admits clientID ip then some (.like id clientID) else none
  | .dislike clientID id => if s.admits clientID ip then some (.dislike id clientID) else none
  | .requestUpdate clientID ch =>
    if s.admits clientID ip then some (.registerRequest clientID ch) else none
  | .requestLikeUpdate clientID => if s.admits clientID ip then some .getStats else none
  | .requestVoteUpdate _ => none
  | .requestSongUpdate clientID => if s.admits clientID ip then some .getActiveSong else none
  | .requestSongList _ => none
  | .requestPhoto _ _ => none
  | .speakerAuthenticate pin => some (.authenticateSpeaker pin ip)
  | .speakerDeauthenticate id => if s.admits id ip then some (.destroySession id) else none
  | .statusUpdate clientID update =>
    if s.admits clientID ip then some (.speakerStatusUpdate clientID update) else none
  | .requestSong _ _ _ => none

def comesTo (s : Server) : Event → Option Call
  | .request ip req => s.requested ip req
  | .fireTask task => some (.fireTask task)
  | .channelClosed ch => some (.channelClosed ch)
  | .clockAdvanced ms => some (.clockAdvanced ms)
  | .rescanned rank => some (.rescanned rank)

section Handlers
variable {α : Type}

theorem validateSession_apply (sessionID : Int) (ip : String) (next : ServerM Response) (s : Server) :
    validateSession sessionID ip next s =
      if s.admits sessionID ip then next s else .ok (.error .FORBIDDEN) s := by
  rw [validateSession, catching, validSession_apply]
  by_cases negative : sessionID < 0
  · have refused : s.admits sessionID ip = false := by simp [admits, negative]
    rw [if_pos negative, refused]
    rfl
  · have same : s.admits sessionID ip =
        ((s.db.sessions.filter fun r => r.id = sessionID).all (fun r => r.ipAddress == ip) &&
          (s.db.sessions.filter fun r => r.id = sessionID).length == 1) := by
      simp [admits, not_lt.mp negative]
    rw [if_neg negative, same]
    dsimp only
    split <;> rfl

theorem finalState_catching (m : ServerM α) (handler : JavaException → HttpStatus)
    (response : α → Response) (s : Server) :
    finalState (catching m handler (fun a => pure (response a)) s) = finalState (m s) := by
  rw [catching]
  cases m s <;> rfl

theorem finalState_validated (sessionID : Int) (ip : String) (next : ServerM Response) (s : Server)
    (c : Call) (same : finalState (next s) = s.call c) :
    finalState (validateSession sessionID ip next s) =
      match (if s.admits sessionID ip then some c else none) with
      | some c => s.call c
      | none => s := by
  rw [validateSession_apply]
  by_cases admitted : s.admits sessionID ip
  · simp only [admitted, if_true, same]
  · simp only [admitted, if_false, Bool.false_eq_true, finalState_ok]

theorem finalState_reading (sessionID : Int) (ip : String) (next : ServerM Response) (s : Server)
    (same : finalState (next s) = s) :
    finalState (validateSession sessionID ip next s) = s := by
  rw [validateSession_apply]
  split
  · exact same
  · rfl

def imageOf (s : Server) (songID : Int) : Option (List UInt8 × Option String) :=
  (s.db.songs.find? fun r => r.id = songID).bind fun row =>
    row.image.map fun image => (image, row.image_type)

def sendable (imageType : Option String) : Bool := imageType.any validateHeaderValue

theorem getSongPhoto_apply (songID : Int) (s : Server) :
    getSongPhoto songID s = if songID < 0 then .error .illegalArgument s
      else match s.imageOf songID with
        | some photo => .ok photo s
        | none => .error .noSuchElement s := by
  rw [getSongPhoto, imageOf]
  split
  · rfl
  · dsimp only
    rw [bind_apply, get_apply]
    dsimp only
    generalize s.db.songs.find? _ = found
    rcases found with _ | row
    · rfl
    · dsimp only
      rw [Option.bind_some]
      cases row.image <;> rfl

theorem finalState_requestPhoto (clientID : Int) (ip : String) (songID : Int) (s : Server) :
    finalState (requestPhoto clientID ip songID s) = s := by
  apply finalState_reading
  rw [catching, getSongPhoto_apply]
  by_cases negative : songID < 0
  · rw [if_pos negative]
    rfl
  · rw [if_neg negative]
    rcases s.imageOf songID with _ | ⟨image, _ | imageType⟩
    · rfl
    · rfl
    · dsimp only
      split <;> rfl

theorem getSongData_apply (songID : Int) (readable : Bool) (s : Server) :
    getSongData songID readable s =
      if songID < 0 then .error .illegalArgument s
      else match s.db.songs.find? (fun r => r.id = songID) with
        | none => .error .noSuchElement s
        | some row => if readable then .ok (.songData row.id) s else .error .sql s := by
  unfold getSongData
  by_cases negative : songID < 0
  · rw [if_pos negative, if_pos negative]
    rfl
  · rw [if_neg negative, if_neg negative]
    dsimp only
    rw [bind_apply, get_apply]
    dsimp only
    cases s.db.songs.find? (fun r => r.id = songID) with
    | none => rfl
    | some row => cases readable <;> rfl

theorem finalState_getSongData (songID : Int) (readable : Bool) (s : Server) :
    finalState (getSongData songID readable s) = s := by
  rw [getSongData_apply]
  split
  · rfl
  · split
    · rfl
    · split <;> rfl

theorem finalState_voteRequest (id clientID : Int) (s : Server) :
    finalState ((tryCatch (do vote id clientID; return Response.ok) fun
      | .sql => return .error .INTERNAL_SERVER_ERROR
      | e => throw e : ServerM Response) s) = finalState (vote id clientID s) := by
  rw [tryCatch_apply, bind_apply]
  cases vote id clientID s with
  | ok a t => rfl
  | error e t => cases e <;> rfl

theorem serve_eq (s : Server) (e : Event) : s.serve e = match s.comesTo e with
    | some c => s.call c
    | none => s := by
  cases e with
  | request ip req =>
    cases req with
    | clientAuthenticate pin => rfl
    | speakerAuthenticate pin => rfl
    | clientDeauthenticate id =>
      exact finalState_validated _ _ _ _ (.destroySession id) (finalState_catching _ _ _ _)
    | speakerDeauthenticate id =>
      exact finalState_validated _ _ _ _ (.destroySession id) (finalState_catching _ _ _ _)
    | vote clientID id =>
      exact finalState_validated _ _ _ _ (.vote id clientID) (finalState_voteRequest id clientID s)
    | like clientID id =>
      exact finalState_validated _ _ _ _ (.like id clientID) (finalState_catching _ _ _ _)
    | dislike clientID id =>
      exact finalState_validated _ _ _ _ (.dislike id clientID) (finalState_catching _ _ _ _)
    | requestUpdate clientID ch =>
      exact finalState_validated _ _ _ _ (.registerRequest clientID ch) (finalState_catching _ _ _ _)
    | requestLikeUpdate clientID =>
      exact finalState_validated _ _ _ _ .getStats (finalState_catching _ _ _ _)
    | requestVoteUpdate clientID => exact finalState_reading _ _ _ _ rfl
    | requestSongUpdate clientID =>
      exact finalState_validated _ _ _ _ .getActiveSong (finalState_catching _ _ _ _)
    | requestSongList clientID => exact finalState_reading _ _ _ _ rfl
    | requestPhoto clientID songID => exact finalState_requestPhoto clientID ip songID s
    | statusUpdate clientID update =>
      exact finalState_validated _ _ _ _ (.speakerStatusUpdate clientID update)
        (finalState_catching _ _ _ _)
    | requestSong clientID songID readable =>
      exact finalState_reading _ _ _ _
        ((finalState_catching _ _ _ _).trans (finalState_getSongData songID readable s))
  | fireTask task => rfl
  | channelClosed ch => rfl
  | clockAdvanced ms => rfl
  | rescanned rank => rfl

end Handlers

section Runs

structure Sound (s : Server) (music : List MusicRow) : Prop where
  agrees : s.playback.Agrees
  roster : s.RosterAgrees
  library : s.playback.library = Database.transferData 1 music

theorem Sound.positive {music : List MusicRow} (h : s.Sound music) : ∀ r ∈ s.db.songs, 0 < r.id :=
  fun _ hr => (mem_library h.library hr).1

theorem Sound.call {music : List MusicRow} (h : s.Sound music) (c : Call) : (s.call c).Sound music :=
  ⟨agrees_call h.agrees c, rosterAgrees_call h.agrees h.roster c,
    (changes_call h.agrees c).library.trans h.library⟩

theorem Sound.serve {music : List MusicRow} (h : s.Sound music) (e : Event) :
    (s.serve e).Sound music := by
  rw [serve_eq]
  cases s.comesTo e with
  | none => exact h
  | some c => exact h.call c

theorem sound_start (music : List MusicRow) (clock : Nat) : (start music clock).Sound music :=
  ⟨agrees_start music clock, rosterAgrees_start music clock, library_run music clock []⟩

theorem sound_run (music : List MusicRow) (clock : Nat) (events : List Event) :
    (run serve (start music clock) events).Sound music :=
  invariant_of_run serve (fun s => s.Sound music) (fun _ e h => h.serve e) events _
    (sound_start music clock)

end Runs

end Server
end MusicCloud
