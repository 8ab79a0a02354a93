import MusicCloud.Acts

/-!
Every call in two parts: the row, session or channel that it writes itself, and
the acts of the song manager that follow.
-/
namespace MusicCloud

namespace Server
variable {s : Server}

def written (s : Server) : Call → Server
  | .authenticateUser (some pin) ip => if authenticatePin pin then s.joined ip .User else s
  | .authenticateSpeaker (some pin) ip => if authenticatePin pin then s.joined ip .Speaker else s
  | .destroySession id => if id < 0 then s else s.left id
  | .vote songID sessionID =>
    if songID < 0 ∨ sessionID < 0 then s
    else { s with db := s.db.insertVote sessionID songID }
  | .like songID sessionID =>
    if songID < 0 ∨ sessionID < 0 then s else s.reacted sessionID songID 1
  | .dislike songID sessionID =>
    if songID < 0 ∨ sessionID < 0 then s else s.reacted sessionID songID (-1)
  | .registerRequest sessionID ch =>
    match s.sessionMap sessionID with
    | some session => s.parked sessionID session ch
    | none => s
  | .channelClosed ch => { s with closedChannels := ch :: s.closedChannels }
  | .clockAdvanced ms => { s with clock := s.clock + ms }
  | .rescanned rank => { s with db := { s.db with scanRank := rank } }
  | _ => s

def reportBy : Call → Option (Int × Status)
  | .speakerStatusUpdate sessionID update => reportOf sessionID update
  | _ => none

theorem playback_written (s : Server) (c : Call) : (s.written c).playback = s.playback := by
  unfold written
  split
  any_goals split
  all_goals rfl

theorem acts_call (agrees : s.playback.Agrees) (c : Call) :
    Acts (reportBy c) (s.written c) (s.call c) := by
  cases c with
  | authenticateUser pin ip =>
    rw [call, clientAuthenticate_apply]
    cases pin with
    | none => exact .refl
    | some pin =>
      unfold written
      dsimp only
      split <;> exact .refl
  | authenticateSpeaker pin ip =>
    rw [call, speakerAuthenticate_apply]
    cases pin with
    | none => exact .refl
    | some pin =>
      unfold written
      dsimp only
      split
      · exact acts_welcomeSpeaker none (s := s.joined ip .Speaker) agrees _
      · exact .refl
  | destroySession id =>
    rw [call, destroySession_apply, written]
    split <;> exact .refl
  | vote songID sessionID =>
    rw [call, vote_apply, written]
    split
    · exact .refl
    · exact .single (.broadcast _ _ _)
  | like songID sessionID =>
    by_cases invalid : songID < 0 ∨ sessionID < 0
    · rw [call, like_apply, written, if_pos invalid, if_pos invalid]
      exact .refl
    · rw [written, if_neg invalid]
      exact acts_like none agrees songID sessionID invalid
  | dislike songID sessionID =>
    by_cases invalid : songID < 0 ∨ sessionID < 0
    · rw [call, dislike_apply, written, if_pos invalid, if_pos invalid]
      exact .refl
    · rw [written, if_neg invalid]
      exact acts_dislike none agrees songID sessionID invalid
  | getActiveSong => exact acts_getActiveSong none agrees
  | getStats => exact acts_getStats none agrees
  | registerRequest sessionID ch =>
    rw [call, registerRequest_apply, written]
    cases s.sessionMap sessionID <;> exact .refl
  | speakerStatusUpdate sessionID update => exact acts_speakerStatusUpdate agrees sessionID update
  | fireTask task => exact acts_fireTask none agrees task
  | channelClosed ch => exact .refl
  | clockAdvanced ms => exact .refl
  | rescanned rank => exact .refl

end Server
end MusicCloud
