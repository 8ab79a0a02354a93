import MusicCloud.StatusReports

/-!
Which speakers are told the song that is selected next. Every selection is
announced to all speakers of that moment, except one made on a Stopped report,
and a speaker that joins between selection and start is not told either.
-/
namespace MusicCloud
open Runs

namespace Server

def isSpeaker (s : Server) (id : Int) : Prop :=
  ∃ session, s.sessionMap id = some session ∧ session.clientType = .Speaker

def newlyHanded (s t : Server) (id : Int) : List SessionUpdate :=
  (t.handedTo id).drop (s.handedTo id).length

/-- In some call of the run the session was handed the song, and the song has
    been the next song ever since that call. -/
def ToldSinceSelection (start : Server) (calls : List Call) (id : Int) (song : Song) : Prop :=
  ∃ before c after, calls = before ++ c :: after ∧
    (∀ later, later <+: after → (run call start (before ++ c :: later)).nextSong = some song) ∧
    .upcoming_song song ∈
      newlyHanded (run call start before) (run call start (before ++ [c])) id

/-- Speakers join only while no next song is selected, and a Stopped report on
    which a song is selected comes from the only speaker. -/
def SpeakersInStep (s : Server) : Call → Prop
  | .authenticateSpeaker (some pin) _ => authenticatePin pin → s.nextSong = none
  | .speakerStatusUpdate sessionID (some ⟨_, some .Stopped⟩) =>
    s.nextSong = none → s.activeSong ≠ none → (∃ r ∈ s.db.songs, r.status = .Inactive) →
      ∀ id, s.isSpeaker id → id = sessionID
  | _ => True

variable {s t : Server}

section Told

def Told (s t : Server) : Prop :=
  ∀ song id, t.nextSong = some song → t.isSpeaker id →
    (s.nextSong = some song ∧ s.isSpeaker id) ∨ .upcoming_song song ∈ newlyHanded s t id

theorem newlyHanded_of_eq {id : Int} {us : List SessionUpdate}
    (eq : t.handedTo id = s.handedTo id ++ us) : newlyHanded s t id = us := by
  rw [newlyHanded, eq, List.drop_left]

theorem Handed.isSpeaker (handed : Handed s t) {id : Int} : t.isSpeaker id ↔ s.isSpeaker id := by
  constructor
  · rintro ⟨session, live, speaker⟩
    obtain ⟨old, hold, type⟩ := handed.live live
    exact ⟨old, hold, type.trans speaker⟩
  · rintro ⟨session, live, speaker⟩
    obtain ⟨-, new, hnew, type, -⟩ := handed.handedTo live
    exact ⟨new, hnew, type.trans speaker⟩

theorem told_of_same (next : t.nextSong = s.nextSong)
    (speakers : ∀ id, t.isSpeaker id → s.isSpeaker id) : Told s t :=
  fun _ id selected speaker => Or.inl ⟨next ▸ selected, speakers id speaker⟩

theorem told_of_kept (handed : Handed s t) (next : t.nextSong = s.nextSong ∨ t.nextSong = none) :
    Told s t := by
  rcases next with same | unset
  · exact told_of_same same fun id => handed.isSpeaker.mp
  · intro song id selected speaker
    simp [unset] at selected

theorem Told.trans {u : Server} (first : Told s t) (second : Told t u) (before : Handed s t)
    (after : Handed t u) : Told s u := by
  intro song id selected speaker
  have old : t.isSpeaker id := after.isSpeaker.mp speaker
  obtain ⟨session, live, -⟩ := before.isSpeaker.mp old
  obtain ⟨us, middle, hmiddle, -, first_handed⟩ := before.handedTo live
  obtain ⟨vs, -, -, -, second_handed⟩ := after.handedTo hmiddle
  have whole : u.handedTo id = s.handedTo id ++ (us ++ vs) := by
    rw [second_handed, first_handed, List.append_assoc]
  rw [newlyHanded_of_eq whole, List.mem_append]
  rcases second song id selected speaker with ⟨same, -⟩ | told
  · rcases first song id same old with kept | told
    · exact Or.inl kept
    · exact Or.inr (.inl (newlyHanded_of_eq first_handed ▸ told))
  · exact Or.inr (.inr (newlyHanded_of_eq second_handed ▸ told))

theorem told_broadcast (roster : s.RosterAgrees) {song : Song} {id : Int} (speaker : s.isSpeaker id) :
    .upcoming_song song ∈
      newlyHanded s (s.broadcastUpdate (.upcoming_song song) .Speaker) id := by
  obtain ⟨session, live, type⟩ := speaker
  have once := roster.count_sessionIds live .Speaker
  rw [if_pos type] at once
  have handed : (s.broadcastUpdate (.upcoming_song song) .Speaker).handedTo id =
      s.handedTo id ++ [.upcoming_song song] := by
    simp [handedTo, broadcastUpdate_sessionMap, live, once, Session.sendUpdate]
  rw [newlyHanded_of_eq handed]
  exact List.mem_singleton_self _

theorem told_of_act {report : Option (Int × Status)} (other : ∀ id, report ≠ some (id, .Stopped))
    (roster : s.RosterAgrees) (act : Act report s t) : Told s t := by
  have handed := handed_of_act act
  cases act with
  | broadcast => exact told_of_kept handed (.inl rfl)
  | send => exact told_of_kept handed (.inl rfl)
  | refresh => exact told_of_kept handed (.inl rfl)
  | timer => exact told_of_kept handed (.inl rfl)
  | select song unset choice =>
    intro other id selected speaker
    have same : song = other := Option.some.inj selected
    subst same
    have chosen : (s.selected song).RosterAgrees := roster.handed (.of_same rfl rfl rfl rfl)
    exact Or.inr (told_broadcast chosen (handed.isSpeaker.mp speaker))
  | selectFor song sessionID stopped => exact absurd stopped (other sessionID)
  | mark => exact told_of_kept handed (.inl rfl)
  | start => exact told_of_kept handed (.inr rfl)

theorem told_of_acts {report : Option (Int × Status)} (other : ∀ id, report ≠ some (id, .Stopped))
    (roster : s.RosterAgrees) (acts : Acts report s t) : Told s t := by
  induction acts with
  | refl => exact told_of_kept (.refl s) (.inl rfl)
  | tail acts act ih =>
    have before := handed_of_acts acts
    exact ih.trans (told_of_act other (roster.handed before) act) before (handed_of_act act)

theorem told_stopped (sessionID songID : Int)
    (inStep : s.SpeakersInStep (.speakerStatusUpdate sessionID
      (some { id := songID, status := some .Stopped }))) :
    Told s (finalState (stoppedUpdate sessionID s)) := by
  rw [stoppedUpdate_apply]
  cases running : s.activeSong with
  | none => exact told_of_kept (.refl s) (.inl rfl)
  | some active =>
    have marked : Handed s (s.marked active) := .of_same rfl rfl rfl rfl
    cases next : s.nextSong with
    | some song => exact told_of_kept marked (.inl rfl)
    | none =>
      dsimp only
      cases choice : (s.marked active).candidate with
      | none => exact told_of_kept marked (.inl rfl)
      | some song =>
        intro other id selected speaker
        have same : song = other := Option.some.inj selected
        subst same
        have handed := marked.trans (handed_of_act
          (.selectFor (s.marked active) song sessionID rfl next choice : Act (some (sessionID, .Stopped)) _ _))
        have before : s.isSpeaker id := handed.isSpeaker.mp speaker
        -- The song chosen was inactive before the active song was marked, too.
        have inactive : ∃ r ∈ s.db.songs, r.status = .Inactive := by
          obtain ⟨r, hr, status, -⟩ := candidate_row choice
          obtain ⟨old, hold, rfl⟩ := List.mem_map.mp hr
          by_cases own : old.id = active.id
          · simp [own] at status
          · exact ⟨old, hold, by simpa [own] using status⟩
        have reporter : id = sessionID :=
          inStep next (by simp [running]) inactive id before
        subst reporter
        obtain ⟨session, live, -⟩ := before
        have told := handedTo_sendUpdate (s := (s.marked active).selected song)
          (u := .upcoming_song song) live
        exact Or.inr (newlyHanded_of_eq (s := s) told ▸ List.mem_singleton_self _)

theorem handedTo_joined (roster : s.RosterAgrees) (ip : String) (type : SessionType) (id : Int) :
    (s.joined ip type).handedTo id = s.handedTo id := by
  by_cases new : id = s.db.sessionSequence + 1
  · have absent : s.sessionMap id = none := by
      by_contra present
      obtain ⟨session, live⟩ := Option.ne_none_iff_exists'.mp present
      obtain ⟨-, r, hr, rid, -⟩ := roster.live id session live
      have := (roster.numbered r hr).2
      omega
    simp [handedTo, absent]
    simp [joined, new, Session.create]
  · simp [handedTo, joined, new]

theorem told_speakerAuthenticate (agrees : s.playback.Agrees) (roster : s.RosterAgrees)
    (pin : Option String) (ip : String) (inStep : s.SpeakersInStep (.authenticateSpeaker pin ip)) :
    Told s (finalState (speakerAuthenticate pin ip s)) := by
  rw [speakerAuthenticate_apply]
  cases pin with
  | none => exact told_of_kept (.refl s) (.inl rfl)
  | some pin =>
    dsimp only
    split
    · rename_i accepted
      have acts := acts_welcomeSpeaker none (s := s.joined ip .Speaker) agrees
        (Session.create (s.db.sessionSequence + 1) ip .Speaker)
      intro song id selected speaker
      rcases told_of_acts (by simp) (roster.joined ip .Speaker) acts song id selected speaker with
        ⟨early, -⟩ | told
      · have unset : (s.joined ip .Speaker).nextSong = none := inStep accepted
        simp [unset] at early
      · rw [newlyHanded, handedTo_joined roster] at told
        exact Or.inr told
    · exact told_of_kept (.refl s) (.inl rfl)

theorem told_call (agrees : s.playback.Agrees) (roster : s.RosterAgrees) (c : Call)
    (inStep : s.SpeakersInStep c) : Told s (s.call c) := by
  cases c with
  | authenticateUser pin ip =>
    rw [call, clientAuthenticate_apply]
    cases pin with
    | none => exact told_of_kept (.refl s) (.inl rfl)
    | some pin =>
      dsimp only
      split
      · refine told_of_same rfl ?_
        rintro id ⟨session, live, speaker⟩
        by_cases new : id = s.db.sessionSequence + 1
        · simp [joined, new] at live
          simp [← live, Session.create] at speaker
        · exact ⟨session, by simpa [joined, new] using live, speaker⟩
      · exact told_of_kept (.refl s) (.inl rfl)
  | authenticateSpeaker pin ip => exact told_speakerAuthenticate agrees roster pin ip inStep
  | destroySession id =>
    rw [call, destroySession_apply]
    split
    · exact told_of_kept (.refl s) (.inl rfl)
    · refine told_of_same rfl ?_
      rintro other ⟨session, live, speaker⟩
      by_cases gone : other = id
      · simp [left, gone] at live
      · exact ⟨session, by simpa [left, gone] using live, speaker⟩
  | vote songID sessionID =>
    rw [call, vote_apply]
    split
    · exact told_of_kept (.refl s) (.inl rfl)
    · have stored : Handed s { s with db := s.db.insertVote sessionID songID } :=
        .of_same rfl rfl rfl rfl
      exact told_of_kept (stored.trans (handed_of_act (.broadcast _ _ _ : Act none _ _))) (.inl rfl)
  | like songID sessionID =>
    by_cases valid : songID < 0 ∨ sessionID < 0
    · rw [call, like_apply, if_pos valid]
      exact told_of_kept (.refl s) (.inl rfl)
    · have stored : Handed s (s.reacted sessionID songID 1) := .of_same rfl rfl rfl rfl
      have acts := acts_like none agrees songID sessionID valid
      exact (told_of_kept stored (.inl rfl)).trans (told_of_acts (by simp) (roster.handed stored) acts) stored
        (handed_of_acts acts)
  | dislike songID sessionID =>
    by_cases valid : songID < 0 ∨ sessionID < 0
    · rw [call, dislike_apply, if_pos valid]
      exact told_of_kept (.refl s) (.inl rfl)
    · have stored : Handed s (s.reacted sessionID songID (-1)) := .of_same rfl rfl rfl rfl
      have acts := acts_dislike none agrees songID sessionID valid
      exact (told_of_kept stored (.inl rfl)).trans (told_of_acts (by simp) (roster.handed stored) acts) stored
        (handed_of_acts acts)
  | getActiveSong => exact told_of_acts (by simp) roster (acts_getActiveSong none agrees)
  | getStats => exact told_of_acts (by simp) roster (acts_getStats none agrees)
  | registerRequest sessionID ch =>
    rw [call, registerRequest_apply]
    cases found : s.sessionMap sessionID with
    | none => exact told_of_kept (.refl s) (.inl rfl)
    | some session =>
      refine told_of_same rfl ?_
      rintro id ⟨x, live, speaker⟩
      by_cases same : id = sessionID
      · subst same
        have eq : session.assignRequest ch = x := by simpa [parked] using live
        subst eq
        exact ⟨session, found, speaker⟩
      · exact ⟨x, by simpa [parked, same] using live, speaker⟩
  | speakerStatusUpdate sessionID update =>
    rw [call, speakerStatusUpdate_apply]
    split
    · exact told_of_kept (.refl s) (.inl rfl)
    · split
      · exact told_of_kept (.refl s) (.inl rfl)
      · exact told_of_kept (.refl s) (.inl rfl)
      · exact told_of_acts (by simp) roster (acts_playingUpdate agrees sessionID _)
      · exact told_stopped sessionID _ inStep
      · exact told_of_acts (by simp) roster (acts_readyUpdate none sessionID _)
      · exact told_of_kept (.refl s) (.inl rfl)
  | fireTask task => exact told_of_acts (by simp) roster (acts_fireTask none agrees task)
  | channelClosed ch => exact told_of_same rfl fun _ h => h
  | clockAdvanced ms => exact told_of_same rfl fun _ h => h
  | rescanned rank => exact told_of_same rfl fun _ h => h

end Told

theorem toldSinceSelection_run (music : List MusicRow) (clock : Nat) (calls : List Call)
    (meets : StepsMeet call SpeakersInStep (start music clock) calls) (id : Int) (song : Song)
    (speaker : (run call (start music clock) calls).isSpeaker id)
    (selected : (run call (start music clock) calls).nextSong = some song) :
    ToldSinceSelection (start music clock) calls id song := by
  induction calls using List.reverseRecOn with
  | nil => cases selected
  | append_singleton calls c ih =>
    obtain ⟨meets, inStep⟩ := (stepsMeet_concat call SpeakersInStep _ calls c).mp meets
    have step := told_call (agrees_run music clock calls) (rosterAgrees_run music clock calls) c
      inStep
    rw [run_concat] at speaker selected
    rcases step song id selected speaker with ⟨before, speaker⟩ | told
    · obtain ⟨pre, first, post, rfl, ever, told⟩ := ih meets speaker before
      refine ⟨pre, first, post ++ [c], by simp, ?_, told⟩
      intro later prefix_later
      rcases List.prefix_concat_iff.mp prefix_later with whole | inside
      · subst whole
        have eq : pre ++ first :: (post ++ [c]) = (pre ++ first :: post) ++ [c] := by simp
        rw [eq, run_concat]
        exact selected
      · exact ever later inside
    · refine ⟨calls, c, [], rfl, ?_, by rwa [run_concat]⟩
      intro later empty
      rw [List.prefix_nil.mp empty, run_concat]
      exact selected

end Server

/-- In every run whose speakers are in step, whenever a next song is selected
    each live speaker session has been handed its announcement since then. -/
theorem every_speaker_told_next_song (music : List MusicRow) (clock : Nat) (calls : List Call)
    (meets : StepsMeet Server.call Server.SpeakersInStep (.start music clock) calls)
    (song : Song) (selected : (run Server.call (.start music clock) calls).nextSong = some song)
    (id : Int) (speaker : (run Server.call (.start music clock) calls).isSpeaker id) :
    Server.ToldSinceSelection (.start music clock) calls id song :=
  Server.toldSinceSelection_run music clock calls meets id song speaker selected

theorem first_speaker_told : ∃ song,
    (run Server.call (.start twoSongs 0) joinedCalls).nextSong = some song ∧
    Server.ToldSinceSelection (.start twoSongs 0) joinedCalls 1 song :=
  ⟨_, rfl, every_speaker_told_next_song twoSongs 0 joinedCalls ⟨fun _ => rfl, trivial⟩ _ rfl 1
    ⟨_, rfl, rfl⟩⟩

def secondSpeakerCalls : List Call := joinedCalls ++ [.authenticateSpeaker (some "1234") "10.0.0.3"]

/-- The second speaker is told nothing. -/
theorem second_speaker_not_told :
    ¬ ∀ (music : List MusicRow) (clock : Nat) (calls : List Call) (song : Song) (id : Int),
      (run Server.call (.start music clock) calls).nextSong = some song →
      (run Server.call (.start music clock) calls).isSpeaker id →
      Server.ToldSinceSelection (.start music clock) calls id song := by
  intro always
  obtain ⟨before, c, after, split, -, told⟩ :=
    always twoSongs 0 secondSpeakerCalls _ 2 rfl ⟨_, rfl, rfl⟩
  match before, split with
  | [], split =>
    cases split
    cases told
  | [_], split =>
    cases split
    cases told
  | _ :: _ :: _, split => simp [secondSpeakerCalls, joinedCalls] at split

end MusicCloud
