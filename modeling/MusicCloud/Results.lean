import MusicCloud.Handlers

/-!
What each method returns and leaves behind, as one equation for each. The
later modules use these equations and never unfold a method again.
-/
namespace MusicCloud
namespace Server

section Execution
variable {σ α β : Type} (s : σ)

@[simp] theorem bind_apply (m : EStateM JavaException σ α) (f : α → EStateM JavaException σ β) :
    (m >>= f) s = match m s with
      | .ok a t => f a t
      | .error e t => .error e t := by
  simp only [bind, EStateM.bind]
  cases m s <;> rfl

@[simp] theorem map_apply (m : EStateM JavaException σ α) (f : α → β) :
    (f <$> m) s = match m s with
      | .ok a t => .ok (f a) t
      | .error e t => .error e t := by
  simp only [Functor.map, EStateM.map]
  cases m s <;> rfl

@[simp] theorem tryCatch_apply (m : EStateM JavaException σ α)
    (handler : JavaException → EStateM JavaException σ α) :
    (tryCatch m handler) s = match m s with
      | .ok a t => .ok a t
      | .error e t => handler e t := by
  simp only [tryCatch, tryCatchThe, MonadExceptOf.tryCatch, EStateM.tryCatch]
  cases m s <;> rfl

@[simp] theorem pure_apply (a : α) : (pure a : EStateM JavaException σ α) s = .ok a s := rfl

@[simp] theorem get_apply : (get : EStateM JavaException σ σ) s = .ok s s := rfl

@[simp] theorem set_apply (t : σ) : (set t : EStateM JavaException σ PUnit) s = .ok ⟨⟩ t := rfl

@[simp] theorem modify_apply (f : σ → σ) :
    (modify f : EStateM JavaException σ PUnit) s = .ok ⟨⟩ (f s) := rfl

@[simp] theorem throw_apply (e : JavaException) :
    (throw e : EStateM JavaException σ α) s = .error e s := rfl

theorem ofExcept_apply (x : Except JavaException α) :
    (MonadExcept.ofExcept x : EStateM JavaException σ α) s = match x with
      | .ok a => .ok a s
      | .error e => .error e s := by
  cases x <;> rfl

end Execution

section Sessions
variable (s : Server)

def joined (ip : String) (type : SessionType) : Server :=
  let id := s.db.sessionSequence + 1
  { s with
    db := (s.db.insertSession ip type (toInt (s.clock / 1000))).insertChildSession type id
    sessionMap := Function.update s.sessionMap id (some (Session.create id ip type)) }

def left (sessionID : Int) : Server :=
  { s with
    db := s.db.deleteSession sessionID
    sessionMap := Function.update s.sessionMap sessionID none }

def parked (sessionID : Int) (session : Session) (ch : Channel) : Server :=
  { s with
    sessionMap := Function.update s.sessionMap sessionID (some (session.assignRequest ch)) }

theorem createSession_apply (pin : Option String) (ip : String) (type : SessionType) :
    createSession pin ip type s = match pin with
      | none => .error .illegalArgument s
      | some pin =>
        if authenticatePin pin then
          .ok (Session.create (s.db.sessionSequence + 1) ip type) (s.joined ip type)
        else .error .security s := by
  unfold createSession
  cases pin with
  | none => rfl
  | some pin => by_cases accepted : authenticatePin pin <;> simp [accepted, joined,
      Database.insertSession]

theorem clientAuthenticate_apply (pin : Option String) (ip : String) :
    clientAuthenticate pin ip s = match pin with
      | none => .ok (.error .INTERNAL_SERVER_ERROR) s
      | some pin =>
        if authenticatePin pin then .ok (.session (s.db.sessionSequence + 1)) (s.joined ip .User)
        else .ok (.error .FORBIDDEN) s := by
  rw [clientAuthenticate, catching, createSession_apply]
  cases pin with
  | none => rfl
  | some pin => by_cases accepted : authenticatePin pin <;> simp only [accepted] <;> rfl

theorem speakerAuthenticate_apply (pin : Option String) (ip : String) :
    speakerAuthenticate pin ip s = match pin with
      | none => .ok (.error .INTERNAL_SERVER_ERROR) s
      | some pin =>
        if authenticatePin pin then
          welcomeSpeaker (Session.create (s.db.sessionSequence + 1) ip .Speaker)
            (s.joined ip .Speaker)
        else .ok (.error .FORBIDDEN) s := by
  rw [speakerAuthenticate, catching, createSession_apply]
  cases pin with
  | none => rfl
  | some pin => by_cases accepted : authenticatePin pin <;> simp only [accepted] <;> rfl

theorem destroySession_apply (sessionID : Int) :
    destroySession sessionID s =
      if sessionID < 0 then .error .illegalArgument s else .ok () (s.left sessionID) := by
  by_cases negative : sessionID < 0 <;> simp [destroySession, left, negative]

theorem registerRequest_apply (sessionID : Int) (ch : Channel) :
    registerRequest sessionID ch s = match s.sessionMap sessionID with
      | none => .error .illegalArgument s
      | some session => .ok () (s.parked sessionID session ch) := by
  cases session : s.sessionMap sessionID <;> simp [registerRequest, session, parked]

theorem validSession_apply (sessionID : Int) (ip : String) :
    validSession sessionID ip s =
      if sessionID < 0 then .error .illegalArgument s
      else
        let rows := s.db.sessions.filter fun r => r.id = sessionID
        .ok (rows.all (fun r => r.ipAddress == ip) && rows.length == 1) s := by
  by_cases negative : sessionID < 0 <;> simp [validSession, negative]

end Sessions

section Selection
variable (s : Server)

def candidate : Option Song := s.db.nextSongQuery.head?.map Database.toSong

def selected (song : Song) : Server := { s with nextSong := some song }

def positioned (active : ActiveSong) : ActiveSong :=
  { active with position := toInt (s.clock / 1000) - s.songStarttime }

@[simp] theorem positioned_toSong (active : ActiveSong) :
    (s.positioned active).toSong = active.toSong := by
  obtain ⟨song, -, -⟩ := active
  rfl

@[simp] theorem positioned_status (active : ActiveSong) :
    (s.positioned active).status = active.status := by
  unfold positioned
  rfl

def refreshed (active : ActiveSong) : Server :=
  { s with activeSong := some (s.positioned active) }

theorem getNextSongFromDB_apply :
    getNextSongFromDB s = match s.candidate with
      | none => .error .noSuchElement s
      | some song => .ok song s := by
  have single : s.db.nextSongQuery.length ≤ 1 := by simp [Database.nextSongQuery]
  match query : s.db.nextSongQuery with
  | [] => simp [getNextSongFromDB, candidate, query]
  | [row] => simp [getNextSongFromDB, candidate, query]
  | _ :: _ :: _ => simp [query] at single

theorem getNextSong_apply :
    getNextSong s = match s.nextSong with
      | some song => .ok song s
      | none => match s.candidate with
        | none => .error .noSuchElement s
        | some song => .ok song (s.selected song) := by
  cases next : s.nextSong with
  | some song => simp [getNextSong, next]
  | none => cases choice : s.candidate <;>
      simp [getNextSong, next, getNextSongFromDB_apply, choice, selected]

theorem getActiveSong_apply :
    getActiveSong s = match s.activeSong with
      | some active => .ok (s.positioned active) (s.refreshed active)
      | none =>
        if s.db.activeSongQuery = [] then .error .noSuchElement s
        else .error .sql { s with activeRowFound := true } := by
  cases active : s.activeSong with
  | some a => simp [getActiveSong, active, refreshed, positioned]
  | none => cases query : s.db.activeSongQuery <;>
      simp [getActiveSong, active, getActiveSongFromDB, query]

theorem scheduleNextSong_apply :
    scheduleNextSong s = match s.nextSong with
      | some _ => .ok () s
      | none => match s.candidate with
        | none => .error .noSuchElement s
        | some song => .ok () ((s.selected song).broadcastUpdate (.upcoming_song song) .Speaker) := by
  cases next : s.nextSong with
  | some song => simp [scheduleNextSong, next]
  | none => cases choice : s.candidate <;>
      simp [scheduleNextSong, next, getNextSong_apply, choice]

end Selection
section Playback
variable (s : Server)

def accepts (delay : Int) : Prop := 0 ≤ delay ∧ 0 ≤ toLong (s.clock + delay)

instance (delay : Int) : Decidable (s.accepts delay) := inferInstanceAs (Decidable (_ ∧ _))

/-- The field refers to a new task, not yet scheduled. -/
def renewed : Server :=
  { s with tasksCreated := s.tasksCreated + 1, songTimerTask := some s.tasksCreated }

def scheduled (task : TimerTask) : Server := { s with songTimer := s.songTimer ++ [task] }

theorem newSongTimerTask_apply (action : TaskAction) :
    newSongTimerTask action s = .ok { id := s.tasksCreated, action := action } s.renewed := by
  simp [newSongTimerTask, renewed]

theorem schedule_apply (task : TimerTask) (delay : Int) :
    schedule task delay s =
      if s.accepts delay then .ok () (s.scheduled task) else .error .illegalArgument s := by
  by_cases early : delay < 0
  · have rejected : ¬ s.accepts delay := fun h => absurd h.1 (by omega)
    simp [schedule, early, rejected]
  · by_cases late : toLong (s.clock + delay) < 0
    · have rejected : ¬ s.accepts delay := fun h => absurd h.2 (by omega)
      simp [schedule, early, late, rejected]
    · have accepted : s.accepts delay := ⟨by omega, by omega⟩
      simp [schedule, early, late, accepted, scheduled]

def started (song : Song) : Server :=
  { s with
    songStarttime := toInt (s.clock / 1000)
    db := s.db.updateNextSong (s.activeSong.map fun a => a.id) (some song.id) s.datetime
    activeSong := some { song with position := 0, status := .Playing }
    nextSong := none }

def playbackUpdated (song : Song) : Server :=
  ((s.cancelSongTimerTask.renewed).scheduled
    { id := s.tasksCreated, action := .scheduleNextSong }).started song

def uncancelledTasks : List TimerTask :=
  match s.songTimerTask with
  | some id => s.songTimer.filter fun t => t.id ≠ id
  | none => s.songTimer

theorem cancelSongTimerTask_eq :
    s.cancelSongTimerTask = { s with songTimer := s.uncancelledTasks } := by
  obtain ⟨-, -, -, -, -, songTimerTask⟩ := s
  cases songTimerTask <;> rfl

theorem updatePlayback_apply :
    updatePlayback s = match s.nextSong with
      | none => .error .nullPointer s.cancelSongTimerTask.renewed
      | some song =>
        if s.accepts (selectionDelay song) then .ok () (s.playbackUpdated song)
        else .error .illegalArgument s.cancelSongTimerTask.renewed := by
  have same : ∀ delay, s.cancelSongTimerTask.renewed.accepts delay ↔ s.accepts delay := by
    intro delay
    simp [accepts, renewed, cancelSongTimerTask_eq]
  have kept : s.cancelSongTimerTask.renewed.nextSong = s.nextSong := by
    simp [renewed, cancelSongTimerTask_eq]
  have created : s.cancelSongTimerTask.tasksCreated = s.tasksCreated := by
    simp [cancelSongTimerTask_eq]
  cases next : s.nextSong with
  | none => simp [updatePlayback, newSongTimerTask_apply, kept, next]
  | some song =>
    by_cases accepted : s.accepts (selectionDelay song)
    · simp [updatePlayback, newSongTimerTask_apply, schedule_apply, kept, created, next, same,
        accepted, playbackUpdated, started, datetime]
    · simp [updatePlayback, newSongTimerTask_apply, schedule_apply, kept, next, same, accepted]

theorem playbackUpdated_db (song : Song) : (s.playbackUpdated song).db =
    s.db.updateNextSong (s.activeSong.map fun a => a.id) (some song.id) s.datetime := by
  simp [playbackUpdated, started, scheduled, renewed, cancelSongTimerTask_eq, datetime]

def cleared : Server := { s.cancelSongTimerTask with songTimerTask := none }

def skippedTo (song : Song) : Server :=
  ((s.cleared.selected song).broadcastUpdate (.upcoming_song song) .Speaker).broadcastUpdate
    (.upcoming_song song) .Speaker

theorem skipToNext_apply :
    skipToNext s =
      if s.nextSong.isSome then .error .illegalState s
      else match s.candidate with
        | none => .error .noSuchElement s.cleared
        | some song =>
          if s.accepts loadingTime then
            .ok () ((s.skippedTo song).renewed.scheduled
              { id := s.tasksCreated, action := .stopActiveSong })
          else .error .illegalArgument (s.skippedTo song).renewed := by
  have same : ∀ song, (s.skippedTo song).renewed.accepts loadingTime ↔ s.accepts loadingTime := by
    intro song
    simp [accepts, renewed, skippedTo, cleared, selected, broadcastUpdate, cancelSongTimerTask_eq]
  have choose : s.cleared.candidate = s.candidate := by
    simp [candidate, cleared, cancelSongTimerTask_eq]
  have kept : s.cleared.nextSong = s.nextSong := by
    simp [cleared, cancelSongTimerTask_eq]
  have created : ∀ song, (s.skippedTo song).tasksCreated = s.tasksCreated := by
    intro song
    simp [skippedTo, cleared, selected, broadcastUpdate, cancelSongTimerTask_eq]
  have chosen := getNextSong_apply s.cleared
  rw [kept, choose] at chosen
  cases next : s.nextSong with
  | some song => simp [skipToNext, next]
  | none =>
    rw [next] at chosen
    unfold skipToNext
    rw [bind_apply, get_apply]
    simp only [next, Option.isSome_none, Bool.false_eq_true, if_false]
    rw [bind_apply, modify_apply]
    change (getNextSong >>= _) s.cleared = _
    rw [bind_apply, chosen]
    cases choice : s.candidate with
    | none => rfl
    | some song =>
      simp only [bind_apply, modify_apply, newSongTimerTask_apply]
      rw [← skippedTo, schedule_apply, created]
      simp only [same]

end Playback
section ClientActions
variable (s : Server)

def likeData (db : Database) (songID : Int) : Except JavaException LikeData :=
  let (songID, likes, dislikes) :=
    Database.sumReactions songID (Tables.groupCount id db.activeReactions)
  do
    let balance ← computeLikeBalance likes dislikes
    LikeData.create songID likes dislikes balance

def reacted (sessionID songID value : Int) : Server :=
  { s with db := s.db.insertLike sessionID songID value }

theorem getStats_apply :
    getStats s = match getActiveSong s with
      | .ok active t => match likeData t.db active.id with
        | .ok stats => .ok stats t
        | .error e => .error e t
      | .error e t => .error e t := by
  unfold getStats
  rw [bind_apply]
  generalize getActiveSong s = found
  cases found with
  | error e t => rfl
  | ok active t =>
    simp only [bind_apply, get_apply, likeData]
    generalize Database.sumReactions active.id _ = sums
    obtain ⟨songID, likes, dislikes⟩ := sums
    simp only [ofExcept_apply]
    cases balance : computeLikeBalance likes dislikes with
    | error e => rfl
    | ok b => cases created : LikeData.create songID likes dislikes b <;>
        simp only [bind, Except.bind, created]

theorem vote_apply (songID sessionID : Int) :
    vote songID sessionID s =
      if songID < 0 ∨ sessionID < 0 then .error .illegalArgument s
      else .ok () ({ s with db := s.db.insertVote sessionID songID }.broadcastUpdate
        (.votes (s.db.insertVote sessionID songID).getVotes) .User) := by
  by_cases negative : songID < 0 ∨ sessionID < 0
  · simp only [vote, negative, if_true, bind_apply, throw_apply]
  · simp only [vote, negative, if_false, bind_apply, modify_apply]

theorem like_apply (songID sessionID : Int) :
    like songID sessionID s =
      if songID < 0 ∨ sessionID < 0 then .error .illegalArgument s
      else match getStats (s.reacted sessionID songID 1) with
        | .ok stats t => .ok () (t.broadcastUpdate (.likes stats) .User)
        | .error e t => .error e t := by
  by_cases negative : songID < 0 ∨ sessionID < 0
  · simp only [like, negative, if_true, bind_apply, throw_apply]
  · simp only [like, negative, if_false]
    rw [bind_apply, modify_apply]
    change (getStats >>= _) (s.reacted sessionID songID 1) = _
    rw [bind_apply]
    generalize getStats _ = counted
    cases counted <;> rfl

theorem dislike_apply (songID sessionID : Int) :
    dislike songID sessionID s =
      if songID < 0 ∨ sessionID < 0 then .error .illegalArgument s
      else match getStats (s.reacted sessionID songID (-1)) with
        | .ok stats t =>
          if t.nextSong = none ∧ unpopular stats t.db.getSessionCount then
            skipToNext (t.broadcastUpdate (.likes stats) .User)
          else .ok () (t.broadcastUpdate (.likes stats) .User)
        | .error e t => .error e t := by
  by_cases negative : songID < 0 ∨ sessionID < 0
  · simp only [dislike, negative, if_true, bind_apply, throw_apply]
  · simp only [dislike, negative, if_false]
    rw [bind_apply, modify_apply]
    change (getStats >>= _) (s.reacted sessionID songID (-1)) = _
    rw [bind_apply]
    generalize getStats _ = counted
    cases counted with
    | error e t => rfl
    | ok stats t =>
      have same : (t.broadcastUpdate (.likes stats) .User).nextSong = t.nextSong := rfl
      have rows : (t.broadcastUpdate (.likes stats) .User).db = t.db := rfl
      by_cases unset : t.nextSong = none <;>
        by_cases hated : unpopular stats t.db.getSessionCount <;>
        simp [same, rows, unset, hated]

end ClientActions

section SpeakerActions
variable (s : Server)

/-- A confused speaker has been sent the active song and a Stop for its own. -/
def corrected (active : ActiveSong) (sessionID songID : Int) : Server :=
  ((s.refreshed active).sendUpdate (.upcoming_song active.toSong) sessionID).sendUpdate
    (.playback_command { command := .Stop, id := songID }) sessionID

def marked (active : ActiveSong) : Server :=
  { s with db := s.db.setStatus active.id .Stopped }

theorem playingUpdate_apply (sessionID songID : Int) :
    playingUpdate sessionID songID s = match s.nextSong with
      | none => .error .nullPointer s
      | some song =>
        if songID = song.id then
          if s.accepts (selectionDelay song) then announce (s.playbackUpdated song)
          else .error .illegalArgument s.cancelSongTimerTask.renewed
        else match s.activeSong with
          | none => .ok () s
          | some active =>
            if songID = active.id then .ok () s
            else .ok () (s.corrected active sessionID songID) := by
  rw [playingUpdate, bind_apply, get_apply]
  cases next : s.nextSong with
  | none => simp only [next, throw_apply]
  | some song =>
    simp only [next]
    by_cases expected : songID = song.id
    · rw [if_pos expected, if_pos expected, bind_apply, updatePlayback_apply, next]
      by_cases accepted : s.accepts (selectionDelay song)
      · simp only [accepted, if_true]
      · simp only [accepted, if_false]
    · rw [if_neg expected, if_neg expected, bind_apply, get_apply]
      cases active : s.activeSong with
      | none => simp only [active, pure_apply]
      | some a =>
        simp only [active]
        by_cases current : songID = a.id
        · rw [if_neg (not_not.mpr current), if_pos current, pure_apply]
        · rw [if_pos current, if_neg current, bind_apply, getActiveSong_apply, active]
          rw [corrected, ← positioned_toSong s a]
          simp only [bind_apply, modify_apply]

theorem stoppedUpdate_apply (sessionID : Int) :
    stoppedUpdate sessionID s = match s.activeSong with
      | none => .error .nullPointer s
      | some active => match s.nextSong with
        | some _ => .ok () (s.marked active)
        | none => match (s.marked active).candidate with
          | none => .error .noSuchElement (s.marked active)
          | some song => .ok () (((s.marked active).selected song).sendUpdate
            (.upcoming_song song) sessionID) := by
  cases active : s.activeSong with
  | none => simp [stoppedUpdate, active]
  | some a =>
    rw [stoppedUpdate, bind_apply, get_apply]
    simp only [active]
    rw [bind_apply, modify_apply]
    change (match EStateM.Result.ok (s.marked a) (s.marked a) with
      | .ok t u => (if t.nextSong.isNone then _ else _ : ServerM Unit) u
      | .error e u => EStateM.Result.error e u) = _
    have same : (s.marked a).nextSong = s.nextSong := rfl
    cases next : s.nextSong with
    | some song => simp [same, next]
    | none => cases choice : (s.marked a).candidate <;>
        simp [getNextSong_apply, choice, same, next]

theorem readyUpdate_apply (sessionID songID : Int) :
    readyUpdate sessionID songID s = match s.nextSong with
      | none => .error .nullPointer s
      | some song => .ok () (s.sendUpdate
        (if songID = song.id then .playback_command { command := .Play, id := song.id }
         else .upcoming_song song) sessionID) := by
  cases next : s.nextSong with
  | none => simp [readyUpdate, next]
  | some song => by_cases expected : songID = song.id <;> simp [readyUpdate, next, expected]

theorem speakerStatusUpdate_apply (sessionID : Int) (update : Option StatusUpdateMessage) :
    speakerStatusUpdate sessionID update s =
      if sessionID < 0 then .error .illegalArgument s
      else match update with
        | none => .error .illegalArgument s
        | some ⟨_, none⟩ => .error .nullPointer s
        | some ⟨songID, some .Playing⟩ => playingUpdate sessionID songID s
        | some ⟨_, some .Stopped⟩ => stoppedUpdate sessionID s
        | some ⟨songID, some .Ready⟩ => readyUpdate sessionID songID s
        | some ⟨_, some .Paused⟩ => .ok () s := by
  unfold speakerStatusUpdate
  by_cases negative : sessionID < 0
  · rw [if_pos negative, if_pos negative]
    rfl
  · rw [if_neg negative, if_neg negative]
    rcases update with _ | ⟨songID, _ | status⟩
    · rfl
    · rfl
    · cases status <;> rfl

theorem newSpeakerAuthenticated_apply (sessionID : Int) :
    newSpeakerAuthenticated sessionID s = match getActiveSong s with
      | .ok active t => .ok () (t.sendUpdate (.upcoming_song active.toSong) sessionID)
      | .error .noSuchElement t => scheduleNextSong t
      | .error e t => .error e t := by
  rw [newSpeakerAuthenticated, tryCatch_apply, bind_apply]
  generalize getActiveSong s = found
  cases found with
  | ok active t => rfl
  | error e t => cases e <;> rfl

end SpeakerActions

section TimerTasks
variable (s : Server)

theorem runTask_scheduleNextSong :
    runTask .scheduleNextSong s = match scheduleNextSong s with
      | .ok _ t =>
        if t.accepts 5 then
          .ok () (t.renewed.scheduled { id := t.tasksCreated, action := .rebroadcastNextSong })
        else .error .illegalArgument t.renewed
      | .error e t => .error e t := by
  rw [runTask, bind_apply]
  generalize scheduleNextSong s = chosen
  cases chosen with
  | error e t => rfl
  | ok a t =>
    simp only [bind_apply, newSongTimerTask_apply, schedule_apply]
    rfl

theorem runTask_rebroadcastNextSong :
    runTask .rebroadcastNextSong s = match getNextSong s with
      | .ok song t => .ok () (t.broadcastUpdate (.upcoming_song song) .Speaker)
      | .error e t => .error e t := by
  rw [runTask, bind_apply]
  generalize getNextSong s = chosen
  cases chosen <;> rfl

theorem runTask_stopActiveSong :
    runTask .stopActiveSong s = match getActiveSong s with
      | .ok active t => .ok () (t.broadcastUpdate
        (.playback_command { command := .Stop, id := active.id }) .Speaker)
      | .error e t => .error e t := by
  rw [runTask, bind_apply]
  generalize getActiveSong s = found
  cases found <;> rfl

end TimerTasks

end Server
end MusicCloud
