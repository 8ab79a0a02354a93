import MusicCloud.SpeakerDownloads

/-!
Operations of the speaker that raise. The handlers are taken write by write here,
so that an exception leaves what was written before it. `playback_func` catches
every exception and goes on; `communicate_func` catches none outside of its
wait for a message, so that the communication thread ends with it.
-/
namespace MusicCloud
open Runs

inductive PythonException where
  | pygameError
  | connectionError
  | ioError
  deriving DecidableEq, Repr

abbrev SpeakerM := EStateM PythonException Speaker

namespace Speaker

def attempt (returns : Bool) (exception : PythonException) : SpeakerM Unit :=
  if returns then pure () else throw exception

theorem attempt_bind (returns : Bool) (exception : PythonException) (next : Unit → SpeakerM Unit)
    (s : Speaker) : (attempt returns exception >>= next) s =
      if returns then next () s else .error exception s := by
  cases returns <;> rfl

theorem modify_bind (f : Speaker → Speaker) (next : Unit → SpeakerM Unit) (s : Speaker) :
    ((modify f : SpeakerM Unit) >>= next) s = next () (f s) := rfl

theorem get_bind (next : Speaker → SpeakerM Unit) (s : Speaker) :
    (get >>= next) s = next s s := rfl

section Play

/-- `handle_play_command`. `loads` and `plays` say whether `pygame.mixer.music.load`
    and `pygame.mixer.music.play` return. -/
def playCommand (songID : Int) (loads plays : Bool) : SpeakerM Unit := do
  let s ← get
  if songID = s.currentSong then
    pure ()
  else if songID = s.nextSong ∧ s.currentSongState ≠ .PLAYING ∧ s.nextSongState = .READY then
    modify started
    attempt loads .pygameError
    -- music that has been loaded ends the music before it
    modify endMusic
    attempt plays .pygameError
    modify fun s => { s with music := some s.playbacks }
    modify fun s => s.message s.currentSong .Playing
  else if songID = s.nextSong ∧ s.nextSongState = .UNKNOWN then
    modify fun s => s.message songID .need_song

/-- The speaker that a handler leaves, with an exception or without: the loop of
    `playback_func` logs the exception and goes on. -/
def left (handler : SpeakerM Unit) (s : Speaker) : Speaker :=
  match handler s with
  | .ok _ t => t
  | .error _ t => t

structure SameSongs (s t : Speaker) : Prop where
  currentSong : t.currentSong = s.currentSong
  currentSongState : t.currentSongState = s.currentSongState
  nextSong : t.nextSong = s.nextSong
  nextSongState : t.nextSongState = s.nextSongState
  playbackConnectionQueue : t.playbackConnectionQueue = s.playbackConnectionQueue

/-- The speaker is PLAYING without the music of the song, and nothing was reported. -/
structure PlaysSilence (s t : Speaker) : Prop where
  playing : t.currentSongState = .PLAYING
  silent : t.music ≠ some t.playbacks
  unreported : t.playbackConnectionQueue = s.playbackConnectionQueue

def FailsUnchanged (s : Speaker) (songID : Int) (loads plays : Bool) : Prop :=
  ∀ e t, playCommand songID loads plays s = .error e t → s.SameSongs t ∧ ¬ s.PlaysSilence t

variable {s : Speaker}

theorem playCommand_starts {songID : Int} (starts : s.Starts songID) (loads plays : Bool) :
    playCommand songID loads plays s =
      if loads then
        if plays then .ok () (s.started.playMusic.message songID .Playing)
        else .error .pygameError s.started.endMusic
      else .error .pygameError s.started := by
  obtain ⟨other, next, ready⟩ := starts
  have command : playCommand songID loads plays s = (do
      modify started
      attempt loads .pygameError
      modify endMusic
      attempt plays .pygameError
      modify fun s => { s with music := some s.playbacks }
      modify fun s => s.message s.currentSong .Playing : SpeakerM Unit) s := by
    change (if _ then _ else _ : SpeakerM Unit) s = _
    rw [if_neg other, if_pos ⟨next, ready⟩]
  rw [command, next]
  cases loads <;> cases plays <;> rfl

theorem playCommand_other {songID : Int} (other : ¬ s.Starts songID) (loads plays readable : Bool) :
    playCommand songID loads plays s = .ok () (s.handlePlayCommand songID readable) := by
  change (if _ then _ else _ : SpeakerM Unit) s = _
  unfold handlePlayCommand
  by_cases current : songID = s.currentSong
  · rw [if_pos current, if_pos current]
    rfl
  · have waits : ¬ (songID = s.nextSong ∧ s.currentSongState ≠ .PLAYING ∧ s.nextSongState = .READY) := by
      intro next
      exact other ⟨current, next⟩
    rw [if_neg current, if_neg current, if_neg waits, if_neg waits]
    split <;> rfl

/-- The handler as one step of the playback thread, when `play` returns. -/
theorem left_playCommand (songID : Int) (loads : Bool) :
    left (playCommand songID (s.canLoad songID loads) true) s =
      s.handlePlayCommand songID loads := by
  unfold left
  by_cases starts : s.Starts songID
  · have step : s.handlePlayCommand songID loads =
        if s.canLoad songID loads then s.started.playMusic.message songID .Playing
        else s.started := by
      unfold handlePlayCommand
      rw [if_neg starts.1, if_pos starts.2]
    rw [playCommand_starts starts, step]
    cases s.canLoad songID loads <;> rfl
  · rw [playCommand_other starts _ _ loads]

theorem playCommand_fails {songID : Int} (starts : s.Starts songID) {loads plays : Bool}
    (fails : ¬ (loads ∧ plays)) :
    ∃ t, playCommand songID loads plays s = .error .pygameError t ∧ t.currentSong = songID ∧
      (s.music ≠ some (s.playbacks + 1) → s.PlaysSilence t) := by
  have command := playCommand_starts starts loads plays
  have current := starts.2.1.symm
  cases loads with
  | false => exact ⟨s.started, command, current, fun other => ⟨rfl, other, rfl⟩⟩
  | true =>
    cases plays with
    | false => exact ⟨s.started.endMusic, command, current, fun _ => ⟨rfl, nofun, rfl⟩⟩
    | true => exact absurd ⟨rfl, rfl⟩ fails

end Play

section Download

/-- Which operations of one iteration of `communicate_func` return, and the status
    of the response to a song request. -/
structure Exchange where
  sends : Bool
  status : Nat
  reads : Bool
  opens : Bool
  writes : Bool
  announces : Bool
  deriving DecidableEq, Repr

def handleNeedSong (songID : Int) (x : Exchange) : SpeakerM Unit := do
  modify fun s => { s with nextSongState := .DOWNLOADING }
  attempt x.sends .connectionError
  if x.status = 200 then
    attempt x.reads .connectionError
    attempt x.opens .ioError
    modify fun s => { s with files := Function.update s.files songID .writing }
    attempt x.writes .ioError
    modify fun s => { s with files := Function.update s.files songID .complete }
    modify fun s => { s with nextSongState := .READY }
    if (← get).currentSongState ≠ .PLAYING then
      attempt x.announces .connectionError
  else
    modify fun s => { s with nextSongState := .UNKNOWN }

def statusUpdate (entry : Entry) (x : Exchange) : SpeakerM Unit := do
  attempt x.sends .connectionError
  let s ← get
  if (s.content entry).status = .Stopped ∧ s.nextSong ≠ MusicCloud.UNKNOWN then
    if s.nextSongState = .READY then
      modify (setContent entry { id := s.nextSong, status := .Ready })
      attempt x.announces .connectionError
    else if s.nextSongState = .UNKNOWN then
      let message : Message := { id := s.nextSong, status := .need_song }
      modify fun s => (s.setContent entry message).put (rewritten entry message)

def iteration (x : Exchange) : SpeakerM Unit := do
  let s ← get
  match s.playbackConnectionQueue with
  | [] => pure ()
  | entry :: rest =>
    set { s with playbackConnectionQueue := rest }
    if (s.content entry).status = .need_song then handleNeedSong (s.content entry).id x
    else statusUpdate entry x

def communicateFunc : List Exchange → SpeakerM Unit
  | [] => pure ()
  | x :: xs => do
    iteration x
    communicateFunc xs

/-- No operation raises. A Ready message is only sent while no song is playing. -/
def Completes (s : Speaker) (x : Exchange) : Prop :=
  x.sends ∧ (x.status = 200 →
    x.reads ∧ x.opens ∧ x.writes ∧ (s.currentSongState ≠ .PLAYING → x.announces))

/-- The song that the first message asks for is not left DOWNLOADING, and the
    messages behind it are processed. -/
structure SurvivesDownload (s : Speaker) (entry : Entry) (rest : List Entry) (x : Exchange) : Prop where
  settled : (left (handleNeedSong (s.content entry).id x)
    { s with playbackConnectionQueue := rest }).nextSongState ≠ .DOWNLOADING
  continues : ∀ xs, communicateFunc (x :: xs) s =
    communicateFunc xs (left (handleNeedSong (s.content entry).id x)
      { s with playbackConnectionQueue := rest })

variable {s : Speaker} {x : Exchange}

theorem attempt_when (wanted : Prop) [Decidable wanted] (returns : Bool)
    (exception : PythonException) (s : Speaker) :
    (if wanted then attempt returns exception else pure () : SpeakerM Unit) s =
      if wanted ∧ ¬ returns then .error exception s else .ok () s := by
  by_cases case : wanted
  · cases returns <;> simp only [case] <;> rfl
  · simp only [case, false_and]
    rfl

theorem handleNeedSong_run (songID : Int) (x : Exchange) (s : Speaker) :
    handleNeedSong songID x s =
      if x.sends then
        if x.status = 200 then
          if x.reads then
            if x.opens then
              if x.writes then
                if s.currentSongState ≠ .PLAYING ∧ ¬ x.announces then
                  .error .connectionError { s with
                    files := Function.update s.files songID .complete, nextSongState := .READY }
                else
                  .ok () { s with
                    files := Function.update s.files songID .complete, nextSongState := .READY }
              else
                .error .ioError { s with
                  files := Function.update s.files songID .writing, nextSongState := .DOWNLOADING }
            else .error .ioError { s with nextSongState := .DOWNLOADING }
          else .error .connectionError { s with nextSongState := .DOWNLOADING }
        else .ok () { s with nextSongState := .UNKNOWN }
      else .error .connectionError { s with nextSongState := .DOWNLOADING } := by
  unfold handleNeedSong
  simp only [modify_bind, attempt_bind]
  split
  · split
    · simp only [modify_bind, attempt_bind, get_bind, Function.update_idem]
      split
      · split
        · split
          · exact attempt_when _ _ _ _
          · rfl
        · rfl
      · rfl
    · rfl
  · rfl

theorem handleNeedSong_completes (completes : s.Completes x) (songID : Int) :
    handleNeedSong songID x s = .ok () (if x.status = 200 then
      { s with files := Function.update s.files songID .complete, nextSongState := .READY }
      else { s with nextSongState := .UNKNOWN }) := by
  obtain ⟨sends, exchange⟩ := completes
  rw [handleNeedSong_run, if_pos sends]
  by_cases found : x.status = 200
  · obtain ⟨reads, opens, writes, announces⟩ := exchange found
    have sent : ¬ (s.currentSongState ≠ .PLAYING ∧ ¬ x.announces) := by
      rintro ⟨stopped, refused⟩
      exact refused (announces stopped)
    rw [if_pos found, if_pos found, if_pos reads, if_pos opens, if_pos writes, if_neg sent]
  · rw [if_neg found, if_neg found]

theorem handleNeedSong_raises (raises : ¬ s.Completes x) (songID : Int) :
    ∃ e t, handleNeedSong songID x s = .error e t := by
  rw [handleNeedSong_run]
  by_cases sends : x.sends
  · rw [if_pos sends]
    by_cases found : x.status = 200
    · rw [if_pos found]
      split
      · split
        · split
          · rename_i reads opens writes
            have refused : s.currentSongState ≠ .PLAYING ∧ ¬ x.announces := by
              by_contra sent
              apply raises
              refine ⟨sends, fun _ => ⟨reads, opens, writes, fun stopped => ?_⟩⟩
              by_contra announces
              exact sent ⟨stopped, announces⟩
            rw [if_pos refused]
            exact ⟨_, _, rfl⟩
          · exact ⟨_, _, rfl⟩
        · exact ⟨_, _, rfl⟩
      · exact ⟨_, _, rfl⟩
    · exact absurd ⟨sends, fun ok => absurd ok found⟩ raises
  · rw [if_neg sends]
    exact ⟨_, _, rfl⟩

theorem communicateFunc_needSong {entry : Entry} {rest : List Entry}
    (next : s.playbackConnectionQueue = entry :: rest)
    (needs : (s.content entry).status = .need_song) (xs : List Exchange) :
    communicateFunc (x :: xs) s =
      (handleNeedSong (s.content entry).id x >>= fun _ => communicateFunc xs)
        { s with playbackConnectionQueue := rest } := by
  have picked : iteration x s = handleNeedSong (s.content entry).id x
      { s with playbackConnectionQueue := rest } := by
    unfold iteration
    rw [get_bind, next]
    dsimp only
    rw [if_pos needs]
    rfl
  simp only [communicateFunc, bind, EStateM.bind, picked]

def Communicates (ok : Bool) (s t : Speaker) : Prop :=
  ∃ n, run step s (List.replicate n (.communicates ok)) = t

theorem Communicates.step {ok : Bool} {t : Speaker} (rest : Communicates ok (s.communicate ok) t) :
    Communicates ok s t := by
  obtain ⟨n, reached⟩ := rest
  exact ⟨n + 1, reached⟩

theorem handleNeedSong_communicates {songID : Int} {t : Speaker} (idle : s.comm = .idle)
    (ran : handleNeedSong songID x s = .ok () t) :
    Communicates (x.status = 200) { s with comm := .marking songID } t := by
  have completes : s.Completes x := by
    by_contra raises
    obtain ⟨e, u, raised⟩ := handleNeedSong_raises raises songID
    rw [raised] at ran
    cases ran
  rw [handleNeedSong_completes completes] at ran
  cases ran
  by_cases found : x.status = 200
  · rw [if_pos found]
    by_cases playing : s.currentSongState = .PLAYING
    · refine ⟨6, ?_⟩
      simp [List.replicate, Speaker.step, communicate, found, playing, idle]
    · refine ⟨7, ?_⟩
      simp [List.replicate, Speaker.step, communicate, found, playing, idle]
  · rw [if_neg found]
    refine ⟨3, ?_⟩
    simp [List.replicate, Speaker.step, communicate, found, idle]

theorem resending_communicates {ok : Bool} (idle : s.comm = .idle) (entry : Entry) :
    Communicates ok { s with comm := .renewing entry true }
      (s.setContent entry { id := s.nextSong, status := .Ready }) := by
  refine ⟨3, ?_⟩
  cases entry <;>
    simp [List.replicate, run_cons, run_nil, Speaker.step, communicate, setContent, setComm, renewed, ← idle]

theorem requeueing_communicates {ok : Bool} (idle : s.comm = .idle) (entry : Entry) :
    Communicates ok { s with comm := .renewing entry false }
      ((s.setContent entry { id := s.nextSong, status := .need_song }).put
        (rewritten entry { id := s.nextSong, status := .need_song })) := by
  refine ⟨3, ?_⟩
  cases entry <;>
    simp [List.replicate, run_cons, run_nil, Speaker.step, communicate, setContent, setComm, renewed,
      put, ← idle]

theorem sent_communicates {ok : Bool} (idle : s.comm = .idle) (entry : Entry)
    (rests : ¬ ((s.content entry).status = .Stopped ∧ s.nextSong ≠ MusicCloud.UNKNOWN)) :
    Communicates ok { s with comm := .sent entry } s := by
  have content : Speaker.content { s with comm := .sent entry } = s.content := content_of_same rfl
  apply Communicates.step
  rw [communicate_sent ok rfl, content]
  by_cases stopped : (s.content entry).status = .Stopped
  · have none : ¬ s.nextSong ≠ MusicCloud.UNKNOWN := fun some => rests ⟨stopped, some⟩
    rw [if_pos stopped]
    refine ⟨1, ?_⟩
    simp only [List.replicate, run_cons, run_nil, Speaker.step, communicate, if_neg none, ← idle]
  · rw [if_neg stopped]
    exact ⟨0, by rw [← idle]; rfl⟩

theorem statusUpdate_communicates {entry : Entry} {t : Speaker} (idle : s.comm = .idle)
    (ran : statusUpdate entry x s = .ok () t) :
    Communicates (x.status = 200) { s with comm := .sending entry } t := by
  unfold statusUpdate at ran
  rw [attempt_bind] at ran
  cases sends : x.sends with
  | false =>
    rw [sends] at ran
    cases ran
  | true =>
    rw [sends, if_pos rfl, get_bind] at ran
    apply Communicates.step
    rw [communicate_sending _ rfl]
    by_cases ends : (s.content entry).status = .Stopped ∧ s.nextSong ≠ MusicCloud.UNKNOWN
    · rw [if_pos ends] at ran
      have content : Speaker.content { s with comm := .sent entry } = s.content := content_of_same rfl
      apply Communicates.step
      rw [communicate_sent _ rfl, content, if_pos ends.1]
      apply Communicates.step
      rw [communicate_checkingNext _ rfl, if_pos ends.2]
      apply Communicates.step
      rw [communicate_checkingReady _ rfl]
      by_cases ready : s.nextSongState = .READY
      · rw [if_pos ready, modify_bind] at ran
        cases announces : x.announces with
        | false =>
          rw [announces] at ran
          cases ran
        | true =>
          rw [announces] at ran
          cases ran
          rw [if_pos ready]
          exact resending_communicates idle entry
      · rw [if_neg ready] at ran ⊢
        apply Communicates.step
        rw [communicate_checkingUnknown _ rfl]
        by_cases unknown : s.nextSongState = .UNKNOWN
        · rw [if_pos unknown] at ran
          cases ran
          rw [if_pos unknown]
          exact requeueing_communicates idle entry
        · rw [if_neg unknown] at ran
          cases ran
          rw [if_neg unknown]
          exact ⟨0, by rw [← idle]; rfl⟩
    · rw [if_neg ends] at ran
      cases ran
      exact sent_communicates idle entry ends

/-- An iteration in which nothing raises is what the small steps of the communication
    thread do while the playback thread rests. -/
theorem iteration_communicates {t : Speaker} (idle : s.comm = .idle)
    (ran : iteration x s = .ok () t) : Communicates (x.status = 200) s t := by
  unfold iteration at ran
  rw [get_bind] at ran
  cases queue : s.playbackConnectionQueue with
  | nil =>
    rw [queue] at ran
    cases ran
    exact ⟨0, rfl⟩
  | cons entry rest =>
    rw [queue] at ran
    apply Communicates.step
    by_cases needs : (s.content entry).status = .need_song
    · have picked : s.communicate (x.status = 200) = { s with
          playbackConnectionQueue := rest, comm := .marking (s.content entry).id } := by
        simp [communicate, idle, queue, needs]
      rw [picked]
      dsimp only at ran
      rw [if_pos needs] at ran
      exact handleNeedSong_communicates (s := { s with playbackConnectionQueue := rest }) idle ran
    · have picked : s.communicate (x.status = 200) = { s with
          playbackConnectionQueue := rest, comm := .sending entry } := by
        simp [communicate, idle, queue, needs]
      rw [picked]
      dsimp only at ran
      rw [if_neg needs] at ran
      exact statusUpdate_communicates (s := { s with playbackConnectionQueue := rest }) idle ran

end Download

end Speaker

/-- No start that fails leaves the speaker unchanged: the song is written down as
    PLAYING before pygame loads it. -/
theorem failed_start_unchanged_iff (s : Speaker) (songID : Int) (loads plays : Bool) :
    s.FailsUnchanged songID loads plays ↔ ¬ (s.Starts songID ∧ ¬ (loads ∧ plays)) := by
  constructor
  · rintro unchanged ⟨starts, fails⟩
    obtain ⟨t, command, current, _⟩ := Speaker.playCommand_fails starts fails
    have same := (unchanged _ _ command).1.currentSong
    exact starts.1 (current.symm.trans same)
  · intro works e t command
    exfalso
    by_cases starts : s.Starts songID
    · have both : loads ∧ plays := by
        by_contra fails
        exact works ⟨starts, fails⟩
      rw [Speaker.playCommand_starts starts, if_pos both.1, if_pos both.2] at command
      cases command
    · rw [Speaker.playCommand_other starts _ _ loads] at command
      cases command

def truncated : Speaker := run Speaker.step (.start fun _ => .writing) [upcoming 1]

theorem failed_start_left_playing :
    ¬ ∀ (s : Speaker) (songID : Int) (loads plays : Bool), s.FailsUnchanged songID loads plays := by
  intro always
  have unchanged := always truncated 1 false true .pygameError truncated.started rfl
  exact absurd unchanged.1.currentSong (by decide)

/-- A download is survivable exactly when no operation of the exchange raises: an
    exception leaves the song DOWNLOADING, or at least ends the communication thread. -/
theorem failed_download_survived_iff (s : Speaker) (x : Speaker.Exchange) {entry : Entry}
    {rest : List Entry} (next : s.playbackConnectionQueue = entry :: rest)
    (needs : (s.content entry).status = .need_song) :
    s.SurvivesDownload entry rest x ↔ s.Completes x := by
  have run := Speaker.communicateFunc_needSong (x := x) next needs
  constructor
  · intro survives
    by_contra raises
    obtain ⟨e, t, ended⟩ := Speaker.handleNeedSong_raises
      (s := { s with playbackConnectionQueue := rest }) raises (s.content entry).id
    have on := survives.continues []
    rw [run [], Speaker.left] at on
    simp only [bind, EStateM.bind, ended] at on
    cases on
  · intro completes
    have handled := Speaker.handleNeedSong_completes
      (s := { s with playbackConnectionQueue := rest }) completes (s.content entry).id
    constructor
    · rw [Speaker.left, handled]
      dsimp only
      split <;> simp
    · intro xs
      rw [run xs, Speaker.left]
      simp only [bind, EStateM.bind, handled]

def asked : Speaker := run Speaker.step (.start fun _ => .missing) [upcoming 1]

theorem refused_download_survived :
    asked.SurvivesDownload (.own { id := 1, status := .need_song }) []
      { sends := true, status := 404, reads := true, opens := true, writes := true, announces := true } :=
  (failed_download_survived_iff asked _ rfl rfl).mpr ⟨rfl, nofun⟩

/-- The server does not answer in time. -/
theorem unanswered_download_not_survived :
    ¬ ∀ (s : Speaker) (x : Speaker.Exchange) (entry : Entry) (rest : List Entry),
      s.playbackConnectionQueue = entry :: rest → (s.content entry).status = .need_song →
        s.SurvivesDownload entry rest x := by
  intro always
  have survives := always asked
    { sends := false, status := 200, reads := true, opens := true, writes := true, announces := true }
    (.own { id := 1, status := .need_song }) [] rfl rfl
  exact absurd rfl survives.settled

end MusicCloud
