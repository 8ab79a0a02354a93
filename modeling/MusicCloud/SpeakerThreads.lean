import MusicCloud.SpeakerDownloads

/-!
The playback thread and the communication thread of the speaker, one access at a
time: a step takes a message from the queue or puts one there, reads or writes one
of the variables, one entry of a dictionary or one file, or makes one request. What
only the playback thread writes (`current_song`, its state and `next_song`), that
thread reads along with the access before or after it. The music itself is left to
pygame: a poll finds a song end at any time. Threads that are not interrupted do what
`Speaker` does.
-/
namespace MusicCloud
open Runs

inductive PlaybackStage where
  | waiting
  | checkingReady (songID : Int)
  | checkingUnknown (songID : Int)
  | adopting
  | turning
  | forgetting
  | resetting
  | loading
  | reporting
  | asking (songID : Int)
  | silencing
  | reportingStop
  | selecting (songID : Int)
  | clearing (songID : Int)
  | checkingFetch (songID : Int)
  | searching (songID : Int)
  | finding (songID : Int)
  | announcing (songID : Int)
  | ending
  | identifying
  | stating
  | putting
  deriving DecidableEq, Repr

inductive CommStage where
  | idle
  | taken (entry : Entry)
  | asked (entry : Entry)
  | marking (songID : Int)
  | requesting (songID : Int)
  | opening (songID : Int)
  | writing (songID : Int)
  | saved (songID : Int)
  | failed
  | testing (songID : Int)
  | announcing (songID : Int)
  | sending (entry : Entry)
  | sent (entry : Entry)
  | checkingNext (entry : Entry)
  | checkingReady (entry : Entry)
  | checkingUnknown (entry : Entry)
  | renewing (entry : Entry) (ready : Bool)
  | identifying (entry : Entry) (ready : Bool) (songID : Int)
  | stating (entry : Entry) (ready : Bool)
  | resending (entry : Entry)
  | putting (entry : Entry)
  deriving DecidableEq, Repr

structure SpeakerThreads where
  currentSong : Int
  currentSongState : SongState
  nextSong : Int
  nextSongState : SongState
  playbackConnectionQueue : List Entry
  songEnd : Message
  files : Int → SongFile
  playback : PlaybackStage
  comm : CommStage

inductive ThreadEvent where
  | handles (update : SessionUpdate)
  | polls (found : Bool)
  | plays (loads : Bool)
  | communicates (ok : Bool)

namespace SpeakerThreads

def start (files : Int → SongFile) : SpeakerThreads :=
  { currentSong := UNKNOWN, currentSongState := .UNKNOWN, nextSong := UNKNOWN
    nextSongState := .UNKNOWN, playbackConnectionQueue := []
    songEnd := { id := UNKNOWN, status := .Stopped }, files := files, playback := .waiting
    comm := .idle }

def put (entry : Entry) (t : SpeakerThreads) : SpeakerThreads :=
  { t with playbackConnectionQueue := t.playbackConnectionQueue ++ [entry] }

def message (songID : Int) (status : MessageStatus) (t : SpeakerThreads) : SpeakerThreads :=
  t.put (.own { id := songID, status := status })

def content (t : SpeakerThreads) : Entry → Message
  | .own message => message
  | .songEnd => t.songEnd

def goto (t : SpeakerThreads) (stage : PlaybackStage) : SpeakerThreads := { t with playback := stage }

section Playback

/-- The handler of an update, up to its first access. -/
def handle (update : SessionUpdate) (t : SpeakerThreads) : PlaybackStage :=
  match update with
  | .playback_command { command := .Play, id := songID } =>
    if songID = t.currentSong ∨ songID ≠ t.nextSong then .waiting
    else if t.currentSongState ≠ .PLAYING then .checkingReady songID
    else .checkingUnknown songID
  | .playback_command { command := .Stop, id := songID } =>
    if songID = t.currentSong ∧ t.currentSongState = .PLAYING then .silencing else .waiting
  | .upcoming_song song =>
    if song.id = t.currentSong then .waiting
    else if song.id ≠ t.nextSong then .selecting song.id
    else if t.nextSong ≠ UNKNOWN then .checkingFetch song.id
    else .waiting
  | _ => .waiting

def poll (found : Bool) (t : SpeakerThreads) : PlaybackStage :=
  if t.currentSongState = .PLAYING ∧ found then .ending else .waiting

/-- The next access of the playback thread. `loads` says that pygame loads a file
    that is not completely written. -/
def playbackFunc (loads : Bool) (t : SpeakerThreads) : SpeakerThreads :=
  match t.playback with
  | .waiting => t
  | .checkingReady songID =>
    t.goto (if t.nextSongState = .READY then .adopting else .checkingUnknown songID)
  | .checkingUnknown songID =>
    t.goto (if t.nextSongState = .UNKNOWN then .asking songID else .waiting)
  | .adopting => { t with currentSong := t.nextSong, playback := .turning }
  | .turning => { t with currentSongState := .PLAYING, playback := .forgetting }
  | .forgetting => { t with nextSong := UNKNOWN, playback := .resetting }
  | .resetting => { t with nextSongState := .UNKNOWN, playback := .loading }
  | .loading =>
    t.goto <| match t.files t.currentSong with
      | .missing => .waiting
      | .writing => if loads then .reporting else .waiting
      | .complete => .reporting
  | .reporting => (t.message t.currentSong .Playing).goto .waiting
  | .asking songID => (t.message songID .need_song).goto .waiting
  | .silencing => { t with currentSongState := .STOPPED, playback := .reportingStop }
  | .reportingStop => (t.message t.currentSong .Stopped).goto .waiting
  | .selecting songID => { t with nextSong := songID, playback := .clearing songID }
  | .clearing songID => { t with nextSongState := .UNKNOWN, playback := .searching songID }
  | .checkingFetch songID =>
    t.goto (if t.nextSongState = .UNKNOWN then .searching songID else .waiting)
  | .searching songID =>
    t.goto (if t.files songID ≠ .missing then .finding songID else .asking songID)
  | .finding songID =>
    let t := { t with nextSongState := .READY }
    t.goto (if t.currentSongState ≠ .PLAYING then .announcing songID else .waiting)
  | .announcing songID => (t.message songID .Ready).goto .waiting
  | .ending => { t with currentSongState := .STOPPED, playback := .identifying }
  | .identifying => { t with songEnd := { t.songEnd with id := t.currentSong }, playback := .stating }
  | .stating => { t with songEnd := { t.songEnd with status := .Stopped }, playback := .putting }
  | .putting => (t.put .songEnd).goto .waiting

end Playback

section Communication

/-- Changes one entry of a dictionary. -/
def change (f : Message → Message) (entry : Entry) (t : SpeakerThreads) : Entry × SpeakerThreads :=
  match entry with
  | .own message => (.own (f message), t)
  | .songEnd => (.songEnd, { t with songEnd := f t.songEnd })

def renewedStatus (ready : Bool) : MessageStatus := if ready then .Ready else .need_song

/-- The next access of the communication thread, `handle_need_song` included. `ok`
    says that the server answers a song request with the song. -/
def communicateFunc (ok : Bool) (t : SpeakerThreads) : SpeakerThreads :=
  match t.comm with
  | .idle =>
    match t.playbackConnectionQueue with
    | [] => t
    | entry :: rest => { t with playbackConnectionQueue := rest, comm := .taken entry }
  | .taken entry =>
    { t with comm := if (t.content entry).status = .need_song then .asked entry else .sending entry }
  | .asked entry => { t with comm := .marking (t.content entry).id }
  | .marking songID => { t with nextSongState := .DOWNLOADING, comm := .requesting songID }
  | .requesting songID => { t with comm := if ok then .opening songID else .failed }
  | .opening songID =>
    { t with files := Function.update t.files songID .writing, comm := .writing songID }
  | .writing songID =>
    { t with files := Function.update t.files songID .complete, comm := .saved songID }
  | .saved songID => { t with nextSongState := .READY, comm := .testing songID }
  | .failed => { t with nextSongState := .UNKNOWN, comm := .idle }
  | .testing songID =>
    { t with comm := if t.currentSongState ≠ .PLAYING then .announcing songID else .idle }
  | .announcing _ => { t with comm := .idle }
  | .sending entry => { t with comm := .sent entry }
  | .sent entry =>
    { t with comm := if (t.content entry).status = .Stopped then .checkingNext entry else .idle }
  | .checkingNext entry =>
    { t with comm := if t.nextSong ≠ UNKNOWN then .checkingReady entry else .idle }
  | .checkingReady entry =>
    { t with comm := if t.nextSongState = .READY then .renewing entry true
        else .checkingUnknown entry }
  | .checkingUnknown entry =>
    { t with comm := if t.nextSongState = .UNKNOWN then .renewing entry false else .idle }
  | .renewing entry ready => { t with comm := .identifying entry ready t.nextSong }
  | .identifying entry ready songID =>
    let (entry, t) := t.change (fun message => { message with id := songID }) entry
    { t with comm := .stating entry ready }
  | .stating entry ready =>
    let (entry, t) := t.change (fun message => { message with status := renewedStatus ready }) entry
    { t with comm := if ready then .resending entry else .putting entry }
  | .resending _ => { t with comm := .idle }
  | .putting entry => { t.put entry with comm := .idle }

end Communication

/-- An update is handled, and an event polled, when the handler before has ended. -/
def step (t : SpeakerThreads) : ThreadEvent → SpeakerThreads
  | .handles update => if t.playback = .waiting then t.goto (t.handle update) else t
  | .polls found => if t.playback = .waiting then t.goto (t.poll found) else t
  | .plays loads => t.playbackFunc loads
  | .communicates ok => t.communicateFunc ok

section Uninterrupted
variable {t : SpeakerThreads} {songID : Int} (loads : Bool) (n : Nat)

theorem communicateFunc_takes (ok : Bool) {entry : Entry} {rest : List Entry} (here : t.comm = .idle)
    (queue : t.playbackConnectionQueue = entry :: rest) :
    t.communicateFunc ok = { t with playbackConnectionQueue := rest, comm := .taken entry } := by
  unfold communicateFunc
  rw [here, queue]

theorem run_waiting (waits : t.playback = .waiting) :
    run step t (List.replicate n (.plays loads)) = t := by
  induction n with
  | zero => rfl
  | succ n ih =>
    have rests : t.step (.plays loads) = t := by
      unfold step playbackFunc
      rw [waits]
    rw [List.replicate_succ, run_cons, rests]
    exact ih

theorem run_last {u : SpeakerThreads} (last : t.playbackFunc loads = u) (waits : u.playback = .waiting) :
    run step t (List.replicate (n + 1) (.plays loads)) = u := by
  rw [List.replicate_succ, run_cons]
  change run step (t.playbackFunc loads) _ = u
  rw [last]
  exact run_waiting loads n waits

theorem run_asking (here : t.playback = .asking songID) :
    run step t (List.replicate (n + 1) (.plays loads)) =
      (t.message songID .need_song).goto .waiting := by
  apply run_last
  · unfold playbackFunc
    rw [here]
  · rfl

theorem run_checkingUnknown (here : t.playback = .checkingUnknown songID) :
    run step t (List.replicate (n + 2) (.plays loads)) =
      if t.nextSongState = .UNKNOWN then (t.message songID .need_song).goto .waiting
      else t.goto .waiting := by
  rw [List.replicate_succ, run_cons]
  have checks : t.step (.plays loads) =
      t.goto (if t.nextSongState = .UNKNOWN then .asking songID else .waiting) := by
    unfold step playbackFunc
    rw [here]
  rw [checks]
  by_cases unknown : t.nextSongState = .UNKNOWN
  · rw [if_pos unknown, if_pos unknown]
    exact run_asking loads n rfl
  · rw [if_neg unknown, if_neg unknown]
    exact run_waiting loads (n + 1) rfl

theorem run_searching (here : t.playback = .searching songID) :
    run step t (List.replicate (n + 3) (.plays loads)) =
      if t.files songID ≠ .missing then
        if t.currentSongState ≠ .PLAYING then
          ({ t with nextSongState := .READY }.message songID .Ready).goto .waiting
        else { t with nextSongState := .READY }.goto .waiting
      else (t.message songID .need_song).goto .waiting := by
  rw [List.replicate_succ, run_cons]
  have searches : t.step (.plays loads) =
      t.goto (if t.files songID ≠ .missing then .finding songID else .asking songID) := by
    unfold step playbackFunc
    rw [here]
  rw [searches]
  by_cases there : t.files songID ≠ .missing
  · have finds : (t.goto (.finding songID)).step (.plays loads) =
        ({ t with nextSongState := .READY } : SpeakerThreads).goto
          (if t.currentSongState ≠ .PLAYING then .announcing songID else .waiting) := rfl
    rw [if_pos there, if_pos there, List.replicate_succ, run_cons, finds]
    by_cases silent : t.currentSongState ≠ .PLAYING
    · rw [if_pos silent, if_pos silent]
      exact run_last loads n rfl rfl
    · rw [if_neg silent, if_neg silent]
      exact run_waiting loads (n + 1) rfl
  · rw [if_neg there, if_neg there]
    exact run_asking loads (n + 1) rfl

theorem run_adopting (here : t.playback = .adopting) :
    run step t (List.replicate 6 (.plays loads)) =
      let started := ({ t with
        currentSong := t.nextSong, currentSongState := .PLAYING, nextSong := UNKNOWN
        nextSongState := .UNKNOWN } : SpeakerThreads).goto .waiting
      match t.files t.nextSong with
      | .missing => started
      | .writing => if loads then started.message t.nextSong .Playing else started
      | .complete => started.message t.nextSong .Playing := by
  have adopts : t.step (.plays loads) = { t with currentSong := t.nextSong, playback := .turning } := by
    unfold step playbackFunc
    rw [here]
  rw [List.replicate_succ, run_cons, adopts]
  change run step (({ t with
    currentSong := t.nextSong, currentSongState := .PLAYING, nextSong := UNKNOWN
    nextSongState := .UNKNOWN } : SpeakerThreads).goto (match t.files t.nextSong with
      | .missing => .waiting
      | .writing => if loads then .reporting else .waiting
      | .complete => .reporting)) (List.replicate 1 (.plays loads)) = _
  cases t.files t.nextSong with
  | missing => exact run_waiting loads 1 rfl
  | complete => exact run_last loads 0 rfl rfl
  | writing =>
    cases loads with
    | false => exact run_waiting false 1 rfl
    | true => exact run_last true 0 rfl rfl

end Uninterrupted

end SpeakerThreads

namespace Speaker

def stage : Comm → CommStage
  | .idle => .idle
  | .marking songID => .marking songID
  | .requesting songID => .requesting songID
  | .opening songID => .opening songID
  | .writing songID => .writing songID
  | .saved songID => .saved songID
  | .failed => .failed
  | .testing songID => .testing songID
  | .announcing songID => .announcing songID
  | .sending entry => .sending entry
  | .sent entry => .sent entry
  | .checkingNext entry => .checkingNext entry
  | .checkingReady entry => .checkingReady entry
  | .checkingUnknown entry => .checkingUnknown entry
  | .renewing entry ready => .renewing entry ready
  | .rewriting entry ready songID => .identifying entry ready songID
  | .resending entry songID => .resending (rewritten entry (renewed true songID))
  | .requeueing entry songID => .putting (rewritten entry (renewed false songID))

/-- The two threads of a speaker, neither of them in the middle of a step. -/
def threads (s : Speaker) : SpeakerThreads :=
  { currentSong := s.currentSong, currentSongState := s.currentSongState, nextSong := s.nextSong
    nextSongState := s.nextSongState, playbackConnectionQueue := s.playbackConnectionQueue
    songEnd := s.songEnd, files := s.files, playback := .waiting, comm := stage s.comm }

def communicateAccesses (s : Speaker) : Nat :=
  match s.comm, s.playbackConnectionQueue with
  | .idle, entry :: _ => if (s.content entry).status = .need_song then 3 else 2
  | .rewriting _ _ _, _ => 2
  | _, _ => 1

/-- The accesses that a step of the speaker stands for. -/
def accesses (s : Speaker) : SpeakerEvent → List ThreadEvent
  | .handles update loads => .handles update :: List.replicate 7 (.plays loads)
  | .polls found => .polls (found ∧ s.songEnds ≠ []) :: List.replicate 4 (.plays true)
  | .songEnds => []
  | .communicates ok => List.replicate s.communicateAccesses (.communicates ok)

variable (s : Speaker)

theorem threads_play (songID : Int) (loads : Bool) :
    run SpeakerThreads.step s.threads
        (s.accesses (.handles (.playback_command { command := .Play, id := songID }) loads)) =
      (s.handlePlayCommand songID loads).threads := by
  have handles : s.threads.step (.handles (.playback_command { command := .Play, id := songID })) =
      s.threads.goto (
        if songID = s.currentSong ∨ songID ≠ s.nextSong then .waiting
        else if s.currentSongState ≠ .PLAYING then .checkingReady songID
        else .checkingUnknown songID) := rfl
  unfold accesses handlePlayCommand
  rw [run_cons, handles]
  by_cases current : songID = s.currentSong
  · rw [if_pos (Or.inl current), if_pos current]
    exact SpeakerThreads.run_waiting loads 7 rfl
  rw [if_neg current]
  by_cases other : songID ≠ s.nextSong
  · rw [if_pos (Or.inr other), if_neg (fun both => other both.1), if_neg (fun both => other both.1)]
    exact SpeakerThreads.run_waiting loads 7 rfl
  have next : songID = s.nextSong := not_not.mp other
  rw [if_neg (not_or.mpr ⟨current, other⟩)]
  by_cases starts : s.currentSongState ≠ .PLAYING ∧ s.nextSongState = .READY
  · have checks : (s.threads.goto (.checkingReady songID)).step (.plays loads) =
        s.threads.goto .adopting := congrArg s.threads.goto (if_pos starts.2)
    rw [if_pos starts.1, if_pos ⟨next, starts⟩, List.replicate_succ, run_cons, checks,
      SpeakerThreads.run_adopting loads rfl]
    have file : (s.threads.goto .adopting).files (s.threads.goto .adopting).nextSong = s.files songID :=
      congrArg s.files next.symm
    unfold canLoad
    dsimp only
    rw [file, next]
    cases s.files s.nextSong with
    | writing => cases loads <;> rfl
    | _ => rfl
  have asks : run SpeakerThreads.step (s.threads.goto
        (if s.currentSongState ≠ .PLAYING then .checkingReady songID else .checkingUnknown songID))
        (List.replicate 7 (.plays loads)) =
      if s.nextSongState = .UNKNOWN then (s.message songID .need_song).threads else s.threads := by
    by_cases silent : s.currentSongState ≠ .PLAYING
    · have checks : (s.threads.goto (.checkingReady songID)).step (.plays loads) =
          s.threads.goto (.checkingUnknown songID) :=
        congrArg s.threads.goto (if_neg fun ready => starts ⟨silent, ready⟩)
      rw [if_pos silent, List.replicate_succ, run_cons, checks]
      exact SpeakerThreads.run_checkingUnknown loads 4 rfl
    · rw [if_neg silent]
      exact SpeakerThreads.run_checkingUnknown loads 5 rfl
  have notStarted : ¬ (songID = s.nextSong ∧ s.currentSongState ≠ .PLAYING ∧
      s.nextSongState = .READY) := fun all => starts all.2
  rw [asks, if_neg notStarted]
  by_cases unknown : s.nextSongState = .UNKNOWN
  · rw [if_pos unknown, if_pos ⟨next, unknown⟩]
  · rw [if_neg unknown, if_neg (fun both => unknown both.2)]

theorem threads_fetchSong (songID : Int) : (s.fetchSong songID).threads =
    if s.files songID ≠ .missing then
      if s.currentSongState ≠ .PLAYING then
        ({ s.threads with nextSongState := .READY }.message songID .Ready).goto .waiting
      else { s.threads with nextSongState := .READY }.goto .waiting
    else (s.threads.message songID .need_song).goto .waiting := by
  unfold fetchSong checkForSong
  by_cases there : s.files songID ≠ .missing
  · rw [if_pos (decide_eq_true there), if_pos there]
    dsimp only
    by_cases silent : s.currentSongState ≠ .PLAYING
    · rw [if_pos silent, if_pos silent]
      rfl
    · rw [if_neg silent, if_neg silent]
      rfl
  · rw [if_neg (by simpa using there), if_neg there]
    rfl

theorem threads_upcoming (song : Song) (loads : Bool) :
    run SpeakerThreads.step s.threads (s.accesses (.handles (.upcoming_song song) loads)) =
      (s.handleUpcomingSongUpdate song.id).threads := by
  have handles : s.threads.step (.handles (.upcoming_song song)) =
      s.threads.goto (
        if song.id = s.currentSong then .waiting
        else if song.id ≠ s.nextSong then .selecting song.id
        else if s.nextSong ≠ MusicCloud.UNKNOWN then .checkingFetch song.id
        else .waiting) := rfl
  unfold accesses handleUpcomingSongUpdate
  rw [run_cons, handles]
  by_cases current : song.id = s.currentSong
  · rw [if_pos current, if_pos current]
    exact SpeakerThreads.run_waiting loads 7 rfl
  rw [if_neg current, if_neg current]
  by_cases other : song.id ≠ s.nextSong
  · rw [if_pos other, if_pos other, List.replicate_succ, run_cons, List.replicate_succ, run_cons]
    exact (SpeakerThreads.run_searching loads 2 rfl).trans
      (threads_fetchSong { s with nextSong := song.id, nextSongState := .UNKNOWN } song.id).symm
  rw [if_neg other, if_neg other]
  by_cases known : s.nextSong ≠ MusicCloud.UNKNOWN
  · rw [if_pos known, List.replicate_succ, run_cons]
    by_cases unknown : s.nextSongState = .UNKNOWN
    · have checks : (s.threads.goto (.checkingFetch song.id)).step (.plays loads) =
          s.threads.goto (.searching song.id) := congrArg s.threads.goto (if_pos unknown)
      rw [checks, if_pos ⟨unknown, known⟩]
      exact (SpeakerThreads.run_searching loads 3 rfl).trans (threads_fetchSong s song.id).symm
    · have checks : (s.threads.goto (.checkingFetch song.id)).step (.plays loads) = s.threads :=
        congrArg s.threads.goto (if_neg unknown)
      rw [checks, if_neg (fun both => unknown both.1)]
      exact SpeakerThreads.run_waiting loads 6 rfl
  · rw [if_neg known, if_neg (fun both => known both.2)]
    exact SpeakerThreads.run_waiting loads 7 rfl

theorem threads_stop (songID : Int) (loads : Bool) :
    run SpeakerThreads.step s.threads
        (s.accesses (.handles (.playback_command { command := .Stop, id := songID }) loads)) =
      (s.handleStopCommand songID).threads := by
  have handles : s.threads.step (.handles (.playback_command { command := .Stop, id := songID })) =
      s.threads.goto (
        if songID = s.currentSong ∧ s.currentSongState = .PLAYING then .silencing else .waiting) := rfl
  unfold accesses handleStopCommand
  rw [run_cons, handles]
  by_cases plays : songID = s.currentSong ∧ s.currentSongState = .PLAYING
  · rw [if_pos plays, if_pos plays, plays.1]
    rfl
  · rw [if_neg plays, if_neg plays]
    exact SpeakerThreads.run_waiting loads 7 rfl

theorem threads_poll (found : Bool) :
    run SpeakerThreads.step s.threads (s.accesses (.polls found)) = (s.poll found).threads := by
  unfold accesses poll
  rw [run_cons]
  by_cases heard : s.currentSongState = .PLAYING ∧ found
  · rw [if_pos heard]
    cases ends : s.songEnds with
    | nil =>
      have polls : s.threads.step (.polls (found ∧ ([] : List Nat) ≠ [])) = s.threads :=
        congrArg s.threads.goto (if_neg fun both => by simp at both)
      rw [polls]
      exact SpeakerThreads.run_waiting true 4 rfl
    | cons first rest =>
      have polls : s.threads.step (.polls (found ∧ first :: rest ≠ [])) = s.threads.goto .ending :=
        congrArg s.threads.goto (if_pos ⟨heard.1, by simp [heard.2]⟩)
      rw [polls]
      rfl
  · have polls : s.threads.step (.polls (found ∧ s.songEnds ≠ [])) = s.threads :=
      congrArg s.threads.goto (if_neg fun both => heard ⟨both.1, (of_decide_eq_true both.2).1⟩)
    rw [if_neg heard, polls]
    exact SpeakerThreads.run_waiting true 4 rfl

theorem threads_once (ok : Bool) (here : s.comm ≠ .idle)
    (other : ∀ entry ready songID, s.comm ≠ .rewriting entry ready songID) :
    s.threads.communicateFunc ok = (s.communicate ok).threads := by
  unfold SpeakerThreads.communicateFunc communicate
  cases comm : s.comm with
  | idle => exact absurd comm here
  | rewriting entry ready songID => exact absurd comm (other entry ready songID)
  | requesting songID =>
    simp only [threads, comm, stage]
    cases ok <;> rfl
  | testing _ | sent _ | checkingNext _ | checkingReady _ | checkingUnknown _ =>
    simp only [threads, comm, apply_ite stage]
    rfl
  | _ => simp only [threads, comm, stage, put, setComm, SpeakerThreads.put]

theorem threads_idle (ok : Bool) (here : s.comm = .idle) :
    run SpeakerThreads.step s.threads (List.replicate s.communicateAccesses (.communicates ok)) =
      (s.communicate ok).threads := by
  have idle : s.threads.comm = .idle := congrArg stage here
  unfold communicateAccesses
  rw [here]
  cases queue : s.playbackConnectionQueue with
  | nil =>
    have rests : s.threads.communicateFunc ok = s.threads := by
      unfold SpeakerThreads.communicateFunc
      rw [idle, show s.threads.playbackConnectionQueue = [] from queue]
    rw [communicate_resting ok here queue]
    exact rests
  | cons entry rest =>
    have takes := SpeakerThreads.communicateFunc_takes ok idle queue
    have same : s.threads.content entry = s.content entry := by cases entry <;> rfl
    dsimp only
    by_cases asks : (s.content entry).status = .need_song
    · have reads : ({ s.threads with playbackConnectionQueue := rest, comm := .taken entry } :
          SpeakerThreads).communicateFunc ok =
          { s.threads with playbackConnectionQueue := rest, comm := .asked entry } :=
        congrArg (fun comm => { s.threads with playbackConnectionQueue := rest, comm := comm })
          (if_pos ((congrArg Message.status same).trans asks))
      rw [if_pos asks, communicate_takes ok here queue asks, ← same]
      change ((s.threads.communicateFunc ok).communicateFunc ok).communicateFunc ok = _
      rw [takes, reads]
      rfl
    · have reads : ({ s.threads with playbackConnectionQueue := rest, comm := .taken entry } :
          SpeakerThreads).communicateFunc ok =
          { s.threads with playbackConnectionQueue := rest, comm := .sending entry } :=
        congrArg (fun comm => { s.threads with playbackConnectionQueue := rest, comm := comm })
          (if_neg fun no => asks ((congrArg Message.status same).symm.trans no))
      rw [if_neg asks, communicate_picks ok here queue asks]
      change (s.threads.communicateFunc ok).communicateFunc ok = _
      rw [takes, reads]
      rfl

theorem threads_rewriting (ok : Bool) {entry : Entry} {ready : Bool} {songID : Int}
    (here : s.comm = .rewriting entry ready songID) :
    (s.threads.communicateFunc ok).communicateFunc ok = (s.communicate ok).threads := by
  have identifies : s.threads.comm = .identifying entry ready songID := congrArg stage here
  rw [communicate_rewriting ok here]
  unfold SpeakerThreads.communicateFunc
  rw [identifies]
  cases entry <;> cases ready <;> rfl

/-- A step that is not interrupted. -/
theorem threads_step (e : SpeakerEvent) :
    run SpeakerThreads.step s.threads (s.accesses e) = (s.step e).threads := by
  cases e with
  | handles update loads =>
    cases update with
    | playback_command command =>
      obtain ⟨kind, songID⟩ := command
      cases kind with
      | Play => exact s.threads_play songID loads
      | Stop => exact s.threads_stop songID loads
    | upcoming_song song => exact s.threads_upcoming song loads
    | _ => exact SpeakerThreads.run_waiting loads 7 rfl
  | polls found => exact s.threads_poll found
  | songEnds => rfl
  | communicates ok =>
    cases here : s.comm with
    | idle => exact s.threads_idle ok here
    | rewriting entry ready songID =>
      have two : s.communicateAccesses = 2 := by
        unfold communicateAccesses
        rw [here]
      unfold accesses
      rw [two]
      exact s.threads_rewriting ok here
    | _ =>
      have one : s.communicateAccesses = 1 := by
        unfold communicateAccesses
        rw [here]
      unfold accesses
      rw [one]
      apply s.threads_once ok
      · rw [here]
        intro no
        cases no
      · intro entry ready songID
        rw [here]
        intro no
        cases no

def uninterrupted (s : Speaker) : List SpeakerEvent → List ThreadEvent
  | [] => []
  | e :: events => s.accesses e ++ (s.step e).uninterrupted events

/-- Each run of a speaker is a run of its threads. -/
theorem threads_run (events : List SpeakerEvent) :
    run SpeakerThreads.step s.threads (s.uninterrupted events) =
      (run Speaker.step s events).threads := by
  induction events generalizing s with
  | nil => rfl
  | cons e events ih =>
    unfold uninterrupted
    rw [run_append, s.threads_step e]
    exact ih (s.step e)

end Speaker

end MusicCloud
