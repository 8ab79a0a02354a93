import MusicCloud.UpcomingSongs

/-!
The reports of the playback thread. A song is reported as Playing when it is started,
and as Stopped when a Stop command or a song end finds it playing; no other step of
the speaker changes the current song or its state.
-/
namespace MusicCloud
open Runs

/-- Playing(s1), Stopped(s1), Playing(s2), Stopped(s2), ..., and a Playing at most after them. -/
def Alternates : List Message → Prop
  | [] => True
  | [last] => last.status = .Playing
  | first :: second :: rest =>
    first.status = .Playing ∧ second = { id := first.id, status := .Stopped } ∧ Alternates rest

def Paired : List Message → Prop
  | [] => True
  | [_] => False
  | first :: second :: rest =>
    first.status = .Playing ∧ second = { id := first.id, status := .Stopped } ∧ Paired rest

theorem paired_append {before : List Message} (paired : Paired before) (after : List Message) :
    Paired (before ++ after) ↔ Paired after := by
  induction before using Paired.induct with
  | case1 => rfl
  | case2 last => exact paired.elim
  | case3 first second rest ih =>
    obtain ⟨playing, stopped, paired⟩ := paired
    simp [Paired, playing, stopped, ih paired]

theorem alternates_append {before : List Message} (paired : Paired before) (after : List Message) :
    Alternates (before ++ after) ↔ Alternates after := by
  induction before using Paired.induct with
  | case1 => rfl
  | case2 last => exact paired.elim
  | case3 first second rest ih =>
    obtain ⟨playing, stopped, paired⟩ := paired
    simp [Alternates, playing, stopped, ih paired]

theorem paired_last {messages : List Message} (paired : Paired messages) {last : Message}
    (ends : messages.getLast? = some last) : last.status = .Stopped := by
  induction messages using Paired.induct with
  | case1 => cases ends
  | case2 first => exact paired.elim
  | case3 first second rest ih =>
    obtain ⟨_, stopped, paired⟩ := paired
    cases rest with
    | nil =>
      obtain rfl : second = last := by simpa using ends
      rw [stopped]
    | cons third rest =>
      apply ih paired
      simpa using ends

namespace Speaker

def isReport (message : Message) : Bool :=
  message.status = .Playing ∨ message.status = .Stopped

def reported (s t : Speaker) : List Message :=
  ((t.playbackConnectionQueue.drop s.playbackConnectionQueue.length).map t.content).filter isReport

def reports (s : Speaker) (e : SpeakerEvent) : List Message :=
  match e with
  | .communicates _ => []
  | _ => reported s (s.step e)

def reportsOf (s : Speaker) (events : List SpeakerEvent) : List Message :=
  (trace step s events).flatMap fun (s, e) => s.reports e

def Loads (s : Speaker) (e : SpeakerEvent) : Prop :=
  ∀ songID loads, e = .handles (.playback_command { command := .Play, id := songID }) loads →
    s.Starts songID → s.canLoad songID loads

inductive Turns (s t : Speaker) : List Message → Prop where
  | keeps (song : t.currentSong = s.currentSong) (state : t.currentSongState = s.currentSongState) :
    Turns s t []
  | starts (idle : s.currentSongState ≠ .PLAYING) (playing : t.currentSongState = .PLAYING) :
    Turns s t [{ id := t.currentSong, status := .Playing }]
  | stops (playing : s.currentSongState = .PLAYING) (stopped : t.currentSongState = .STOPPED) :
    Turns s t [{ id := s.currentSong, status := .Stopped }]

/-- The reports tell of every song that was played, and of the current one while it plays. -/
def Reported (s : Speaker) (reports : List Message) : Prop :=
  if s.currentSongState = .PLAYING then
    ∃ before, Paired before ∧ reports = before ++ [{ id := s.currentSong, status := .Playing }]
  else Paired reports

variable {s t : Speaker}

theorem reported_same (same : t.playbackConnectionQueue = s.playbackConnectionQueue) :
    reported s t = [] := by
  simp [reported, same]

theorem reported_message (same : t.playbackConnectionQueue = s.playbackConnectionQueue)
    (songID : Int) (status : MessageStatus) : reported s (t.message songID status) =
      [{ id := songID, status := status }].filter isReport := by
  simp [reported, message, put, same, content]

theorem turns_fetchSong (same : t.playbackConnectionQueue = s.playbackConnectionQueue)
    (song : t.currentSong = s.currentSong) (state : t.currentSongState = s.currentSongState)
    (songID : Int) : Turns s (t.fetchSong songID) (reported s (t.fetchSong songID)) := by
  unfold fetchSong
  split
  · dsimp only
    split
    · rw [reported_message (s := s) (t := { t with nextSongState := .READY }) same]
      exact .keeps song state
    · rw [reported_same (s := s) (t := { t with nextSongState := .READY }) same]
      exact .keeps song state
  · rw [reported_message same]
    exact .keeps song state

theorem turns_upcoming (s : Speaker) (songID : Int) :
    Turns s (s.handleUpcomingSongUpdate songID) (reported s (s.handleUpcomingSongUpdate songID)) := by
  by_cases fetches : s.Fetches songID
  · rw [upcoming_fetches fetches]
    exact turns_fetchSong (s := s) (t := s.awaiting songID) rfl rfl rfl songID
  · rw [upcoming_ignored fetches, reported_same rfl]
    exact .keeps rfl rfl

theorem turns_play {songID : Int} {loads : Bool}
    (readable : s.Starts songID → s.canLoad songID loads) :
    Turns s (s.handlePlayCommand songID loads) (reported s (s.handlePlayCommand songID loads)) := by
  unfold handlePlayCommand
  split
  · rw [reported_same rfl]
    exact .keeps rfl rfl
  · rename_i other
    split
    · rename_i starts
      rw [if_pos (readable ⟨other, starts⟩), reported_message (s := s) (t := s.started.playMusic) rfl,
        starts.1]
      exact .starts starts.2.1 rfl
    · split
      · rw [reported_message rfl]
        exact .keeps rfl rfl
      · rw [reported_same rfl]
        exact .keeps rfl rfl

theorem turns_stop (s : Speaker) (songID : Int) :
    Turns s (s.handleStopCommand songID) (reported s (s.handleStopCommand songID)) := by
  unfold handleStopCommand
  split
  · rename_i stops
    rw [reported_message (s := s) (t := { s.endMusic with currentSongState := .STOPPED }) rfl, stops.1]
    exact .stops stops.2 rfl
  · rw [reported_same rfl]
    exact .keeps rfl rfl

theorem turns_poll (s : Speaker) (found : Bool) :
    Turns s (s.poll found) (reported s (s.poll found)) := by
  unfold poll
  split
  · rename_i polls
    split
    · simp only [reported, put, List.drop_left]
      exact .stops polls.1 rfl
    · rw [reported_same rfl]
      exact .keeps rfl rfl
  · rw [reported_same rfl]
    exact .keeps rfl rfl

theorem turns_step {e : SpeakerEvent} (loads : s.Loads e) : Turns s (s.step e) (s.reports e) := by
  cases e with
  | communicates ok =>
    obtain ⟨song, state, _⟩ := communicate_songs s ok
    exact .keeps song state
  | songEnds =>
    change Turns s s.endMusic (reported s s.endMusic)
    rw [reported_same (s := s) (t := s.endMusic) rfl]
    exact .keeps rfl rfl
  | polls found => exact turns_poll s found
  | handles update readable =>
    cases update with
    | upcoming_song song => exact turns_upcoming s song.id
    | playback_command command =>
      obtain ⟨kind, songID⟩ := command
      cases kind with
      | Play => exact turns_play (loads songID readable rfl)
      | Stop => exact turns_stop s songID
    | _ =>
      change Turns s s (reported s s)
      rw [reported_same rfl]
      exact .keeps rfl rfl

theorem Reported.step {before : List Message} (h : s.Reported before) {e : SpeakerEvent}
    (loads : s.Loads e) : (s.step e).Reported (before ++ s.reports e) := by
  have turns := turns_step loads
  generalize s.reports e = report at turns ⊢
  unfold Reported at h ⊢
  cases turns with
  | keeps song state =>
    rw [song, state, List.append_nil]
    exact h
  | starts idle playing =>
    rw [if_neg idle] at h
    rw [if_pos playing]
    exact ⟨before, h, rfl⟩
  | stops playing stopped =>
    rw [if_pos playing] at h
    obtain ⟨complete, paired, rfl⟩ := h
    rw [if_neg (by simp [stopped]), List.append_assoc]
    exact (paired_append paired _).mpr ⟨rfl, rfl, trivial⟩

theorem reported_run (s : Speaker) (before : List Message) (events : List SpeakerEvent)
    (h : s.Reported before) (loads : StepsMeet step Loads s events) :
    (run step s events).Reported (before ++ reportsOf s events) := by
  induction events generalizing s before with
  | nil => simpa [reportsOf, trace] using h
  | cons e events ih =>
    have next := ih (s.step e) (before ++ s.reports e) (h.step loads.1) loads.2
    simpa [reportsOf, trace] using next

end Speaker

/-- The reports of the playback thread alternate if pygame loads every song that is
    started, and a song is PLAYING exactly while the last report is its Playing. -/
theorem reports_alternate (files : Int → SongFile) (events : List SpeakerEvent)
    (loads : StepsMeet Speaker.step Speaker.Loads (.start files) events) :
    Alternates (Speaker.reportsOf (.start files) events) ∧
      ((run Speaker.step (.start files) events).currentSongState = .PLAYING ↔
        ∃ songID, (Speaker.reportsOf (.start files) events).getLast? =
          some { id := songID, status := .Playing }) ∧
      ∀ songID, (Speaker.reportsOf (.start files) events).getLast? =
          some { id := songID, status := .Playing } →
        songID = (run Speaker.step (.start files) events).currentSong := by
  have reported := Speaker.reported_run (.start files) [] events trivial loads
  rw [List.nil_append] at reported
  unfold Speaker.Reported at reported
  by_cases playing : (run Speaker.step (.start files) events).currentSongState = .PLAYING
  · rw [if_pos playing] at reported
    obtain ⟨before, paired, all⟩ := reported
    rw [all, List.getLast?_concat]
    refine ⟨(alternates_append paired _).mpr rfl, iff_of_true playing ⟨_, rfl⟩, ?_⟩
    intro songID last
    cases last
    rfl
  · rw [if_neg playing] at reported
    have stopped : ∀ songID, (Speaker.reportsOf (.start files) events).getLast? ≠
        some { id := songID, status := .Playing } := by
      intro songID last
      have no := paired_last reported last
      cases no
    have alternates := (alternates_append reported []).mpr trivial
    rw [List.append_nil] at alternates
    refine ⟨alternates, iff_of_false playing fun ⟨songID, last⟩ => stopped songID last, ?_⟩
    intro songID last
    exact absurd last (stopped songID)

def reportedEvents : List SpeakerEvent := [upcoming 1, play 1, .songEnds, .polls true]

theorem first_song_reported :
    Speaker.reportsOf (.start fun _ => .complete) reportedEvents =
        [{ id := 1, status := .Playing }, { id := 1, status := .Stopped }] ∧
      Alternates (Speaker.reportsOf (.start fun _ => .complete) reportedEvents) := by
  have loads : StepsMeet Speaker.step Speaker.Loads (.start fun _ => .complete) reportedEvents := by
    refine ⟨?_, ?_, ?_, ?_, trivial⟩
    · intro songID readable no
      cases no
    · intro songID readable _ _
      rfl
    · intro songID readable no
      cases no
    · intro songID readable no
      cases no
  exact ⟨by decide, (reports_alternate (fun _ => .complete) reportedEvents loads).1⟩

end MusicCloud
