import MusicCloud.Calls
import MusicCloud.StatusReports

/-!
What the query for the next song chooses. It joins the songs with the counts of
the votes and puts those without a count last; `getVotes` reports 0 for them. The
two orders are the same, and the songs it looks at are those that are not active.
-/
namespace MusicCloud
open Runs Tables

namespace Database
variable {db : Database}

theorem comesBefore_total (votedFirst : Bool) (a b : SongRow × Option Nat) :
    db.comesBefore votedFirst a b = true ∨ db.comesBefore votedFirst b a = true := by
  obtain ⟨r, m⟩ := a
  obtain ⟨q, n⟩ := b
  unfold comesBefore
  cases m <;> cases n <;> cases votedFirst <;> simp <;> grind

theorem comesBefore_trans (votedFirst : Bool) (a b c : SongRow × Option Nat)
    (first : db.comesBefore votedFirst a b = true) (second : db.comesBefore votedFirst b c = true) :
    db.comesBefore votedFirst a c = true := by
  obtain ⟨p, l⟩ := a
  obtain ⟨q, m⟩ := b
  obtain ⟨r, n⟩ := c
  unfold comesBefore at first second ⊢
  cases l <;> cases m <;> cases n <;> cases votedFirst <;> simp at first second ⊢ <;> grind

def votesReported (db : Database) (id : Int) : Int :=
  ((db.getVotes.find? fun v => v.id = id).map VoteData.votes).getD 0

theorem votesReported_eq {r : SongRow} (hr : r ∈ db.songs) :
    db.votesReported r.id = ((db.votes.map VoteRow.song_id).count r.id : Nat) := by
  have same : (db.votes.countP fun v => v.song_id = r.id) =
      (db.votes.map VoteRow.song_id).count r.id := by
    rw [List.count, List.countP_map]
    exact List.countP_congr fun v _ => by simp
  unfold votesReported
  rw [getVotes_eq, List.find?_map, ← same]
  cases found : db.songs.find? _ with
  | none =>
    have absent := List.find?_eq_none.mp found r hr
    simp at absent
  | some other =>
    have own := List.find?_some found
    simp only [Function.comp_apply, decide_eq_true_eq] at own
    simp [own]

theorem counts_of_comesBefore {a b : SongRow} {m n : Option Nat}
    (first : (a, m) ∈ db.songsWithVotes) (second : (b, n) ∈ db.songsWithVotes)
    (before : db.comesBefore true (a, m) (b, n) = true) :
    db.votesReported b.id < db.votesReported a.id ∨
      db.votesReported b.id = db.votesReported a.id ∧ a.last_played ≤ b.last_played := by
  have ha := mem_songs_of_songsWithVotes first
  have hb := mem_songs_of_songsWithVotes second
  rw [votesReported_eq ha, votesReported_eq hb]
  have counted : ∀ {r : SongRow} {k : Option Nat}, (r, k) ∈ db.songsWithVotes →
      k.getD 0 = (db.votes.map VoteRow.song_id).count r.id ∧ (k.isSome ↔ 0 < k.getD 0) := by
    intro r k listed
    rw [songsWithVotes_eq] at listed
    obtain ⟨q, -, eq⟩ := List.mem_map.mp listed
    obtain ⟨rfl, rfl⟩ := Prod.mk.inj eq
    by_cases voted : q.id ∈ db.votes.map VoteRow.song_id
    · have positive := List.count_pos_iff.mpr voted
      rw [if_pos voted]
      exact ⟨rfl, iff_of_true rfl positive⟩
    · have zero := List.count_eq_zero.mpr voted
      rw [if_neg voted]
      exact ⟨zero.symm, iff_of_false (by simp) (by simp)⟩
  obtain ⟨sumA, someA⟩ := counted first
  obtain ⟨sumB, someB⟩ := counted second
  rw [← sumA, ← sumB]
  unfold comesBefore at before
  cases m <;> cases n <;> simp at before someA someB ⊢ <;> grind

theorem nextSongQuery_first {row : SongRow × Option Nat} (first : db.nextSongQuery.head? = some row)
    {r : SongRow} (hr : r ∈ db.songs) (inactive : r.status = .Inactive) :
    db.votesReported r.id < db.votesReported row.1.id ∨
      db.votesReported r.id = db.votesReported row.1.id ∧ row.1.last_played ≤ r.last_played := by
  obtain ⟨votes, joined⟩ := exists_songsWithVotes hr
  unfold nextSongQuery at first
  rw [List.head?_take, if_neg (by decide)] at first
  have listed := (List.mem_filter.mp ((mem_orderBy _).mp (List.mem_of_head? first))).1
  have before := head_orderBy (db.comesBefore_total true) (db.comesBefore_trans true) first
    (r, votes) (List.mem_filter.mpr ⟨joined, by simp [inactive]⟩)
  exact counts_of_comesBefore listed joined before

end Database

namespace Server
variable {s t : Server}

/-- The song that is not playing and that the party wants most: no other song
    that is not playing has more votes, or as many and a longer rest. -/
structure PartyChoice (s : Server) (song : Song) : Prop where
  idle : s.activeSong.map (fun a => a.id) ≠ some song.id
  wanted : ∃ own ∈ s.db.songs, own.id = song.id ∧
    ∀ r ∈ s.db.songs, s.activeSong.map (fun a => a.id) ≠ some r.id →
      s.db.votesReported r.id < s.db.votesReported song.id ∨
        s.db.votesReported r.id = s.db.votesReported song.id ∧ own.last_played ≤ r.last_played

theorem partyChoice_of_candidate (agrees : s.playback.Agrees) {song : Song}
    (choice : s.candidate = some song) : s.PartyChoice song := by
  obtain ⟨row, first, rfl⟩ := Option.map_eq_some_iff.mp choice
  obtain ⟨listed, inactive⟩ := Database.nextSongQuery_mem (List.mem_of_head? first)
  have idle : ∀ r ∈ s.db.songs, r.status = .Inactive ↔
      s.activeSong.map (fun a => a.id) ≠ some r.id := by
    intro r hr
    have active := agrees.active r hr
    unfold playback at active
    rw [Option.map_map] at active
    exact not_iff_not.mp ((active.trans not_not.symm))
  constructor
  · exact (idle row.1 listed).mp inactive
  · refine ⟨row.1, listed, rfl, ?_⟩
    intro r hr other
    exact Database.nextSongQuery_first first hr ((idle r hr).mpr other)

structure Settled (s t : Server) : Prop where
  votes : t.db.votes = s.db.votes
  songs : t.db.songs.map (fun r => (r.id, r.last_played)) =
    s.db.songs.map fun r => (r.id, r.last_played)
  active : t.activeSong.map (fun a => a.id) = s.activeSong.map fun a => a.id

theorem Settled.refl (s : Server) : Settled s s := ⟨rfl, rfl, rfl⟩

theorem Settled.row (settled : Settled s t) {r : SongRow} (hr : r ∈ t.db.songs) :
    ∃ q ∈ s.db.songs, q.id = r.id ∧ q.last_played = r.last_played := by
  have listed : (r.id, r.last_played) ∈ t.db.songs.map fun r => (r.id, r.last_played) :=
    List.mem_map_of_mem hr
  rw [settled.songs] at listed
  obtain ⟨q, hq, eq⟩ := List.mem_map.mp listed
  exact ⟨q, hq, (Prod.mk.inj eq).1, (Prod.mk.inj eq).2⟩

theorem Settled.symm (settled : Settled s t) : Settled t s :=
  ⟨settled.votes.symm, settled.songs.symm, settled.active.symm⟩

theorem Settled.votesReported (settled : Settled s t) {id : Int} :
    t.db.votesReported id = s.db.votesReported id := by
  have reports : t.db.getVotes = s.db.getVotes := by
    have ids := congrArg (List.map Prod.fst) settled.songs
    simp only [List.map_map] at ids
    have line : ∀ db : Database, db.getVotes = (db.songs.map SongRow.id).map fun id =>
        { id := id, votes := (db.votes.countP fun v => v.song_id = id : Nat) } := by
      intro db
      rw [Database.getVotes_eq, List.map_map]
      rfl
    have same : t.db.songs.map SongRow.id = s.db.songs.map SongRow.id := ids
    rw [line, line, settled.votes, same]
  unfold Database.votesReported
  rw [reports]

theorem PartyChoice.settled {song : Song} (chosen : s.PartyChoice song) (settled : Settled s t) :
    t.PartyChoice song := by
  obtain ⟨own, listed, id, first⟩ := chosen.wanted
  obtain ⟨own', listed', id', played⟩ := settled.symm.row listed
  constructor
  · rw [settled.active]
    exact chosen.idle
  · refine ⟨own', listed', id'.trans id, ?_⟩
    intro r hr other
    obtain ⟨q, hq, same, rested⟩ := settled.row hr
    rw [settled.active, ← same] at other
    have before := first q hq other
    rw [settled.votesReported, settled.votesReported, ← same, ← rested, played]
    exact before

theorem Settled.trans {u : Server} (first : Settled s t) (second : Settled t u) : Settled s u :=
  ⟨second.votes.trans first.votes, second.songs.trans first.songs, second.active.trans first.active⟩

theorem settled_of_act {report : Option (Int × Status)} (act : Act report s t) :
    Settled s t ∨ (t.nextSong = none ∧ ∃ id, report = some (id, .Playing)) := by
  cases act with
  | broadcast => exact Or.inl ⟨rfl, rfl, rfl⟩
  | send => exact Or.inl ⟨rfl, rfl, rfl⟩
  | refresh active running =>
    exact Or.inl ⟨rfl, rfl, by simp only [refreshed, running, Option.map_some, positioned_toSong]⟩
  | timer => exact Or.inl ⟨rfl, rfl, rfl⟩
  | select => exact Or.inl ⟨rfl, rfl, rfl⟩
  | selectFor => exact Or.inl ⟨rfl, rfl, rfl⟩
  | mark active running =>
    refine Or.inl ⟨rfl, ?_, rfl⟩
    unfold marked Database.setStatus
    rw [List.map_map]
    refine List.map_congr_left fun r _ => ?_
    by_cases own : r.id = active.id <;> simp [own]
  | start song sessionID playing next => exact Or.inr ⟨rfl, sessionID, playing⟩

theorem chosen_of_act {report : Option (Int × Status)} (agrees : s.playback.Agrees)
    (act : Act report s t) {song : Song} (next : t.nextSong = some song) :
    (s.nextSong = some song ∧ Settled s t) ∨ t.PartyChoice song := by
  have settled := (settled_of_act act).resolve_right fun started => by simp [started.1] at next
  cases act with
  | broadcast => exact Or.inl ⟨next, settled⟩
  | send => exact Or.inl ⟨next, settled⟩
  | refresh => exact Or.inl ⟨next, settled⟩
  | timer => exact Or.inl ⟨next, settled⟩
  | mark => exact Or.inl ⟨next, settled⟩
  | start => cases next
  | select other unset choice =>
    obtain rfl : other = song := Option.some.inj next
    exact Or.inr ((partyChoice_of_candidate agrees choice).settled settled)
  | selectFor other sessionID _ unset choice =>
    obtain rfl : other = song := Option.some.inj next
    exact Or.inr ((partyChoice_of_candidate agrees choice).settled settled)

theorem chosen_of_acts {report : Option (Int × Status)} (agrees : s.playback.Agrees)
    (acts : Acts report s t) {song : Song} (next : t.nextSong = some song) :
    (s.nextSong = some song ∧ Settled s t) ∨ t.PartyChoice song := by
  induction acts generalizing song with
  | refl => exact Or.inl ⟨next, .refl s⟩
  | tail acts act ih =>
    rcases chosen_of_act (agrees_of_acts acts agrees) act next with ⟨before, settled⟩ | chosen
    · rcases ih before with ⟨first, earlier⟩ | chosen
      · exact Or.inl ⟨first, earlier.trans settled⟩
      · exact Or.inr (chosen.settled settled)
    · exact Or.inr chosen

theorem settled_of_acts {report : Option (Int × Status)}
    (other : ∀ id, report ≠ some (id, .Playing)) (acts : Acts report s t) : Settled s t := by
  induction acts with
  | refl => exact .refl s
  | tail _ act ih =>
    have settled := (settled_of_act act).resolve_right fun started => by
      obtain ⟨-, id, playing⟩ := started
      exact other id playing
    exact ih.trans settled

theorem settled_written {c : Call} (votes : (s.written c).db.votes = s.db.votes) :
    Settled s (s.written c) := by
  have playback := playback_written s c
  have active := congrArg (fun p => p.activeSong.map Song.id) playback
  simp only [Server.playback, Option.map_map] at active
  exact ⟨votes, congrArg (fun p => p.songs.map fun r => (r.id, r.last_played)) playback, active⟩

def Voteless : Call → Prop
  | .vote songID sessionID => songID < 0 ∨ sessionID < 0
  | _ => True

theorem votes_written {c : Call} (voteless : Voteless c) :
    (s.written c).db.votes = s.db.votes := by
  unfold written
  split
  any_goals split
  any_goals rfl
  contradiction

theorem settled_choosing (agrees : s.playback.Agrees) {c : Call} (unset : s.nextSong = none)
    {song : Song} (set : (s.call c).nextSong = some song) : Settled s (s.call c) := by
  have acts := acts_call agrees c
  have idle : s.call c ≠ s := by
    intro same
    rw [same, unset] at set
    cases set
  have written : Settled s (s.written c) := by
    apply settled_written
    apply votes_written
    unfold Voteless
    split
    · -- a vote leaves the next song alone
      rename_i songID sessionID
      rw [call, vote_apply] at set
      by_contra valid
      rw [if_neg valid] at set
      have none : s.nextSong = some song := set
      rw [unset] at none
      cases none
    · trivial
  refine written.trans (settled_of_acts ?_ acts)
  intro id playing
  cases c with
  | speakerStatusUpdate sessionID update =>
    rcases update with _ | ⟨songID, _ | status⟩
    · cases playing
    · cases playing
    · have same : status = .Playing := (Prod.mk.inj (Option.some.inj playing)).2
      apply idle
      rw [call, speakerStatusUpdate_apply, same]
      split
      · rfl
      · dsimp only
        rw [playingUpdate_apply, unset]
        rfl
  | _ => cases playing

end Server

/-- Whenever a call sets the next song, that song is not the active one and
    comes first among the songs that are not: by the count that `getVotes` reports
    and then by the time it was last played, before the call and after it. -/
theorem votes_decide_next_song (music : List MusicRow) (clock : Nat) (calls : List Call) (c : Call)
    (song : Song) (unset : (run Server.call (.start music clock) calls).nextSong = none)
    (set : ((run Server.call (.start music clock) calls).call c).nextSong = some song) :
    (run Server.call (.start music clock) calls).PartyChoice song ∧
    ((run Server.call (.start music clock) calls).call c).PartyChoice song := by
  have agrees := Server.agrees_run music clock calls
  have settled := Server.settled_choosing agrees unset set
  have kept : ((run Server.call (.start music clock) calls).written c).playback.Agrees := by
    rw [Server.playback_written]
    exact agrees
  have chosen : ((run Server.call (.start music clock) calls).call c).PartyChoice song := by
    rcases Server.chosen_of_acts kept (Server.acts_call agrees c) set with ⟨before, -⟩ | chosen
    · have same := congrArg Playback.nextSong (Server.playback_written (run Server.call
        (.start music clock) calls) c)
      change (Server.written _ c).nextSong = _ at same
      rw [before] at same
      exact absurd (same.trans unset) (by simp)
    · exact chosen
  exact ⟨chosen.settled settled.symm, chosen⟩

def votedCalls : List Call := [.authenticateUser (some "1234") "10.0.0.1", .vote 2 1]

theorem voted_song_chosen : ∃ song, song.id = 2 ∧
    (run Server.call (.start twoSongs 0) votedCalls).PartyChoice song ∧
    ((run Server.call (.start twoSongs 0) votedCalls).call
      (.authenticateSpeaker (some "1234") "10.0.0.2")).PartyChoice song :=
  ⟨_, rfl, votes_decide_next_song twoSongs 0 votedCalls
    (.authenticateSpeaker (some "1234") "10.0.0.2")
    { id := 2, name := "second", artist := "", album := "", path := "second", length := 180
      votes := 1 } (by decide +kernel) (by decide +kernel)⟩

end MusicCloud
