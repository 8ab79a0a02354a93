import MusicCloud.Affinity
import MusicCloud.Speaker
import MusicCloud.UpdateBodies

/-!
The text of every update, and what `playback_func` makes of the body it is sent in. The
speaker looks at the type of the update, and then only at the id of the song and at the
command.
-/
namespace MusicCloud
open Json

def toDouble (x : ℚ) : ℚ := if x < 0 then -Doubles.rounded (-x) else Doubles.rounded x

/-- `Double.toString`, and what a reader of JSON makes of the number. -/
structure DoubleTexts where
  toString : ℚ → Number
  doubleValue : Number → ℚ
  doubleValue_toString : ∀ x, doubleValue (toString (toDouble x)) = toDouble x

section Decimals
open Decimals

theorem isNumberChar_digit {c : Char} (digit : c.isDigit) : isNumberChar c := by
  simp [isNumberChar, digit]

theorem isNumberChar_sign {sign : Sign} {c : Char} (h : c ∈ sign.chars) : isNumberChar c := by
  cases sign with
  | none => cases h
  | plus | minus =>
    rw [List.mem_singleton.mp h]
    decide

theorem isNumberChar_literal {l : Decimals.Literal} (ok : l.WellFormed) : ∀ c ∈ l.chars, isNumberChar c := by
  intro c h
  simp only [Decimals.Literal.chars, List.mem_append] at h
  rcases h with sign | whole | middle | tail
  · exact isNumberChar_sign sign
  · exact isNumberChar_digit (ok.whole c whole)
  · unfold Decimals.Literal.middle at middle
    split at middle
    · rename_i ds fraction
      rcases List.mem_cons.mp middle with rfl | digit
      · decide
      · exact isNumberChar_digit (ok.fraction ds fraction c digit)
    · cases middle
  · unfold Decimals.Literal.tail at tail
    split at tail
    · rename_i e exponent
      unfold Exponent.chars at tail
      simp only [List.cons_append, List.mem_cons, List.mem_append] at tail
      rcases tail with rfl | sign | digit
      · decide
      · exact isNumberChar_sign sign
      · exact isNumberChar_digit ((ok.exponent e exponent).2 c digit)
    · cases tail

theorem chars_ne_nil {l : Decimals.Literal} (ok : l.WellFormed) : l.chars ≠ [] := by
  intro none
  have read := Decimals.Literal.read_chars ok
  rw [none] at read
  cases read

def literalNumber (l : Decimals.Literal) (ok : l.WellFormed) : Number :=
  { chars := l.chars, nonempty := chars_ne_nil ok, valid := isNumberChar_literal ok }

def dyadicLiteral (b : ℚ) : Decimals.Literal :=
  .ofDecimal (b < 0) (b.num.natAbs * 5 ^ Nat.log 2 b.den) (-Nat.log 2 b.den)

theorem magnitude_dyadic {b : ℚ} {k : ℕ} (den : b.den = 2 ^ k) :
    (dyadicLiteral b).magnitude = |b| := by
  have digits : Nat.log 2 b.den = k := by rw [den, Nat.log_pow (by norm_num)]
  have fraction : |b| = b.num.natAbs / 2 ^ k := by
    have value := Rat.num_div_den b
    rw [den] at value
    push_cast at value
    rw [← value, abs_div, abs_of_pos (by positivity : (0 : ℚ) < 2 ^ k), Nat.cast_natAbs]
    simp [value]
  unfold dyadicLiteral
  rw [Decimals.Literal.magnitude_ofDecimal, digits, fraction]
  push_cast
  rw [zpow_neg, zpow_natCast]
  have ten : (10 : ℚ) ^ k = 2 ^ k * 5 ^ k := by rw [← mul_pow]; norm_num
  rw [ten]
  field_simp

theorem den_rounded (x : ℚ) : ∃ k, (Doubles.rounded x).den = 2 ^ k := by
  obtain ⟨m, k, same⟩ : ∃ (m : ℤ) (k : ℕ), Doubles.rounded x = m / ((2 ^ k : ℤ) : ℚ) := by
    unfold Doubles.rounded
    rcases lt_or_ge (Doubles.lastPlace x) 0 with low | high
    · obtain ⟨k, exponent⟩ := Int.eq_negSucc_of_lt_zero low
      refine ⟨Doubles.roundEven (x / 2 ^ Doubles.lastPlace x), k + 1, ?_⟩
      rw [exponent, zpow_negSucc]
      push_cast
      exact (div_eq_mul_inv _ _).symm
    · obtain ⟨k, exponent⟩ := Int.eq_ofNat_of_zero_le high
      refine ⟨Doubles.roundEven (x / 2 ^ Doubles.lastPlace x) * 2 ^ k, 0, ?_⟩
      rw [exponent, zpow_natCast]
      push_cast
      simp
  have divides : (Doubles.rounded x).den ∣ 2 ^ k := by
    have := Rat.den_dvd m (2 ^ k)
    rw [same]
    exact_mod_cast this
  obtain ⟨j, -, power⟩ := (Nat.dvd_prime_pow Nat.prime_two).mp divides
  exact ⟨j, power⟩

theorem den_toDouble (x : ℚ) : ∃ k, (toDouble x).den = 2 ^ k := by
  unfold toDouble
  split
  · rw [Rat.neg_den]
    exact den_rounded (-x)
  · exact den_rounded x

def signedMagnitude (l : Decimals.Literal) : ℚ := if l.negative then -l.magnitude else l.magnitude

def allDigits : DoubleTexts where
  toString b := literalNumber (dyadicLiteral b) (Decimals.Literal.wellFormed_ofDecimal _ _ _)
  doubleValue n := ((Decimals.read n.chars).map signedMagnitude).getD 0
  doubleValue_toString := by
    intro x
    obtain ⟨k, den⟩ := den_toDouble x
    have back := Decimals.Literal.read_chars (Decimals.Literal.wellFormed_ofDecimal (decide (toDouble x < 0))
      ((toDouble x).num.natAbs * 5 ^ Nat.log 2 (toDouble x).den) (-Nat.log 2 (toDouble x).den))
    have magnitude := magnitude_dyadic den
    have negative : (dyadicLiteral (toDouble x)).negative = decide (toDouble x < 0) :=
      Affinity.negative_ofDecimal _ _ _
    unfold literalNumber dyadicLiteral
    dsimp only
    rw [back, Option.map_some, Option.getD_some]
    change signedMagnitude (dyadicLiteral (toDouble x)) = toDouble x
    unfold signedMagnitude
    rw [negative, magnitude]
    by_cases below : toDouble x < 0
    · simp [below, abs_of_neg below]
    · simp [below, abs_of_nonneg (not_lt.mp below)]

end Decimals
section Writing
variable (texts : DoubleTexts)

def VoteData.members (v : VoteData) : List (String × Value) :=
  [("id", longValue v.id), ("votes", longValue v.votes)]

def LikeData.members (l : LikeData) : List (String × Value) :=
  [("id", longValue l.id), ("likes", longValue l.likes), ("dislikes", longValue l.dislikes),
    ("balance", .number (texts.toString (toDouble l.balance)))]

def Command.name : Command → String
  | Play => "Play"
  | Stop => "Stop"

def PlaybackCommand.members (c : PlaybackCommand) : List (String × Value) :=
  [("command", .string c.command.name), ("id", longValue c.id)]

namespace SessionUpdate

def getValues : SessionUpdate → Value
  | .current_song song => .object song.members
  | .votes vs => .array (vs.map fun v => .object v.members)
  | .likes l => .object (l.members texts)
  | .song_list songs => .array (songs.map fun s => .object s.members)
  | .upcoming_song song => .object song.members
  | .playback_command c => .object c.members

def json (u : SessionUpdate) : Value :=
  .object [("values", u.getValues texts), ("update_type", .string (getUpdateType u).name)]

def toJson (u : SessionUpdate) : List Char := (u.json texts).chars

end SessionUpdate

end Writing

section Reading

def spelledInteger (text : List Char) : Option Int := do
  let l ← Decimals.read text
  if l.IsInteger then some l.integer else none

def integerForKey (key : String) (v : Value) : Option Int :=
  match objectForKey key v with
  | some (.number n) => spelledInteger n.chars
  | _ => none

theorem spelledInteger_toString (n : Int) : spelledInteger (toString n).toList = some n := by
  have read := Decimals.Literal.read_chars (Decimals.Literal.wellFormed_ofInt n)
  rw [Decimals.Literal.chars_ofInt] at read
  have value := Decimals.Literal.integer_ofInt n
  unfold spelledInteger
  rw [read]
  simpa [Decimals.Literal.ofInt, Decimals.Literal.IsInteger] using value

theorem mapString_ascii {s : String} (ascii : IsAscii s) : mapString MusicCloud.ascii s = s :=
  mapString_ascii_iff.mpr ascii

variable (texts : DoubleTexts)

theorem ascii_update (u : SessionUpdate) : (u.json texts).map ascii =
    .object [("values", (u.getValues texts).map ascii),
      ("update_type", .string (getUpdateType u).name)] := by
  have values : mapString ascii "values" = "values" := mapString_ascii (by simp [IsAscii])
  have type : mapString ascii "update_type" = "update_type" := mapString_ascii (by simp [IsAscii])
  have name : ∀ t : UpdateType, mapString ascii t.name = t.name := by
    intro t
    apply mapString_ascii
    cases t <;> simp [IsAscii, UpdateType.name]
  simp only [SessionUpdate.json, Value.map, mapMembers, values, type, name]

theorem type_update (u : SessionUpdate) :
    stringForKey "update_type" ((u.json texts).map ascii) = some (getUpdateType u).name := by
  rw [ascii_update]
  simp [stringForKey, objectForKey]

theorem values_update (u : SessionUpdate) :
    objectForKey "values" ((u.json texts).map ascii) = some ((u.getValues texts).map ascii) := by
  rw [ascii_update]
  simp [objectForKey]

theorem decodeBody_update (u : SessionUpdate) :
    decodeBody (createResponse (u.toJson texts)) = some ((u.json texts).map ascii) :=
  decodeBody_createResponse (u.json texts)

end Reading

inductive Instruction where
  | play (songID : Int)
  | stop (songID : Int)
  | upcoming (songID : Int)
  deriving DecidableEq, Repr

def instruction (response : Value) : Option Instruction := do
  let update_type ← stringForKey "update_type" response
  if update_type = "playback_command" then
    let values ← objectForKey "values" response
    let song_id ← integerForKey "id" values
    let command ← stringForKey "command" values
    if command = "Play" then some (.play song_id)
    else if command = "Stop" then some (.stop song_id)
    else none
  else if update_type = "upcoming_song" then
    let values ← objectForKey "values" response
    let song_id ← integerForKey "id" values
    some (.upcoming song_id)
  else none

namespace Speaker

def follow (i : Instruction) (loads : Bool) (s : Speaker) : Speaker :=
  match i with
  | .play songID => s.handlePlayCommand songID loads
  | .stop songID => s.handleStopCommand songID
  | .upcoming songID => s.handleUpcomingSongUpdate songID

/-- The body of the loop of `playback_func`, for the body of a response. An exception and an
    unknown update are logged, and that is all. -/
def hear (body : ByteArray) (loads : Bool) (s : Speaker) : Speaker :=
  match (decodeBody body).bind instruction with
  | some i => s.follow i loads
  | none => s

end Speaker

section Hearing
variable (texts : DoubleTexts)

def SessionUpdate.instruction : SessionUpdate → Option Instruction
  | .playback_command { command := .Play, id := songID } => some (.play songID)
  | .playback_command { command := .Stop, id := songID } => some (.stop songID)
  | .upcoming_song song => some (.upcoming song.id)
  | _ => none

theorem instruction_command (c : PlaybackCommand) :
    instruction (((SessionUpdate.playback_command c).json texts).map ascii) =
      (SessionUpdate.playback_command c).instruction := by
  obtain ⟨command, songID⟩ := c
  have id : integerForKey "id" ((Value.object (PlaybackCommand.members ⟨command, songID⟩)).map ascii) =
      some songID := by
    cases command <;> exact spelledInteger_toString songID
  have name : stringForKey "command"
      ((Value.object (PlaybackCommand.members ⟨command, songID⟩)).map ascii) = some command.name := by
    have same : mapString ascii command.name = command.name := by
      apply mapString_ascii
      cases command <;> simp [IsAscii, Command.name]
    have sent : stringForKey "command"
        ((Value.object (PlaybackCommand.members ⟨command, songID⟩)).map ascii) =
          some (mapString ascii command.name) := rfl
    rw [sent, same]
  unfold instruction
  rw [type_update, values_update]
  simp only [SessionUpdate.getValues, id, name, Option.bind_eq_bind, Option.bind_some]
  cases command <;> rfl

theorem instruction_upcoming (song : Song) :
    instruction (((SessionUpdate.upcoming_song song).json texts).map ascii) =
      (SessionUpdate.upcoming_song song).instruction := by
  have id : integerForKey "id" ((Value.object song.members).map ascii) = some song.id := by
    rw [Value.map, mapMembers_members]
    exact spelledInteger_toString song.id
  unfold instruction
  rw [type_update, values_update]
  simp only [SessionUpdate.getValues, id, Option.bind_eq_bind, Option.bind_some]
  rfl

theorem instruction_other {u : SessionUpdate} (command : getUpdateType u ≠ .playback_command)
    (upcoming : getUpdateType u ≠ .upcoming_song) :
    instruction ((u.json texts).map ascii) = none := by
  unfold instruction
  rw [type_update]
  cases u with
  | playback_command c => exact absurd rfl command
  | upcoming_song song => exact absurd rfl upcoming
  | _ => rfl

theorem instruction_update (u : SessionUpdate) :
    instruction ((u.json texts).map ascii) = u.instruction := by
  cases u with
  | playback_command c => exact instruction_command texts c
  | upcoming_song song => exact instruction_upcoming texts song
  | _ => exact instruction_other texts (by simp [getUpdateType]) (by simp [getUpdateType])

theorem Speaker.handle_eq (u : SessionUpdate) (loads : Bool) (s : Speaker) :
    s.handle u loads = match u.instruction with
      | some i => s.follow i loads
      | none => s := by
  cases u with
  | playback_command c =>
    obtain ⟨command, songID⟩ := c
    cases command <;> rfl
  | _ => rfl

theorem Speaker.hear_createResponse (u : SessionUpdate) (loads : Bool) (s : Speaker) :
    s.hear (createResponse (u.toJson texts)) loads = s.handle u loads := by
  rw [Speaker.handle_eq, Speaker.hear, decodeBody_update, Option.bind_some, instruction_update]

end Hearing

end MusicCloud
