import MusicCloud.Decimals
import MusicCloud.Json
import MusicCloud.Songs

/-!
The bodies of the updates that carry songs: Jackson writes the update as JSON,
`createResponse` turns the text into bytes of US-ASCII, and the receiver reads the
bytes as JSON again.
-/
namespace MusicCloud
open Json

def ascii (c : Char) : Char := if c.toNat < 128 then c else '?'

/-- The body of `createResponse`: `copiedBuffer` replaces what the charset lacks. -/
def createResponse (content : List Char) : ByteArray :=
  (content.map fun c => if c.toNat < 128 then c.toNat.toUInt8 else '?'.toNat.toUInt8).toByteArray

def decodeBody (body : ByteArray) : Option Value := do
  let text ← String.fromUTF8? body
  Json.read text.toList

section Charset

theorem utf8Encode_ascii {cs : List Char} (small : ∀ c ∈ cs, c.toNat < 128) :
    cs.utf8Encode = (cs.map fun c => c.toNat.toUInt8).toByteArray := by
  have bytes : cs.flatMap String.utf8EncodeChar = cs.map fun c => c.toNat.toUInt8 := by
    induction cs with
    | nil => rfl
    | cons c cs ih =>
      have one : c.utf8Size = 1 := by
        have code := small c (by simp)
        rw [Char.utf8Size_eq_one_iff, UInt32.le_iff_toNat_le]
        change c.toNat ≤ 127
        omega
      rw [List.flatMap_cons, List.map_cons, String.utf8EncodeChar_eq_singleton one,
        ih fun d h => small d (List.mem_cons_of_mem c h)]
      rfl
  rw [List.utf8Encode, bytes]

theorem code_ascii (c : Char) : (ascii c).toNat < 128 := by
  unfold ascii
  split
  · assumption
  · decide

theorem createResponse_eq (content : List Char) :
    createResponse content = (String.ofList (content.map ascii)).toByteArray := by
  have small : ∀ c ∈ content.map ascii, c.toNat < 128 := by
    intro c h
    obtain ⟨d, -, rfl⟩ := List.mem_map.mp h
    exact code_ascii d
  rw [String.toByteArray_ofList, utf8Encode_ascii small, List.map_map]
  unfold createResponse
  congr 2
  funext c
  simp only [Function.comp_apply, ascii]
  split <;> rfl

theorem keepsAscii_ascii : KeepsAscii ascii := by
  constructor
  · intro c small
    exact if_pos small
  · intro c large
    have replaced : ascii c = '?' := if_neg (by omega)
    rw [replaced]
    decide

theorem decodeBody_createResponse (v : Value) :
    decodeBody (createResponse v.chars) = some (v.map ascii) := by
  rw [createResponse_eq, map_chars keepsAscii_ascii]
  have text : String.fromUTF8? (String.ofList (v.map ascii).chars).toByteArray =
      some (String.ofList (v.map ascii).chars) := by
    unfold String.fromUTF8?
    rw [dif_pos (String.ofList (v.map ascii).chars).isValidUTF8]
    rfl
  unfold decodeBody
  rw [text]
  simp [read_chars]

end Charset

section Writing

theorem toString_number (n : Int) : (toString n).toList ≠ [] ∧
    ∀ c ∈ (toString n).toList, isNumberChar c := by
  have ok := Decimals.Literal.wellFormed_ofInt n
  rw [← Decimals.Literal.chars_ofInt]
  constructor
  · intro none
    have read := Decimals.Literal.read_chars ok
    rw [none] at read
    cases read
  · intro c h
    simp only [Decimals.Literal.chars, List.mem_append] at h
    rcases h with sign | whole | middle | tail
    · by_cases negative : n < 0
      · simp [Decimals.Literal.ofInt, negative, Decimals.Sign.chars] at sign
        subst sign
        decide
      · simp [Decimals.Literal.ofInt, negative, Decimals.Sign.chars] at sign
    · simp [isNumberChar, ok.whole c whole]
    · cases middle
    · cases tail

def longValue (n : Int) : Value :=
  .number { chars := (toString n).toList, nonempty := (toString_number n).1
            valid := (toString_number n).2 }

def Song.members (s : Song) : List (String × Value) :=
  [("id", longValue s.id), ("name", .string s.name), ("artist", .string s.artist),
    ("album", .string s.album), ("length", longValue s.length), ("votes", longValue s.votes)]

def ActiveSong.members (s : ActiveSong) : List (String × Value) :=
  s.toSong.members ++ [("position", longValue s.position)]

inductive SongMessage where
  | song_list (songs : List Song)
  | current_song (song : ActiveSong)
  | upcoming_song (song : Song)
  deriving DecidableEq, Repr

namespace SongMessage

def update : SongMessage → SessionUpdate
  | song_list songs => .song_list songs
  | current_song song => .current_song song
  | upcoming_song song => .upcoming_song song

def getValues : SongMessage → Value
  | song_list songs => .array (songs.map fun s => .object s.members)
  | current_song song => .object song.members
  | upcoming_song song => .object song.members

end SongMessage

def UpdateType.name : UpdateType → String
  | current_song => "current_song"
  | votes => "votes"
  | likes => "likes"
  | song_list => "song_list"
  | upcoming_song => "upcoming_song"
  | playback_command => "playback_command"

def SongMessage.json (m : SongMessage) : Value :=
  .object [("values", m.getValues), ("update_type", .string (getUpdateType m.update).name)]

def SongMessage.toJson (m : SongMessage) : List Char := m.json.chars

end Writing

section Receiving

def objectForKey (key : String) : Value → Option Value
  | .object ms => (ms.find? fun m => m.1 = key).map fun m => m.2
  | _ => none

def stringForKey (key : String) (v : Value) : Option String :=
  match objectForKey key v with
  | some (.string s) => some s
  | _ => none

structure SongTexts where
  name : String
  artist : String
  album : String
  deriving DecidableEq, Repr

def songTexts (v : Value) : Option SongTexts := do
  some { name := ← stringForKey "name" v, artist := ← stringForKey "artist" v
         album := ← stringForKey "album" v }

def receivedTexts (v : Value) : Option (List SongTexts) := do
  let type ← stringForKey "update_type" v
  let values ← objectForKey "values" v
  if type = "song_list" then
    match values with
    | .array vs => vs.mapM songTexts
    | _ => none
  else if type = "current_song" ∨ type = "upcoming_song" then
    (songTexts values).map fun texts => [texts]
  else none

def Song.texts (s : Song) : SongTexts := { name := s.name, artist := s.artist, album := s.album }

def SongMessage.texts : SongMessage → List SongTexts
  | song_list songs => songs.map Song.texts
  | current_song song => [song.texts]
  | upcoming_song song => [song.texts]

def SongTexts.map (f : Char → Char) (t : SongTexts) : SongTexts :=
  { name := mapString f t.name, artist := mapString f t.artist, album := mapString f t.album }

end Receiving

def IsAscii (s : String) : Prop := ∀ c ∈ s.toList, c.toNat < 128

instance (s : String) : Decidable (IsAscii s) :=
  inferInstanceAs (Decidable (∀ c ∈ s.toList, c.toNat < 128))

section Survival

theorem map_self_iff {α : Type} {f : α → α} {l : List α} : l.map f = l ↔ ∀ a ∈ l, f a = a := by
  have pointwise := List.map_inj_left (l := l) (f := f) (g := id)
  rw [List.map_id] at pointwise
  exact pointwise

theorem mapString_ascii_iff {s : String} : mapString ascii s = s ↔ IsAscii s := by
  unfold mapString IsAscii
  constructor
  · intro same c h
    have chars : s.toList.map ascii = s.toList := by
      conv_rhs => rw [← same]
      exact String.toList_ofList.symm
    rw [← map_self_iff.mp chars c h]
    exact code_ascii c
  · intro small
    rw [map_ascii keepsAscii_ascii small, String.ofList_toList]

theorem map_ascii_texts_iff {t : SongTexts} :
    t.map ascii = t ↔ IsAscii t.name ∧ IsAscii t.artist ∧ IsAscii t.album := by
  obtain ⟨name, artist, album⟩ := t
  simp [SongTexts.map, mapString_ascii_iff]

theorem mapMembers_members (s : Song) : mapMembers ascii s.members =
    [("id", longValue s.id), ("name", .string (mapString ascii s.name)),
      ("artist", .string (mapString ascii s.artist)), ("album", .string (mapString ascii s.album)),
      ("length", longValue s.length), ("votes", longValue s.votes)] := by
  rfl

theorem songTexts_members (s : Song) :
    songTexts ((Value.object s.members).map ascii) = some (s.texts.map ascii) := by
  rw [Value.map, mapMembers_members]
  rfl

theorem songTexts_active (s : ActiveSong) :
    songTexts ((Value.object s.members).map ascii) = some (s.texts.map ascii) := by
  have members : mapMembers ascii s.members =
      mapMembers ascii s.toSong.members ++ [("position", longValue s.position)] := rfl
  rw [Value.map, members, mapMembers_members]
  rfl

theorem mapM_songTexts (songs : List Song) :
    (mapItems ascii (songs.map fun s => .object s.members)).mapM songTexts =
      some ((songs.map Song.texts).map (SongTexts.map ascii)) := by
  induction songs with
  | nil => rfl
  | cons s songs ih =>
    simp only [List.map_cons, mapItems, List.mapM_cons, songTexts_members, ih]
    rfl

theorem map_json (m : SongMessage) : m.json.map ascii =
    .object [("values", m.getValues.map ascii),
      ("update_type", .string (getUpdateType m.update).name)] := by
  have values : mapString ascii "values" = "values" := mapString_ascii_iff.mpr (by simp [IsAscii])
  have type : mapString ascii "update_type" = "update_type" :=
    mapString_ascii_iff.mpr (by simp [IsAscii])
  have name : ∀ t : UpdateType, mapString ascii t.name = t.name := by
    intro t
    apply mapString_ascii_iff.mpr
    cases t <;> simp [IsAscii, UpdateType.name]
  simp only [SongMessage.json, Value.map, mapMembers, values, type, name]

theorem receivedTexts_json (m : SongMessage) :
    receivedTexts (m.json.map ascii) = some (m.texts.map (SongTexts.map ascii)) := by
  have type : stringForKey "update_type" (m.json.map ascii) =
      some (getUpdateType m.update).name := by
    rw [map_json]
    simp [stringForKey, objectForKey]
  have values : objectForKey "values" (m.json.map ascii) = some (m.getValues.map ascii) := by
    rw [map_json]
    simp [objectForKey]
  unfold receivedTexts
  simp only [type, values, Option.bind_eq_bind, Option.bind_some]
  cases m with
  | song_list songs => exact mapM_songTexts songs
  | current_song song =>
    have texts := songTexts_active song
    simp only [SongMessage.update, getUpdateType, UpdateType.name, SongMessage.getValues, texts]
    rfl
  | upcoming_song song =>
    have texts := songTexts_members song
    simp only [SongMessage.update, getUpdateType, UpdateType.name, SongMessage.getValues, texts]
    rfl

end Survival

/-- The listener reads the strings of an update as they were exactly if they are
    ASCII. -/
theorem update_survives_iff (m : SongMessage) :
    (decodeBody (createResponse m.toJson)).bind receivedTexts = some m.texts ↔
      ∀ t ∈ m.texts, IsAscii t.name ∧ IsAscii t.artist ∧ IsAscii t.album := by
  unfold SongMessage.toJson
  rw [decodeBody_createResponse, Option.bind_some, receivedTexts_json, Option.some.injEq,
    map_self_iff]
  simp only [map_ascii_texts_iff]

/-- An accent arrives as a question mark. -/
theorem accent_lost : ¬ ∀ m : SongMessage,
    (decodeBody (createResponse m.toJson)).bind receivedTexts = some m.texts := by
  intro always
  have survives := always (.upcoming_song
    { id := 1, name := "Café.mp3", artist := "Unknown", album := "Unknown", path := "./Café.mp3"
      length := 180, votes := 0 })
  rw [SongMessage.toJson, decodeBody_createResponse, Option.bind_some, receivedTexts_json]
    at survives
  revert survives
  decide +kernel

end MusicCloud
