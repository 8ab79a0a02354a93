import MusicCloud.Party
import MusicCloud.UpdateTexts

/-!
The bodies of status updates. The speaker writes its dictionaries with blanks behind commas
and colons and in the order of the interpreter, with the id and the position as numbers or
as strings; the server reads them as `StatusUpdateMessage`.
-/
namespace Json

section Blanks

def dumpsMembers : Bool → List (String × Value) → List Char
  | _, [] => ['}']
  | first, (key, v) :: ms =>
    (if first then [] else [',', ' ']) ++
      (stringChars key ++ ':' :: ' ' :: (v.chars ++ dumpsMembers false ms))

def dumps (ms : List (String × Value)) : List Char := '{' :: dumpsMembers true ms

theorem skip_blank (s : List Char) : skip (' ' :: s) = skip s := rfl

theorem readValue_blank (n : Nat) (s : List Char) :
    readValue (n + 1) (' ' :: s) = readValue (n + 1) s := by
  unfold readValue
  rw [skip_blank]

theorem readMark_blank (mark : Char) (s : List Char) :
    readMark mark (' ' :: s) = readMark mark s := by
  unfold readMark
  rw [skip_blank]

theorem stops_dumps (ms : List (String × Value)) (r : List Char) :
    Stops (dumpsMembers false ms ++ r) := by
  intro c head
  cases ms with
  | nil =>
    cases head
    decide
  | cons m ms =>
    cases head
    decide

theorem readMembers_blanks {first : Bool} {n : Nat} {key : String} {v : Value}
    {ms : List (String × Value)} {s t r : List Char}
    (value : readValue (n + 1) (v.chars ++ s) = some (v, s))
    (members : readMembers false (n + 1) s = some (ms, r))
    (written : t = (if first then [] else [',', ' ']) ++
      (stringChars key ++ ':' :: ' ' :: (v.chars ++ s))) :
    readMembers first (n + 2) t = some ((key, v) :: ms, r) := by
  have text := readString_chars key (':' :: ' ' :: (v.chars ++ s))
  have quote := readMark_cons (m := '"') (by decide)
    (key.toList.flatMap escape ++ '"' :: ':' :: ' ' :: (v.chars ++ s))
  have colon := readMark_cons (m := ':') (by decide) (' ' :: (v.chars ++ s))
  rw [← readValue_blank] at value
  subst written
  rw [stringChars_append]
  cases first with
  | true =>
    simp only [if_true, List.nil_append]
    unfold readMembers
    rw [skip_cons (by decide)]
    split
    · exact absurd (List.cons.inj ‹_›).1 (by decide)
    · simp only [Option.bind_eq_bind, Option.bind_some, quote, text, colon, value, members, if_true,
        String.ofList_toList]
  | false =>
    have comma := readMark_cons (m := ',') (by decide)
      (' ' :: '"' :: (key.toList.flatMap escape ++ '"' :: ':' :: ' ' :: (v.chars ++ s)))
    rw [← readMark_blank] at quote
    simp only [Bool.false_eq_true, if_false, List.cons_append, List.nil_append]
    unfold readMembers
    rw [skip_cons (by decide)]
    split
    · exact absurd (List.cons.inj ‹_›).1 (by decide)
    · simp only [Option.bind_eq_bind, Option.bind_some, comma, quote, text, colon, value, members,
        Bool.false_eq_true, if_false, String.ofList_toList]

theorem memberSteps_pos (ms : List (String × Value)) : 1 ≤ memberSteps ms := by
  cases ms with
  | nil => exact le_refl 1
  | cons m ms =>
    obtain ⟨key, v⟩ := m
    simp only [memberSteps]
    omega

theorem readMembers_dumps (ms : List (String × Value)) (first : Bool) {n : Nat} {r : List Char}
    (enough : memberSteps ms ≤ n) :
    readMembers first n (dumpsMembers first ms ++ r) = some (ms, r) := by
  induction ms generalizing first n with
  | nil =>
    cases n with
    | zero => simp [memberSteps] at enough
    | succ n => rfl
  | cons m ms ih =>
    obtain ⟨key, v⟩ := m
    have later := memberSteps_pos ms
    simp only [memberSteps] at enough
    obtain ⟨n, rfl⟩ : ∃ k, n = k + 2 := ⟨n - 2, by omega⟩
    have members := ih false (n := n + 1) (by omega)
    have value := readValue_chars v (n := n + 1) (by omega) (stops_dumps ms r)
    apply readMembers_blanks value members
    simp only [dumpsMembers, List.append_assoc, List.cons_append]

theorem memberSteps_dumps (ms : List (String × Value)) (first : Bool) :
    memberSteps ms ≤ 2 * (dumpsMembers first ms).length := by
  induction ms generalizing first with
  | nil => simp [memberSteps, dumpsMembers]
  | cons m ms ih =>
    obtain ⟨key, v⟩ := m
    have value := steps_le v
    have members := ih false
    simp only [memberSteps, dumpsMembers, List.length_append, List.length_cons]
    omega

theorem read_dumps (ms : List (String × Value)) : read (dumps ms) = some (.object ms) := by
  have enough := memberSteps_dumps ms true
  have members := readMembers_dumps ms true (n := 2 * (dumps ms).length) (r := [])
    (by simp only [dumps, List.length_cons]; omega)
  have value : readValue (2 * (dumps ms).length + 1) (dumps ms) = some (.object ms, []) := by
    rw [List.append_nil] at members
    unfold dumps at members ⊢
    rw [readValue_brace, members]
    rfl
  unfold read
  rw [value]
  rfl

end Blanks

end Json

namespace MusicCloud
open Json

def FitsLong (n : Int) : Prop := -2 ^ 63 ≤ n ∧ n < 2 ^ 63

instance (n : Int) : Decidable (FitsLong n) := inferInstanceAs (Decidable (_ ∧ _))

section Speaker

def MessageStatus.name : MessageStatus → String
  | need_song => "need_song"
  | Ready => "Ready"
  | Playing => "Playing"
  | Stopped => "Stopped"

inductive Spells (n : Int) : Value → Prop
  | number : Spells n (longValue n)
  | string : Spells n (.string (toString n))

structure Dictionary (message : Message) where
  id : Value
  position : Value
  offset : Int
  members : List (String × Value)
  named : Spells message.id id
  placed : Spells offset position
  fits : FitsLong offset
  order : members.Perm [("id", id), ("status", .string message.status.name), ("position", position)]

end Speaker

section Server

/-- A `long` from a number or from a string of digits; the speaker sends nothing else. -/
def readLong : Value → Option Int
  | .number n => (spelledInteger n.chars).filter fun n => FitsLong n
  | .string s => (spelledInteger s.toList).filter fun n => FitsLong n
  | _ => none

def Status.ofName (name : String) : Option Status :=
  if name = "Playing" then some .Playing
  else if name = "Paused" then some .Paused
  else if name = "Ready" then some .Ready
  else if name = "Stopped" then some .Stopped
  else none

def longForKey (key : String) (v : Value) : Option Int :=
  match objectForKey key v with
  | some value => readLong value
  | none => some 0

def statusForKey (key : String) (v : Value) : Option (Option Status) :=
  match objectForKey key v with
  | some (.string name) => (Status.ofName name).map some
  | some .null => some none
  | some _ => none
  | none => some none

def knownProperties : Value → Bool
  | .object ms => ms.all fun m => ["id", "status", "position"].contains m.1
  | _ => false

def StatusUpdateMessage.read (v : Value) : Option StatusUpdateMessage :=
  if knownProperties v then do
    let id ← longForKey "id" v
    let status ← statusForKey "status" v
    let _ ← longForKey "position" v
    some { id := id, status := status }
  else none

end Server

section Reading

theorem objectForKey_of_mem {ms : List (String × Value)} (distinct : (ms.map Prod.fst).Nodup)
    {key : String} {v : Value} (listed : (key, v) ∈ ms) : objectForKey key (.object ms) = some v := by
  induction ms with
  | nil => cases listed
  | cons m ms ih =>
    obtain ⟨first, rest⟩ := List.nodup_cons.mp distinct
    rcases List.mem_cons.mp listed with rfl | later
    · simp [objectForKey]
    · have other : m.1 ≠ key := by
        intro same
        exact first (same ▸ List.mem_map_of_mem later)
      have found := ih rest later
      unfold objectForKey at found ⊢
      dsimp only at found ⊢
      rw [List.find?_cons_of_neg (by simpa using other)]
      exact found

theorem readLong_spells {n : Int} {v : Value} (spells : Spells n v) :
    readLong v = if FitsLong n then some n else none := by
  have filtered : (some n).filter (fun n => decide (FitsLong n)) =
      if FitsLong n then some n else none := by
    by_cases fits : FitsLong n <;> simp [fits]
  cases spells with
  | number =>
    unfold longValue readLong
    dsimp only
    rw [spelledInteger_toString, filtered]
  | string =>
    unfold readLong
    dsimp only
    rw [spelledInteger_toString, filtered]

theorem ofName_name (status : MessageStatus) : Status.ofName status.name = status.report := by
  cases status <;> rfl

variable {message : Message} (d : Dictionary message)

namespace Dictionary

theorem distinct : (d.members.map Prod.fst).Nodup := by
  rw [(d.order.map Prod.fst).nodup_iff]
  simp

theorem objectForKey_member {key : String} {v : Value}
    (listed : (key, v) ∈ [("id", d.id), ("status", .string message.status.name),
      ("position", d.position)]) : objectForKey key (.object d.members) = some v :=
  objectForKey_of_mem d.distinct (d.order.mem_iff.mpr listed)

theorem known : knownProperties (.object d.members) = true := by
  unfold knownProperties
  rw [List.all_eq_true]
  intro m listed
  have property := d.order.mem_iff.mp listed
  simp only [List.mem_cons, List.not_mem_nil, or_false] at property
  rcases property with rfl | rfl | rfl <;> simp

end Dictionary

/-- The server takes the report for what it is, if its id is a `long`; a `need_song` is
    refused. -/
theorem read_dictionary : (Json.read (dumps d.members)).bind StatusUpdateMessage.read =
    if FitsLong message.id then
      message.status.report.map fun status => { id := message.id, status := some status }
    else none := by
  have id : objectForKey "id" (.object d.members) = some d.id := d.objectForKey_member (by simp)
  have status : objectForKey "status" (.object d.members) = some (.string message.status.name) :=
    d.objectForKey_member (by simp)
  have position : objectForKey "position" (.object d.members) = some d.position :=
    d.objectForKey_member (by simp)
  have offset := readLong_spells d.placed
  rw [if_pos d.fits] at offset
  rw [read_dumps, Option.bind_some, StatusUpdateMessage.read, if_pos d.known]
  unfold longForKey statusForKey
  simp only [id, status, position, offset, readLong_spells d.named, ofName_name]
  by_cases fits : FitsLong message.id
  · rw [if_pos fits, if_pos fits]
    cases message.status.report <;> rfl
  · rw [if_neg fits, if_neg fits]
    rfl

end Reading

end MusicCloud
