import Mathlib.Data.List.TakeWhile
import Mathlib.Tactic.Common

/-!
JSON texts: a writer that escapes only what must be escaped, and a reader for all of
the grammar. Numbers are kept as they are spelled.
-/
namespace Json

def isNumberChar (c : Char) : Bool :=
  c.isDigit || c == '-' || c == '+' || c == '.' || c == 'e' || c == 'E'

@[ext] structure Number where
  chars : List Char
  nonempty : chars ≠ []
  valid : ∀ c ∈ chars, isNumberChar c

inductive Value where
  | null
  | bool (b : Bool)
  | number (n : Number)
  | string (s : String)
  | array (vs : List Value)
  | object (ms : List (String × Value))

section Writing

def hexDigit (n : Nat) : Char := if n < 10 then Char.ofNat (48 + n) else Char.ofNat (55 + n)

/-- Quotation mark, backslash and control characters are escaped, nothing else. -/
def escape (c : Char) : List Char :=
  if c = '"' then ['\\', '"']
  else if c = '\\' then ['\\', '\\']
  else if c.toNat = 8 then ['\\', 'b']
  else if c.toNat = 9 then ['\\', 't']
  else if c.toNat = 10 then ['\\', 'n']
  else if c.toNat = 12 then ['\\', 'f']
  else if c.toNat = 13 then ['\\', 'r']
  else if c.toNat < 32 then
    ['\\', 'u', '0', '0', hexDigit (c.toNat / 16), hexDigit (c.toNat % 16)]
  else [c]

def stringChars (s : String) : List Char := '"' :: s.toList.flatMap escape ++ ['"']

mutual

def Value.chars : Value → List Char
  | .null => ['n', 'u', 'l', 'l']
  | .bool true => ['t', 'r', 'u', 'e']
  | .bool false => ['f', 'a', 'l', 's', 'e']
  | .number n => n.chars
  | .string s => stringChars s
  | .array vs => '[' :: itemsChars true vs
  | .object ms => '{' :: membersChars true ms

def itemsChars : Bool → List Value → List Char
  | _, [] => [']']
  | first, v :: vs => (if first then [] else [',']) ++ (v.chars ++ itemsChars false vs)

def membersChars : Bool → List (String × Value) → List Char
  | _, [] => ['}']
  | first, (key, v) :: ms =>
    (if first then [] else [',']) ++ (stringChars key ++ ':' :: (v.chars ++ membersChars false ms))

end

end Writing

section Reading

def isSpace (c : Char) : Bool := c.toNat == 32 || c.toNat == 9 || c.toNat == 10 || c.toNat == 13

def skip (s : List Char) : List Char := s.dropWhile isSpace

def hexValue (c : Char) : Option Nat :=
  if c.isDigit then some (c.toNat - 48)
  else if 97 ≤ c.toNat ∧ c.toNat ≤ 102 then some (c.toNat - 87)
  else if 65 ≤ c.toNat ∧ c.toNat ≤ 70 then some (c.toNat - 55)
  else none

def hexFour : List Char → Option (Nat × List Char)
  | a :: b :: c :: d :: s => do
    some (((← hexValue a) * 16 + (← hexValue b)) * 256 + (← hexValue c) * 16 + (← hexValue d), s)
  | _ => none

def shortEscape (c : Char) : Option Char :=
  if c = '"' ∨ c = '\\' ∨ c = '/' then some c
  else if c = 'b' then some (Char.ofNat 8)
  else if c = 't' then some (Char.ofNat 9)
  else if c = 'n' then some (Char.ofNat 10)
  else if c = 'f' then some (Char.ofNat 12)
  else if c = 'r' then some (Char.ofNat 13)
  else none

def readUnit (s : List Char) : Option (Char × List Char) := do
  let (high, s) ← hexFour s
  if 0xD800 ≤ high ∧ high < 0xDC00 then
    let '\\' :: 'u' :: s := s | none
    let (low, s) ← hexFour s
    if 0xDC00 ≤ low ∧ low < 0xE000 then
      some (Char.ofNat (0x10000 + (high - 0xD800) * 0x400 + (low - 0xDC00)), s)
    else none
  else if 0xDC00 ≤ high ∧ high < 0xE000 then none
  else some (Char.ofNat high, s)

def readChar : List Char → Option (Char × List Char)
  | [] => none
  | '\\' :: 'u' :: s => readUnit s
  | '\\' :: c :: s => (shortEscape c).map fun c => (c, s)
  | c :: s => if c.toNat < 32 then none else some (c, s)

def readString : Nat → List Char → Option (List Char × List Char)
  | 0, _ => none
  | _ + 1, '"' :: s => some ([], s)
  | n + 1, s => do
    let (c, s) ← readChar s
    let (cs, s) ← readString n s
    some (c :: cs, s)

def readWord : List Char → Option (Value × List Char)
  | 'n' :: 'u' :: 'l' :: 'l' :: s => some (.null, s)
  | 't' :: 'r' :: 'u' :: 'e' :: s => some (.bool true, s)
  | 'f' :: 'a' :: 'l' :: 's' :: 'e' :: s => some (.bool false, s)
  | s =>
    if h : s.takeWhile isNumberChar ≠ [] then
      some (.number
        { chars := s.takeWhile isNumberChar, nonempty := h
          valid := fun _ hc => List.mem_takeWhile_imp hc }, s.dropWhile isNumberChar)
    else none

def readMark (mark : Char) (s : List Char) : Option (List Char) :=
  match skip s with
  | c :: s => if c = mark then some s else none
  | [] => none

mutual

def readValue : Nat → List Char → Option (Value × List Char)
  | 0, _ => none
  | n + 1, s =>
    match skip s with
    | '"' :: s => (readString (s.length + 1) s).map fun (cs, s) => (.string (String.ofList cs), s)
    | '[' :: s => (readItems true n s).map fun (vs, s) => (.array vs, s)
    | '{' :: s => (readMembers true n s).map fun (ms, s) => (.object ms, s)
    | s => readWord s

def readItems : Bool → Nat → List Char → Option (List Value × List Char)
  | _, 0, _ => none
  | first, n + 1, s =>
    match skip s with
    | ']' :: s => some ([], s)
    | s => do
      let s ← if first then some s else readMark ',' s
      let (v, s) ← readValue n s
      let (vs, s) ← readItems false n s
      some (v :: vs, s)

def readMembers : Bool → Nat → List Char → Option (List (String × Value) × List Char)
  | _, 0, _ => none
  | first, n + 1, s =>
    match skip s with
    | '}' :: s => some ([], s)
    | s => do
      let s ← if first then some s else readMark ',' s
      let s ← readMark '"' s
      let (key, s) ← readString (s.length + 1) s
      let s ← readMark ':' s
      let (v, s) ← readValue n s
      let (ms, s) ← readMembers false n s
      some ((String.ofList key, v) :: ms, s)

end

def read (s : List Char) : Option Value :=
  match readValue (2 * s.length + 1) s with
  | some (v, rest) => if skip rest = [] then some v else none
  | none => none

end Reading

section Strings

theorem hexValue_hexDigit : ∀ n < 16, hexValue (hexDigit n) = some n := by decide

theorem escape_head (c : Char) : ∃ d ds, escape c = d :: ds ∧ d ≠ '"' := by
  unfold escape
  split
  · exact ⟨_, _, rfl, by decide⟩
  · rename_i plain
    repeat' split
    all_goals first
      | exact ⟨_, _, rfl, by decide⟩
      | exact ⟨_, _, rfl, plain⟩

theorem readChar_escape (c : Char) (r : List Char) : readChar (escape c ++ r) = some (c, r) := by
  have named : ∀ n, c.toNat = n → Char.ofNat n = c := by
    rintro n rfl
    exact Char.ofNat_toNat c
  unfold escape
  by_cases quote : c = '"'
  · subst quote
    rfl
  by_cases backslash : c = '\\'
  · subst backslash
    rfl
  rw [if_neg quote, if_neg backslash]
  by_cases b : c.toNat = 8
  · rw [if_pos b, ← named 8 b]
    rfl
  by_cases t : c.toNat = 9
  · rw [if_neg b, if_pos t, ← named 9 t]
    rfl
  by_cases n : c.toNat = 10
  · rw [if_neg b, if_neg t, if_pos n, ← named 10 n]
    rfl
  by_cases f : c.toNat = 12
  · rw [if_neg b, if_neg t, if_neg n, if_pos f, ← named 12 f]
    rfl
  by_cases cr : c.toNat = 13
  · rw [if_neg b, if_neg t, if_neg n, if_neg f, if_pos cr, ← named 13 cr]
    rfl
  rw [if_neg b, if_neg t, if_neg n, if_neg f, if_neg cr]
  by_cases control : c.toNat < 32
  · -- the two hexadecimal digits of the code
    have zero : hexValue '0' = some 0 := by decide
    have high := hexValue_hexDigit (c.toNat / 16) (by omega)
    have low := hexValue_hexDigit (c.toNat % 16) (by omega)
    have code : ((0 * 16 + 0) * 256 + c.toNat / 16 * 16 + c.toNat % 16) = c.toNat := by omega
    rw [if_pos control]
    simp only [List.cons_append, List.nil_append, readChar, readUnit, hexFour, zero, high, low,
      Option.bind_eq_bind, Option.bind_some, code]
    rw [if_neg (by omega), if_neg (by omega), Char.ofNat_toNat]
  · rw [if_neg control]
    simp only [List.cons_append, List.nil_append]
    unfold readChar
    split
    · contradiction
    · rename_i same
      exact absurd (List.cons.inj same).1 backslash
    · rename_i same
      exact absurd (List.cons.inj same).1 backslash
    · rename_i same
      obtain ⟨rfl, rfl⟩ := List.cons.inj same
      rw [if_neg control]

theorem readString_escape (cs r : List Char) {n : Nat} (enough : cs.length < n) :
    readString n (cs.flatMap escape ++ '"' :: r) = some (cs, r) := by
  induction cs generalizing n with
  | nil =>
    cases n with
    | zero => simp at enough
    | succ n => rfl
  | cons c cs ih =>
    cases n with
    | zero => simp at enough
    | succ n =>
      obtain ⟨d, ds, shape, other⟩ := escape_head c
      have next := readChar_escape c (cs.flatMap escape ++ '"' :: r)
      have rest := ih (n := n) (by simpa using enough)
      rw [shape, List.cons_append] at next
      rw [List.flatMap_cons, List.append_assoc, shape, List.cons_append, readString]
      · simp only [next, rest, Option.bind_eq_bind, Option.bind_some]
      · intro s same
        exact other (List.cons.inj same).1

theorem length_escaped (cs : List Char) : cs.length ≤ (cs.flatMap escape).length := by
  induction cs with
  | nil => simp
  | cons c cs ih =>
    obtain ⟨d, ds, shape, -⟩ := escape_head c
    simp only [List.flatMap_cons, shape, List.length_append, List.length_cons]
    omega

theorem readString_chars (s : String) (r : List Char) :
    readString ((s.toList.flatMap escape ++ '"' :: r).length + 1)
      (s.toList.flatMap escape ++ '"' :: r) = some (s.toList, r) := by
  apply readString_escape
  have longer := length_escaped s.toList
  simp only [List.length_append, List.length_cons]
  omega

end Strings

section Values

theorem code_number {c : Char} (valid : isNumberChar c) : 43 ≤ c.toNat ∧ c.toNat < 128 := by
  simp only [isNumberChar, Bool.or_eq_true, beq_iff_eq] at valid
  rcases valid with ((((digit | rfl) | rfl) | rfl) | rfl) | rfl
  · simp only [Char.isDigit, Bool.and_eq_true, decide_eq_true_eq, ge_iff_le,
      UInt32.le_iff_toNat_le] at digit
    have lower : 48 ≤ c.toNat := digit.1
    have upper : c.toNat ≤ 57 := digit.2
    omega
  all_goals decide

theorem isSpace_number {c : Char} (valid : isNumberChar c) : isSpace c = false := by
  have code := code_number valid
  simp only [isSpace, Bool.or_eq_false_iff, beq_eq_false_iff_ne]
  omega

theorem head_chars (v : Value) : ∃ c cs, v.chars = c :: cs ∧ isSpace c = false ∧
    c ≠ ']' ∧ c ≠ '}' := by
  cases v with
  | null => exact ⟨_, _, rfl, by decide, by decide, by decide⟩
  | bool b =>
    cases b with
    | false => exact ⟨_, _, rfl, by decide, by decide, by decide⟩
    | true => exact ⟨_, _, rfl, by decide, by decide, by decide⟩
  | number n =>
    obtain ⟨c, cs, shape⟩ := List.exists_cons_of_ne_nil n.nonempty
    have valid := n.valid c (by simp [shape])
    refine ⟨c, cs, shape, isSpace_number valid, ?_, ?_⟩
    · rintro rfl
      exact absurd valid (by decide)
    · rintro rfl
      exact absurd valid (by decide)
  | string s => exact ⟨_, _, rfl, by decide, by decide, by decide⟩
  | array vs => exact ⟨_, _, rfl, by decide, by decide, by decide⟩
  | object ms => exact ⟨_, _, rfl, by decide, by decide, by decide⟩

theorem skip_cons {c : Char} (solid : isSpace c = false) (s : List Char) :
    skip (c :: s) = c :: s := by
  simp [skip, solid]

def Stops (r : List Char) : Prop := ∀ c, r.head? = some c → isNumberChar c = false

theorem stops_items (vs : List Value) (r : List Char) : Stops (itemsChars false vs ++ r) := by
  intro c head
  cases vs with
  | nil =>
    cases head
    decide
  | cons v vs =>
    cases head
    decide

theorem stops_members (ms : List (String × Value)) (r : List Char) :
    Stops (membersChars false ms ++ r) := by
  intro c head
  cases ms with
  | nil =>
    cases head
    decide
  | cons m ms =>
    cases head
    decide

theorem readWord_number (n : Number) {r : List Char} (stops : Stops r) :
    readWord (n.chars ++ r) = some (.number n, r) := by
  have none : r.takeWhile isNumberChar = [] ∧ r.dropWhile isNumberChar = r := by
    cases r with
    | nil => exact ⟨rfl, rfl⟩
    | cons c r => simp [stops c rfl]
  have taken : (n.chars ++ r).takeWhile isNumberChar = n.chars := by
    rw [List.takeWhile_append_of_pos n.valid, none.1, List.append_nil]
  have dropped : (n.chars ++ r).dropWhile isNumberChar = r := by
    rw [List.dropWhile_append_of_pos n.valid, none.2]
  have spelled : ∀ c s, n.chars ++ r = c :: s → isNumberChar c := by
    intro c s shape
    obtain ⟨d, ds, chars⟩ := List.exists_cons_of_ne_nil n.nonempty
    rw [chars] at shape
    cases shape
    exact n.valid c (by simp [chars])
  unfold readWord
  split
  · exact absurd (spelled _ _ ‹_›) (by decide)
  · exact absurd (spelled _ _ ‹_›) (by decide)
  · exact absurd (spelled _ _ ‹_›) (by decide)
  · simp only [taken, dropped, dif_pos n.nonempty]

theorem readMark_cons {m : Char} (solid : isSpace m = false) (s : List Char) :
    readMark m (m :: s) = some s := by
  unfold readMark
  rw [skip_cons solid]
  exact if_pos rfl

mutual

def steps : Value → Nat
  | .array vs => 1 + itemSteps vs
  | .object ms => 1 + memberSteps ms
  | _ => 1

def itemSteps : List Value → Nat
  | [] => 1
  | v :: vs => 1 + steps v + itemSteps vs

def memberSteps : List (String × Value) → Nat
  | [] => 1
  | (_, v) :: ms => 1 + steps v + memberSteps ms

end

theorem readValue_number (m : Number) {n : Nat} {r : List Char} (stops : Stops r) :
    readValue (n + 1) (m.chars ++ r) = some (.number m, r) := by
  obtain ⟨c, cs, shape⟩ := List.exists_cons_of_ne_nil m.nonempty
  have valid := m.valid c (by simp [shape])
  have word := readWord_number m stops
  rw [shape, List.cons_append] at word ⊢
  unfold readValue
  rw [skip_cons (isSpace_number valid)]
  split
  · exact absurd ((List.cons.inj ‹_›).1 ▸ valid) (by decide)
  · exact absurd ((List.cons.inj ‹_›).1 ▸ valid) (by decide)
  · exact absurd ((List.cons.inj ‹_›).1 ▸ valid) (by decide)
  · exact word

section Marks
variable {n : Nat} {s : List Char}

theorem readValue_quote : readValue (n + 1) ('"' :: s) =
    (readString (s.length + 1) s).map fun (cs, s) => (.string (String.ofList cs), s) := rfl

theorem readValue_bracket : readValue (n + 1) ('[' :: s) =
    (readItems true n s).map fun (vs, s) => (.array vs, s) := rfl

theorem readValue_brace : readValue (n + 1) ('{' :: s) =
    (readMembers true n s).map fun (ms, s) => (.object ms, s) := rfl

end Marks

theorem stringChars_append (s : String) (r : List Char) :
    stringChars s ++ r = '"' :: (s.toList.flatMap escape ++ '"' :: r) := by
  simp [stringChars]

theorem readValue_string (s : String) {n : Nat} {r : List Char} :
    readValue (n + 1) (stringChars s ++ r) = some (.string s, r) := by
  rw [stringChars_append, readValue_quote, readString_chars]
  simp

theorem readItems_cons {first : Bool} {n : Nat} {v : Value} {vs : List Value} {s t r : List Char}
    (value : readValue n (v.chars ++ s) = some (v, s)) (items : readItems false n s = some (vs, r))
    (written : t = (if first then [] else [',']) ++ (v.chars ++ s)) :
    readItems first (n + 1) t = some (v :: vs, r) := by
  obtain ⟨c, cs, shape, solid, inside, -⟩ := head_chars v
  rw [shape, List.cons_append] at value
  subst written
  rw [shape, List.cons_append]
  cases first with
  | true =>
    simp only [if_true, List.nil_append]
    unfold readItems
    rw [skip_cons solid]
    split
    · exact absurd (List.cons.inj ‹_›).1 inside
    · simp only [Option.bind_eq_bind, Option.bind_some, value, items, if_true]
  | false =>
    have comma := readMark_cons (m := ',') (by decide) (c :: (cs ++ s))
    simp only [Bool.false_eq_true, if_false, List.cons_append, List.nil_append]
    unfold readItems
    rw [skip_cons (by decide)]
    split
    · exact absurd (List.cons.inj ‹_›).1 (by decide)
    · simp only [Option.bind_eq_bind, Option.bind_some, comma, value, items, Bool.false_eq_true,
        if_false]

theorem readMembers_cons {first : Bool} {n : Nat} {key : String} {v : Value}
    {ms : List (String × Value)} {s t r : List Char}
    (value : readValue n (v.chars ++ s) = some (v, s))
    (members : readMembers false n s = some (ms, r))
    (written : t = (if first then [] else [',']) ++ (stringChars key ++ ':' :: (v.chars ++ s))) :
    readMembers first (n + 1) t = some ((key, v) :: ms, r) := by
  have text := readString_chars key (':' :: (v.chars ++ s))
  have quote := readMark_cons (m := '"') (by decide)
    (key.toList.flatMap escape ++ '"' :: ':' :: (v.chars ++ s))
  have colon := readMark_cons (m := ':') (by decide) (v.chars ++ s)
  subst written
  rw [stringChars_append]
  cases first with
  | true =>
    simp only [if_true, List.nil_append]
    unfold readMembers
    rw [skip_cons (by decide)]
    split
    · exact absurd (List.cons.inj ‹_›).1 (by decide)
    · simp only [Option.bind_eq_bind, Option.bind_some, quote, text, colon, value, members, if_true,
        String.ofList_toList]
  | false =>
    have comma := readMark_cons (m := ',') (by decide)
      ('"' :: (key.toList.flatMap escape ++ '"' :: ':' :: (v.chars ++ s)))
    simp only [Bool.false_eq_true, if_false, List.cons_append, List.nil_append]
    unfold readMembers
    rw [skip_cons (by decide)]
    split
    · exact absurd (List.cons.inj ‹_›).1 (by decide)
    · simp only [Option.bind_eq_bind, Option.bind_some, comma, quote, text, colon, value, members,
        Bool.false_eq_true, if_false, String.ofList_toList]

mutual

/-- What has been written is read back, whatever follows that is no number. -/
theorem readValue_chars (v : Value) {n : Nat} {r : List Char} (enough : steps v ≤ n)
    (stops : Stops r) : readValue n (v.chars ++ r) = some (v, r) := by
  cases n with
  | zero => cases v <;> simp [steps] at enough
  | succ n =>
    cases v with
    | null => rfl
    | bool b => cases b <;> rfl
    | number m => exact readValue_number m stops
    | string s => exact readValue_string s
    | array vs =>
      have items := readItems_chars vs true (n := n) (r := r) (by simp only [steps] at enough; omega)
      simp only [Value.chars, List.cons_append]
      rw [readValue_bracket, items]
      rfl
    | object ms =>
      have members := readMembers_chars ms true (n := n) (r := r)
        (by simp only [steps] at enough; omega)
      simp only [Value.chars, List.cons_append]
      rw [readValue_brace, members]
      rfl

theorem readItems_chars (vs : List Value) (first : Bool) {n : Nat} {r : List Char}
    (enough : itemSteps vs ≤ n) : readItems first n (itemsChars first vs ++ r) = some (vs, r) := by
  cases vs with
  | nil =>
    cases n with
    | zero => simp [itemSteps] at enough
    | succ n => rfl
  | cons v vs =>
    cases n with
    | zero => simp only [itemSteps] at enough; omega
    | succ n =>
      simp only [itemSteps] at enough
      have items := readItems_chars vs false (n := n) (r := r) (by omega)
      have value := readValue_chars v (n := n) (by omega) (stops_items vs r)
      apply readItems_cons value items
      simp only [itemsChars, List.append_assoc]

theorem readMembers_chars (ms : List (String × Value)) (first : Bool) {n : Nat} {r : List Char}
    (enough : memberSteps ms ≤ n) :
    readMembers first n (membersChars first ms ++ r) = some (ms, r) := by
  cases ms with
  | nil =>
    cases n with
    | zero => simp [memberSteps] at enough
    | succ n => rfl
  | cons m ms =>
    obtain ⟨key, v⟩ := m
    cases n with
    | zero => simp only [memberSteps] at enough; omega
    | succ n =>
      simp only [memberSteps] at enough
      have members := readMembers_chars ms false (n := n) (r := r) (by omega)
      have value := readValue_chars v (n := n) (by omega) (stops_members ms r)
      apply readMembers_cons value members
      simp only [membersChars, List.append_assoc, List.cons_append]

end

mutual

theorem steps_le (v : Value) : steps v + 1 ≤ 2 * v.chars.length := by
  cases v with
  | null => simp [steps, Value.chars]
  | bool b => cases b <;> simp [steps, Value.chars]
  | number n =>
    have some_char := List.length_pos_iff.mpr n.nonempty
    simp only [steps, Value.chars]
    omega
  | string s =>
    simp only [steps, Value.chars, stringChars, List.length_append, List.length_cons]
    omega
  | array vs =>
    have items := itemSteps_le vs true
    simp only [steps, Value.chars, List.length_cons]
    omega
  | object ms =>
    have members := memberSteps_le ms true
    simp only [steps, Value.chars, List.length_cons]
    omega

theorem itemSteps_le (vs : List Value) (first : Bool) :
    itemSteps vs ≤ 2 * (itemsChars first vs).length := by
  cases vs with
  | nil => simp [itemSteps, itemsChars]
  | cons v vs =>
    have value := steps_le v
    have items := itemSteps_le vs false
    simp only [itemSteps, itemsChars, List.length_append]
    omega

theorem memberSteps_le (ms : List (String × Value)) (first : Bool) :
    memberSteps ms ≤ 2 * (membersChars first ms).length := by
  cases ms with
  | nil => simp [memberSteps, membersChars]
  | cons m ms =>
    obtain ⟨key, v⟩ := m
    have value := steps_le v
    have members := memberSteps_le ms false
    simp only [memberSteps, membersChars, List.length_append, List.length_cons]
    omega

end

theorem read_chars (v : Value) : read v.chars = some v := by
  have enough := steps_le v
  have value := readValue_chars v (n := 2 * v.chars.length + 1) (r := []) (by omega) (by
    intro c head
    cases head)
  unfold read
  rw [List.append_nil] at value
  rw [value]
  rfl

end Values

section Mapping

def mapString (f : Char → Char) (s : String) : String := String.ofList (s.toList.map f)

mutual

def Value.map (f : Char → Char) : Value → Value
  | .string s => .string (mapString f s)
  | .array vs => .array (mapItems f vs)
  | .object ms => .object (mapMembers f ms)
  | v => v

def mapItems (f : Char → Char) : List Value → List Value
  | [] => []
  | v :: vs => v.map f :: mapItems f vs

def mapMembers (f : Char → Char) : List (String × Value) → List (String × Value)
  | [] => []
  | (key, v) :: ms => (mapString f key, v.map f) :: mapMembers f ms

end

structure KeepsAscii (f : Char → Char) : Prop where
  ascii : ∀ c, c.toNat < 128 → f c = c
  plain : ∀ c, 128 ≤ c.toNat → escape (f c) = [f c]

theorem escape_ascii {c : Char} (ascii : c.toNat < 128) : ∀ d ∈ escape c, d.toNat < 128 := by
  have hex : ∀ n < 16, (hexDigit n).toNat < 128 := by decide
  have high := hex (c.toNat / 16)
  have low := hex (c.toNat % 16) (by omega)
  unfold escape
  repeat' split
  all_goals
    simp only [List.forall_mem_cons, List.not_mem_nil, false_imp_iff, implies_true, and_true]
  all_goals first
    | decide
    | exact ascii
    | exact ⟨by decide, by decide, by decide, by decide, high (by omega), low⟩

theorem escape_plain {c : Char} (other : 128 ≤ c.toNat) : escape c = [c] := by
  have quote : c ≠ '"' := by
    rintro rfl
    exact absurd other (by decide)
  have backslash : c ≠ '\\' := by
    rintro rfl
    exact absurd other (by decide)
  unfold escape
  rw [if_neg quote, if_neg backslash, if_neg (by omega), if_neg (by omega), if_neg (by omega),
    if_neg (by omega), if_neg (by omega), if_neg (by omega)]

section Keeps
variable {f : Char → Char} (keeps : KeepsAscii f)
include keeps

theorem map_ascii {cs : List Char} (ascii : ∀ c ∈ cs, c.toNat < 128) : cs.map f = cs := by
  rw [List.map_congr_left fun c h => keeps.ascii c (ascii c h)]
  exact List.map_id' cs

theorem map_escape (c : Char) : (escape c).map f = escape (f c) := by
  by_cases ascii : c.toNat < 128
  · rw [map_ascii keeps (escape_ascii ascii), keeps.ascii c ascii]
  · have other : 128 ≤ c.toNat := by omega
    rw [escape_plain other, keeps.plain c other]
    rfl

theorem map_stringChars (s : String) : (stringChars s).map f = stringChars (mapString f s) := by
  have quote : f '"' = '"' := keeps.ascii '"' (by decide)
  have body : (s.toList.flatMap escape).map f = (s.toList.map f).flatMap escape := by
    induction s.toList with
    | nil => rfl
    | cons c cs ih =>
      simp only [List.flatMap_cons, List.map_append, List.map_cons, map_escape keeps, ih]
  simp [stringChars, mapString, quote, body]

mutual

theorem map_chars (v : Value) : v.chars.map f = (v.map f).chars := by
  cases v with
  | null =>
    apply map_ascii keeps
    simp [Value.chars]
  | bool b =>
    apply map_ascii keeps
    cases b <;> simp [Value.chars]
  | number n =>
    apply map_ascii keeps
    intro c h
    exact (code_number (n.valid c h)).2
  | string s => exact map_stringChars keeps s
  | array vs =>
    have bracket : f '[' = '[' := keeps.ascii '[' (by decide)
    have items := map_itemsChars vs true
    simp only [Value.chars, Value.map, List.map_cons, bracket, items]
  | object ms =>
    have brace : f '{' = '{' := keeps.ascii '{' (by decide)
    have members := map_membersChars ms true
    simp only [Value.chars, Value.map, List.map_cons, brace, members]

theorem map_itemsChars (vs : List Value) (first : Bool) :
    (itemsChars first vs).map f = itemsChars first (mapItems f vs) := by
  have comma : f ',' = ',' := keeps.ascii ',' (by decide)
  have bracket : f ']' = ']' := keeps.ascii ']' (by decide)
  cases vs with
  | nil => simp [itemsChars, mapItems, bracket]
  | cons v vs =>
    have value := map_chars v
    have items := map_itemsChars vs false
    cases first <;> simp [itemsChars, mapItems, value, items, comma]

theorem map_membersChars (ms : List (String × Value)) (first : Bool) :
    (membersChars first ms).map f = membersChars first (mapMembers f ms) := by
  have comma : f ',' = ',' := keeps.ascii ',' (by decide)
  have colon : f ':' = ':' := keeps.ascii ':' (by decide)
  have brace : f '}' = '}' := keeps.ascii '}' (by decide)
  cases ms with
  | nil => simp [membersChars, mapMembers, brace]
  | cons m ms =>
    obtain ⟨key, v⟩ := m
    have value := map_chars v
    have members := map_membersChars ms false
    have text := map_stringChars keeps key
    cases first <;> simp [membersChars, mapMembers, value, members, text, comma, colon]

end

end Keeps

end Mapping

end Json
