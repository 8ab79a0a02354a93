import MusicCloud.Requests

/-!
The names in a request's path. `normalizeHandler`, `normalizeMethod` and `normalizeName`
turn the components of the path into names for reflection, part by part. They pass the
first character of a part to `String.replaceFirst`, which takes it for a regex and its
other case for a replacement; so some characters make them throw.
-/
namespace MusicCloud

/-- The tables of `java.lang.Character`; the mappings are those of the default locale. -/
structure CharacterTables where
  toUpperCase : Char → List Char
  toLowerCase : Char → List Char
  digit : Char → Option Nat

def javaSplit (separator : Char) (s : List Char) : List (List Char) :=
  if separator ∈ s then (s.splitOn separator).rdropWhile List.isEmpty else [s]

def parseLong (tables : CharacterTables) (s : List Char) : Option Int :=
  let digits (ds : List Char) : Option Int :=
    if ds = [] then none
    else ds.foldlM (fun (n : Int) d => (tables.digit d).map fun k => 10 * n + k) 0
  match s with
  | '-' :: ds => (digits ds).bind fun n => if n ≤ 2 ^ 63 then some (-n) else none
  | '+' :: ds => (digits ds).bind fun n => if n < 2 ^ 63 then some n else none
  | ds => (digits ds).bind fun n => if n < 2 ^ 63 then some n else none

section Normalize
variable (tables : CharacterTables)

/-- No regex consists of one of these characters alone, except for the last one; a
    replacement takes that one for a reference to a group. -/
def rejectedCharacters : List Char := ['(', ')', '[', '\x7b', '*', '+', '?', '\\', '$']

def replaceFirst (original : Char) (modified rest : List Char) :
    Except JavaException (List Char) :=
  if original ∈ rejectedCharacters then .error .illegalArgument
  -- these two match the empty string in front
  else if original = '^' ∨ original = '|' then .ok (modified ++ original :: rest)
  else .ok (modified ++ rest)

/-- `charAt(0)` of a character beyond U+FFFF is a surrogate. It has no other case, and a
    regex of one surrogate does not match a pair. -/
def normalizePart (mapping : Char → List Char) : List Char → Except JavaException (List Char)
  | [] => .ok []
  | original :: rest =>
    if 0xFFFF < original.toNat then .ok (original :: rest)
    else replaceFirst original (mapping original) rest

def normalizeParts (mapping : Char → List Char) : List (List Char) → Except JavaException (List Char)
  | [] => .ok []
  | part :: parts => do return (← normalizePart mapping part) ++ (← normalizeParts mapping parts)

def normalizeMethod (path : List Char) : Except JavaException (List Char) :=
  match javaSplit '_' path with
  | [] => .ok []
  | part :: parts => do
    return (← normalizePart tables.toLowerCase part) ++ (← normalizeParts tables.toUpperCase parts)

def normalizeHandler (name : List Char) : Except JavaException (List Char) := do
  return "beatboxserver.".toList ++ (← normalizeParts tables.toUpperCase (javaSplit '_' name)) ++
    "Handler".toList

def normalizeName (name : List Char) : Except JavaException (List Char) := do
  return "beatboxserver.messages.".toList ++
    (← normalizeParts tables.toUpperCase (javaSplit '_' name)) ++ "Message".toList

def misreadCharacters : List Char := rejectedCharacters ++ ['^', '|']

theorem toNat_misread : ∀ c ∈ misreadCharacters, c.toNat ≤ 0xFFFF := by
  simp [misreadCharacters, rejectedCharacters]

/-- No part of the name starts with a character that `replaceFirst` rejects. -/
def Acceptable (name : List Char) : Prop :=
  ∀ part ∈ javaSplit '_' name, ∀ first ∈ part.head?, first ∉ rejectedCharacters

instance (name : List Char) : Decidable (Acceptable name) :=
  inferInstanceAs (Decidable (∀ part ∈ javaSplit '_' name, ∀ first ∈ part.head?, _))

theorem append_ok_iff (x y : Except JavaException (List Char)) :
    (∃ name, (do return (← x) ++ (← y)) = Except.ok name) ↔ (∃ a, x = .ok a) ∧ ∃ b, y = .ok b := by
  cases x with
  | error e => simp [bind, Except.bind]
  | ok a => cases y <;> simp [bind, Except.bind, pure, Except.pure]

theorem wrap_ok_iff (before after : List Char) (x : Except JavaException (List Char)) :
    (∃ name, (do return before ++ (← x) ++ after) = Except.ok name) ↔ ∃ a, x = .ok a := by
  cases x <;> simp [bind, Except.bind, pure, Except.pure]

theorem normalizePart_iff (mapping : Char → List Char) (part : List Char) :
    (∃ name, normalizePart mapping part = .ok name) ↔
      ∀ first ∈ part.head?, first ∉ rejectedCharacters := by
  cases part with
  | nil => simp [normalizePart]
  | cons first rest =>
    unfold normalizePart replaceFirst
    by_cases rejected : first ∈ rejectedCharacters
    · have small := toNat_misread first (List.mem_append_left _ rejected)
      simp [rejected, not_lt.mpr small]
    · simp only [if_neg rejected]
      split
      · simp [rejected]
      · split <;> simp [rejected]

theorem normalizeParts_iff (mapping : Char → List Char) (parts : List (List Char)) :
    (∃ name, normalizeParts mapping parts = .ok name) ↔
      ∀ part ∈ parts, ∀ first ∈ part.head?, first ∉ rejectedCharacters := by
  induction parts with
  | nil => simp [normalizeParts]
  | cons part parts ih =>
    rw [normalizeParts, append_ok_iff, normalizePart_iff, ih, List.forall_mem_cons]

theorem normalizeMethod_iff (name : List Char) :
    (∃ method, normalizeMethod tables name = .ok method) ↔ Acceptable name := by
  unfold Acceptable normalizeMethod
  cases javaSplit '_' name with
  | nil => simp
  | cons part parts =>
    rw [append_ok_iff, normalizePart_iff, normalizeParts_iff, List.forall_mem_cons]

theorem normalizeHandler_iff (name : List Char) :
    (∃ handler, normalizeHandler tables name = .ok handler) ↔ Acceptable name := by
  unfold normalizeHandler
  rw [wrap_ok_iff, normalizeParts_iff, Acceptable]

theorem normalizeName_iff (name : List Char) :
    (∃ message, normalizeName tables name = .ok message) ↔ Acceptable name := by
  unfold normalizeName
  rw [wrap_ok_iff, normalizeParts_iff, Acceptable]

def capitalized (mapping : Char → List Char) : List Char → List Char
  | [] => []
  | first :: rest => if 0xFFFF < first.toNat then first :: rest else mapping first ++ rest

def camelCase (first later : Char → List Char) : List (List Char) → List Char
  | [] => []
  | part :: parts => capitalized first part ++ parts.flatMap (capitalized later)

def Literal (part : List Char) : Prop := ∀ first ∈ part.head?, first ∉ misreadCharacters

structure Normalized (name : List Char) : Prop where
  method : normalizeMethod tables name =
    .ok (camelCase tables.toLowerCase tables.toUpperCase (name.splitOn '_'))
  handler : normalizeHandler tables name =
    .ok ("beatboxserver.".toList ++
      camelCase tables.toUpperCase tables.toUpperCase (name.splitOn '_') ++ "Handler".toList)
  message : normalizeName tables name =
    .ok ("beatboxserver.messages.".toList ++
      camelCase tables.toUpperCase tables.toUpperCase (name.splitOn '_') ++ "Message".toList)

theorem javaSplit_append (name : List Char) :
    ∃ empties, name.splitOn '_' = javaSplit '_' name ++ empties ∧ ∀ part ∈ empties, part = [] := by
  unfold javaSplit
  by_cases separated : '_' ∈ name
  · rw [if_pos separated]
    refine ⟨(name.splitOn '_').rtakeWhile List.isEmpty, ?_, ?_⟩
    · exact (List.rdropWhile_append_rtakeWhile ..).symm
    · intro part listed
      exact List.isEmpty_iff.mp (List.mem_rtakeWhile_imp listed)
  · rw [if_neg separated]
    refine ⟨[], ?_, fun part no => nomatch no⟩
    rw [List.append_nil, List.splitOn_eq_splitOnP]
    apply List.splitOnP_eq_singleton
    intro c listed
    rw [beq_eq_false_iff_ne]
    rintro rfl
    exact separated listed

section Parts
variable {mapping : Char → List Char}

theorem camelCase_append (first later : Char → List Char) {empties : List (List Char)}
    (empty : ∀ part ∈ empties, part = []) (parts : List (List Char)) :
    camelCase first later (parts ++ empties) = camelCase first later parts := by
  have nothing : ∀ l : List (List Char), (∀ part ∈ l, part = []) → l.flatMap (capitalized later) = [] := by
    intro l empty
    apply List.flatMap_eq_nil_iff.mpr
    intro part listed
    rw [empty part listed]
    rfl
  cases parts with
  | nil =>
    cases empties with
    | nil => rfl
    | cons part rest =>
      obtain ⟨none, rest⟩ := List.forall_mem_cons.mp empty
      rw [List.nil_append, none]
      exact nothing _ rest
  | cons part parts =>
    rw [List.cons_append, camelCase, List.flatMap_append, nothing _ empty, List.append_nil]
    rfl

theorem camelCase_same (parts : List (List Char)) :
    camelCase mapping mapping parts = parts.flatMap (capitalized mapping) := by
  cases parts <;> rfl

theorem normalizePart_literal {part : List Char} (literal : Literal part) :
    normalizePart mapping part = .ok (capitalized mapping part) := by
  cases part with
  | nil => rfl
  | cons first rest =>
    have fine := literal first rfl
    rw [misreadCharacters, List.mem_append, not_or] at fine
    have plain : ¬ (first = '^' ∨ first = '|') := by simpa using fine.2
    unfold normalizePart capitalized replaceFirst
    dsimp only
    rw [if_neg fine.1, if_neg plain]
    split <;> rfl

theorem normalizeParts_literal {parts : List (List Char)} (literal : ∀ part ∈ parts, Literal part) :
    normalizeParts mapping parts = .ok (parts.flatMap (capitalized mapping)) := by
  induction parts with
  | nil => rfl
  | cons part parts ih =>
    obtain ⟨first, rest⟩ := List.forall_mem_cons.mp literal
    rw [normalizeParts, normalizePart_literal first, ih rest]
    rfl

theorem normalizePart_length {part x : List Char} (result : normalizePart mapping part = .ok x) :
    (capitalized mapping part).length ≤ x.length ∧
      (x.length ≤ (capitalized mapping part).length → Literal part) := by
  by_cases literal : Literal part
  · rw [normalizePart_literal literal] at result
    cases result
    exact ⟨le_refl _, fun _ => literal⟩
  · obtain ⟨first, head, misread⟩ : ∃ first ∈ part.head?, first ∈ misreadCharacters := by
      simpa [Literal] using literal
    cases part with
    | nil => cases head
    | cons c rest =>
      cases head
      have small := not_lt.mpr (toNat_misread first misread)
      unfold normalizePart replaceFirst at result
      unfold capitalized
      dsimp only at result ⊢
      rw [if_neg small] at result ⊢
      split at result
      · cases result
      · rename_i accepted
        have empty : first = '^' ∨ first = '|' := by
          simpa [misreadCharacters, accepted] using misread
        rw [if_pos empty] at result
        cases result
        simp only [List.length_append, List.length_cons]
        constructor
        · omega
        · intro short
          omega

theorem normalizeParts_length {parts : List (List Char)} {x : List Char}
    (result : normalizeParts mapping parts = .ok x) :
    (parts.flatMap (capitalized mapping)).length ≤ x.length ∧
      (x.length ≤ (parts.flatMap (capitalized mapping)).length → ∀ part ∈ parts, Literal part) := by
  induction parts generalizing x with
  | nil => exact ⟨Nat.zero_le _, fun _ part no => nomatch no⟩
  | cons part parts ih =>
    rw [normalizeParts] at result
    cases first : normalizePart mapping part with
    | error e =>
      rw [first] at result
      cases result
    | ok y =>
      cases rest : normalizeParts mapping parts with
      | error e =>
        rw [first, rest] at result
        cases result
      | ok z =>
        rw [first, rest] at result
        cases result
        obtain ⟨here, literal⟩ := normalizePart_length first
        obtain ⟨there, others⟩ := ih rest
        rw [List.flatMap_cons, List.length_append, List.length_append]
        constructor
        · omega
        · intro short
          exact List.forall_mem_cons.mpr ⟨literal (by omega), others (by omega)⟩

end Parts

theorem wrap_eq_iff (before after y : List Char) (x : Except JavaException (List Char)) :
    (do return before ++ (← x) ++ after) = Except.ok (before ++ y ++ after) ↔ x = .ok y := by
  cases x <;> simp [bind, Except.bind, pure, Except.pure]

/-- The names come out as they should exactly if no part of the name starts with a
    character that `replaceFirst` does not take literally. -/
theorem names_normalized_iff (name : List Char) : Normalized tables name ↔
    ∀ part ∈ name.splitOn '_', ∀ first ∈ part.head?, first ∉ misreadCharacters := by
  obtain ⟨empties, split, empty⟩ := javaSplit_append name
  have ends : (∀ part ∈ name.splitOn '_', Literal part) ↔ ∀ part ∈ javaSplit '_' name, Literal part := by
    rw [split]
    constructor
    · intro all part listed
      exact all part (List.mem_append_left _ listed)
    · intro all part listed
      rcases List.mem_append.mp listed with kept | dropped
      · exact all part kept
      · rw [empty part dropped]
        intro first none
        cases none
  have both : camelCase tables.toUpperCase tables.toUpperCase (name.splitOn '_') =
      (javaSplit '_' name).flatMap (capitalized tables.toUpperCase) := by
    rw [split, camelCase_append _ _ empty, camelCase_same]
  refine Iff.trans ?_ ends.symm
  constructor
  · intro normalized
    have message := normalized.message
    rw [normalizeName, wrap_eq_iff, both] at message
    exact (normalizeParts_length message).2 (le_refl _)
  · intro literal
    have parts := @normalizeParts_literal tables.toUpperCase _ literal
    refine ⟨?_, ?_, ?_⟩
    · rw [normalizeMethod, split, camelCase_append _ _ empty]
      cases components : javaSplit '_' name with
      | nil => rfl
      | cons part rest =>
        rw [components] at literal
        obtain ⟨first, later⟩ := List.forall_mem_cons.mp literal
        dsimp only
        rw [normalizePart_literal first, normalizeParts_literal later]
        rfl
    · rw [normalizeHandler, wrap_eq_iff, both]
      exact parts
    · rw [normalizeName, wrap_eq_iff, both]
      exact parts

end Normalize

def asciiTables : CharacterTables :=
  { toUpperCase := fun c => [c.toUpper]
    toLowerCase := fun c => [c.toLower]
    digit := fun c => if c.isDigit then some (c.toNat - '0'.toNat) else none }

/-- `/client/*` makes `normalizeMethod` throw. -/
theorem star_not_normalized : ¬ ∀ (tables : CharacterTables) (name : List Char), Normalized tables name := by
  intro always
  have method := (always asciiTables ['*']).method
  revert method
  decide +kernel

end MusicCloud
