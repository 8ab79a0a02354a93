import MusicCloud.DeviceRuns

/-!
The login screen of the app (`LoginViewController`). The field for the pin takes digits only,
and four of them at most; the server gets the number that they spell. A number forgets the
zeros in front, but of the texts that fit the field only one spells the number of the pin.
-/
namespace MusicCloud
open Dispatch Server Runs

section Field

abbrev Units := List UInt16

def unichars (s : String) : Units :=
  s.toList.flatMap fun c =>
    if c.toNat < 0x10000 then [c.toNat.toUInt16]
    else [(0xD800 + (c.toNat - 0x10000) / 0x400).toUInt16, (0xDC00 + (c.toNat - 0x10000) % 0x400).toUInt16]

def MAX_PIN_LENGTH : Nat := 4

structure Edit where
  location : Nat
  length : Nat
  string : Units

def stringByReplacingCharactersInRange (text : Units) (e : Edit) : Option Units :=
  if e.location + e.length ≤ text.length then
    some (text.take e.location ++ e.string ++ text.drop (e.location + e.length))
  else none

def shouldChangeCharactersInRange (text : Units) (e : Edit) : Option Bool :=
  (stringByReplacingCharactersInRange text e).map fun changed =>
    if changed.length > MAX_PIN_LENGTH then false
    else e.string.all fun c => c ∈ unichars "0123456789"

def edited (text : Units) (e : Edit) : Units :=
  match shouldChangeCharactersInRange text e, stringByReplacingCharactersInRange text e with
  | some true, some changed => changed
  | _, _ => text

def isDigit (c : UInt16) : Bool := 48 ≤ c.toNat && c.toNat ≤ 57

def digitValue (c : UInt16) : Nat := c.toNat - 48

def isSpace (c : UInt16) : Bool := c.toNat = 32 || (9 ≤ c.toNat && c.toNat ≤ 13)

def spelled (digits : Units) : Nat := digits.foldl (fun n c => 10 * n + digitValue c) 0

/-- Spaces in front are skipped; a number that is too big becomes the biggest. -/
def Units.integerValue (text : Units) : Int :=
  let text := text.dropWhile isSpace
  let minus := text.head? = some 45
  let rest := if minus || text.head? = some 43 then text.tail else text
  let n : Int := spelled (rest.takeWhile isDigit)
  if minus then max (-n) (-2 ^ 63) else min n (2 ^ 63 - 1)

def enterPressed (pin : Units) : Option ClientRequest :=
  if pin.length > 0 then some (.authenticateClient (Units.integerValue pin)) else none

end Field

section Pins

structure PinText where
  units : Units
  short : units.length ≤ MAX_PIN_LENGTH
  digits : ∀ c ∈ units, isDigit c = true

theorem unichars_numbers : unichars "0123456789" = [48, 49, 50, 51, 52, 53, 54, 55, 56, 57] := by
  decide +kernel

theorem isDigit_of_number {c : UInt16} (number : c ∈ unichars "0123456789") : isDigit c = true := by
  rw [unichars_numbers] at number
  exact List.all_eq_true.mp (by decide : [48, 49, 50, 51, 52, 53, 54, 55, 56, 57].all isDigit = true) c number

theorem edited_cases (text : Units) (e : Edit) :
    edited text e = text ∨
      (e.location + e.length ≤ text.length ∧
        edited text e = text.take e.location ++ e.string ++ text.drop (e.location + e.length) ∧
        (edited text e).length ≤ MAX_PIN_LENGTH ∧ ∀ c ∈ e.string, isDigit c = true) := by
  unfold edited shouldChangeCharactersInRange stringByReplacingCharactersInRange
  by_cases inside : e.location + e.length ≤ text.length
  · rw [if_pos inside, Option.map_some]
    by_cases long : (text.take e.location ++ e.string ++ text.drop (e.location + e.length)).length >
        MAX_PIN_LENGTH
    · rw [if_pos long]
      exact .inl rfl
    · rw [if_neg long]
      cases numbers : e.string.all fun c => c ∈ unichars "0123456789" with
      | false => exact .inl rfl
      | true =>
        refine .inr ⟨inside, rfl, Nat.le_of_not_gt long, fun c there => isDigit_of_number ?_⟩
        exact of_decide_eq_true (List.all_eq_true.mp numbers c there)
  · rw [if_neg inside]
    exact .inl rfl

theorem digit_bounds {c : UInt16} (digit : isDigit c = true) : 48 ≤ c.toNat ∧ c.toNat ≤ 57 := by
  unfold isDigit at digit
  simpa using digit

theorem spelled_concat (digits : Units) (d : UInt16) :
    spelled (digits ++ [d]) = 10 * spelled digits + digitValue d := by
  unfold spelled
  rw [List.foldl_append, List.foldl_cons, List.foldl_nil]

theorem spelled_lt {digits : Units} : (∀ c ∈ digits, isDigit c = true) →
    spelled digits < 10 ^ digits.length := by
  induction digits using List.reverseRecOn with
  | nil => exact fun _ => by decide
  | append_singleton digits d ih =>
    intro all
    have front := ih fun c there => all c (List.mem_append_left [d] there)
    have last := digit_bounds (all d (List.mem_append_right digits (List.mem_singleton.mpr rfl)))
    rw [spelled_concat, List.length_append, List.length_singleton, pow_succ]
    unfold digitValue
    omega

theorem spelled_inj {digits other : Units} : (∀ c ∈ digits, isDigit c = true) →
    (∀ c ∈ other, isDigit c = true) → digits.length = other.length →
    spelled digits = spelled other → digits = other := by
  induction digits using List.reverseRecOn generalizing other with
  | nil => exact fun _ _ long _ => (List.length_eq_zero_iff.mp long.symm).symm
  | append_singleton digits d ih =>
    intro all all' long same
    rcases List.eq_nil_or_concat' other with rfl | ⟨other, d', rfl⟩
    · simp at long
    · have last := digit_bounds (all d (List.mem_append_right digits (List.mem_singleton.mpr rfl)))
      have last' := digit_bounds (all' d' (List.mem_append_right other (List.mem_singleton.mpr rfl)))
      rw [spelled_concat, spelled_concat] at same
      simp only [List.length_append, List.length_singleton, Nat.add_right_cancel_iff] at long
      unfold digitValue at same
      have units : d.toNat = d'.toNat := by omega
      have rest : spelled digits = spelled other := by omega
      rw [ih (fun c there => all c (List.mem_append_left [d] there))
        (fun c there => all' c (List.mem_append_left [d'] there)) long rest, UInt16.toNat_inj.mp units]

namespace PinText

def empty : PinText := ⟨[], by decide, by simp⟩

def edit (p : PinText) (e : Edit) : PinText where
  units := edited p.units e
  short := by
    rcases edited_cases p.units e with same | ⟨-, -, short, -⟩
    · rw [same]
      exact p.short
    · exact short
  digits := by
    rcases edited_cases p.units e with same | ⟨-, changed, -, digits⟩
    · rw [same]
      exact p.digits
    · intro c there
      rw [changed] at there
      rcases List.mem_append.mp there with there | back
      · rcases List.mem_append.mp there with front | new
        · exact p.digits c (List.mem_of_mem_take front)
        · exact digits c new
      · exact p.digits c (List.mem_of_mem_drop back)

theorem spelled_small (p : PinText) : spelled p.units < 10 ^ 4 :=
  lt_of_lt_of_le (spelled_lt p.digits) (Nat.pow_le_pow_right (by decide) p.short)

theorem integerValue_eq (p : PinText) : Units.integerValue p.units = spelled p.units := by
  have small := p.spelled_small
  have whole : p.units.takeWhile isDigit = p.units := List.takeWhile_eq_self_iff.mpr p.digits
  unfold Units.integerValue
  cases text : p.units with
  | nil => rfl
  | cons c rest =>
    have first := digit_bounds (p.digits c (text ▸ List.mem_cons_self))
    have space : isSpace c = false := by
      simp [isSpace]
      omega
    have minus : ¬ c = 45 := fun same => by
      rw [same] at first
      exact absurd first.1 (by decide)
    have plus : ¬ c = 43 := fun same => by
      rw [same] at first
      exact absurd first.1 (by decide)
    rw [text] at small whole
    rw [List.dropWhile_cons_of_neg (by simp [space])]
    simp only [List.head?_cons, Option.some.injEq, minus, plus, decide_false, Bool.or_false,
      Bool.false_eq_true, if_false, whole]
    omega

theorem spelled_pin (p : PinText) : spelled p.units = 1234 ↔ p.units = unichars "1234" := by
  have pin : unichars "1234" = [49, 50, 51, 52] := by decide +kernel
  constructor
  · intro same
    have bound := spelled_lt p.digits
    have long : p.units.length = 4 := by
      by_contra other
      have shorter : p.units.length ≤ 3 := by
        have := p.short
        unfold MAX_PIN_LENGTH at this
        omega
      have small : 10 ^ p.units.length ≤ 10 ^ 3 := Nat.pow_le_pow_right (by decide) shorter
      omega
    rw [pin]
    have digits : [49, 50, 51, 52].all isDigit = true := by decide
    exact spelled_inj p.digits (List.all_eq_true.mp digits) long (by rw [same]; rfl)
  · intro same
    rw [same, pin]
    rfl

end PinText

end Pins

section Login

inductive LoginEvent where
  | viewWillAppear
  | edits (e : Edit)
  | presses
  /-- A request of the screen gets to the server. -/
  | arrives (i : Nat) (ch : Channel)
  | calls (c : Call)

structure LoginScreen where
  text : Units
  sent : List ClientRequest
  server : Server
  answers : List (List Response)

namespace LoginScreen

def start (server : Server) : LoginScreen := { text := [], sent := [], server, answers := [] }

def step (lib : Libraries) (ip : String) (w : LoginScreen) : LoginEvent → LoginScreen
  | .viewWillAppear => { w with text := [] }
  | .edits e => { w with text := edited w.text e }
  | .presses => { w with sent := w.sent ++ (enterPressed w.text).toList }
  | .arrives i ch =>
    match w.sent[i]? with
    | some r =>
      let c := finalState (dispatchRequest lib (r.http 0 ip ch) (fresh w.server))
      { w with sent := w.sent.eraseIdx i, server := c.server, answers := w.answers ++ [c.responses] }
    | none => w
  | .calls c => { w with server := w.server.call c }

end LoginScreen

/-- What the screen is for: a text of the field lets its user in, or not. -/
structure Door where
  text : PinText
  sent : List PinText
  server : Server
  answers : List (List Response)

namespace Door

def start (server : Server) : Door := { text := .empty, sent := [], server, answers := [] }

def tried (ip : String) (d : Door) (pin : PinText) : Door :=
  if pin.units = unichars "1234" then
    { d with server := d.server.joined ip .User
             answers := d.answers ++ [[.session (d.server.db.sessionSequence + 1)]] }
  else { d with answers := d.answers ++ [[.error .FORBIDDEN]] }

def step (ip : String) (d : Door) : LoginEvent → Door
  | .viewWillAppear => { d with text := .empty }
  | .edits e => { d with text := d.text.edit e }
  | .presses => if d.text.units = [] then d else { d with sent := d.sent ++ [d.text] }
  | .arrives i _ =>
    match d.sent[i]? with
    | some pin => tried ip { d with sent := d.sent.eraseIdx i } pin
    | none => d
  | .calls c => { d with server := d.server.call c }

def screen (d : Door) : LoginScreen where
  text := d.text.units
  sent := d.sent.map fun pin => .authenticateClient (Units.integerValue pin.units)
  server := d.server
  answers := d.answers

theorem authenticatePin_long {lib : Libraries} (expected : Expected lib) {n : Int} (fits : FitsLong n) :
    authenticatePin (toString n) = true ↔ n = 1234 := by
  unfold authenticatePin
  rw [beq_iff_eq]
  constructor
  · intro same
    have parsed := parseLong_toString expected fits
    have pin : parseLong lib.tables (toString (1234 : Int)).toList = some 1234 :=
      parseLong_toString expected ⟨by decide, by decide⟩
    rw [same] at parsed
    exact Option.some.inj (parsed.symm.trans pin)
  · intro same
    rw [same]
    rfl

theorem asked_pin {lib : Libraries} (expected : Expected lib) (s : Server) (ip : String) (ch : Channel)
    (pin : PinText) :
    finalState (dispatchRequest lib
        ((ClientRequest.authenticateClient (Units.integerValue pin.units)).http 0 ip ch) (fresh s)) =
      if pin.units = unichars "1234" then
        { server := s.joined ip .User, responses := [.session (s.db.sessionSequence + 1)] }
      else { server := s, responses := [.error .FORBIDDEN] } := by
  have small := pin.spelled_small
  have long : FitsLong (Units.integerValue pin.units) := by
    rw [pin.integerValue_eq]
    exact ⟨by omega, by omega⟩
  have zero : FitsLong 0 := ⟨by decide, by decide⟩
  have dispatched := client_dispatched expected zero ip ch
    (show (ClientRequest.authenticateClient (Units.integerValue pin.units)).Fits from long)
  have accepted : authenticatePin (toString (Units.integerValue pin.units)) = true ↔
      pin.units = unichars "1234" := by
    rw [authenticatePin_long expected long, pin.integerValue_eq, ← pin.spelled_pin]
    omega
  have answered : handle ip (.clientAuthenticate (some (toString (Units.integerValue pin.units)))) s =
      clientAuthenticate (some (toString (Units.integerValue pin.units))) ip s := rfl
  rw [finalState_handled dispatched, serve, answered, clientAuthenticate_apply]
  dsimp only
  by_cases right : pin.units = unichars "1234"
  · rw [if_pos (accepted.mpr right), if_pos right]
    rfl
  · rw [if_neg fun taken => right (accepted.mp taken), if_neg right]
    rfl

theorem screen_step {lib : Libraries} (expected : Expected lib) (ip : String) (d : Door)
    (e : LoginEvent) : d.screen.step lib ip e = (d.step ip e).screen := by
  cases e with
  | viewWillAppear => rfl
  | edits e => rfl
  | calls c => rfl
  | presses =>
    unfold LoginScreen.step step enterPressed
    by_cases none : d.text.units = []
    · rw [if_pos none]
      simp [screen, none]
    · have some : d.text.units.length > 0 := List.length_pos_iff.mpr none
      rw [if_neg none]
      simp [screen, some]
  | arrives i ch =>
    unfold LoginScreen.step step
    cases found : d.sent[i]? with
    | none => simp [screen, found]
    | some pin =>
      have sent : d.screen.sent[i]? = some (.authenticateClient (Units.integerValue pin.units)) := by
        simp [screen, found]
      have rest : d.screen.sent.eraseIdx i =
          (d.sent.eraseIdx i).map fun pin => .authenticateClient (Units.integerValue pin.units) :=
        List.eraseIdx_map _ _ _
      have asked := asked_pin expected d.screen.server ip ch pin
      dsimp only
      rw [sent, found]
      dsimp only
      rw [asked, rest]
      unfold tried
      by_cases right : pin.units = unichars "1234"
      · rw [if_pos right, if_pos right]
        rfl
      · rw [if_neg right, if_neg right]
        rfl

end Door

/-- Whatever is typed, and in whatever order the requests arrive: the server lets in those who
    pressed the button on the pin, and nobody else changes it. -/
theorem only_pin_lets_in (lib : Libraries) (expected : Expected lib) (s : Server) (ip : String)
    (events : List LoginEvent) :
    run (LoginScreen.step lib ip) (.start s) events = (run (Door.step ip) (.start s) events).screen := by
  have same := run_coded (Door.step ip) (LoginScreen.step lib ip) Door.screen id (fun _ => True)
    (fun _ _ _ => trivial) (fun d e _ => Door.screen_step expected ip d e) events (.start s) trivial
  rw [List.map_id] at same
  exact same

def typedEvents : List LoginEvent :=
  [.edits { location := 0, length := 0, string := unichars "0123" }, .presses,
    .edits { location := 0, length := 1, string := [] },
    .edits { location := 3, length := 0, string := unichars "4" },
    .edits { location := 4, length := 0, string := unichars "5" }, .presses,
    .arrives 1 7, .arrives 0 8]

theorem typed_pin_lets_in :
    (run (LoginScreen.step plainLibraries "10.0.0.2") (.start (.start twoSongs 0)) typedEvents).answers =
      [[.session 1], [.error .FORBIDDEN]] := by
  rw [only_pin_lets_in plainLibraries expected_plain (.start twoSongs 0) "10.0.0.2" typedEvents]
  decide +kernel

end Login

end MusicCloud
