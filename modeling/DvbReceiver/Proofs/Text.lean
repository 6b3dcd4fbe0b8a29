import DvbReceiver.Text.Blank
import DvbReceiver.Text.Number
import DvbReceiver.Text.Utf8
import Mathlib.Data.List.Forall2
import Mathlib.Data.List.TakeWhile
import Mathlib.Data.Nat.Digits.Defs
import Mathlib.Tactic.IntervalCases

set_option autoImplicit false

namespace DvbReceiver

namespace Text

theorem utf8?_eq_some_iff {bytes : Bytes} {text : String} :
    utf8? bytes = some text ↔ text.toUTF8.data.toList = bytes := by
  unfold utf8? String.fromUTF8?
  split
  next valid =>
    constructor
    · intro read
      cases read
      rfl
    · rintro rfl
      rfl
  next invalid =>
    constructor
    · intro read
      cases read
    · rintro rfl
      exact absurd text.isValidUTF8 invalid

structure Trimmed (text core : List Char) : Prop where
  around : ∃ front back, text = front ++ core ++ back ∧ (∀ c ∈ front, isBlank c) ∧
    ∀ c ∈ back, isBlank c
  starts : ∀ c, core.head? = some c → isBlank c = false
  ends : ∀ c, core.getLast? = some c → isBlank c = false

theorem dropWhile_blank {front rest : List Char} (blank : ∀ c ∈ front, isBlank c)
    (starts : ∀ c, rest.head? = some c → isBlank c = false) :
    (front ++ rest).dropWhile isBlank = rest := by
  rw [List.dropWhile_append_of_pos blank]
  cases rest with
  | nil => rfl
  | cons c rest => exact List.dropWhile_cons_of_neg (by simp [starts c rfl])

theorem head?_dropWhile_blank (text : List Char) (c : Char)
    (first : (text.dropWhile isBlank).head? = some c) : isBlank c = false := by
  have starts := List.head?_dropWhile_not isBlank text
  rwa [first] at starts

theorem trimmed_trim (text : List Char) : Trimmed text (trim text) := by
  let inner := text.dropWhile isBlank
  let back := (inner.reverse.takeWhile isBlank).reverse
  have front : text.takeWhile isBlank ++ inner = text := List.takeWhile_append_dropWhile
  have split : trim text ++ back = inner := by
    rw [← List.reverse_inj]
    simp [trim, trimEnd, trimStart, back, inner]
  refine ⟨⟨text.takeWhile isBlank, back, ?_, ?_, ?_⟩, fun c first => ?_, fun c last => ?_⟩
  · rw [List.append_assoc, split, front]
  · exact fun c there => List.mem_takeWhile_imp there
  · exact fun c there => List.mem_takeWhile_imp (List.mem_reverse.1 there)
  · refine head?_dropWhile_blank text c ?_
    rw [show text.dropWhile isBlank = inner from rfl, ← split, List.head?_append, first]
    rfl
  · refine head?_dropWhile_blank inner.reverse c ?_
    rwa [trim, trimEnd, List.getLast?_reverse] at last

theorem Trimmed.eq_trim {text core : List Char} (trimmed : Trimmed text core) :
    trim text = core := by
  obtain ⟨⟨front, back, rfl, before, behind⟩, starts, ends⟩ := trimmed
  have start : trimStart (front ++ core ++ back) = if core = [] then [] else core ++ back := by
    split
    next empty =>
      subst empty
      have blank : ∀ c ∈ front ++ back, isBlank c := List.forall_mem_append.2 ⟨before, behind⟩
      have none : ((front ++ back) ++ []).dropWhile isBlank = [] := dropWhile_blank blank (by simp)
      simpa [trimStart] using none
    next nonempty =>
      rw [trimStart, List.append_assoc]
      refine dropWhile_blank before fun c first => starts c ?_
      rwa [List.head?_append_of_ne_nil _ nonempty] at first
  rw [trim, start]
  split
  next empty => rw [empty]; rfl
  next =>
    rw [trimEnd, List.reverse_append, dropWhile_blank (by simpa using behind), List.reverse_reverse]
    exact fun c last => ends c (by rwa [List.head?_reverse] at last)

theorem trimmed_iff {text core : List Char} : Trimmed text core ↔ trim text = core :=
  ⟨Trimmed.eq_trim, fun same => same ▸ trimmed_trim text⟩

end Text

namespace Number

def IsDigit (radix : Nat) (c : Char) (d : Nat) : Prop :=
  d < radix ∧ ("0123456789abcdefghijklmnopqrstuvwxyz".toList[d]? = some c ∨
    "0123456789ABCDEFGHIJKLMNOPQRSTUVWXYZ".toList[d]? = some c)

theorem value_of_digit? {radix d : Nat} {c : Char} (read : digit? radix c = some d) :
    d < radix ∧ ((48 ≤ c.toNat ∧ c.toNat ≤ 57 ∧ d = c.toNat - 48) ∨
      (97 ≤ c.toNat ∧ c.toNat ≤ 122 ∧ d = c.toNat - 87) ∨
      (65 ≤ c.toNat ∧ c.toNat ≤ 90 ∧ d = c.toNat - 55)) := by
  unfold digit? at read
  dsimp only at read
  have le (a b : Char) : a ≤ b ↔ a.toNat ≤ b.toNat := Iff.rfl
  simp only [le] at read
  split_ifs at read <;> simp_all

theorem isDigit_of_digit? {radix d : Nat} {c : Char} (read : digit? radix c = some d) :
    IsDigit radix c d := by
  obtain ⟨within, value⟩ := value_of_digit? read
  refine ⟨within, ?_⟩
  rw [← Char.ofNat_toNat c]
  generalize c.toNat = n at value
  obtain ⟨low, high, rfl⟩ | ⟨low, high, rfl⟩ | ⟨low, high, rfl⟩ := value
  next => interval_cases n <;> decide
  next => interval_cases n <;> decide
  next => interval_cases n <;> decide

theorem digit?_of_place {d : Nat} (bound : d < 36) {c : Char}
    (place : "0123456789abcdefghijklmnopqrstuvwxyz".toList[d]? = some c ∨
      "0123456789ABCDEFGHIJKLMNOPQRSTUVWXYZ".toList[d]? = some c) : digit? 36 c = some d := by
  have small : ∀ d < 36, ("0123456789abcdefghijklmnopqrstuvwxyz".toList[d]?).bind (digit? 36) =
      some d := by decide
  have large : ∀ d < 36, ("0123456789ABCDEFGHIJKLMNOPQRSTUVWXYZ".toList[d]?).bind (digit? 36) =
      some d := by decide
  obtain place | place := place
  next =>
    have read := small d bound
    rwa [place] at read
  next =>
    have read := large d bound
    rwa [place] at read

theorem digit?_of_lt {radix d : Nat} (within : d < radix) {c : Char}
    (read : digit? 36 c = some d) : digit? radix c = some d := by
  unfold digit? at read ⊢
  dsimp only at read ⊢
  split_ifs at read ⊢ <;> simp_all <;> omega

theorem digit?_eq_some_iff {radix : Nat} (small : radix ≤ 36) (c : Char) (d : Nat) :
    digit? radix c = some d ↔ IsDigit radix c d := by
  refine ⟨isDigit_of_digit?, fun ⟨within, place⟩ => digit?_of_lt within ?_⟩
  exact digit?_of_place (Nat.lt_of_lt_of_le within small) place

/-- One or more digits with perhaps a plus sign in front. -/
def Numeral (radix : Nat) (text : List Char) (value : Nat) : Prop :=
  ∃ sign digits values, text = sign ++ digits ∧ (sign = [] ∨ sign = ['+']) ∧ digits ≠ [] ∧
    List.Forall₂ (IsDigit radix) digits values ∧ value = Nat.ofDigits radix values.reverse

def Continues (radix start : Nat) (digits : List Char) (value : Nat) : Prop :=
  ∃ values, List.Forall₂ (IsDigit radix) digits values ∧
    value = values.foldl (fun n d => n * radix + d) start

variable {radix limit start value : Nat}

theorem continues_nil : Continues radix start [] value ↔ value = start := by
  constructor
  · rintro ⟨values, digits, rfl⟩
    cases digits
    rfl
  · exact fun same => ⟨[], .nil, same⟩

theorem continues_cons {c : Char} {rest : List Char} :
    Continues radix start (c :: rest) value ↔
      ∃ d, IsDigit radix c d ∧ Continues radix (start * radix + d) rest value := by
  constructor
  · rintro ⟨values, digits, rfl⟩
    obtain ⟨d, values, digit, others, rfl⟩ := List.forall₂_cons_left_iff.1 digits
    exact ⟨d, digit, values, others, rfl⟩
  · rintro ⟨d, digit, values, digits, rfl⟩
    exact ⟨d :: values, .cons digit digits, rfl⟩

theorem Continues.start_le {digits : List Char} (positive : 0 < radix)
    (continues : Continues radix start digits value) : start ≤ value := by
  induction digits generalizing start with
  | nil => exact (continues_nil.1 continues).ge
  | cons c rest ih =>
    obtain ⟨d, -, later⟩ := continues_cons.1 continues
    calc start ≤ start * radix := Nat.le_mul_of_pos_right start positive
      _ ≤ start * radix + d := Nat.le_add_right ..
      _ ≤ value := ih later

theorem IsDigit.unique (small : radix ≤ 36) {c : Char} {d d' : Nat} (one : IsDigit radix c d)
    (other : IsDigit radix c d') : d = d' := by
  rw [← digit?_eq_some_iff small] at one other
  exact Option.some_inj.1 (one.symm.trans other)

theorem readDigits_ok_iff (small : radix ≤ 36) (within : start ≤ limit) (text : List Char) :
    readDigits radix limit start text = .ok value ↔
      Continues radix start text value ∧ value ≤ limit := by
  induction text generalizing start with
  | nil =>
    rw [readDigits, continues_nil, Except.ok.injEq]
    exact ⟨fun same => ⟨same.symm, same ▸ within⟩, fun ⟨same, _⟩ => same.symm⟩
  | cons c rest ih =>
    rw [readDigits, continues_cons]
    cases read : digit? radix c with
    | none =>
      refine iff_of_false (by simp) fun ⟨⟨d, digit, _⟩, _⟩ => ?_
      rw [(digit?_eq_some_iff small c d).2 digit] at read
      cases read
    | some d =>
      have digit := (digit?_eq_some_iff small c d).1 read
      have only : (∃ d, IsDigit radix c d ∧ Continues radix (start * radix + d) rest value) ↔
          Continues radix (start * radix + d) rest value :=
        ⟨fun ⟨d', digit', later⟩ => digit'.unique small digit ▸ later, fun later => ⟨d, digit, later⟩⟩
      rw [only]
      dsimp only
      split
      next large =>
        refine iff_of_false (by simp) fun ⟨later, low⟩ => ?_
        -- The value only grows, so that it would end up above the limit as well.
        have high := later.start_le (Nat.zero_lt_of_lt digit.1)
        omega
      next fits => exact ih (by omega)

theorem continues_zero_iff {digits : List Char} :
    Continues radix 0 digits value ↔
      ∃ values, List.Forall₂ (IsDigit radix) digits values ∧
        value = Nat.ofDigits radix values.reverse := by
  have turned (values : List Nat) :
      values.foldl (fun n d => n * radix + d) 0 = Nat.ofDigits radix values.reverse := by
    rw [Nat.ofDigits_eq_foldr, List.foldr_reverse]
    congr
    funext n d
    rw [Nat.cast_id, Nat.mul_comm, Nat.add_comm]
  simp only [Continues, turned]

theorem numeral_iff {text : List Char} :
    Numeral radix text value ↔
      ∃ sign digits, text = sign ++ digits ∧ (sign = [] ∨ sign = ['+']) ∧ digits ≠ [] ∧
        Continues radix 0 digits value := by
  simp only [Numeral, continues_zero_iff, exists_and_left]

theorem not_isDigit_plus (small : radix ≤ 36) (d : Nat) : ¬IsDigit radix '+' d := by
  rw [← digit?_eq_some_iff small]
  simp [digit?]

theorem numeral_plus (small : radix ≤ 36) {rest : List Char} :
    Numeral radix ('+' :: rest) value ↔ rest ≠ [] ∧ Continues radix 0 rest value := by
  rw [numeral_iff]
  constructor
  · rintro ⟨sign, digits, split, rfl | rfl, nonempty, continues⟩
    · rw [List.nil_append] at split
      obtain ⟨d, digit, -⟩ := continues_cons.1 (split ▸ continues)
      exact absurd digit (not_isDigit_plus small d)
    · cases split
      exact ⟨nonempty, continues⟩
  · exact fun ⟨nonempty, continues⟩ => ⟨['+'], rest, rfl, .inr rfl, nonempty, continues⟩

theorem numeral_plain {text : List Char} (plain : ∀ rest, text ≠ '+' :: rest) :
    Numeral radix text value ↔ text ≠ [] ∧ Continues radix 0 text value := by
  rw [numeral_iff]
  constructor
  · rintro ⟨sign, digits, rfl, rfl | rfl, nonempty, continues⟩
    · exact ⟨nonempty, continues⟩
    · exact absurd rfl (plain digits)
  · exact fun ⟨nonempty, continues⟩ => ⟨[], text, rfl, .inl rfl, nonempty, continues⟩

theorem read_ok_iff (small : radix ≤ 36) (text : List Char) :
    read radix limit text = .ok value ↔ Numeral radix text value ∧ value ≤ limit := by
  unfold read
  split
  next =>
    rw [numeral_plain (by simp)]
    exact iff_of_false (by simp) (by simp)
  next =>
    rw [numeral_plus small]
    exact iff_of_false (by simp) (by simp)
  next rest more =>
    have nonempty : rest ≠ [] := fun none => more (none ▸ rfl)
    rw [numeral_plus small, readDigits_ok_iff small (Nat.zero_le _)]
    simp [nonempty]
  next empty _ plain =>
    have nonempty : text ≠ [] := empty
    rw [numeral_plain plain, readDigits_ok_iff small (Nat.zero_le _)]
    simp [nonempty]

end Number

end DvbReceiver
