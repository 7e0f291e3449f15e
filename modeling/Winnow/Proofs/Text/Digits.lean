import Winnow.Number.Numeral
import Winnow.Number.Power
import Winnow.Proofs.Text.Trim
import Winnow.Text.Quoted
import Mathlib.Algebra.Group.Nat.Defs

/-!
# Winnow.Proofs.Text.Digits — digits in text and the numbers they spell

What the writers of numbers put down and what the readers make of it: the decimal digits of a
natural number spell it (`digitsValue_natChars`), with leading zeros as well (`digitsValue_padded`),
and a run of digits that is read with underscores allowed has the same value (`readGrouped_digits`).
Padded to a width that suffices, a number takes exactly this width (`length_padded`). The
hexadecimal digits of a number within the width spell it, too (`readGrouped_hexDigits`).
-/

namespace Winnow.Text

open Winnow.Number (pow10 digitsValue readGrouped hexValue?)

/-! ## Decimal digits -/

theorem isDigit_iff {c : Char} : c.isDigit = true ↔ 48 ≤ c.toNat ∧ c.toNat ≤ 57 := by
  have hDigit : c.isDigit = true ↔ 48 ≤ c.val ∧ c.val ≤ 57 :=
    Bool.and_eq_true_iff.trans (and_congr decide_eq_true_iff decide_eq_true_iff)
  exact hDigit.trans (and_congr UInt32.le_iff_toNat_le UInt32.le_iff_toNat_le)

/-- There are ten digits. -/
theorem isDigit_cases {motive : Char → Prop} (h : ∀ d < 10, motive (Nat.digitChar d)) {c : Char}
    (hc : c.isDigit) : motive c := by
  obtain ⟨hLow, hHigh⟩ := isDigit_iff.mp hc
  have : c = Nat.digitChar (c.toNat - 48) := by
    apply Char.toNat_inj.mp
    rw [Nat.toNat_digitChar_of_lt_ten (by omega)]
    omega
  rw [this]
  exact h _ (by omega)

theorem isDigit_of_mem_natChars {n : Nat} {c : Char} (h : c ∈ natChars n) : c.isDigit :=
  Nat.isDigit_of_mem_toDigits (by decide) (by decide) h

theorem natChars_ne_nil (n : Nat) : natChars n ≠ [] := Nat.toDigits_ne_nil

theorem digitsValue_eq_ofDigitChars (cs : List Char) :
    digitsValue cs = Nat.ofDigitChars 10 cs 0 := by
  simp only [digitsValue, Nat.ofDigitChars_eq_foldl, Nat.mul_comm 10]
  rfl

/-- The digits of a number spell it. -/
theorem digitsValue_natChars (n : Nat) : digitsValue (natChars n) = n := by
  rw [digitsValue_eq_ofDigitChars, natChars, Nat.ofDigitChars_ten_toDigits]

/-- Leading zeros do not count. -/
theorem digitsValue_replicate_append (k : Nat) (cs : List Char) :
    digitsValue (List.replicate k '0' ++ cs) = digitsValue cs := by
  simp [digitsValue_eq_ofDigitChars, Nat.ofDigitChars_append, Nat.ofDigitChars_replicate_zero]

theorem toList_paddedNat (width n : Nat) :
    (paddedNat width n).toList =
      List.replicate (width - (natChars n).length) '0' ++ natChars n := by
  simp [paddedNat]

theorem isDigit_of_mem_padded {width n : Nat} {c : Char} (h : c ∈ (paddedNat width n).toList) :
    c.isDigit := by
  rw [toList_paddedNat, List.mem_append] at h
  rcases h with h | h
  · rw [List.eq_of_mem_replicate h]; decide
  · exact isDigit_of_mem_natChars h

theorem digitsValue_padded (width n : Nat) : digitsValue (paddedNat width n).toList = n := by
  rw [toList_paddedNat, digitsValue_replicate_append, digitsValue_natChars]

/-- A number that fits is written in exactly so many digits. -/
theorem length_padded {width n : Nat} (hw : 0 < width) (h : n < pow10 width) :
    (paddedNat width n).toList.length = width := by
  have hn : (natChars n).length ≤ width := (Nat.length_toDigits_le_iff (by decide) hw).mpr h
  rw [toList_paddedNat, List.length_append, List.length_replicate]
  omega

/-! ## Runs of digits with a reader of single digits -/

theorem digitValue?_of_isDigit {c : Char} (h : c.isDigit) : digitValue? c = some (c.toNat - 48) := by
  have hc := isDigit_iff.mp h
  rw [digitValue?, if_pos (by omega), if_pos h]

theorem ne_underscore_of_isDigit {c : Char} (h : c.isDigit) : c ≠ '_' := by
  rintro rfl
  exact absurd h (by decide)

/-- A nonempty run without underscores is read digit by digit. -/
theorem readGrouped_eq_foldl {digit? : Char → Option Nat} {value : Char → Nat} {base : Nat}
    {cs : List Char} (h : ∀ c ∈ cs, c ≠ '_' ∧ digit? c = some (value c)) (acc : Nat) :
    readGrouped digit? base acc true cs = some (cs.foldl (fun n c => n * base + value c) acc) := by
  induction cs generalizing acc with
  | nil => rfl
  | cons c cs ih =>
    obtain ⟨hc, hd⟩ := h c (by simp)
    rw [readGrouped, if_neg (by simpa using hc), hd]
    exact ih (fun x hx => h x (List.mem_cons_of_mem c hx)) _

theorem readGrouped_start {digit? : Char → Option Nat} {base acc : Nat} {cs : List Char}
    (h : ∀ c ∈ cs.head?, c ≠ '_') (hne : cs ≠ []) :
    readGrouped digit? base acc false cs = readGrouped digit? base acc true cs := by
  cases cs with
  | nil => exact absurd rfl hne
  | cons c cs =>
    have hc : (c == '_') = false := by simpa using h c rfl
    simp [readGrouped, hc]

/-- A nonempty run of ASCII digits has the value of its digits. -/
theorem readGrouped_digits {cs : List Char} (h : ∀ c ∈ cs, c.isDigit) (hne : cs ≠ []) :
    readGrouped digitValue? 10 0 false cs = some (digitsValue cs) := by
  rw [readGrouped_start (fun c hc => ne_underscore_of_isDigit (h c (List.mem_of_mem_head? hc))) hne]
  exact readGrouped_eq_foldl
    (fun c hc => ⟨ne_underscore_of_isDigit (h c hc), digitValue?_of_isDigit (h c hc)⟩) 0

/-! ## Hexadecimal digits -/

/-- The value of a hexadecimal digit; zero for other characters. -/
def hexValue (c : Char) : Nat := (hexValue? c).getD 0

/-- The sixteen digits are none of the marks that a reader of identifiers takes apart. -/
theorem digitChar_not_mem_marks : ∀ d < 16,
    Nat.digitChar d ∉ ['_', '-', '+', ':', 'x', 'X', '\x7b', '\x7d'] := by
  decide

theorem isBlank_digitChar : ∀ d < 16, isBlank (Nat.digitChar d) = false := by
  decide

theorem hexValue?_digitChar : ∀ d < 16, hexValue? (Nat.digitChar d) = some d := by
  decide

theorem mem_hexDigits {width n : Nat} {c : Char} (h : c ∈ hexDigits width n) :
    ∃ d < 16, c = Nat.digitChar d := by
  induction width generalizing n with
  | zero => simp [hexDigits] at h
  | succ width ih =>
    rcases List.mem_append.mp h with h | h
    · exact ih h
    · exact ⟨n % 16, Nat.mod_lt n (by decide), by simpa using h⟩

@[simp] theorem length_hexDigits (width n : Nat) : (hexDigits width n).length = width := by
  induction width generalizing n with
  | zero => rfl
  | succ width ih => simp [hexDigits, ih]

/-- The digits of a number within the width spell it. -/
theorem foldl_hexDigits {width n : Nat} (h : n < 16 ^ width) :
    (hexDigits width n).foldl (fun v c => v * 16 + hexValue c) 0 = n := by
  induction width generalizing n with
  | zero =>
    have : n = 0 := by simpa using h
    simp [hexDigits, this]
  | succ width ih =>
    have hd : hexValue (Nat.digitChar (n % 16)) = n % 16 := by
      rw [hexValue, hexValue?_digitChar _ (Nat.mod_lt n (by decide))]
      rfl
    -- the digits before the last one spell the quotient
    have hq : n / 16 < 16 ^ width := Nat.div_lt_of_lt_mul (by rwa [Nat.pow_succ'] at h)
    rw [hexDigits, List.foldl_append, ih hq, List.foldl_cons, List.foldl_nil, hd]
    omega

theorem readGrouped_hexDigits {width n : Nat} (hw : 0 < width) (h : n < 16 ^ width) :
    readGrouped hexValue? 16 0 false (hexDigits width n) = some n := by
  have hFacts : ∀ c ∈ hexDigits width n, c ≠ '_' ∧ hexValue? c = some (hexValue c) := by
    intro c hc
    obtain ⟨d, hd, rfl⟩ := mem_hexDigits hc
    have hMarks := digitChar_not_mem_marks d hd
    exact ⟨fun h => hMarks (by simp [h]), by rw [hexValue, hexValue?_digitChar d hd]; rfl⟩
  have hne : hexDigits width n ≠ [] := List.ne_nil_of_length_pos (by simpa using hw)
  rw [readGrouped_start (fun c hc => (hFacts c (List.mem_of_mem_head? hc)).1) hne,
    readGrouped_eq_foldl hFacts, foldl_hexDigits h]

end Winnow.Text
