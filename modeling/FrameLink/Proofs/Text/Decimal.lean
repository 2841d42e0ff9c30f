import Mathlib
import FrameLink.Text.Numeral
/-!
What decimal numerals spell. A numeral may have a plus sign and leading zeros; the reader takes exactly the
numerals of numbers up to its bound. The usual spelling of a number is the one with neither.
-/

namespace FrameLink.Numeral

/-- Digits, one at least, leading zeros among them. -/
def IsDecimal (cs : List Char) (n : Nat) : Prop :=
  cs ≠ [] ∧ (∀ c ∈ cs, c.isDigit = true) ∧ Nat.ofDigitChars 10 cs 0 = n

/-- Digits by themselves or behind a plus sign. -/
def Spells (text : String) (n : Nat) : Prop :=
  IsDecimal text.toList n ∨ ∃ digits, text.toList = '+' :: digits ∧ IsDecimal digits n

theorem digit?_eq_some {c : Char} {d : Nat} :
    digit? c = some d ↔ c.isDigit = true ∧ d = c.toNat - '0'.toNat := by
  have same : ('0' ≤ c ∧ c ≤ '9') ↔ c.isDigit = true := by
    simp [Char.isDigit, Char.le_def]
  unfold digit?
  split
  next within =>
    rw [Option.some_inj, eq_comm]
    exact (and_iff_right (same.mp within)).symm
  next beyond =>
    have other := mt same.mpr beyond
    simp [other]

theorem isSome_digit? {c : Char} : (digit? c).isSome = c.isDigit := by
  rw [Bool.eq_iff_iff, Option.isSome_iff_exists]
  constructor
  · rintro ⟨d, found⟩
    exact (digit?_eq_some.mp found).1
  · intro digit
    exact ⟨_, digit?_eq_some.mpr ⟨digit, rfl⟩⟩

theorem le_ofDigitChars (cs : List Char) (start : Nat) : start ≤ Nat.ofDigitChars 10 cs start := by
  induction cs generalizing start with
  | nil => exact le_refl _
  | cons c cs ih =>
    rw [Nat.ofDigitChars_cons]
    have later := ih (10 * start + (c.toNat - '0'.toNat))
    omega

/-- The bound is looked at after each digit. The number only grows, so that is to look at it in the end. -/
theorem digitsUpTo_eq_ok {top start n : Nat} {excess : Fault} {cs : List Char} (below : start ≤ top) :
    digitsUpTo top excess start cs = .ok n ↔
      (∀ c ∈ cs, c.isDigit = true) ∧ Nat.ofDigitChars 10 cs start = n ∧ n ≤ top := by
  induction cs generalizing start with
  | nil =>
    simp only [digitsUpTo, Except.ok.injEq, Nat.ofDigitChars_nil, List.not_mem_nil, false_imp_iff,
      implies_true, true_and]
    constructor
    · rintro rfl
      exact ⟨rfl, below⟩
    · exact And.left
  | cons c cs ih =>
    rw [digitsUpTo, List.forall_mem_cons, Nat.ofDigitChars_cons]
    cases found : digit? c with
    | none =>
      have other : c.isDigit = false := by rw [← isSome_digit?, found]; rfl
      simp [other]
    | some d =>
      obtain ⟨digit, rfl⟩ := digit?_eq_some.mp found
      simp only [digit, true_and]
      split
      next within => exact ih within
      next beyond =>
        constructor
        · intro read
          cases read
        · rintro ⟨-, rfl, within⟩
          exact absurd ((le_ofDigitChars cs _).trans within) beyond

theorem not_isDecimal_plus {cs : List Char} {n : Nat} : ¬IsDecimal ('+' :: cs) n := by
  rintro ⟨-, digits, -⟩
  exact absurd (digits '+' (List.mem_cons_self ..)) (by decide)

theorem digitsUpTo_decimal {top n : Nat} {excess : Fault} {cs : List Char} (some : cs ≠ []) :
    digitsUpTo top excess 0 cs = .ok n ↔ IsDecimal cs n ∧ n ≤ top := by
  rw [digitsUpTo_eq_ok (Nat.zero_le top), IsDecimal, and_assoc, and_assoc]
  exact (and_iff_right some).symm

theorem readUpTo_eq_ok {top n : Nat} {text : String} :
    readUpTo top text = .ok n ↔ Spells text n ∧ n ≤ top := by
  unfold readUpTo Spells
  split
  next empty => simp [empty, IsDecimal]
  next bare => simp [bare, IsDecimal]
  next rest bare signed =>
    have some : rest ≠ [] := bare
    rw [digitsUpTo_decimal some, signed]
    simp [not_isDecimal_plus]
  next empty bare unsigned =>
    rw [digitsUpTo_decimal empty]
    have signless : ¬∃ digits, text.toList = '+' :: digits ∧ IsDecimal digits n := by
      rintro ⟨digits, signed, -⟩
      exact unsigned digits signed
    simp [signless]

theorem readUpTo?_eq_some {top n : Nat} {text : String} :
    readUpTo? top text = some n ↔ Spells text n ∧ n ≤ top := by
  rw [← readUpTo_eq_ok, readUpTo?]
  cases readUpTo top text <;> simp [Except.toOption]

/-! ## The usual spelling -/

theorem isDecimal_toDigits (n : Nat) : IsDecimal (Nat.toDigits 10 n) n :=
  ⟨Nat.toDigits_ne_nil, fun _ => Nat.isDigit_of_mem_toDigits (by decide) (by decide),
    Nat.ofDigitChars_ten_toDigits⟩

theorem head_toDigits {n : Nat} (positive : 0 < n) : (Nat.toDigits 10 n).head? ≠ some '0' := by
  induction n using Nat.strongRecOn with
  | ind n ih =>
    by_cases small : n < 10
    · rw [Nat.toDigits_of_lt_base small]
      interval_cases n <;> decide
    · rw [Nat.toDigits_of_base_le (by decide) (by omega),
        List.head?_append_of_ne_nil _ Nat.toDigits_ne_nil]
      exact ih (n / 10) (by omega) (by omega)

theorem digitChar_of_isDigit {c : Char} (digit : c.isDigit = true) :
    c.toNat - '0'.toNat < 10 ∧ (c.toNat - '0'.toNat).digitChar = c := by
  obtain ⟨low, high⟩ : 48 ≤ c.toNat ∧ c.toNat ≤ 57 := by
    simpa [Char.isDigit, UInt32.le_iff_toNat_le] using digit
  rw [← Char.ofNat_toNat c]
  generalize c.toNat = n at low high
  interval_cases n <;> decide

theorem toDigits_of_isDecimal {cs : List Char} {n : Nat} (spelled : IsDecimal cs n)
    (short : cs.head? = some '0' → cs.length = 1) : Nat.toDigits 10 n = cs := by
  obtain ⟨filled, digits, rfl⟩ := spelled
  induction cs using List.reverseRecOn with
  | nil => exact absurd rfl filled
  | append_singleton front last ih =>
    obtain ⟨below, same⟩ := digitChar_of_isDigit (digits last (by simp))
    have single : Nat.toDigits 10 (last.toNat - '0'.toNat) = [last] := by
      rw [Nat.toDigits_of_lt_base below, same]
    rw [Nat.ofDigitChars_append, Nat.ofDigitChars_cons, Nat.ofDigitChars_nil]
    by_cases alone : front = []
    · subst alone
      simpa using single
    · have shown : front.head? ≠ some '0' := by
        intro zero
        have length := short (by rw [List.head?_append_of_ne_nil _ alone]; exact zero)
        have positive := List.length_pos_iff.mpr alone
        rw [List.length_append, List.length_singleton] at length
        omega
      have spelled := ih (fun zero => absurd zero shown) alone
        fun c member => digits c (List.mem_append_left _ member)
      have positive : 0 < Nat.ofDigitChars 10 front 0 := by
        by_contra none
        rw [Nat.eq_zero_of_not_pos none] at spelled
        exact shown (by rw [← spelled]; rfl)
      rw [← Nat.toDigits_append_toDigits (by decide) positive below, spelled, single]

/-- The usual spelling of a number is its only one without a leading zero. -/
theorem toDigits_eq_iff {cs : List Char} {n : Nat} :
    Nat.toDigits 10 n = cs ↔ IsDecimal cs n ∧ (cs.head? = some '0' → cs.length = 1) := by
  constructor
  · rintro rfl
    refine ⟨isDecimal_toDigits n, fun zero => ?_⟩
    by_cases positive : 0 < n
    · exact absurd zero (head_toDigits positive)
    · rw [Nat.eq_zero_of_not_pos positive]
      rfl
  · rintro ⟨spelled, short⟩
    exact toDigits_of_isDecimal spelled short

end FrameLink.Numeral
