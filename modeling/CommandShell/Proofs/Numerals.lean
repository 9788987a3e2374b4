import CommandShell.Proofs.OptionWords
import Mathlib.Data.Nat.Digits.Defs

/-!
# Numerals

An integer is written in one way only: its digits without leading zeros, after a minus sign if it is
negative.  It is read from more texts than that.  Leading zeros are passed over, there may be a plus
sign, and zero may have either sign.

What may be read is said here by the places in which digits stand, and not digit by digit as they
are read.

A written integer is also no option, since a word of options has no digit behind its first dash.

## Main definitions

* `IsDigits`, `placeValue` — one or more digits, and the number that they stand for.
* `Numeral` — the texts from which an integer may be read.

## Main results

* `readInt?_eq_some_iff`, `readInt32?_eq_some_iff` — **exactly the numerals are read**, as what they
  stand for.
* `numeral_decimalInt`, `readInt32?_decimalInt32` — what is written is a numeral and is read back.
* `Numeral.not_isOptionWord` — a numeral is no option.
-/

namespace CommandShell

/-! ### Digits -/

/-- One or more digits. -/
def IsDigits (t : Text) : Prop := t ≠ [] ∧ ∀ c ∈ t, isDigit c = true

/-- The number that digits stand for: each counts ten times what it would one place further on. -/
def placeValue (t : Text) : Nat := Nat.ofDigits 10 (t.map digitValue).reverse

/-- The value of digits is found from the left, without knowing how many will follow. -/
theorem foldl_digits (t : Text) :
    t.foldl (fun n c => n * 10 + digitValue c) 0 = placeValue t := by
  have hstep : (fun n c => n * 10 + digitValue c)
      = fun (n : Nat) (c : Char) => (digitValue c : Nat) + 10 * n := by
    funext n c
    omega
  rw [placeValue, Nat.ofDigits_eq_foldr, List.foldr_reverse, List.foldl_map, hstep]
  rfl

theorem digitsValue?_eq_some_iff {t : Text} {n : Nat} :
    digitsValue? t = some n ↔ IsDigits t ∧ placeValue t = n := by
  rw [digitsValue?, foldl_digits, Option.ite_none_right_eq_some, Option.some.injEq,
    List.all_eq_true]
  rfl

theorem isDigits_decimal (n : Nat) : IsDigits (decimal n) := by
  refine ⟨Nat.toDigits_ne_nil, fun c hc => ?_⟩
  have hdigit : c.isDigit = true := Nat.isDigit_of_mem_toDigits (by decide) (by decide) hc
  exact hdigit

/-- **The digits of a number stand for it.** -/
theorem placeValue_decimal (n : Nat) : placeValue (decimal n) = n := by
  have hread : Nat.ofDigitChars 10 (decimal n) 0 = n := Nat.ofDigitChars_ten_toDigits
  have hstep : (fun n c => n * 10 + digitValue c)
      = fun (n : Nat) (c : Char) => 10 * n + (c.toNat - '0'.toNat) := by
    funext n c
    rw [digitValue, Nat.mul_comm]
  rw [← foldl_digits, hstep]
  exact hread

/-! ### Integers -/

/-- **A text stands for an integer**: it is one or more digits, perhaps after a sign. -/
inductive Numeral : Text → Int → Prop
  /-- Digits without a sign. -/
  | digits {t : Text} : IsDigits t → Numeral t (placeValue t)
  /-- Digits after a plus sign. -/
  | plus {t : Text} : IsDigits t → Numeral ('+' :: t) (placeValue t)
  /-- Digits after a minus sign. -/
  | minus {t : Text} : IsDigits t → Numeral ('-' :: t) (-(placeValue t : Int))

/-- A sign is no digit. -/
theorem IsDigits.ne_sign_cons {t : Text} (h : IsDigits t) (rest : Text) :
    t ≠ '-' :: rest ∧ t ≠ '+' :: rest := by
  have hsign : isDigit '-' = false ∧ isDigit '+' = false := by decide
  constructor
  · rintro rfl
    exact absurd (h.2 '-' List.mem_cons_self) (by simp [hsign])
  · rintro rfl
    exact absurd (h.2 '+' List.mem_cons_self) (by simp [hsign])

/-- **Exactly the numerals are read**, as what they stand for. -/
theorem readInt?_eq_some_iff {t : Text} {v : Int} : readInt? t = some v ↔ Numeral t v := by
  constructor
  · fun_cases readInt? t with
    | case1 rest =>
      intro h
      obtain ⟨v, hv, rfl⟩ := Option.map_eq_some_iff.mp h
      obtain ⟨n, hn, hcast⟩ := Option.bind_eq_some_iff.mp hv
      obtain rfl : (n : Int) = v := Option.some.inj hcast
      obtain ⟨hdigits, rfl⟩ := digitsValue?_eq_some_iff.mp hn
      exact .minus hdigits
    | case2 rest =>
      intro h
      obtain ⟨n, hn, rfl⟩ := Option.map_eq_some_iff.mp h
      obtain ⟨hdigits, rfl⟩ := digitsValue?_eq_some_iff.mp hn
      exact .plus hdigits
    | case3 =>
      intro h
      obtain ⟨n, hn, rfl⟩ := Option.map_eq_some_iff.mp h
      obtain ⟨hdigits, rfl⟩ := digitsValue?_eq_some_iff.mp hn
      exact .digits hdigits
  · intro h
    cases h with
    | digits hdigits =>
      rw [readInt?, digitsValue?_eq_some_iff.mpr ⟨hdigits, rfl⟩]
      · rfl
      · exact fun rest => (hdigits.ne_sign_cons rest).1
      · exact fun rest => (hdigits.ne_sign_cons rest).2
    | plus hdigits =>
      rw [readInt?, digitsValue?_eq_some_iff.mpr ⟨hdigits, rfl⟩]
      rfl
    | minus hdigits =>
      rw [readInt?, digitsValue?_eq_some_iff.mpr ⟨hdigits, rfl⟩]
      rfl

/-- **A written integer is a numeral of it.** -/
theorem numeral_decimalInt (n : Int) : Numeral (decimalInt n) n := by
  have hdigits := isDigits_decimal n.natAbs
  have hvalue := placeValue_decimal n.natAbs
  rw [decimalInt]
  split
  · next hneg =>
    have h := Numeral.minus hdigits
    rwa [hvalue, Int.ofNat_natAbs_of_nonpos hneg.le, neg_neg] at h
  · next hneg =>
    have h := Numeral.digits hdigits
    rwa [hvalue, Int.natAbs_of_nonneg (not_lt.mp hneg)] at h

/-- **Exactly the numerals of integers of 32 bits are read as such.** -/
theorem readInt32?_eq_some_iff {t : Text} {n : Int32} :
    readInt32? t = some n ↔ Numeral t n.toInt := by
  rw [readInt32?, ← readInt?_eq_some_iff]
  constructor
  · intro h
    obtain ⟨v, hv, rfl⟩ := Option.map_eq_some_iff.mp h
    obtain ⟨hread, hrange⟩ := Option.filter_eq_some_iff.mp hv
    rw [Bool.and_eq_true, decide_eq_true_eq, decide_eq_true_eq] at hrange
    rw [hread, Int32.toInt_ofInt_of_le hrange.1 (Int.lt_add_one_of_le hrange.2)]
  · intro h
    have hrange : (Int32.minValue.toInt ≤ n.toInt && n.toInt ≤ Int32.maxValue.toInt) = true := by
      rw [Bool.and_eq_true, decide_eq_true_eq, decide_eq_true_eq]
      exact ⟨n.minValue_le_toInt, n.toInt_le⟩
    rw [h, Option.filter_some, if_pos hrange, Option.map_some, Int32.ofInt_toInt]

/-- **A written integer is read back.** -/
theorem readInt32?_decimalInt32 (n : Int32) : readInt32? (decimalInt32 n) = some n :=
  readInt32?_eq_some_iff.mpr (numeral_decimalInt n.toInt)

/-! ### Numerals among words -/

namespace Numeral

/-- Digits stand after a dash. -/
theorem digits_of_dash {t : Text} {v : Int} (h : Numeral ('-' :: t) v) : IsDigits t := by
  cases h with
  | digits hdigits => exact absurd rfl (hdigits.ne_sign_cons t).1
  | minus hdigits => exact hdigits

/-- It does not end the options. -/
theorem ne_endMarker {t : Text} {v : Int} (h : Numeral t v) : t ≠ endMarker := by
  rintro rfl
  exact absurd rfl (h.digits_of_dash.ne_sign_cons []).1

/-- **A numeral is no option**, since a digit stands behind its dash, if it has one. -/
theorem not_isOptionWord {t : Text} {v : Int} (h : Numeral t v) : ¬ IsOptionWord t := by
  rintro ⟨keys, value, hword⟩
  cases hword with
  | flag => exact absurd rfl (h.digits_of_dash.ne_sign_cons _).1
  | setting => exact absurd rfl (h.digits_of_dash.ne_sign_cons _).1
  | group hstart =>
    have hdigit := h.digits_of_dash.2 _ List.mem_cons_self
    exact absurd hdigit (by simp [hstart.2])
  | groupSetting hstart =>
    have hdigit := h.digits_of_dash.2 _ List.mem_cons_self
    exact absurd hdigit (by simp [hstart.2])

end Numeral

end CommandShell
