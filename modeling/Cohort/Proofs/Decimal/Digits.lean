import Mathlib.Data.List.Basic
import Cohort.Decimal.Reader

/-! # Whole numbers are read as they are written

    A whole number is written by its digits, with a minus sign in front of a
    negative one, and read back as itself, as long as it is one of the words
    that it is read for. -/

namespace Cohort.Decimal

/-! ## Digits -/

/-- What holds of the code points of digits holds of every digit. -/
theorem of_isDigit {P : Char → Prop} (h : ∀ n ∈ List.range' 48 10, P (Char.ofNat n)) {c : Char}
    (hc : isDigit c = true) : P c := by
  have hrange : '0'.toNat ≤ c.toNat ∧ c.toNat ≤ '9'.toNat := by
    rw [isDigit, Bool.and_eq_true, decide_eq_true_eq, decide_eq_true_eq] at hc
    exact hc
  have hmem : c.toNat ∈ List.range' 48 10 := by
    rw [List.mem_range'_1]
    exact ⟨hrange.1, Nat.lt_succ_of_le hrange.2⟩
  exact Char.ofNat_toNat c ▸ h c.toNat hmem

theorem isDigit_of_mem_toDigits {n : Nat} {c : Char} (hc : c ∈ Nat.toDigits 10 n) :
    isDigit c = true := by
  have hdigit : c.isDigit = true := Nat.isDigit_of_mem_toDigits (by decide) (by decide) hc
  rw [Char.isDigit, Bool.and_eq_true] at hdigit
  rw [isDigit, Bool.and_eq_true]
  exact hdigit

theorem natural_toDigits (n : Nat) : natural (Nat.toDigits 10 n) = n :=
  Nat.ofDigitChars_ten_toDigits

theorem natural?_toDigits (n : Nat) : natural? (Nat.toDigits 10 n) = some n := by
  have hall : (Nat.toDigits 10 n).all isDigit = true :=
    List.all_eq_true.mpr fun _ hc => isDigit_of_mem_toDigits hc
  have hsome : (Nat.toDigits 10 n).isEmpty = false :=
    List.isEmpty_eq_false_iff.mpr Nat.toDigits_ne_nil
  rw [natural?, hall, hsome, natural_toDigits]
  rfl

/-- A number that is not zero begins with another digit. -/
theorem head?_toDigits_ne_zero {n : Nat} (h : 0 < n) : (Nat.toDigits 10 n).head? ≠ some '0' := by
  induction n using Nat.strongRecOn with
  | ind n ih =>
      rw [Nat.toDigits_eq_if (by decide)]
      split
      · next hlt =>
          have hdigit : ∀ d < 10, 0 < d → d.digitChar ≠ '0' := by decide
          rw [List.head?_singleton]
          exact fun heq => hdigit n hlt h (Option.some.inj heq)
      · rw [List.head?_append_of_ne_nil _ Nat.toDigits_ne_nil]
        exact ih (n / 10) (by omega) (by omega)

theorem le_naturalFrom (n : Nat) (cs : List Char) : n ≤ naturalFrom n cs := by
  induction cs generalizing n with
  | nil => exact Nat.le_refl n
  | cons c cs ih => exact Nat.le_trans (by omega) (ih (10 * n + digitValue c))

/-! ## Signs -/

theorem toList_toString_of_nonneg {n : Int} (h : 0 ≤ n) :
    (toString n).toList = Nat.toDigits 10 n.toNat := by
  rw [Int.toString_eq_repr, Int.repr_eq_if, if_pos h, Nat.toList_repr]

theorem toList_toString_of_neg {n : Int} (h : n < 0) :
    (toString n).toList = '-' :: Nat.toDigits 10 (-n).toNat := by
  rw [Int.toString_eq_repr, Int.repr_eq_if, if_neg (Int.not_le.mpr h), String.toList_append,
    Nat.toList_repr]
  rfl

/-- Without a sign in front a number is not negative. -/
theorem integer?_toDigits (n : Nat) : integer? (Nat.toDigits 10 n) = some (n : Int) := by
  obtain ⟨c, cs, hcons⟩ := List.exists_cons_of_ne_nil (Nat.toDigits_ne_nil (n := n) (b := 10))
  have hdigit : isDigit c = true :=
    isDigit_of_mem_toDigits (hcons ▸ List.mem_cons_self : c ∈ Nat.toDigits 10 n)
  have hnatural := natural?_toDigits n
  rw [hcons] at hnatural ⊢
  rw [integer?]
  · rw [hnatural]
    rfl
  · rintro cs' h
    obtain ⟨rfl, -⟩ := List.cons.inj h
    exact absurd hdigit (by decide)
  · rintro cs' h
    obtain ⟨rfl, -⟩ := List.cons.inj h
    exact absurd hdigit (by decide)

theorem integer?_toString (n : Int) : integer? (toString n).toList = some n := by
  by_cases h : 0 ≤ n
  · rw [toList_toString_of_nonneg h, integer?_toDigits, Int.toNat_of_nonneg h]
  · have hneg : n < 0 := Int.not_le.mp h
    have hback : -((-n).toNat : Int) = n := by omega
    rw [toList_toString_of_neg hneg, integer?, natural?_toDigits]
    show some (-((-n).toNat : Int)) = some n
    rw [hback]

/-! ## Words -/

theorem fit64?_toInt (n : Int64) : fit64? n.toInt = some n := by
  rw [fit64?, if_pos ⟨n.le_toInt, n.toInt_lt⟩, Int64.ofInt_toInt]

theorem fit32?_toInt (n : Int32) : fit32? n.toInt = some n := by
  rw [fit32?, if_pos ⟨n.le_toInt, n.toInt_lt⟩, Int32.ofInt_toInt]

theorem int32?_toString (n : Int32) : int32? (toString n.toInt).toList = some n := by
  rw [int32?, integer?_toString, Option.bind_some, fit32?_toInt]

end Cohort.Decimal
