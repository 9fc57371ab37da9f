import Mathlib.Data.String.Basic
import Mathlib.Tactic.Linarith

/-!
# Decimal integers

Reading a decimal integer into a 64-bit word. A sign and leading zeros are accepted, anything else than
digits and a value that does not fit are not. `atoi_eq_some_iff` lists the texts that read as a given
positive value: its digits, after zeros, after a plus sign.
-/

namespace ScalesetProxmox.Text

variable {chars : List Char} {n : ℕ}

/-- The largest value of a 64-bit integer. -/
def maxInt : ℕ := 2 ^ 63 - 1

/-- The value of a non-empty run of digits. -/
def natOfDigits (chars : List Char) : Option ℕ :=
  if chars ≠ [] ∧ chars.all Char.isDigit then some (Nat.ofDigitChars 10 chars 0) else none

/-- `strconv.Atoi`; `none` stands for both of its errors. -/
def atoi (text : String) : Option ℤ :=
  match text.toList with
  | '-' :: chars =>
    (natOfDigits chars).bind fun n ↦ if n ≤ maxInt + 1 then some (-(n : ℤ)) else none
  | '+' :: chars => (natOfDigits chars).bind fun n ↦ if n ≤ maxInt then some (n : ℤ) else none
  | chars => (natOfDigits chars).bind fun n ↦ if n ≤ maxInt then some (n : ℤ) else none

/-! ## Digits -/

theorem exists_digitChar {c : Char} (h : c.isDigit) : ∃ d < 10, c = Nat.digitChar d := by
  have hrange : 48 ≤ c.toNat ∧ c.toNat ≤ 57 := Char.isDigit_iff_toNat.mp h
  refine ⟨c.toNat - 48, by omega, Char.toNat_inj.mp ?_⟩
  rw [Nat.toNat_digitChar_of_lt_ten (by omega)]
  omega

/-- Digits read after a positive value come after its digits. -/
theorem toDigits_ofDigitChars (hdigits : ∀ c ∈ chars, c.isDigit) (hn : 0 < n) :
    Nat.toDigits 10 (Nat.ofDigitChars 10 chars n) = Nat.toDigits 10 n ++ chars := by
  induction chars generalizing n with
  | nil => simp
  | cons c chars ih =>
    obtain ⟨hc, hchars⟩ := List.forall_mem_cons.mp hdigits
    obtain ⟨d, hd, rfl⟩ := exists_digitChar hc
    have hlast : Nat.toDigits 10 (10 * n + d) = Nat.toDigits 10 n ++ [Nat.digitChar d] := by
      rw [← Nat.toDigits_append_toDigits (by decide) hn hd, Nat.toDigits_of_lt_base hd]
    calc
      Nat.toDigits 10 (Nat.ofDigitChars 10 (Nat.digitChar d :: chars) n)
          = Nat.toDigits 10 (10 * n + d) ++ chars := by
            rw [Nat.ofDigitChars_cons_digitChar_of_lt_ten hd]
            exact ih hchars (by omega)
      _ = Nat.toDigits 10 n ++ Nat.digitChar d :: chars := by
            rw [hlast, List.append_assoc, List.singleton_append]

/-- A run of digits is that of its value, after zeros. -/
theorem exists_zeros_of_isDigit (hne : chars ≠ []) (hdigits : ∀ c ∈ chars, c.isDigit) :
    ∃ zeros, chars = List.replicate zeros '0' ++ Nat.toDigits 10 (Nat.ofDigitChars 10 chars 0) := by
  induction chars with
  | nil => exact absurd rfl hne
  | cons c chars ih =>
    obtain ⟨hc, hchars⟩ := List.forall_mem_cons.mp hdigits
    obtain ⟨d, hd, rfl⟩ := exists_digitChar hc
    rw [Nat.ofDigitChars_cons_digitChar_of_lt_ten hd, Nat.mul_zero, Nat.zero_add]
    rcases Nat.eq_zero_or_pos d with rfl | hpos
    · by_cases hlast : chars = []
      · exact ⟨0, by simp [hlast]⟩
      · obtain ⟨zeros, hzeros⟩ := ih hlast hchars
        refine ⟨zeros + 1, ?_⟩
        rw [List.replicate_succ, List.cons_append, ← hzeros]
        rfl
    · -- the first digit is the first of the value
      refine ⟨0, ?_⟩
      rw [toDigits_ofDigitChars hchars hpos, Nat.toDigits_of_lt_base hd]
      rfl

theorem natOfDigits_eq_some :
    natOfDigits chars = some n ↔ ∃ zeros, chars = List.replicate zeros '0' ++ Nat.toDigits 10 n := by
  constructor
  · intro h
    simp only [natOfDigits, Option.ite_none_right_eq_some, Option.some.injEq, List.all_eq_true] at h
    obtain ⟨⟨hne, hdigits⟩, rfl⟩ := h
    exact exists_zeros_of_isDigit hne hdigits
  · rintro ⟨zeros, rfl⟩
    have hdigits : ∀ c ∈ List.replicate zeros '0' ++ Nat.toDigits 10 n, c.isDigit := by
      intro c hc
      rcases List.mem_append.mp hc with hzero | hdigit
      · rw [List.eq_of_mem_replicate hzero]
        rfl
      · exact Nat.isDigit_of_mem_toDigits (by decide) (by decide) hdigit
    rw [natOfDigits, if_pos ⟨by simp [Nat.toDigits_ne_nil], List.all_eq_true.mpr hdigits⟩,
      Nat.ofDigitChars_append, Nat.ofDigitChars_replicate_zero, Nat.mul_zero, Nat.ofDigitChars_ten_toDigits]

/-! ## Signs -/

/-- What can stand before the digits of a positive value. -/
def padding (plus : Bool) (zeros : ℕ) : List Char :=
  (if plus then ['+'] else []) ++ List.replicate zeros '0'

theorem mem_padding_append {plus : Bool} {zeros : ℕ} {c : Char}
    (h : c ∈ padding plus zeros ++ Nat.toDigits 10 n) : c = '+' ∧ plus ∨ c.isDigit = true := by
  rw [padding, List.append_assoc, List.mem_append] at h
  rcases h with hsign | hdigits
  · cases plus with
    | true => exact .inl ⟨List.mem_singleton.mp hsign, rfl⟩
    | false => cases hsign
  · right
    rcases List.mem_append.mp hdigits with hzero | hdigit
    · rw [List.eq_of_mem_replicate hzero]
      rfl
    · exact Nat.isDigit_of_mem_toDigits (by decide) (by decide) hdigit

theorem bind_natOfDigits_eq_some :
    ((natOfDigits chars).bind fun m ↦ if m ≤ maxInt then some (m : ℤ) else none) = some (n : ℤ) ↔
      n ≤ maxInt ∧ ∃ zeros, chars = List.replicate zeros '0' ++ Nat.toDigits 10 n := by
  rw [← natOfDigits_eq_some]
  simp only [Option.bind_eq_some_iff, Option.ite_none_right_eq_some, Option.some.injEq, Nat.cast_inj]
  constructor
  · rintro ⟨m, hm, hle, rfl⟩
    exact ⟨hle, hm⟩
  · rintro ⟨hle, hn⟩
    exact ⟨n, hn, hle, rfl⟩

theorem atoi_eq_some_iff {text : String} (hn : 0 < n) : atoi text = some (n : ℤ) ↔
      n ≤ maxInt ∧ ∃ plus zeros, text.toList = padding plus zeros ++ Nat.toDigits 10 n := by
  unfold atoi
  split
  next chars htext =>
    -- a minus sign gives no positive value and stands before no digits
    constructor
    · intro h
      simp only [Option.bind_eq_some_iff, Option.ite_none_right_eq_some, Option.some.injEq] at h
      obtain ⟨m, _, _, hm⟩ := h
      omega
    · rintro ⟨_, plus, zeros, hpadded⟩
      have hmem : '-' ∈ padding plus zeros ++ Nat.toDigits 10 n := by
        rw [← hpadded, htext]
        exact List.mem_cons_self
      rcases mem_padding_append hmem with ⟨hplus, _⟩ | hdigit
      · cases hplus
      · cases hdigit
  next chars htext =>
    rw [bind_natOfDigits_eq_some, htext]
    apply and_congr_right
    intro _
    constructor
    · rintro ⟨zeros, rfl⟩
      exact ⟨true, zeros, rfl⟩
    · rintro ⟨plus, zeros, hpadded⟩
      have hmem : '+' ∈ padding plus zeros ++ Nat.toDigits 10 n := hpadded ▸ List.mem_cons_self
      rcases mem_padding_append hmem with ⟨_, rfl⟩ | hdigit
      · exact ⟨zeros, List.tail_eq_of_cons_eq hpadded⟩
      · cases hdigit
  next chars _ hplus =>
    rw [bind_natOfDigits_eq_some]
    apply and_congr_right
    intro _
    constructor
    · rintro ⟨zeros, hzeros⟩
      exact ⟨false, zeros, hzeros⟩
    · rintro ⟨plus, zeros, hpadded⟩
      cases plus with
      | false => exact ⟨zeros, hpadded⟩
      | true => exact absurd hpadded (hplus _)

end ScalesetProxmox.Text
