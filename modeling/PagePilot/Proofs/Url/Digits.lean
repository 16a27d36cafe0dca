import Mathlib.Algebra.Group.Nat.Defs
import PagePilot.Url.Reader
/-!
# PagePilot.Proofs.Url.Digits

Numbers in hosts and ports. The digits that are written for a number are read as the number, in
every base that is used.
-/

namespace PagePilot.Url

variable {b n : Nat} {c : Char}

theorem hexValue?_digitChar {d : Nat} (h : d < 16) : hexValue? d.digitChar = some d := by
  have hall : ∀ d ∈ List.range 16, hexValue? d.digitChar = some d := by decide
  exact hall d (List.mem_range.mpr h)

/-- What is written consists of digits below the base. -/
theorem exists_of_mem_toDigits {n : Nat} (hb : 1 < b) (h : c ∈ Nat.toDigits b n) :
    ∃ d < b, c = d.digitChar := by
  rw [Nat.toDigits_eq_if hb] at h
  split at h
  next hn => exact ⟨n, hn, List.mem_singleton.mp h⟩
  next hn =>
    rcases List.mem_append.mp h with h | h
    · exact exists_of_mem_toDigits hb h
    · exact ⟨n % b, Nat.mod_lt _ (Nat.lt_of_succ_lt hb), List.mem_singleton.mp h⟩
termination_by n
decreasing_by
  exact Nat.div_lt_self (by omega) hb

/-- What is written is read as the number. -/
theorem digitsValue?_toDigits (hb : 1 < b) (hb' : b ≤ 16) (n : Nat) :
    digitsValue? b (Nat.toDigits b n) = some n := by
  rw [Nat.toDigits_eq_if hb]
  split
  next hn =>
    simp [digitsValue?, hexValue?_digitChar (Nat.lt_of_lt_of_le hn hb'), hn]
  next hn =>
    have hmod : n % b < b := Nat.mod_lt _ (Nat.lt_of_succ_lt hb)
    have hfront := digitsValue?_toDigits hb hb' (n / b)
    unfold digitsValue? at hfront ⊢
    rw [List.foldlM_append, hfront]
    simp [hexValue?_digitChar (Nat.lt_of_lt_of_le hmod hb'), hmod, Nat.div_add_mod']
termination_by n
decreasing_by
  exact Nat.div_lt_self (by omega) hb

/-- A text of digits is below the power of its length. -/
theorem digitsValue?_lt {text : List Char} (h : digitsValue? b text = some n) :
    n < b ^ text.length := by
  suffices hall : n < (0 + 1) * b ^ text.length by rwa [Nat.zero_add, Nat.one_mul] at hall
  unfold digitsValue? at h
  -- The digits may follow a number that has been read.
  generalize 0 = value at h ⊢
  induction text generalizing value with
  | nil =>
    cases h
    simp
  | cons c text ih =>
    rw [List.foldlM_cons] at h
    obtain ⟨next, hnext, h⟩ := Option.bind_eq_some_iff.mp h
    split at hnext
    next d hd =>
      split at hnext
      next hdb =>
        cases hnext
        refine Nat.lt_of_lt_of_le (ih _ h) ?_
        rw [List.length_cons, Nat.pow_succ', ← Nat.mul_assoc, Nat.add_mul value]
        exact Nat.mul_le_mul_right _ (by omega)
      next => cases hnext
    next => cases hnext

/-- Only zero is written with a zero in front. -/
theorem head?_toDigits {n : Nat} (hb : 1 < b) (hb' : b ≤ 16) (hn : n ≠ 0) :
    (Nat.toDigits b n).head? ≠ some '0' := by
  rw [Nat.toDigits_eq_if hb]
  split
  next hlt =>
    intro h
    have hvalue := hexValue?_digitChar (Nat.lt_of_lt_of_le hlt hb')
    rw [Option.some.inj h] at hvalue
    cases hvalue
    exact hn rfl
  next hle =>
    have hne : n / b ≠ 0 := Nat.div_ne_zero_iff.mpr ⟨by omega, by omega⟩
    have hfront := head?_toDigits hb hb' hne
    obtain ⟨c, rest, hdigits⟩ := List.exists_cons_of_ne_nil (Nat.toDigits_ne_nil (n := n / b) (b := b))
    rw [hdigits] at hfront ⊢
    exact hfront
termination_by n
decreasing_by
  exact Nat.div_lt_self (by omega) hb

theorem decimal_eq (n : Nat) : decimal n = Nat.toDigits 10 n := by
  unfold decimal
  rw [Nat.toString_eq_repr, Nat.repr_eq_ofList_toDigits, String.toList_ofList]

theorem isDigit_of_mem_decimal (h : c ∈ decimal n) : c.isDigit := by
  rw [decimal_eq] at h
  exact Nat.isDigit_of_mem_toDigits (by decide) (by decide) h

theorem decimal_ne_nil (n : Nat) : decimal n ≠ [] := by
  rw [decimal_eq]
  exact Nat.toDigits_ne_nil

theorem decimalValue_decimal (n : Nat) : decimalValue (decimal n) = n := by
  rw [decimal_eq]
  have hvalue : decimalValue = fun text => Nat.ofDigitChars 10 text 0 := by
    funext text
    unfold decimalValue Nat.ofDigitChars
    simp only [Nat.mul_comm]
  rw [hvalue]
  exact Nat.ofDigitChars_toDigits (by decide) (by decide)

/-- A port that is written is read as the port. -/
theorem readPort?_decimal (h : n ≤ 0xffff) : readPort? (decimal n) = some (some n) := by
  unfold readPort?
  have hdigits : (decimal n).all Char.isDigit :=
    List.all_eq_true.mpr fun c hc => isDigit_of_mem_decimal hc
  rw [if_neg (by simpa using decimal_ne_nil n), decimalValue_decimal, if_pos ⟨hdigits, h⟩]

end PagePilot.Url
