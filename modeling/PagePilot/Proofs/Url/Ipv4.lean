import PagePilot.Proofs.Url.Digits
import PagePilot.Proofs.Url.Splitting
/-!
# PagePilot.Proofs.Url.Ipv4

Addresses of four bytes. Whatever notation an address was read from, it is written as four decimal
numbers, and these are read as the address (`readIpv4?_writeIpv4`).
-/

namespace PagePilot.Url

variable {text : List Char} {address : Nat}

/-- The four bytes of an address. -/
def bytesOf (address : Nat) : List Nat :=
  [address / 0x1000000 % 256, address / 0x10000 % 256, address / 256 % 256, address % 256]

theorem writeIpv4_eq (address : Nat) :
    writeIpv4 address = joinWith '.' ((bytesOf address).map decimal) :=
  rfl

/-- The address of its bytes, the last of which fill all that is left. -/
theorem addressOf?_concat (bytes : List Nat) (last : Nat) : addressOf? (bytes ++ [last]) =
    if 3 < bytes.length ∨ bytes.any (255 < ·) ∨ Nat.pow 256 (4 - bytes.length) ≤ last then none
    else some (bytes.foldr (fun b rest => rest / 256 + b * 0x1000000) 0 + last) := by
  unfold addressOf?
  rw [List.getLast?_concat, List.dropLast_concat]

theorem addressOf?_eq_some {values : List Nat} : addressOf? values = some address ↔
    ∃ bytes last, values = bytes ++ [last] ∧ bytes.length ≤ 3 ∧ (∀ b ∈ bytes, b < 256) ∧
      last < 256 ^ (4 - bytes.length) ∧
        bytes.foldr (fun b rest => rest / 256 + b * 0x1000000) 0 + last = address := by
  rcases List.eq_nil_or_concat values with rfl | ⟨bytes, last, rfl⟩
  · simp [addressOf?]
  rw [List.concat_eq_append, addressOf?_concat]
  have hbytes : (bytes.any (255 < ·) = true) ↔ ¬ ∀ b ∈ bytes, b < 256 := by
    simp [Nat.lt_succ_iff]
  simp only [hbytes]
  constructor
  · intro h
    split at h
    next => cases h
    next hfits =>
      simp only [not_or, Classical.not_not, Nat.not_lt, Nat.not_le] at hfits
      exact ⟨bytes, last, rfl, hfits.1, hfits.2.1, hfits.2.2, Option.some.inj h⟩
  · rintro ⟨bytes', last', heq, hlength, hall, hlast, haddress⟩
    obtain ⟨rfl, hlasts⟩ := List.append_inj' heq rfl
    cases hlasts
    rw [if_neg, haddress]
    simp only [not_or, Classical.not_not, Nat.not_lt, Nat.not_le]
    exact ⟨hlength, hall, hlast⟩

theorem addressOf?_bytesOf (h : address < 2 ^ 32) :
    addressOf? (bytesOf address) = some address := by
  refine addressOf?_eq_some.mpr ⟨[address / 0x1000000 % 256, address / 0x10000 % 256,
    address / 256 % 256], address % 256, rfl, Nat.le_refl 3, ?_, ?_, ?_⟩
  · intro b hb
    simp only [List.mem_cons, List.not_mem_nil, or_false] at hb
    rcases hb with rfl | rfl | rfl <;> exact Nat.mod_lt _ (by decide)
  · simp only [List.length_cons, List.length_nil, Nat.reduceAdd, Nat.reduceSub, Nat.reducePow]
    exact Nat.mod_lt _ (by decide)
  · rw [List.foldr_cons, List.foldr_cons, List.foldr_cons, List.foldr_nil]
    omega

/-- The first bytes of an address leave room for what the last number may fill. -/
theorem foldr_add_pow_le {bytes : List Nat} (hlength : bytes.length ≤ 4)
    (h : ∀ b ∈ bytes, b < 256) :
    bytes.foldr (fun b rest => rest / 256 + b * 0x1000000) 0 + 256 ^ (4 - bytes.length) ≤ 2 ^ 32 := by
  induction bytes with
  | nil => decide
  | cons b rest ih =>
    have hb := h b List.mem_cons_self
    have hrest := ih (Nat.le_of_succ_le hlength) fun a ha => h a (List.mem_cons_of_mem _ ha)
    have hroom : 256 ^ (4 - rest.length) = 256 ^ (4 - (b :: rest).length) * 256 := by
      rw [← Nat.pow_succ, List.length_cons]
      rw [List.length_cons] at hlength
      congr 1
      omega
    rw [hroom] at hrest
    rw [List.foldr_cons]
    generalize 256 ^ (4 - (b :: rest).length) = room at hrest ⊢
    omega

/-- An address fits in four bytes. -/
theorem addressOf?_lt {values : List Nat} (h : addressOf? values = some address) :
    address < 2 ^ 32 := by
  obtain ⟨bytes, last, -, hlength, hbytes, hlast, rfl⟩ := addressOf?_eq_some.mp h
  have hroom := foldr_add_pow_le (Nat.le_succ_of_le hlength) hbytes
  exact Nat.lt_of_lt_of_le (Nat.add_lt_add_left hlast _) hroom

theorem partValue?_decimal (n : Nat) : partValue? (decimal n) = some n := by
  have hdigits : digitsValue? 10 (decimal n) = some n := by
    rw [decimal_eq]
    exact digitsValue?_toDigits (by decide) (by decide) n
  by_cases hn : n = 0
  · subst hn
    rfl
  have hhead := head?_toDigits (b := 10) (by decide) (by decide) hn
  rw [← decimal_eq] at hhead
  unfold partValue?
  split
  next heq => exact absurd heq (decimal_ne_nil n)
  next heq => exact absurd (congrArg List.head? heq) hhead
  next heq => exact absurd (congrArg List.head? heq) hhead
  next heq => exact absurd (congrArg List.head? heq) hhead
  next => exact hdigits

theorem dot_not_mem_decimal (n : Nat) : '.' ∉ decimal n := by
  intro hmem
  exact absurd (isDigit_of_mem_decimal hmem) (by decide)

theorem nameParts_writeIpv4 (address : Nat) :
    nameParts (writeIpv4 address) = (bytesOf address).map decimal := by
  have hsplit : splitAt '.' (writeIpv4 address) = (bytesOf address).map decimal := by
    rw [writeIpv4_eq]
    refine splitAt_joinWith ?_ (by simp [bytesOf])
    intro piece hpiece
    obtain ⟨n, -, rfl⟩ := List.mem_map.mp hpiece
    exact dot_not_mem_decimal n
  unfold nameParts
  rw [hsplit]
  refine if_neg ?_
  simp [bytesOf, decimal_ne_nil]

/-- An address is read as it is written. -/
theorem readIpv4?_writeIpv4 (h : address < 2 ^ 32) :
    readIpv4? (writeIpv4 address) = some address := by
  have hvalues : ((bytesOf address).map decimal).mapM partValue? = some (bytesOf address) := by
    rw [mapM_eq_some, List.map_map]
    exact List.map_congr_left fun n _ => partValue?_decimal n
  unfold readIpv4?
  rw [nameParts_writeIpv4, hvalues]
  exact addressOf?_bytesOf h

theorem readIpv4?_lt (h : readIpv4? text = some address) : address < 2 ^ 32 := by
  obtain ⟨values, -, h⟩ := Option.bind_eq_some_iff.mp h
  exact addressOf?_lt h

/-- A name that is written so has to be an address. -/
theorem endsInNumber_writeIpv4 (address : Nat) : endsInNumber (writeIpv4 address) := by
  unfold endsInNumber
  rw [nameParts_writeIpv4]
  have hdigits : (decimal (address % 256)).all Char.isDigit :=
    List.all_eq_true.mpr fun c hc => isDigit_of_mem_decimal hc
  show (!(decimal (address % 256)).isEmpty && (decimal (address % 256)).all Char.isDigit ||
    (partValue? (decimal (address % 256))).isSome) = true
  simp [decimal_ne_nil, hdigits]

end PagePilot.Url
