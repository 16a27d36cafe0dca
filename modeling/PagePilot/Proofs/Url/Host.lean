import PagePilot.Proofs.Idna.Colon
import PagePilot.Proofs.Url.Cutting
import PagePilot.Proofs.Url.Ipv4
import PagePilot.Proofs.Url.Ipv6
/-!
# PagePilot.Proofs.Url.Host

Hosts. Whatever a host was read from, its text is read as the host (`readHost?_text`), and can
stand in an address: it has none of the characters that end it there, and no colon but in brackets
(`Host.Canonical.cutPort`).
-/

namespace PagePilot.Url

variable {text tail : List Char} {host : Host}

/-! ### Percent signs -/

theorem decodeBytes_of_not_mem (h : '%' ∉ text) :
    decodeBytes text = text.flatMap String.utf8EncodeChar := by
  induction text with
  | nil => rfl
  | cons c rest ih =>
    have hc : c ≠ '%' := fun heq => h (heq ▸ List.mem_cons_self)
    have hrest := ih fun hmem => h (List.mem_cons_of_mem _ hmem)
    rw [decodeBytes, hrest, List.flatMap_cons]
    intro a b rest heq
    exact absurd heq hc

/-- A text without percent signs is what it says. -/
theorem decode?_of_not_mem (h : '%' ∉ text) : decode? text = some text := by
  have hbytes : (⟨(text.flatMap String.utf8EncodeChar).toArray⟩ : ByteArray) =
      (String.ofList text).toByteArray := by
    show _ = (text.flatMap String.utf8EncodeChar).toByteArray
    rw [← List.data_toByteArray]
  have hvalid := (String.ofList text).isValidUTF8
  unfold decode?
  rw [decodeBytes_of_not_mem h, hbytes, String.fromUTF8?, dif_pos hvalid]
  show some (String.ofList text).toList = _
  rw [String.toList_ofList]

/-- Only an ASCII character is written with a byte of ASCII. -/
theorem toNat_eq_of_mem_utf8EncodeChar {c : Char} {b : UInt8} (hb : b.toNat < 128)
    (h : b ∈ String.utf8EncodeChar c) : c.toNat = b.toNat := by
  unfold String.utf8EncodeChar at h
  dsimp only at h
  split at h
  next hc =>
    obtain rfl := List.mem_singleton.mp h
    rw [UInt8.toNat_ofNat']
    exact (Nat.mod_eq_of_lt (Nat.lt_of_le_of_lt hc (by decide))).symm
  -- The bytes of the others are 128 at least.
  all_goals
    repeat' split at h
    all_goals
      refine absurd hb ?_
      simp only [List.mem_cons, List.not_mem_nil, or_false] at h
      rcases h with rfl | rfl | rfl | rfl
  all_goals
    rw [UInt8.toNat_ofNat']
    omega

theorem colon_mem_decodeBytes (h : ':' ∈ text) : ':'.toUInt8 ∈ decodeBytes text := by
  fun_induction decodeBytes text with
  | case1 a b rest high low ha hb ih =>
    have hne : ∀ {c d}, hexValue? c = some d → ':' ≠ c := by
      rintro _ _ hc rfl
      cases hc
    simp only [List.mem_cons, hne ha, hne hb, false_or] at h
    exact List.mem_cons_of_mem _ (ih (h.resolve_left (by decide)))
  | case2 a b rest hnone ih =>
    exact List.mem_cons_of_mem _ (ih ((List.mem_cons.mp h).resolve_left (by decide)))
  | case3 c rest hc ih =>
    rcases List.mem_cons.mp h with rfl | h
    · exact List.mem_append_left _ (by decide)
    · exact List.mem_append_right _ (ih h)
  | case4 => cases h

theorem colon_mem_decode? {decoded : List Char} (h : decode? text = some decoded)
    (htext : ':' ∈ text) : ':' ∈ decoded := by
  obtain ⟨s, hs, rfl⟩ := Option.map_eq_some_iff.mp h
  unfold String.fromUTF8? at hs
  split at hs
  next hvalid =>
    have hbytes : s.toByteArray.data.toList = decodeBytes text := by
      rw [← Option.some.inj hs]
      rfl
    have hmem := colon_mem_decodeBytes htext
    rw [← hbytes, ← String.utf8Encode_toList, List.utf8Encode, List.toList_data_toByteArray] at hmem
    obtain ⟨c, hc, hcolon⟩ := List.mem_flatMap.mp hmem
    have heq : c.toNat = ':'.toNat := toNat_eq_of_mem_utf8EncodeChar (by decide) hcolon
    rwa [← Char.ofNat_toNat c, heq] at hc
  next => cases hs

/-! ### Hosts that have been read -/

/-- A host as it is kept: a name in ASCII, or the number of an address. -/
def Host.Canonical : Host → Prop
  | .name ascii => Idna.toAscii? ascii = some ascii ∧ ascii ≠ [] ∧ endsInNumber ascii = false
  | .ipv4 address => address < 2 ^ 32
  | .ipv6 pieces => pieces.length = 8 ∧ ∀ n ∈ pieces, n < 0x10000

theorem Host.canonical_of_readHost? (h : readHost? text = some host) : host.Canonical := by
  unfold readHost? at h
  split at h
  next =>
    split at h
    next =>
      obtain ⟨pieces, hpieces, rfl⟩ := Option.map_eq_some_iff.mp h
      exact readIpv6?_spec hpieces
    next => cases h
  next =>
    obtain ⟨decoded, -, h⟩ := Option.bind_eq_some_iff.mp h
    obtain ⟨name, hname, h⟩ := Option.bind_eq_some_iff.mp h
    split at h
    next => cases h
    next hempty =>
      split at h
      next =>
        obtain ⟨address, haddress, rfl⟩ := Option.map_eq_some_iff.mp h
        exact readIpv4?_lt haddress
      next hnumber =>
        cases h
        refine ⟨Idna.toAscii?_toAscii? hname, ?_, Bool.eq_false_iff.mpr hnumber⟩
        rintro rfl
        exact hempty rfl

/-- A host that has a colon in it stands in brackets. -/
theorem bracket_of_readHost? (h : readHost? text = some host) (hcolon : ':' ∈ text) :
    text.getLast? = some ']' := by
  unfold readHost? at h
  split at h
  next rest =>
    split at h
    next hlast => rw [List.getLast?_cons, hlast, Option.getD_some]
    next => cases h
  next =>
    obtain ⟨decoded, hdecoded, h⟩ := Option.bind_eq_some_iff.mp h
    obtain ⟨name, hname, -⟩ := Option.bind_eq_some_iff.mp h
    exact absurd (colon_mem_decode? hdecoded hcolon) (Idna.toAscii?_colon hname)

/-- Reading a text that is a name in ASCII. -/
theorem readHost?_of_toAscii? (h : Idna.toAscii? text = some text) (hpercent : '%' ∉ text)
    (hbracket : '[' ∉ text) : readHost? text =
      if text.isEmpty then none
      else if endsInNumber text then (readIpv4? text).map .ipv4 else some (.name text) := by
  unfold readHost?
  split
  next => exact absurd List.mem_cons_self hbracket
  next =>
    rw [decode?_of_not_mem hpercent, Option.bind_eq_bind, Option.bind_some, h]
    rfl

/-- What a host that is written in ASCII does not have. -/
theorem not_mem_of_allowed {ascii : List Char} (h : ascii.all Idna.isAllowed) {c : Char}
    (hc : Idna.isAllowed c = false) : c ∉ ascii := by
  intro hmem
  exact Bool.eq_false_iff.mp hc (List.all_eq_true.mp h c hmem)

theorem allowed_of_toAscii? {name ascii : List Char} (h : Idna.toAscii? name = some ascii) :
    ascii.all Idna.isAllowed := by
  obtain ⟨texts, hwritten⟩ := Idna.toAscii?_eq_some h
  exact hwritten.allowed

theorem written_writeIpv4 (address : Nat) :
    Idna.Written ((bytesOf address).map decimal) (writeIpv4 address) := by
  refine Idna.Written.of_decimal (by simp [bytesOf]) ?_
  intro part hpart c hc
  obtain ⟨n, -, rfl⟩ := List.mem_map.mp hpart
  rw [decimal_eq] at hc
  obtain ⟨d, hd, rfl⟩ := exists_of_mem_toDigits (by decide) hc
  exact List.mem_map_of_mem (List.mem_range.mpr hd)

/-- A host is read as it is written. -/
theorem readHost?_text (h : host.Canonical) : readHost? host.text = some host := by
  cases host with
  | name name =>
    obtain ⟨hascii, hne, hnumber⟩ := h
    have hallowed := allowed_of_toAscii? hascii
    have hread := readHost?_of_toAscii? hascii (not_mem_of_allowed hallowed (by decide))
      (not_mem_of_allowed hallowed (by decide))
    rw [hnumber, if_neg (by simpa using hne)] at hread
    exact hread
  | ipv4 address =>
    have hascii := (written_writeIpv4 address).toAscii?
    have hallowed := allowed_of_toAscii? hascii
    have hread := readHost?_of_toAscii? hascii (not_mem_of_allowed hallowed (by decide))
      (not_mem_of_allowed hallowed (by decide))
    have hne : writeIpv4 address ≠ [] := by
      intro hnil
      have hparts := nameParts_writeIpv4 address
      rw [hnil] at hparts
      simp [nameParts, splitAt, bytesOf] at hparts
    rw [endsInNumber_writeIpv4, readIpv4?_writeIpv4 h, if_neg (by simpa using hne)] at hread
    exact hread
  | ipv6 pieces =>
    obtain ⟨hlength, hpieces⟩ := h
    show (if (writeIpv6 pieces ++ [']']).getLast? = some ']' then
      (readIpv6? (writeIpv6 pieces ++ [']']).dropLast).map Host.ipv6 else none) = _
    rw [List.getLast?_concat, List.dropLast_concat, readIpv6?_writeIpv6 hlength hpieces]
    rfl

/-! ### Hosts in addresses -/

theorem isGraphic_of_written {texts : List (List Char)} {ascii : List Char}
    (h : Idna.Written texts ascii) {c : Char} (hc : c ∈ ascii) : isGraphic c := by
  have hne : ∀ a, Idna.isAllowed a = false → c.toNat ≠ a.toNat := by
    intro a ha heq
    exact not_mem_of_allowed h.allowed ha (Char.toNat_inj.mp heq ▸ hc)
  have hspace := hne ' ' (by decide)
  have hdelete := hne '\x7f' (by decide)
  have hbasic : c.toNat < 0x80 := of_decide_eq_true (h.plain hc).1
  have hallowed := List.all_eq_true.mp h.allowed c hc
  unfold Idna.isAllowed at hallowed
  have hle : 0x20 ≤ c.toNat := of_decide_eq_true (Bool.and_eq_true_iff.mp hallowed).1
  change c.toNat ≠ 0x20 at hspace
  change c.toNat ≠ 0x7f at hdelete
  exact isGraphic_iff.mpr ⟨by omega, by omega⟩

theorem mem_writeIpv6 {pieces : List Nat} {c : Char} (h : c ∈ writeIpv6 pieces) :
    c = ':' ∨ ∃ d ∈ List.range 16, c = d.digitChar := by
  have hwritten : ∀ pieces, c ∈ written pieces → c = ':' ∨ ∃ d ∈ List.range 16, c = d.digitChar := by
    intro pieces hc
    rcases mem_joinWith hc with hc | ⟨piece, hpiece, hc⟩
    · exact .inl hc
    · obtain ⟨n, -, rfl⟩ := List.mem_map.mp hpiece
      exact .inr (exists_of_mem_hexDigits hc)
  rcases writeIpv6_cases pieces with heq | ⟨front, _, back, -, -, heq⟩
  · exact hwritten pieces (heq ▸ h)
  · rw [heq] at h
    simp only [List.mem_append, List.mem_cons] at h
    rcases h with h | h | h | h
    · exact hwritten front h
    · exact .inl h
    · exact .inl h
    · exact hwritten back h

/-- The characters that end what stands in front of a path, or divide it. -/
def dividers : List Char :=
  ['/', '\\', '?', '#', '@']

/-- A character that neither ends what stands in front of a path nor divides it. -/
def isInside (c : Char) : Bool :=
  isGraphic c && decide (c ∉ dividers)

theorem isInside_iff {c : Char} : isInside c ↔ isGraphic c ∧ c ∉ dividers := by
  simp [isInside]

theorem endsAuthority_of_isInside {c : Char} (h : isInside c) : endsAuthority c = false := by
  have hnot := (isInside_iff.mp h).2
  simp only [dividers, List.mem_cons, not_or] at hnot
  simp [endsAuthority, isSlash, hnot]

/-- The characters of a class without dividers may stand there. -/
theorem isInside_of_class {p : Char → Bool} {c : Char} (hp : dividers.any p = false) (hc : p c)
    (hgraphic : isGraphic c) : isInside c := by
  refine isInside_iff.mpr ⟨hgraphic, ?_⟩
  intro hmem
  exact List.any_eq_false.mp hp c hmem hc

theorem isInside_of_written {texts : List (List Char)} {ascii : List Char}
    (h : Idna.Written texts ascii) {c : Char} (hc : c ∈ ascii) : isInside c :=
  isInside_of_class (by decide) (List.all_eq_true.mp h.allowed c hc) (isGraphic_of_written h hc)

theorem isInside_of_isDigit {c : Char} (h : c.isDigit) : isInside c :=
  isInside_of_class (by decide) h
    (isGraphic_of_isSchemeChar (by simp [isSchemeChar, Char.isAlphanum, h]))

namespace Host.Canonical

theorem isInside (h : host.Canonical) {c : Char} (hc : c ∈ host.text) : Url.isInside c := by
  cases host with
  | name ascii =>
    obtain ⟨texts, hwritten⟩ := Idna.toAscii?_eq_some h.1
    exact isInside_of_written hwritten hc
  | ipv4 address => exact isInside_of_written (written_writeIpv4 address) hc
  | ipv6 pieces =>
    have hdigits : ∀ d ∈ List.range 16, Url.isInside d.digitChar := by decide
    simp only [Host.text, List.cons_append, List.mem_cons, List.mem_append, List.not_mem_nil,
      or_false] at hc
    rcases hc with rfl | hc | rfl
    · decide
    · rcases mem_writeIpv6 hc with rfl | ⟨d, hd, rfl⟩
      · decide
      · exact hdigits d hd
    · decide

end Host.Canonical

theorem cutPort_append_of_plain (h : ∀ c ∈ text, c ≠ ':' ∧ c ≠ '[') (tail : List Char) :
    cutPort false (text ++ tail) = (text ++ (cutPort false tail).1, (cutPort false tail).2) := by
  induction text with
  | nil => rfl
  | cons c rest ih =>
    obtain ⟨hcolon, hbracket⟩ := h c List.mem_cons_self
    have hrest := ih fun a ha => h a (List.mem_cons_of_mem _ ha)
    rw [List.cons_append, cutPort]
    simp [hcolon, hbracket, hrest]

theorem cutPort_append_of_brackets (h : ']' ∉ text) (tail : List Char) :
    cutPort true (text ++ ']' :: tail) =
      (text ++ ']' :: (cutPort false tail).1, (cutPort false tail).2) := by
  induction text with
  | nil =>
    rw [List.nil_append, cutPort]
    simp
  | cons c rest ih =>
    have hc : c ≠ ']' := fun heq => h (heq ▸ List.mem_cons_self)
    have hrest := ih fun hmem => h (List.mem_cons_of_mem _ hmem)
    rw [List.cons_append, cutPort]
    simp [hc, hrest]

theorem cutPort_marked (port : Option (List Char)) : cutPort false (marked ':' port) = ([], port) := by
  cases port <;> rfl

/-- A host is cut off where its port begins. -/
theorem Host.Canonical.cutPort (h : host.Canonical) (port : Option (List Char)) :
    cutPort false (host.text ++ marked ':' port) = (host.text, port) := by
  have hplain : ∀ {ascii : List Char}, ascii.all Idna.isAllowed →
      Url.cutPort false (ascii ++ marked ':' port) = (ascii, port) := by
    intro ascii hallowed
    rw [cutPort_append_of_plain, cutPort_marked, List.append_nil]
    intro c hc
    refine ⟨?_, ?_⟩
    · rintro rfl
      exact not_mem_of_allowed hallowed (by decide) hc
    · rintro rfl
      exact not_mem_of_allowed hallowed (by decide) hc
  cases host with
  | name ascii => exact hplain (allowed_of_toAscii? h.1)
  | ipv4 address => exact hplain (written_writeIpv4 address).allowed
  | ipv6 pieces =>
    have hbracket : ']' ∉ writeIpv6 pieces := by
      have hdigits : ∀ d ∈ List.range 16, ']' ≠ d.digitChar := by decide
      intro hmem
      rcases mem_writeIpv6 hmem with heq | ⟨d, hd, heq⟩
      · exact absurd heq (by decide)
      · exact hdigits d hd heq
    have hinside := cutPort_append_of_brackets hbracket (marked ':' port)
    rw [cutPort_marked] at hinside
    show Url.cutPort false ('[' :: (writeIpv6 pieces ++ [']']) ++ marked ':' port) = _
    rw [List.cons_append, List.append_assoc, List.singleton_append, Url.cutPort]
    simp [hinside, Host.text]

theorem Host.Canonical.text_ne_nil (h : host.Canonical) : host.text ≠ [] := by
  intro hnil
  have hnone : readHost? [] = none := by decide +kernel
  have hread := readHost?_text h
  rw [hnil, hnone] at hread
  cases hread

end PagePilot.Url
