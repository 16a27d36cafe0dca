import PagePilot.Proofs.Url.Host
import PagePilot.Proofs.Url.Path
/-!
# PagePilot.Proofs.Url.Text

Addresses and their texts. A text that is put together from pieces is cut into these pieces, if
none of them has the characters that it is cut at (`Pieces.Apart.ofText?_text`), so it is read as
the address of the pieces (`Pieces.Apart.read?_text`). What is read is an address whose parts are
kept as they are written (`canonical_of_read?`); its pieces are such, and none of them changes when
it is read (`Canonical.ofPieces?_pieces`).
-/

namespace PagePilot.Url

open Text

variable {u : Url} {chars tail : List Char} {mark : Char}

/-! ### Addresses as they are kept -/

/-- An address whose parts are written as they are kept. -/
structure Canonical (u : Url) : Prop where
  user : ∀ c ∈ u.user, Part.encodes .user c = false
  password : ∀ c ∈ u.password, Part.encodes .user c = false
  host : u.host.Canonical
  port : ∀ n, u.port = some n → n ≤ 0xffff ∧ n ≠ u.scheme.defaultPort
  path : IsPath u.path
  query : ∀ text, u.query = some text → ∀ c ∈ text, Part.encodes .query c = false
  fragment : ∀ text, u.fragment = some text → ∀ c ∈ text, Part.encodes .fragment c = false

theorem readPort?_le {written : Option Nat} (h : readPort? chars = some written) :
    ∀ n, written = some n → n ≤ 0xffff := by
  unfold readPort? at h
  split at h
  next =>
    cases h
    exact nofun
  next =>
    split at h
    next hport =>
      cases h
      rintro n ⟨⟩
      exact hport.2
    next => cases h

theorem writtenPort?_le {p : Pieces} {written : Option Nat} (h : p.writtenPort? = some written) :
    ∀ n, written = some n → n ≤ 0xffff := by
  unfold Pieces.writtenPort? at h
  split at h
  next =>
    cases h
    exact nofun
  next => exact readPort?_le h

theorem canonical_of_ofPieces? {p : Pieces} (h : ofPieces? p = some u) : u.Canonical := by
  obtain ⟨host, written, -, hhost, hwritten, rfl⟩ := ofPieces?_eq_some h
  have hencoded : ∀ {part : Part} {text? : Option (List Char)} (text : List Char),
      text?.map (Part.encode part) = some text → ∀ c ∈ text, part.encodes c = false := by
    intro part text? text htext c hc
    obtain ⟨text, -, rfl⟩ := Option.map_eq_some_iff.mp htext
    exact encodes_of_mem_encode hc
  exact {
    user := fun _ => encodes_of_mem_encode
    password := fun _ => encodes_of_mem_encode
    host := Host.canonical_of_readHost? hhost
    port := by
      intro n hn
      obtain ⟨hn, hdefault⟩ := Option.filter_eq_some_iff.mp hn
      exact ⟨writtenPort?_le hwritten n hn, of_decide_eq_true hdefault⟩
    path := isPath_readPath _
    query := hencoded
    fragment := hencoded }

/-- An address that was read is kept as it is written. -/
theorem canonical_of_read? {text : String} (h : read? text = some u) : u.Canonical := by
  obtain ⟨p, -, hp⟩ := read?_eq_some.mp h
  exact canonical_of_ofPieces? hp

/-! ### Cutting what was put together -/

theorem clean_of_graphic (h : ∀ c ∈ chars, isGraphic c) : clean chars = chars := by
  have hblank : ∀ c, isGraphic c → decide (c ≤ ' ') = false :=
    fun c hc => decide_eq_false (Char.not_le.mpr (of_decide_eq_true (isSolid_of_isGraphic hc)))
  have hfront : chars.dropWhile (· ≤ ' ') = chars :=
    dropWhile_of_neg fun c hc => hblank c (h c hc)
  have hback : chars.reverse.dropWhile (· ≤ ' ') = chars.reverse :=
    dropWhile_of_neg fun c hc => hblank c (h c (List.mem_reverse.mp hc))
  unfold clean
  simp only [hfront, hback, List.reverse_reverse]
  refine List.filter_eq_self.mpr ?_
  intro c hc
  simp [isIdle_eq_false_of_isSolid (isSolid_of_isGraphic (h c hc))]

theorem cutCredentials_of_not_mem (h : '@' ∉ chars) : cutCredentials chars = (none, chars) := by
  unfold cutCredentials
  simp only [behind_of_not_mem h]
  exact if_pos trivial

theorem cutCredentials_append (h : '@' ∉ tail) (front : List Char) :
    cutCredentials (front ++ '@' :: tail) = (some front, tail) := by
  unfold cutCredentials
  simp only [behind_append_cons h, take_append_cons]
  refine if_neg ?_
  simp only [List.length_append, List.length_cons]
  omega

theorem cutAt_append_marked (h : mark ∉ chars) (marked? : Option (List Char)) :
    cutAt mark (chars ++ marked mark marked?) = (chars, marked?) := by
  have hall := ne_of_not_mem h
  have hmark : decide (mark ≠ mark) = false := by simp
  unfold cutAt
  cases marked? with
  | none =>
    rw [marked, List.append_nil, List.dropWhile_eq_nil_iff.mpr hall]
  | some tail =>
    rw [marked, dropWhile_append_cons hall hmark, takeWhile_append_cons hall hmark]

/-! ### Pieces that are put together -/

/-- What stands in front of the path. -/
def Pieces.authority (p : Pieces) : List Char :=
  (match p.credentials with
    | none => []
    | some text => text ++ ['@']) ++ (p.host ++ marked ':' p.port)

/-- What stands behind the authority. -/
def Pieces.behindAuthority (p : Pieces) : List Char :=
  p.path ++ (marked '?' p.query ++ marked '#' p.fragment)

/-- The text that is put together from pieces. -/
def Pieces.text (p : Pieces) : List Char :=
  p.scheme.word.toList ++ ':' :: '/' :: '/' :: (p.authority ++ p.behindAuthority)

/-- Pieces without the characters that a text is cut at. -/
structure Pieces.Apart (p : Pieces) : Prop where
  credentials : ∀ text, p.credentials = some text →
    ∀ c ∈ text, isGraphic c ∧ endsAuthority c = false
  inside : ∀ c ∈ p.host ++ marked ':' p.port, isInside c
  hostAndPort : cutPort false (p.host ++ marked ':' p.port) = (p.host, p.port)
  host : p.host ≠ []
  path : p.path = [] ∨ ∃ rest, p.path = '/' :: rest
  pathChars : ∀ c ∈ p.path, isGraphic c ∧ c ≠ '?' ∧ c ≠ '#'
  query : ∀ text, p.query = some text → ∀ c ∈ text, isGraphic c ∧ c ≠ '#'
  fragment : ∀ text, p.fragment = some text → ∀ c ∈ text, isGraphic c

theorem mem_marked {text? : Option (List Char)} {c : Char} (h : c ∈ marked mark text?) :
    c = mark ∨ ∃ text, text? = some text ∧ c ∈ text := by
  cases text? with
  | none => cases h
  | some text => exact (List.mem_cons.mp h).imp_right fun hc => ⟨text, rfl, hc⟩

theorem Scheme.word_chars {scheme : Scheme} {c : Char} (h : c ∈ scheme.word.toList) :
    isSchemeChar c := by
  have hall : scheme.word.toList.all isSchemeChar := by
    cases scheme <;> decide
  exact List.all_eq_true.mp hall c h

theorem Scheme.ofWord?_word (scheme : Scheme) : scheme.word.toList.head?.any Char.isAlpha ∧
    ofWord? (String.ofList (scheme.word.toList.map Char.toLower)) = some scheme := by
  cases scheme <;> decide

theorem spec_of_isInside {c : Char} (h : isInside c) : isGraphic c ∧ endsAuthority c = false :=
  ⟨(isInside_iff.mp h).1, endsAuthority_of_isInside h⟩

namespace Pieces.Apart

variable {p : Pieces}

/-- What stands in front of the path does not end before it. -/
theorem authority (h : p.Apart) {c : Char} (hc : c ∈ p.authority) :
    isGraphic c ∧ endsAuthority c = false := by
  rcases List.mem_append.mp hc with hc | hc
  · cases hcredentials : p.credentials with
    | none =>
      rw [hcredentials] at hc
      cases hc
    | some text =>
      rw [hcredentials] at hc
      rcases List.mem_append.mp hc with hc | hc
      · exact h.credentials text hcredentials c hc
      · rw [List.mem_singleton.mp hc]
        decide
  · exact spec_of_isInside (h.inside c hc)

theorem authority_ne_nil (h : p.Apart) : p.authority ≠ [] := by
  unfold Pieces.authority
  simp [h.host]

theorem cutCredentials (h : p.Apart) :
    cutCredentials p.authority = (p.credentials, p.host ++ marked ':' p.port) := by
  have hat : '@' ∉ p.host ++ marked ':' p.port :=
    fun hmem => absurd (h.inside _ hmem) (by decide)
  unfold Pieces.authority
  cases p.credentials with
  | none => exact cutCredentials_of_not_mem hat
  | some text =>
    rw [List.append_assoc]
    exact cutCredentials_append hat text

/-- What stands behind the authority ends it. -/
theorem behindAuthority (h : p.Apart) : p.behindAuthority = [] ∨
    ∃ c rest, p.behindAuthority = c :: rest ∧ endsAuthority c := by
  unfold Pieces.behindAuthority
  rcases h.path with hpath | ⟨rest, hpath⟩
  · rw [hpath]
    cases p.query with
    | some query => exact .inr ⟨'?', _, rfl, by decide⟩
    | none =>
      cases p.fragment with
      | some fragment => exact .inr ⟨'#', _, rfl, by decide⟩
      | none => exact .inl rfl
  · rw [hpath]
    exact .inr ⟨'/', _, rfl, by decide⟩

theorem takeWhile (h : p.Apart) : (p.authority ++ p.behindAuthority).takeWhile (!endsAuthority ·) =
    p.authority ∧
      (p.authority ++ p.behindAuthority).dropWhile (!endsAuthority ·) = p.behindAuthority := by
  have hinside : ∀ c ∈ p.authority, (!endsAuthority c) = true := by
    intro c hc
    rw [(h.authority hc).2]
    rfl
  rcases h.behindAuthority with hnil | ⟨c, rest, hcons, hc⟩
  · rw [hnil, List.append_nil]
    exact ⟨List.takeWhile_eq_self_iff.mpr hinside, List.dropWhile_eq_nil_iff.mpr hinside⟩
  · have hends : (!endsAuthority c) = false := by simp [hc]
    rw [hcons]
    exact ⟨takeWhile_append_cons hinside hends rest, dropWhile_append_cons hinside hends rest⟩

/-- The slashes behind the scheme are all that is dropped. -/
theorem dropWhile (h : p.Apart) :
    ('/' :: '/' :: (p.authority ++ p.behindAuthority)).dropWhile isSlash =
      p.authority ++ p.behindAuthority := by
  obtain ⟨c, more, hfirst⟩ := List.exists_cons_of_ne_nil h.authority_ne_nil
  have hc : isSlash c = false := by
    have hc := (h.authority (hfirst ▸ List.mem_cons_self : c ∈ p.authority)).2
    unfold endsAuthority at hc
    simp only [Bool.or_eq_false_iff] at hc
    exact hc.1.1
  rw [List.dropWhile_cons_of_pos (by decide), List.dropWhile_cons_of_pos (by decide), hfirst]
  exact List.dropWhile_cons_of_neg (by simp [hc])

theorem cutFragment (h : p.Apart) :
    cutAt '#' p.behindAuthority = (p.path ++ marked '?' p.query, p.fragment) := by
  unfold Pieces.behindAuthority
  rw [← List.append_assoc]
  refine cutAt_append_marked ?_ p.fragment
  intro hmem
  rcases List.mem_append.mp hmem with hmem | hmem
  · exact (h.pathChars _ hmem).2.2 rfl
  rcases mem_marked hmem with heq | ⟨query, hquery, hmem⟩
  · exact absurd heq (by decide)
  · exact (h.query query hquery _ hmem).2 rfl

theorem cutQuery (h : p.Apart) : cutAt '?' (p.path ++ marked '?' p.query) = (p.path, p.query) :=
  cutAt_append_marked (fun hmem => (h.pathChars _ hmem).2.1 rfl) p.query

/-- Everything in the text is seen, so that nothing of it is left out. -/
theorem graphic (h : p.Apart) : ∀ c ∈ p.text, isGraphic c := by
  intro c hc
  unfold Pieces.text Pieces.behindAuthority at hc
  simp only [List.mem_append, List.mem_cons] at hc
  rcases hc with hc | rfl | rfl | rfl | hc | hc | hc | hc
  · exact isGraphic_of_isSchemeChar (Scheme.word_chars hc)
  · decide
  · decide
  · decide
  · exact (h.authority hc).1
  · exact (h.pathChars c hc).1
  · rcases mem_marked hc with rfl | ⟨query, hquery, hc⟩
    · decide
    · exact (h.query query hquery c hc).1
  · rcases mem_marked hc with rfl | ⟨fragment, hfragment, hc⟩
    · decide
    · exact h.fragment fragment hfragment c hc

/-- A text that is put together from pieces is cut into these. -/
theorem ofText?_text (h : p.Apart) : ofText? p.text = some p := by
  obtain ⟨halpha, hscheme⟩ := p.scheme.ofWord?_word
  rw [ofText?_eq, clean_of_graphic h.graphic]
  unfold Pieces.text
  rw [cutScheme?_append fun _ => Scheme.word_chars, if_pos halpha, Option.bind_some, hscheme,
    Option.map_some, h.dropWhile]
  unfold behind
  simp only [h.takeWhile, h.cutCredentials, h.hostAndPort, h.cutFragment, h.cutQuery]

/-- A text that is put together from the pieces of an address is read as the address. -/
theorem read?_text (h : p.Apart) (hu : ofPieces? p = some u) :
    read? (String.ofList p.text) = some u := by
  refine read?_eq_some.mpr ⟨p, ?_, hu⟩
  rw [String.toList_ofList]
  exact h.ofText?_text

end Pieces.Apart

/-! ### The text of an address -/

/-- The user and the password as they are written in front of the at sign. -/
def login (u : Url) : Option (List Char) :=
  if u.user = [] ∧ u.password = [] then none
  else some (u.user ++ marked ':' (if u.password = [] then none else some u.password))

/-- The pieces of an address. -/
def pieces (u : Url) : Pieces where
  scheme := u.scheme
  credentials := u.login
  host := u.host.text
  port := u.port.map decimal
  path := u.pathText
  query := u.query
  fragment := u.fragment

theorem credentials_eq (u : Url) : u.credentials = match u.login with
    | none => []
    | some text => text ++ ['@'] := by
  unfold credentials login
  simp only [List.isEmpty_iff]
  split
  · rfl
  · split <;> simp [marked]

theorem portText_eq (u : Url) : u.portText = marked ':' (u.port.map decimal) := by
  unfold portText
  cases u.port <;> rfl

theorem toList_text (u : Url) : u.text.toList = u.pieces.text := by
  unfold text schemeText Pieces.text Pieces.authority Pieces.behindAuthority
  rw [String.toList_ofList, credentials_eq, portText_eq]
  simp [pieces]

theorem mem_login {login : List Char} (h : u.login = some login) {c : Char} (hc : c ∈ login) :
    c ∈ u.user ∨ c ∈ u.password ∨ c = ':' := by
  unfold Url.login at h
  split at h
  next => cases h
  next =>
    cases h
    rcases List.mem_append.mp hc with hc | hc
    · exact .inl hc
    rcases mem_marked hc with hc | ⟨password, hpassword, hc⟩
    · exact .inr (.inr hc)
    · split at hpassword
      next => cases hpassword
      next =>
        cases hpassword
        exact .inr (.inl hc)

/-- What is written of a user or a password does not end what is around it. -/
theorem isInside_of_plain {c : Char} (h : Part.encodes .user c = false) : isInside c :=
  isInside_of_class (p := (!Part.encodes .user ·)) (by decide) (by simp [h]) (isGraphic_of_plain h)

/-- A host and a port do not end what stands in front of the path, nor divide it. -/
theorem isInside_hostAndPort {host : Host} (h : host.Canonical) (port : Option Nat) {c : Char}
    (hc : c ∈ host.text ++ marked ':' (port.map decimal)) : isInside c := by
  rcases List.mem_append.mp hc with hc | hc
  · exact h.isInside hc
  rcases mem_marked hc with rfl | ⟨digits, hdigits, hc⟩
  · decide
  · obtain ⟨n, -, rfl⟩ := Option.map_eq_some_iff.mp hdigits
    exact isInside_of_isDigit (isDigit_of_mem_decimal hc)

namespace Canonical

theorem path_plain (h : u.Canonical) {c : Char} (hc : c ∈ u.pathText) :
    c = '/' ∨ Part.encodes .path c = false := by
  obtain ⟨part, hpart, hc⟩ := List.mem_flatMap.mp hc
  rcases List.mem_cons.mp hc with hc | hc
  · exact .inl hc
  · exact .inr ((h.path.steps part hpart).plain c hc)

/-- The pieces of an address can be told apart. -/
theorem apart (h : u.Canonical) : u.pieces.Apart where
  credentials := by
    intro login hlogin c hc
    rcases mem_login hlogin hc with hc | hc | rfl
    · exact spec_of_isInside (isInside_of_plain (h.user c hc))
    · exact spec_of_isInside (isInside_of_plain (h.password c hc))
    · decide
  inside _ hc := isInside_hostAndPort h.host _ hc
  hostAndPort := h.host.cutPort _
  host := h.host.text_ne_nil
  path := .inr ⟨_, flatMap_slash h.path.ne_nil⟩
  pathChars := by
    intro c hc
    rcases h.path_plain hc with rfl | hplain
    · decide
    · exact ⟨isGraphic_of_plain hplain, ne_of_plain (by decide) hplain,
        ne_of_plain (by decide) hplain⟩
  query query hquery c hc :=
    ⟨isGraphic_of_plain (h.query query hquery c hc),
      ne_of_plain (by decide) (h.query query hquery c hc)⟩
  fragment fragment hfragment c hc := isGraphic_of_plain (h.fragment fragment hfragment c hc)

theorem readCredentials_login (h : u.Canonical) :
    readCredentials (u.login.getD []) = (u.user, u.password) := by
  have huser := encode_of_plain h.user
  have hpassword := encode_of_plain h.password
  have hcolon : ':' ∉ u.user := fun hmem => absurd (h.user _ hmem) (by decide)
  unfold Url.login
  split
  next hnone =>
    rw [hnone.1, hnone.2]
    rfl
  next =>
    unfold readCredentials
    rw [Option.getD_some, cutAt_append_marked hcolon]
    dsimp only
    rw [huser]
    split
    next hnil =>
      rw [hnil]
      rfl
    next => rw [Option.getD_some, hpassword]

theorem writtenPort?_pieces (h : u.Canonical) : u.pieces.writtenPort? = some u.port := by
  unfold Pieces.writtenPort? Url.pieces
  cases hport : u.port with
  | none => rfl
  | some port => exact readPort?_decimal (h.port port hport).1

/-- The parts of an address are read as the address. -/
theorem ofPieces?_pieces (h : u.Canonical) : ofPieces? u.pieces = some u := by
  have hhost : u.pieces.host.isEmpty = false := by
    simpa [Url.pieces] using h.host.text_ne_nil
  have hread : readHost? u.pieces.host = some u.host := readHost?_text h.host
  have hpath : readPath u.pieces.path = u.path := readPath_pathText h.path
  have hport : u.port.filter (· ≠ u.scheme.defaultPort) = u.port := by
    cases hport : u.port with
    | none => rfl
    | some port => simp [Option.filter, (h.port port hport).2]
  have hencoded : ∀ {part : Part} {text? : Option (List Char)},
      (∀ text, text? = some text → ∀ c ∈ text, part.encodes c = false) →
        text?.map (Part.encode part) = text? := by
    intro part text? hplain
    cases text? with
    | none => rfl
    | some text => exact congrArg some (encode_of_plain (hplain text rfl))
  have hcredentials : readCredentials (u.pieces.credentials.getD []) = (u.user, u.password) :=
    h.readCredentials_login
  unfold ofPieces?
  rw [hhost, if_neg Bool.false_ne_true, hread, h.writtenPort?_pieces, hcredentials, hpath]
  show some
      ({ scheme := u.scheme, user := u.user, password := u.password, host := u.host,
         port := u.port.filter (· ≠ u.scheme.defaultPort), path := u.path,
         query := u.query.map (Part.encode .query),
         fragment := u.fragment.map (Part.encode .fragment) } : Url) = some u
  rw [hport, hencoded h.query, hencoded h.fragment]

end Canonical

end PagePilot.Url
