import PagePilot.Proofs.Endpoint.Port
import PagePilot.Proofs.Url.Text
/-!
# PagePilot.Proofs.Endpoint.RoundTrip

The text of an endpoint is read as the endpoint (`read_text`). A socket is told by the text of its
address, which is read as the address. For discovery pages only the host and the port are told, of
an address that had more; but the port is always told, and so it is read as one that is spelled out.
-/

namespace PagePilot

open Text Url

namespace Endpoint

variable {u : Url} {p : Pieces}

/-! ### Texts that are read as they are -/

theorem isBlank_eq_false_of_isGraphic {c : Char} (h : isGraphic c) : isBlank c = false := by
  obtain ⟨hspace, hdelete⟩ := isGraphic_iff.mp h
  refine Bool.eq_false_iff.mpr ?_
  intro hblank
  unfold isBlank at hblank
  simp only [Bool.or_eq_true, Bool.and_eq_true, decide_eq_true_eq] at hblank
  omega

theorem trim_of_graphic {text : List Char} (h : ∀ c ∈ text, isGraphic c) : trim text = text := by
  have hfront : text.dropWhile isBlank = text :=
    dropWhile_of_neg fun c hc => isBlank_eq_false_of_isGraphic (h c hc)
  have hback : text.reverse.dropWhile isBlank = text.reverse :=
    dropWhile_of_neg fun c hc => isBlank_eq_false_of_isGraphic (h c (List.mem_reverse.mp hc))
  unfold trim trimBy
  rw [hfront, hback, List.reverse_reverse]

/-- A text that is put together from pieces has a scheme and nothing around it, and is taken for
the address as it is. -/
theorem address_text (h : p.Apart) : address (String.ofList p.text) = p.text := by
  have hcolon : ':' ∉ p.scheme.word.toList :=
    fun hmem => absurd (Scheme.word_chars hmem) (by decide)
  have hbehind : behindScheme? p.text = some (p.authority ++ p.behindAuthority) := by
    have htext : p.text =
        p.scheme.word.toList ++ schemeMark ++ (p.authority ++ p.behindAuthority) := by
      simp [Pieces.text, schemeMark]
    rw [htext]
    exact behindScheme?_append hcolon
  unfold address
  rw [String.toList_ofList, trim_of_graphic h.graphic]
  unfold withScheme
  rw [hbehind]

/-- A text that is put together from the pieces of an address is read as the endpoint of the
address. -/
theorem read_pieces (h : p.Apart) (hu : ofPieces? p = some u) :
    read (String.ofList p.text) = .ok (ofUrl (spellsOutPort p.text) u) := by
  refine read_eq_ok.mpr ⟨?_, u, ?_, ?_⟩
  · rw [String.toList_ofList, trim_of_graphic h.graphic]
    unfold Pieces.text
    simp
  · rw [address_text h]
    exact h.read?_text hu
  · rw [address_text h]

/-! ### Sockets -/

theorem ofUrl_of_socket (h : u.scheme = .ws ∨ u.scheme = .wss) (spelledOut : Bool) :
    ofUrl spelledOut u = .webSocket u.text := by
  unfold ofUrl
  rcases h with h | h <;> rw [h]

theorem read_socketText (hcanonical : u.Canonical) (h : u.scheme = .ws ∨ u.scheme = .wss) :
    read u.text = .ok (.webSocket u.text) := by
  have hread := read_pieces hcanonical.apart hcanonical.ofPieces?_pieces
  rwa [← toList_text, String.ofList_toList, ofUrl_of_socket h] at hread

/-! ### Discovery pages -/

/-- Where discovery pages are, in pieces. -/
def pages (scheme : Scheme) (host : Host) (port : Nat) : Pieces where
  scheme := scheme
  credentials := none
  host := host.text
  port := some (decimal port)
  path := []
  query := none
  fragment := none

variable {scheme : Scheme} {host : Host} {port : Nat}

theorem apart_pages (h : host.Canonical) : (pages scheme host port).Apart where
  credentials := nofun
  inside _ hc := isInside_hostAndPort h (some port) hc
  hostAndPort := h.cutPort _
  host := h.text_ne_nil
  path := .inl rfl
  pathChars := nofun
  query := nofun
  fragment := nofun

/-- The port is found where it is told. -/
theorem spellsOutPort_pages (h : host.Canonical) : spellsOutPort (pages scheme host port).text := by
  have hcolon : ':' ∉ scheme.word.toList :=
    fun hmem => absurd (Scheme.word_chars hmem) (by decide)
  have hinside : ∀ c ∈ host.text ++ ':' :: decimal port, isInside c :=
    fun _ => isInside_hostAndPort h (some port)
  -- Nothing in the host or the port ends what is scanned, or divides it.
  have hraw : rawAuthority (host.text ++ ':' :: decimal port) = host.text ++ ':' :: decimal port := by
    refine List.takeWhile_eq_self_iff.mpr ?_
    intro c hc
    have hnot := (isInside_iff.mp (hinside c hc)).2
    simp only [dividers, List.mem_cons, not_or] at hnot
    simp [hnot]
  have hat : '@' ∉ host.text ++ ':' :: decimal port :=
    fun hmem => absurd (hinside _ hmem) (by decide)
  have hbracket : ']' ∉ ':' :: decimal port := by
    intro hmem
    rcases List.mem_cons.mp hmem with heq | hmem
    · exact absurd heq (by decide)
    · exact absurd (isDigit_of_mem_decimal hmem) (by decide)
  have hbehind : behindLast '@' (host.text ++ ':' :: decimal port) =
      host.text ++ ':' :: decimal port := behindLast_append hat []
  have htext : (pages scheme host port).text =
      scheme.word.toList ++ schemeMark ++ (host.text ++ ':' :: decimal port) := by
    simp [Pieces.text, Pieces.authority, Pieces.behindAuthority, pages, marked, schemeMark]
  rw [htext, spellsOutPort_append hcolon, hraw, hasColon, hbehind, behindLast_append hbracket]
  simp

/-- Where discovery pages are, as an address. -/
def pagesUrl (scheme : Scheme) (host : Host) (port : Nat) : Url where
  scheme := scheme
  user := []
  password := []
  host := host
  port := (some port).filter (· ≠ scheme.defaultPort)
  path := [[]]
  query := none
  fragment := none

theorem effectivePort_pagesUrl : (pagesUrl scheme host port).effectivePort = port := by
  have hport : (pagesUrl scheme host port).port =
      (some port).filter (· ≠ (pagesUrl scheme host port).scheme.defaultPort) := rfl
  exact effectivePort_filter hport

theorem ofPieces?_pages (h : host.Canonical) (hport : port ≤ 0xffff) :
    ofPieces? (pages scheme host port) = some (pagesUrl scheme host port) := by
  have hhost : (pages scheme host port).host.isEmpty = false := by
    simpa [pages] using h.text_ne_nil
  have hread : readHost? (pages scheme host port).host = some host := readHost?_text h
  have hwritten : (pages scheme host port).writtenPort? = some (some port) := readPort?_decimal hport
  unfold ofPieces?
  rw [hhost, if_neg Bool.false_ne_true, hread, hwritten]
  rfl

theorem ofUrl_of_pages (h : ¬ (u.scheme = .ws ∨ u.scheme = .wss)) (spelledOut : Bool) :
    ofUrl spelledOut u = .http (String.ofList u.host.text)
      (if spelledOut then u.effectivePort else discoveryPort) (u.scheme = .https) := by
  unfold ofUrl
  cases hscheme : u.scheme <;> simp_all

theorem toList_text_http (h : ¬ (scheme = .ws ∨ scheme = .wss)) :
    text (.http (String.ofList host.text) port (scheme = .https)) =
      String.ofList (pages scheme host port).text := by
  have hword : (if scheme = .https then "https" else "http") = scheme.word := by
    cases scheme <;> simp_all [Scheme.word]
  rw [← String.toList_inj, String.toList_ofList]
  simp [text, hword, pages, Pieces.text, Pieces.authority, Pieces.behindAuthority, marked, decimal,
    toString]

theorem read_pagesText (h : host.Canonical) (hport : port ≤ 0xffff)
    (hscheme : ¬ (scheme = .ws ∨ scheme = .wss)) :
    read (text (.http (String.ofList host.text) port (scheme = .https))) =
      .ok (.http (String.ofList host.text) port (scheme = .https)) := by
  rw [toList_text_http hscheme, read_pieces (apart_pages h) (ofPieces?_pages h hport),
    spellsOutPort_pages h, ofUrl_of_pages hscheme, effectivePort_pagesUrl]
  rfl

/-! ### All endpoints -/

theorem effectivePort_le (h : u.Canonical) : u.effectivePort ≤ 0xffff := by
  unfold effectivePort
  cases hport : u.port with
  | none => cases u.scheme <;> decide
  | some port => exact (h.port port hport).1

/-- The text of an endpoint that was read is read as the endpoint. -/
theorem read_text {text : String} {e : Endpoint} (h : read text = .ok e) : read e.text = .ok e := by
  obtain ⟨-, u, hread, rfl⟩ := read_eq_ok.mp h
  have hcanonical := canonical_of_read? hread
  by_cases hsocket : u.scheme = .ws ∨ u.scheme = .wss
  · rw [ofUrl_of_socket hsocket]
    exact read_socketText hcanonical hsocket
  · rw [ofUrl_of_pages hsocket]
    refine read_pagesText hcanonical.host ?_ hsocket
    split
    · exact effectivePort_le hcanonical
    · decide

theorem socket_read : read " WS://me:p@[0:0::1]:80/a/%2e%2E/b c?q='#f" =
    .ok (.webSocket "ws://me:p@[::1]/b%20c?q=%27#f") := by
  refine read_eq_ok.mpr ⟨by decide +kernel, ?_⟩
  exact ⟨⟨.ws, "me".toList, "p".toList, .ipv6 [0, 0, 0, 0, 0, 0, 0, 1], none, ["b%20c".toList],
    some "q=%27".toList, some "f".toList⟩, by decide +kernel, by decide +kernel⟩

/-- What is told of a socket has no blanks, no dots to go back, and no port that it has anyway. -/
theorem read_text_socket : read " WS://me:p@[0:0::1]:80/a/%2e%2E/b c?q='#f" =
      .ok (.webSocket "ws://me:p@[::1]/b%20c?q=%27#f") ∧
    read (text (.webSocket "ws://me:p@[::1]/b%20c?q=%27#f")) =
      .ok (.webSocket "ws://me:p@[::1]/b%20c?q=%27#f") :=
  ⟨socket_read, read_text socket_read⟩

end Endpoint

end PagePilot
