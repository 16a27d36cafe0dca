import PagePilot.Endpoint.Reader
import PagePilot.Proofs.Url.Host
/-!
# PagePilot.Proofs.Endpoint.Port

The port of discovery pages. Two readers look for it in an address: the one that reads the
address, and `spellsOutPort`, which goes through the text as it is written. The port is the one
that the first finds, and the discovery port where it finds none, exactly when both agree on
whether there is one (`port_read`).

They agree on an address that is written plainly, with the host right behind the scheme mark and
no backslash in front of the path, except where a colon has no number behind it. They do not agree
in general (`hiddenPort`).
-/

namespace PagePilot

open Text Url

namespace Endpoint

/-- The address that an endpoint is read from. -/
def address (text : String) : List Char :=
  withScheme (Text.trim text.toList)

/-- What stands between the slashes, for a reader that knows of slashes of one kind only. -/
def rawAuthority (behind : List Char) : List Char :=
  behind.takeWhile fun c => c ≠ '/' && c ≠ '?' && c ≠ '#'

/-- An address whose authority is written plainly: it begins right behind the scheme mark, and no
backslash ends it. -/
structure Plain (address : List Char) : Prop where
  behind : ∃ word rest, address = word ++ schemeMark ++ rest ∧ (∀ c ∈ word, isSchemeChar c) ∧
    (∀ c, (rest.filter (!isIdle ·)).head? = some c → isSlash c = false) ∧
      '\\' ∉ rawAuthority rest

/-! ### Looking through the text -/

variable {word rest : List Char}

theorem behindScheme?_append (hword : ':' ∉ word) :
    behindScheme? (word ++ schemeMark ++ rest) = some rest := by
  induction word with
  | nil => rfl
  | cons c word ih =>
    have hc : c ≠ ':' := fun h => hword (h ▸ List.mem_cons_self)
    have hrest := ih fun h => hword (List.mem_cons_of_mem _ h)
    rw [List.cons_append, List.cons_append]
    unfold behindScheme?
    split
    · next heq => exact absurd (List.cons.inj heq).1 hc
    · next heq => exact (List.cons.inj heq).2 ▸ hrest
    · next heq => cases heq

theorem behindLast_filter {keep : Char → Bool} {mark : Char} (hmark : keep mark)
    (text : List Char) :
    behindLast mark (text.filter keep) = (behindLast mark text).filter keep := by
  unfold behindLast
  rw [← List.filter_reverse, takeWhile_filter_of_forall, List.filter_reverse]
  intro c hc
  refine decide_eq_true ?_
  rintro rfl
  exact Bool.eq_false_iff.mp hc hmark

/-- Whether a colon is found in an authority. -/
def hasColon (authority : List Char) : Bool :=
  (behindLast ']' (behindLast '@' authority)).contains ':'

theorem spellsOutPort_append (hword : ':' ∉ word) :
    spellsOutPort (word ++ schemeMark ++ rest) = hasColon (rawAuthority rest) := by
  unfold spellsOutPort
  rw [behindScheme?_append hword]
  rfl

/-- Blanks do not count. -/
theorem hasColon_filter (authority : List Char) :
    hasColon (authority.filter isSolid) = hasColon authority := by
  unfold hasColon
  rw [behindLast_filter (by decide), behindLast_filter (by decide)]
  refine Bool.eq_iff_iff.mpr ?_
  simp only [List.contains_iff_mem, List.mem_filter]
  exact and_iff_left (by decide)

theorem rawAuthority_filter (behind : List Char) :
    rawAuthority (behind.filter isSolid) = (rawAuthority behind).filter isSolid := by
  refine takeWhile_filter_of_forall ?_
  intro c hc
  simp only [Bool.and_eq_true, decide_eq_true_eq]
  refine ⟨⟨?_, ?_⟩, ?_⟩
  all_goals
    rintro rfl
    exact absurd hc (by decide)

theorem behindLast_append {mark : Char} {tail : List Char} (htail : mark ∉ tail)
    (text : List Char) : behindLast mark (text ++ tail) = behindLast mark text ++ tail :=
  behind_append htail text

theorem behindLast_suffix (mark : Char) (text : List Char) : behindLast mark text <:+ text := by
  unfold behindLast
  rw [← List.reverse_prefix, List.reverse_reverse]
  exact List.takeWhile_prefix _

theorem cutCredentials_snd (authority : List Char) :
    (cutCredentials authority).2 = behindLast '@' authority := by
  show (if (behindLast '@' authority).length = authority.length then (none, authority)
    else (_, behindLast '@' authority)).2 = _
  split
  · next heq => exact ((behindLast_suffix '@' authority).eq_of_length heq).symm
  · rfl

/-- A colon behind the last bracket is one that divides a port from its host, in a host that ends
with a bracket if there is a colon in it. -/
theorem contains_colon {text host : List Char} {port : Option (List Char)}
    (hcut : cutPort false text = (host, port)) (hhost : ':' ∈ host → host.getLast? = some ']')
    (hport : ∀ written, port = some written → ']' ∉ written) :
    (behindLast ']' text).contains ':' = port.isSome := by
  have htext := cutPort_append false text
  rw [hcut] at htext
  cases port with
  | none =>
    rw [← htext, marked, List.append_nil]
    refine Bool.eq_false_iff.mpr ?_
    intro hcolon
    have hcolon := List.contains_iff_mem.mp hcolon
    obtain ⟨init, rfl⟩ := List.getLast?_eq_some_iff.mp
      (hhost ((behindLast_suffix ']' host).mem hcolon))
    simp [behindLast] at hcolon
  | some written =>
    have htail : ']' ∉ marked ':' (some written) := by
      intro hmem
      rcases List.mem_cons.mp hmem with heq | hmem
      · exact absurd heq (by decide)
      · exact hport written rfl hmem
    rw [← htext, behindLast_append htail]
    exact List.contains_iff_mem.mpr (List.mem_append_right _ List.mem_cons_self)

/-! ### What the reader of addresses finds -/

theorem isSlash_head_cleanEnd
    (hslash : ∀ c, (rest.filter (!isIdle ·)).head? = some c → isSlash c = false) :
    ∀ c, (cleanEnd rest).head? = some c → isSlash c = false := by
  have hprefix : cleanEnd rest <+: rest.filter (!isIdle ·) := by
    refine List.IsPrefix.filter _ ?_
    rw [← List.reverse_suffix, List.reverse_reverse]
    exact List.dropWhile_suffix _
  intro c hc
  refine hslash c ?_
  obtain ⟨tail, htail⟩ := hprefix
  rw [← htail, List.head?_append, hc]
  rfl

/-- Where the reader of addresses finds the host and the port of a plain address. -/
theorem ofText?_plain {p : Pieces} (hword : ∀ c ∈ word, isSchemeChar c)
    (hslash : ∀ c, (rest.filter (!isIdle ·)).head? = some c → isSlash c = false)
    (hraw : '\\' ∉ rawAuthority rest)
    (h : Pieces.ofText? (word ++ schemeMark ++ rest) = some p) :
    cutPort false (behindLast '@' (rawAuthority (cleanEnd rest))) = (p.host, p.port) := by
  have hclean : clean (word ++ schemeMark ++ rest) = word ++ ':' :: '/' :: '/' :: cleanEnd rest := by
    have hmark : [':', '/'].all isSolid := by decide
    have hfront : ∀ c ∈ word ++ [':', '/'], isSolid c := by
      intro c hc
      rcases List.mem_append.mp hc with hc | hc
      · exact isSolid_of_isGraphic (isGraphic_of_isSchemeChar (hword c hc))
      · exact List.all_eq_true.mp hmark c hc
    have hclean := clean_append_cons hfront (show isSolid '/' by decide) rest
    simpa [schemeMark] using hclean
  have hdrop : ('/' :: '/' :: cleanEnd rest).dropWhile isSlash = cleanEnd rest := by
    have hhead := isSlash_head_cleanEnd hslash
    rw [List.dropWhile_cons_of_pos (by decide), List.dropWhile_cons_of_pos (by decide)]
    cases hend : cleanEnd rest with
    | nil => rfl
    | cons c tail => exact List.dropWhile_cons_of_neg (by simp [hhead c (by simp [hend])])
  have hauthority : (cleanEnd rest).takeWhile (!endsAuthority ·) = rawAuthority (cleanEnd rest) := by
    refine takeWhile_eq_of_forall ?_ ?_
    · intro c hc
      simp_all [endsAuthority, isSlash]
    · intro c hc
      have hsolid : '\\' ∉ rawAuthority (cleanEnd rest) := by
        intro hmem
        have hmem : '\\' ∈ (rawAuthority (cleanEnd rest)).filter isSolid :=
          List.mem_filter.mpr ⟨hmem, by decide⟩
        rw [← rawAuthority_filter, filter_cleanEnd, rawAuthority_filter] at hmem
        exact hraw (List.mem_filter.mp hmem).1
      have hends := List.all_eq_true.mp List.all_takeWhile c hc
      have hback : c ≠ '\\' := fun heq => hsolid (heq ▸ hc)
      simp_all [endsAuthority, isSlash]
  rw [Pieces.ofText?_eq, hclean, cutScheme?_append hword] at h
  split at h
  next =>
    obtain ⟨scheme, -, rfl⟩ := Option.map_eq_some_iff.mp h
    simp only [Pieces.behind, hdrop, hauthority, cutCredentials_snd]
  next => cases h

/-- A written port is digits, if anything. -/
theorem not_bracket_of_writtenPort? {p : Pieces} {written : Option Nat}
    (h : p.writtenPort? = some written) {text : List Char} (hport : p.port = some text) :
    ']' ∉ text := by
  unfold Pieces.writtenPort? at h
  rw [hport] at h
  dsimp only at h
  unfold readPort? at h
  split at h
  next hempty => simp [List.isEmpty_iff.mp hempty]
  split at h
  next hdigits =>
    intro hmem
    exact absurd (List.all_eq_true.mp hdigits.1 _ hmem) (by decide)
  next => cases h

theorem isSome_of_writtenPort? {p : Pieces} {written : Option Nat}
    (h : p.writtenPort? = some written) (hport : p.port ≠ some []) :
    written.isSome = p.port.isSome := by
  unfold Pieces.writtenPort? at h
  cases htext : p.port with
  | none =>
    rw [htext] at h
    cases h
    rfl
  | some text =>
    rw [htext] at h hport
    dsimp only at h
    unfold readPort? at h
    split at h
    next hempty => exact absurd (congrArg some (List.isEmpty_iff.mp hempty)) hport
    split at h
    next => cases h; rfl
    next => cases h

/-- On an address that is written plainly both readers agree on whether a port is written. -/
theorem Plain.agree {address : List Char} (hplain : Plain address) {p : Pieces}
    {written : Option Nat} {host : Host} (h : Pieces.ofText? address = some p)
    (hhost : readHost? p.host = some host) (hwritten : p.writtenPort? = some written) :
    spellsOutPort address = p.port.isSome := by
  obtain ⟨word, rest, rfl, hword, hslash, hraw⟩ := hplain.behind
  have hcolon : ':' ∉ word := fun hmem => absurd (hword _ hmem) (by decide)
  rw [spellsOutPort_append hcolon, ← hasColon_filter, ← rawAuthority_filter, ← filter_cleanEnd,
    rawAuthority_filter, hasColon_filter]
  exact contains_colon (ofText?_plain hword hslash hraw h) (bracket_of_readHost? hhost)
    fun text htext => not_bracket_of_writtenPort? hwritten htext

/-! ### The port -/

/-- The port of discovery pages, as it comes from the parts of an address and from what is written
behind its colon. -/
structure PortRead (text : String) (port : Nat) (p : Pieces) (written : Option Nat) : Prop where
  eq : port = if spellsOutPort (address text) then written.getD p.scheme.defaultPort
    else discoveryPort
  /-- It is as written exactly if both readers agree on that, or the one that is passed over is
  the discovery port. -/
  asWritten : port = written.getD discoveryPort ↔
    spellsOutPort (address text) = written.isSome ∨ written = some discoveryPort
  /-- They agree on plain addresses, but for a colon with nothing behind it. -/
  plain : Plain (address text) → spellsOutPort (address text) = p.port.isSome ∧
    (p.port ≠ some [] → port = written.getD discoveryPort)

theorem read_eq_ok {text : String} {e : Endpoint} : read text = .ok e ↔
    Text.trim text.toList ≠ [] ∧ ∃ u, Url.read? (String.ofList (address text)) = some u ∧
      ofUrl (spellsOutPort (address text)) u = e := by
  unfold read
  dsimp only
  rw [← address]
  split
  next hempty => simp [List.isEmpty_iff.mp hempty]
  next hempty =>
    have hnonempty : Text.trim text.toList ≠ [] := fun hnil => hempty (by simp [hnil])
    cases Url.read? (String.ofList (address text)) <;> simp [hnonempty]

theorem ofUrl_eq_http {spelledOut : Bool} {u : Url} {host : String} {port : Nat} {secure : Bool}
    (h : ofUrl spelledOut u = .http host port secure) :
    port = if spelledOut then u.effectivePort else discoveryPort := by
  unfold ofUrl at h
  split at h <;> cases h <;> rfl

/-- How the port of every endpoint with discovery pages comes about. -/
theorem port_read {text host : String} {port : Nat} {secure : Bool}
    (h : read text = .ok (.http host port secure)) : ∃ p written,
      Pieces.ofText? (address text) = some p ∧ p.writtenPort? = some written ∧
        PortRead text port p written := by
  obtain ⟨-, u, hread, he⟩ := read_eq_ok.mp h
  obtain ⟨p, hcut, hparts⟩ := read?_eq_some.mp hread
  rw [String.toList_ofList] at hcut
  obtain ⟨host, written, -, hhost, hwritten, rfl⟩ := ofPieces?_eq_some hparts
  have hport := ofUrl_eq_http he
  rw [effectivePort_filter rfl] at hport
  have hdefault : p.scheme.defaultPort ≠ discoveryPort := by
    cases p.scheme <;> decide
  have hasWritten : port = written.getD discoveryPort ↔
      spellsOutPort (address text) = written.isSome ∨ written = some discoveryPort := by
    rw [hport]
    cases spellsOutPort (address text) <;> cases written <;> simp [hdefault, eq_comm]
  refine ⟨p, written, hcut, hwritten, hport, hasWritten, ?_⟩
  intro hplain
  have hagree := hplain.agree hcut hhost hwritten
  refine ⟨hagree, ?_⟩
  intro hsome
  exact hasWritten.mpr (.inl (hagree.trans (isSome_of_writtenPort? hwritten hsome).symm))

theorem keptDefault_read : read "http://[::1]:80" = .ok (.http "[::1]" 80 false) := by
  refine read_eq_ok.mpr ⟨by decide +kernel, ?_⟩
  exact ⟨⟨.http, [], [], .ipv6 [0, 0, 0, 0, 0, 0, 0, 1], none, [[]], none, none⟩,
    by decide +kernel, by decide +kernel⟩

/-- The port of a scheme is kept when it is spelled out. -/
theorem port_read_keptDefault : read "http://[::1]:80" = .ok (.http "[::1]" 80 false) ∧
    ∃ p written, Pieces.ofText? (address "http://[::1]:80") = some p ∧
      p.writtenPort? = some written ∧ PortRead "http://[::1]:80" 80 p written :=
  ⟨keptDefault_read, port_read keptDefault_read⟩

/-- Whether every port is as it is written, and the discovery port where none is. -/
def PortsAsWritten : Prop :=
  ∀ (text host : String) (port : Nat) (secure : Bool) (p : Pieces) (written : Option Nat),
    read text = .ok (.http host port secure) → Pieces.ofText? (address text) = some p →
      p.writtenPort? = some written → port = written.getD discoveryPort

/-- A third slash hides a port from the reader that goes through the text as it is written. -/
theorem hiddenPort : ¬ PortsAsWritten := by
  intro h
  have hread : read "http:///[::1]:5" = .ok (.http "[::1]" 9222 false) := by
    refine read_eq_ok.mpr ⟨by decide +kernel, ?_⟩
    exact ⟨⟨.http, [], [], .ipv6 [0, 0, 0, 0, 0, 0, 0, 1], some 5, [[]], none, none⟩,
      by decide +kernel, by decide +kernel⟩
  have hcut : Pieces.ofText? (address "http:///[::1]:5") = some
      { scheme := .http, credentials := none, host := "[::1]".toList, port := some "5".toList,
        path := [], query := none, fragment := none } := by
    decide +kernel
  exact absurd (h _ _ _ _ _ (some 5) hread hcut (by decide +kernel)) (by decide)

end Endpoint

end PagePilot
