import PagePilot.Proofs.Text.Runs
import PagePilot.Url.Reader
/-!
# PagePilot.Proofs.Url.Cutting

Cutting an address into its parts. What is left out of a text before it is cut are blanks and
controls only, so everything that the cuts go by is still there, in its order (`filter_clean`).
-/

namespace PagePilot.Url

open Text

variable {word rest text : List Char}

/-! ### What is left out -/

/-- Whether a character is neither a blank nor a control. -/
def isSolid (c : Char) : Bool :=
  ' ' < c

theorem isIdle_eq_false_of_isSolid {c : Char} (h : isSolid c) : isIdle c = false := by
  have h := of_decide_eq_true h
  refine Bool.eq_false_iff.mpr ?_
  intro hidle
  unfold isIdle at hidle
  simp only [Bool.or_eq_true, decide_eq_true_eq] at hidle
  rcases hidle with (rfl | rfl) | rfl <;> exact absurd h (by decide)

/-- Whether a character is one of ASCII that is seen. -/
def isGraphic (c : Char) : Bool :=
  ' ' < c && c < '\x7f'

theorem isGraphic_iff {c : Char} : isGraphic c ↔ 0x20 < c.toNat ∧ c.toNat < 0x7f := by
  unfold isGraphic
  simp only [Bool.and_eq_true, decide_eq_true_eq]
  exact Iff.rfl

theorem isSolid_of_isGraphic {c : Char} (h : isGraphic c) : isSolid c := by
  unfold isGraphic at h
  exact (Bool.and_eq_true_iff.mp h).1

theorem isGraphic_of_isSchemeChar {c : Char} (h : isSchemeChar c) : isGraphic c := by
  have halphanum : c.isAlphanum = ((decide (65 ≤ c.val ∧ c.val ≤ 90) ||
      decide (97 ≤ c.val) && decide (c.val ≤ 122)) || decide (48 ≤ c.val) && decide (c.val ≤ 57)) :=
    rfl
  unfold isSchemeChar at h
  rw [halphanum] at h
  simp only [Bool.or_eq_true, Bool.and_eq_true, decide_eq_true_eq, UInt32.le_iff_toNat_le] at h
  rw [isGraphic_iff]
  change (((((65 ≤ c.toNat ∧ c.toNat ≤ 90) ∨ (97 ≤ c.toNat ∧ c.toNat ≤ 122)) ∨
    (48 ≤ c.toNat ∧ c.toNat ≤ 57)) ∨ c = '+') ∨ c = '-') ∨ c = '.' at h
  rcases h with ((((h | h) | h) | rfl) | rfl) | rfl
  · omega
  · omega
  · omega
  all_goals decide

theorem filter_dropWhile_blank : (text.dropWhile (· ≤ ' ')).filter isSolid = text.filter isSolid := by
  induction text with
  | nil => rfl
  | cons c rest ih =>
    rw [List.dropWhile_cons]
    split
    · next hc =>
      have hblank : ¬ isSolid c := by
        intro hsolid
        exact Nat.not_lt_of_le (of_decide_eq_true hc) (of_decide_eq_true hsolid)
      rw [ih, List.filter_cons_of_neg hblank]
    · rfl

/-- What is left of a text without the blanks and controls at its end and all idle characters. -/
def cleanEnd (text : List Char) : List Char :=
  ((text.reverse.dropWhile (· ≤ ' ')).reverse).filter (!isIdle ·)

theorem filter_cleanEnd (text : List Char) : (cleanEnd text).filter isSolid = text.filter isSolid := by
  unfold cleanEnd
  rw [List.filter_filter]
  have hboth : (fun c => isSolid c && !isIdle c) = isSolid := by
    funext c
    cases hsolid : isSolid c with
    | false => rfl
    | true => simp [isIdle_eq_false_of_isSolid hsolid]
  rw [hboth, List.filter_reverse, filter_dropWhile_blank, ← List.filter_reverse,
    List.reverse_reverse]

/-- Nothing is left out up to a character that counts, if all before it count. -/
theorem clean_append_cons {front : List Char} {c : Char} (hfront : ∀ a ∈ front, isSolid a)
    (hc : isSolid c) (rest : List Char) : clean (front ++ c :: rest) = front ++ c :: cleanEnd rest := by
  have hblank : ∀ a, isSolid a → (decide (a ≤ ' ')) = false := by
    intro a ha
    exact decide_eq_false (Nat.not_le_of_lt (of_decide_eq_true ha))
  have hkept : ∀ l : List Char, (∀ a ∈ l, isSolid a) → l.filter (!isIdle ·) = l := by
    intro l hl
    refine List.filter_eq_self.mpr ?_
    intro a ha
    simp [isIdle_eq_false_of_isSolid (hl a ha)]
  unfold clean cleanEnd
  have hdrop : (front ++ c :: rest).dropWhile (· ≤ ' ') = front ++ c :: rest := by
    cases front with
    | nil => simp [hblank c hc]
    | cons a front => simp [hblank a (hfront a List.mem_cons_self)]
  simp only [hdrop]
  rw [List.reverse_append, List.reverse_cons, List.append_assoc, List.singleton_append,
    dropWhile_append_cons_of_neg (hblank c hc), List.reverse_append, List.reverse_cons,
    List.reverse_reverse, List.filter_append, List.filter_append, hkept front hfront]
  simp [isIdle_eq_false_of_isSolid hc]

/-! ### The cuts -/

theorem cutScheme?_append (hword : ∀ c ∈ word, isSchemeChar c) :
    cutScheme? (word ++ ':' :: rest) = if word.head?.any Char.isAlpha then
      some (String.ofList (word.map Char.toLower), rest) else none := by
  cases word with
  | nil => rfl
  | cons c word =>
    have hcolon : isSchemeChar ':' = false := by decide
    have htake := takeWhile_append_cons hword hcolon rest
    have hdrop := dropWhile_append_cons hword hcolon rest
    unfold cutScheme?
    simp only [List.cons_append] at htake hdrop ⊢
    rw [htake, hdrop]
    rfl

/-- The parts of what stands behind a scheme and its slashes. -/
def Pieces.behind (scheme : Scheme) (rest : List Char) : Pieces :=
  let authority := cutCredentials (rest.takeWhile (!endsAuthority ·))
  let beforeFragment := cutAt '#' (rest.dropWhile (!endsAuthority ·))
  { scheme
    credentials := authority.1
    host := (cutPort false authority.2).1
    port := (cutPort false authority.2).2
    path := (cutAt '?' beforeFragment.1).1
    query := (cutAt '?' beforeFragment.1).2
    fragment := beforeFragment.2 }

theorem Pieces.ofText?_eq (text : List Char) : ofText? text =
    (cutScheme? (clean text)).bind fun cut =>
      (Scheme.ofWord? cut.1).map fun scheme => behind scheme (cut.2.dropWhile isSlash) := by
  unfold ofText?
  cases cutScheme? (clean text) with
  | none => rfl
  | some cut =>
    show Option.bind (Scheme.ofWord? cut.1) _ = Option.map _ (Scheme.ofWord? cut.1)
    cases Scheme.ofWord? cut.1 <;> rfl

/-- A text that is cut at a colon is the same as before with the colon put back. -/
theorem cutPort_append (inBrackets : Bool) (text : List Char) :
    (cutPort inBrackets text).1 ++ marked ':' (cutPort inBrackets text).2 = text := by
  induction text generalizing inBrackets with
  | nil => rfl
  | cons c rest ih =>
    unfold cutPort
    split
    next hc =>
      simp only [Bool.and_eq_true, decide_eq_true_eq] at hc
      rw [hc.1]
      rfl
    next => exact congrArg (c :: ·) (ih _)

/-! ### The parts together -/

/-- An address has been read from its parts one by one. -/
theorem ofPieces?_eq_some {p : Pieces} {u : Url} (h : ofPieces? p = some u) :
    ∃ host written, p.host ≠ [] ∧ readHost? p.host = some host ∧ p.writtenPort? = some written ∧
      u =
        { scheme := p.scheme
          user := (readCredentials (p.credentials.getD [])).1
          password := (readCredentials (p.credentials.getD [])).2
          host
          port := written.filter (· ≠ p.scheme.defaultPort)
          path := readPath p.path
          query := p.query.map (Part.encode .query)
          fragment := p.fragment.map (Part.encode .fragment) } := by
  unfold ofPieces? at h
  split at h
  next => cases h
  next hempty =>
    obtain ⟨host, hhost, h⟩ := Option.bind_eq_some_iff.mp h
    obtain ⟨written, hwritten, h⟩ := Option.bind_eq_some_iff.mp h
    cases h
    refine ⟨host, written, ?_, hhost, hwritten, rfl⟩
    intro hnil
    exact hempty (by simp [hnil])

theorem read?_eq_some {text : String} {u : Url} :
    read? text = some u ↔ ∃ p, Pieces.ofText? text.toList = some p ∧ ofPieces? p = some u :=
  Option.bind_eq_some_iff

/-- The port that an address leads to is the one that is written, or that of the scheme. -/
theorem effectivePort_filter {u : Url} {written : Option Nat}
    (h : u.port = written.filter (· ≠ u.scheme.defaultPort)) :
    u.effectivePort = written.getD u.scheme.defaultPort := by
  unfold effectivePort
  rw [h]
  cases written with
  | none => rfl
  | some port =>
    by_cases hport : port = u.scheme.defaultPort
    · simp [hport, Option.filter]
    · simp [hport, Option.filter]

end PagePilot.Url
