import PagePilot.Proofs.History
import PagePilot.Proofs.Text.Runs
/-!
# PagePilot.Proofs.History.Rendering

What a reader sees of a session history that is shown, line by line. The text is cut at its line
feeds (`linesOf`); each line is taken apart again into its mark, its index, and what stands behind
the index. There is one line for each entry, so the moves can be read off the marks: one can go
back when a line is marked that is not the first, forward when one is marked that is not the last,
and the move leads to the entry of the line beside it (`lines_shown`).

Addresses and titles are shown as they are, so all this is about histories without a line feed in
them.
-/

namespace PagePilot.History

open Wire

/-! ### Reading lines -/

/-- The lines of a text in which a line feed ends every line. -/
def linesOf (text : String) : List (List Char) :=
  (text.toList.splitOn '\n').dropLast

/-- Whether a line is marked as that of the current entry. -/
def isMarked (line : List Char) : Bool :=
  line.head? = some '*'

/-- The digits of the index, in the column behind the mark. -/
def indexDigits (line : List Char) : List Char :=
  ((line.drop 2).dropWhile (· = ' ')).takeWhile Char.isDigit

/-- What stands behind the column of the index. -/
def behindIndex (line : List Char) : List Char :=
  ((line.drop 2).dropWhile (· = ' ')).dropWhile Char.isDigit

/-- How a title is shown, if there is one. -/
def shownTitle (title : String) : List Char :=
  if title = "" then [] else "  (".toList ++ title.toList ++ ")".toList

/-- A line shows an entry at an index. -/
structure Shows (line : List Char) (index : Nat) (e : NavigationEntry) : Prop where
  /-- A mark, or a blank in its place, and a blank. -/
  start : line.take 2 = [if isMarked line then '*' else ' ', ' ']
  /-- The index is there in decimal digits, and in a column of two unless it needs more. -/
  index : indexDigits line = Nat.toDigits 10 index
  column : (line.drop 2).length = max 2 (indexDigits line).length + (behindIndex line).length
  /-- Behind it stand the address and the title. -/
  entry : behindIndex line = "  ".toList ++ e.url.toList ++ shownTitle e.title

/-! ### The lines of the entries -/

/-- The line of an entry, without its end. -/
def entryLine (current : Int) (index : Nat) (e : NavigationEntry) : List Char :=
  (if (index : Int) = current then '*' else ' ') :: ' ' ::
    ((twoColumns index).toList ++ ("  ".toList ++ e.url.toList ++ shownTitle e.title))

variable {h : NavigationHistory} {current : Int} {index i j : Nat} {e : NavigationEntry}

theorem toList_renderEntry (current : Int) (index : Nat) (e : NavigationEntry) :
    (renderEntry current index e).toList = entryLine current index e ++ ['\n'] := by
  have hself : ∀ s : String, toString s = s := fun _ => rfl
  have hempty : e.title.isEmpty = true ↔ e.title = "" := String.isEmpty_iff
  unfold renderEntry entryLine shownTitle
  by_cases htitle : e.title = "" <;> split <;>
    simp [hself, htitle, hempty, String.toList_append]

theorem toList_twoColumns (index : Nat) : (twoColumns index).toList =
    List.replicate (2 - (Nat.toDigits 10 index).length) ' ' ++ Nat.toDigits 10 index := by
  have hdigits : (toString index).toList = Nat.toDigits 10 index := by
    rw [Nat.toString_eq_repr, Nat.repr_eq_ofList_toDigits, String.toList_ofList]
  have hsome : (Nat.toDigits 10 index).length ≠ 0 :=
    fun h => Nat.toDigits_ne_nil (List.length_eq_zero_iff.mp h)
  unfold twoColumns
  dsimp only
  rw [← String.length_toList, hdigits]
  split
  next hone =>
    rw [String.toList_append, hdigits, show 2 - (Nat.toDigits 10 index).length = 1 by omega]
    rfl
  next htwo =>
    rw [hdigits, show 2 - (Nat.toDigits 10 index).length = 0 by omega]
    rfl

/-- A number with blanks in front of it and behind it is found in a line. -/
theorem dropWhile_column {digits : List Char} (hdigits : ∀ c ∈ digits, c.isDigit)
    (hsome : digits ≠ []) (blanks : Nat) (rest : List Char) :
    (List.replicate blanks ' ' ++ (digits ++ rest)).dropWhile (· = ' ') = digits ++ rest := by
  obtain ⟨d, digits, rfl⟩ := List.exists_cons_of_ne_nil hsome
  have hblank : ∀ c ∈ List.replicate blanks ' ', decide (c = ' ') = true :=
    fun c hc => decide_eq_true (List.eq_of_mem_replicate hc)
  have hd : decide (d = ' ') = false := by
    refine decide_eq_false ?_
    rintro rfl
    exact absurd (hdigits ' ' List.mem_cons_self) (by decide)
  exact Text.dropWhile_append_cons hblank hd _

theorem isMarked_entryLine :
    isMarked (entryLine current index e) = true ↔ (index : Int) = current := by
  unfold isMarked entryLine
  split <;> simp [*]

/-- What is put together in a line is found in it. -/
theorem entryLine_shows (current : Int) (index : Nat) (e : NavigationEntry) :
    Shows (entryLine current index e) index e := by
  have hdigit : ∀ c ∈ Nat.toDigits 10 index, c.isDigit :=
    fun c hc => Nat.isDigit_of_mem_toDigits (by decide) (by decide) hc
  have hsome : Nat.toDigits 10 index ≠ [] := Nat.toDigits_ne_nil
  have hline : ((entryLine current index e).drop 2).dropWhile (· = ' ') =
      Nat.toDigits 10 index ++ ("  ".toList ++ e.url.toList ++ shownTitle e.title) := by
    show ((twoColumns index).toList ++ _).dropWhile _ = _
    rw [toList_twoColumns, List.append_assoc]
    exact dropWhile_column hdigit hsome _ _
  have hindex : indexDigits (entryLine current index e) = Nat.toDigits 10 index := by
    unfold indexDigits
    rw [hline]
    exact Text.takeWhile_append_cons hdigit (by decide) _
  have hbehind : behindIndex (entryLine current index e) =
      "  ".toList ++ e.url.toList ++ shownTitle e.title := by
    unfold behindIndex
    rw [hline]
    exact Text.dropWhile_append_cons hdigit (by decide) _
  have hstart : (entryLine current index e).take 2 =
      [if isMarked (entryLine current index e) then '*' else ' ', ' '] := by
    simp only [isMarked_entryLine]
    rfl
  refine ⟨hstart, hindex, ?_, hbehind⟩
  have hlength : (twoColumns index).toList.length = max 2 (Nat.toDigits 10 index).length := by
    rw [toList_twoColumns, List.length_append, List.length_replicate]
    omega
  rw [hindex, hbehind, ← hlength]
  exact List.length_append

/-! ### Cutting the text -/

/-- Addresses and titles are without line feeds. -/
def Plain (h : NavigationHistory) : Prop :=
  ∀ e ∈ h.entries, '\n' ∉ e.url.toList ∧ '\n' ∉ e.title.toList

theorem lineFeed_not_mem_twoColumns (index : Nat) : '\n' ∉ (twoColumns index).toList := by
  rw [toList_twoColumns, List.mem_append]
  rintro (hblank | hdigit)
  · cases List.eq_of_mem_replicate hblank
  · have := Nat.isDigit_of_mem_toDigits (by decide) (by decide) hdigit
    exact absurd this (by decide)

theorem lineFeed_not_mem_entryLine (hurl : '\n' ∉ e.url.toList) (htitle : '\n' ∉ e.title.toList) :
    '\n' ∉ entryLine current index e := by
  have hcolumn := lineFeed_not_mem_twoColumns index
  unfold entryLine shownTitle
  by_cases hnone : e.title = "" <;> split <;> simp [hcolumn, hurl, htitle]

/-- The text of the entries is cut into their lines, and nothing is left behind the last one. -/
theorem splitOn_renderFrom (current : Int) {entries : List NavigationEntry}
    (hplain : ∀ e ∈ entries, '\n' ∉ e.url.toList ∧ '\n' ∉ e.title.toList) (first : Nat) :
    (renderFrom current first entries).toList.splitOn '\n' =
      (entries.zipIdx first).map (fun p => entryLine current p.2 p.1) ++ [[]] := by
  induction entries generalizing first with
  | nil => rfl
  | cons e entries ih =>
    obtain ⟨hurl, htitle⟩ := hplain e List.mem_cons_self
    have hrest := ih (fun e he => hplain e (List.mem_cons_of_mem _ he)) (first + 1)
    unfold renderFrom
    rw [String.toList_append, toList_renderEntry, List.append_assoc, List.singleton_append,
      List.splitOn_append_cons_self,
      List.splitOn_eq_singleton (lineFeed_not_mem_entryLine hurl htitle), hrest]
    rfl

theorem splitOn_render (hplain : Plain h) : (render h).toList.splitOn '\n' =
    h.entries.zipIdx.map (fun p => entryLine h.currentIndex p.2 p.1) ++ [[]] :=
  splitOn_renderFrom h.currentIndex hplain 0

theorem linesOf_render (hplain : Plain h) :
    linesOf (render h) = h.entries.zipIdx.map fun p => entryLine h.currentIndex p.2 p.1 := by
  unfold linesOf
  rw [splitOn_render hplain, List.dropLast_concat]

theorem getElem?_linesOf_render (hplain : Plain h) (i : Nat) :
    (linesOf (render h))[i]? = h.entries[i]?.map (entryLine h.currentIndex i) := by
  rw [linesOf_render hplain, List.getElem?_map, List.getElem?_zipIdx, Option.map_map, Nat.zero_add]
  rfl

/-! ### Marks and moves -/

/-- The line at an index is marked. -/
def Marked (h : NavigationHistory) (i : Nat) : Prop :=
  ∃ line, (linesOf (render h))[i]? = some line ∧ isMarked line = true

theorem marked_iff (hplain : Plain h) :
    Marked h i ↔ (i : Int) = h.currentIndex ∧ i < h.entries.length := by
  unfold Marked
  simp only [getElem?_linesOf_render hplain, Option.map_eq_some_iff]
  constructor
  · rintro ⟨_, ⟨e, he, rfl⟩, hmark⟩
    exact ⟨isMarked_entryLine.mp hmark, (List.getElem?_eq_some_iff.mp he).1⟩
  · rintro ⟨hcurrent, hlt⟩
    exact ⟨_, ⟨_, List.getElem?_eq_getElem hlt, rfl⟩, isMarked_entryLine.mpr hcurrent⟩

theorem Marked.lt (h' : Marked h i) : i < (linesOf (render h)).length := by
  obtain ⟨line, hline, -⟩ := h'
  exact (List.getElem?_eq_some_iff.mp hline).1

/-- From a marked line a move leads to the entry of the line beside it. -/
theorem Marked.entry_eq_ok (hplain : Plain h) (hmarked : Marked h i) {m : Move} :
    m.entry h = .ok e ↔ ∃ j : Nat, (j : Int) = i + m.step ∧ h.entries[j]? = some e := by
  obtain ⟨hcurrent, hlt⟩ := (marked_iff hplain).mp hmarked
  have hhere : ∃ current, entryAt? h h.currentIndex = some current :=
    exists_entryAt?.mpr ⟨by omega, by omega⟩
  rw [Move.entry_eq_ok, and_iff_right hhere, entryAt?_eq_some]
  show 0 ≤ h.currentIndex + m.step ∧ h.entries[(h.currentIndex + m.step).toNat]? = some e ↔ _
  rw [← hcurrent]
  constructor
  · rintro ⟨hle, he⟩
    exact ⟨_, Int.toNat_of_nonneg hle, he⟩
  · rintro ⟨j, hj, he⟩
    rw [← hj]
    exact ⟨by omega, he⟩

/-- A move is possible when a line is marked and there is one beside it. -/
theorem exists_entry_iff_marked (hplain : Plain h) {m : Move} : (∃ e, m.entry h = .ok e) ↔
    ∃ i j : Nat, Marked h i ∧ (j : Int) = i + m.step ∧ j < (linesOf (render h)).length := by
  have hlength : (linesOf (render h)).length = h.entries.length := by
    simp [linesOf_render hplain]
  rw [Move.exists_entry, hlength]
  constructor
  · rintro ⟨⟨hle, hlt⟩, hle', hlt'⟩
    refine ⟨h.currentIndex.toNat, (h.currentIndex + m.step).toNat, ?_, ?_, ?_⟩
    · exact (marked_iff hplain).mpr ⟨Int.toNat_of_nonneg hle, by omega⟩
    · omega
    · omega
  · rintro ⟨i, j, hmarked, hj, hlt⟩
    obtain ⟨hcurrent, hi⟩ := (marked_iff hplain).mp hmarked
    omega

/-! ### All together -/

/-- What there is to see of a history that is shown. -/
structure LinesShown (h : NavigationHistory) : Prop where
  /-- There is one line for each entry, and nothing behind the last one. -/
  cut : (render h).toList.splitOn '\n' = linesOf (render h) ++ [[]]
  count : (linesOf (render h)).length = h.entries.length
  /-- Each line shows the entry with its index. -/
  shows : ∀ i e, h.entries[i]? = some e →
    ∃ line, (linesOf (render h))[i]? = some line ∧ Shows line i e
  /-- The line of the current entry is marked, and no other. -/
  marked : ∀ i, Marked h i ↔ (i : Int) = h.currentIndex ∧ i < h.entries.length
  once : ∀ i j, Marked h i → Marked h j → i = j
  exists_marked : (∃ i, Marked h i) ↔ 0 ≤ h.currentIndex ∧ h.currentIndex < h.entries.length
  /-- One can go back when a line is marked that is not the first, to the entry of the line
  before. -/
  back : (∃ e, previousEntry h = .ok e) ↔ ∃ i, Marked h i ∧ i ≠ 0
  previous : ∀ i e, Marked h i →
    (previousEntry h = .ok e ↔ ∃ j, i = j + 1 ∧ h.entries[j]? = some e)
  /-- One can go forward when a line is marked that is not the last, to the entry of the line
  behind. -/
  forward : (∃ e, nextEntry h = .ok e) ↔
    ∃ i, Marked h i ∧ i + 1 ≠ (linesOf (render h)).length
  next : ∀ i e, Marked h i → (nextEntry h = .ok e ↔ h.entries[i + 1]? = some e)

/-- Every history without line feeds can be read off the lines that show it. -/
theorem lines_shown (hplain : Plain h) : LinesShown h where
  cut := by rw [linesOf_render hplain, splitOn_render hplain]
  count := by simp [linesOf_render hplain]
  shows i e he := by
    refine ⟨_, ?_, entryLine_shows h.currentIndex i e⟩
    rw [getElem?_linesOf_render hplain, he]
    rfl
  marked i := marked_iff hplain
  once i j hi hj := by
    have hi := ((marked_iff hplain).mp hi).1
    have hj := ((marked_iff hplain).mp hj).1
    omega
  exists_marked := by
    simp only [marked_iff hplain]
    constructor
    · rintro ⟨i, hcurrent, hlt⟩
      omega
    · rintro ⟨hle, hlt⟩
      exact ⟨h.currentIndex.toNat, Int.toNat_of_nonneg hle, by omega⟩
  back := by
    refine (exists_entry_iff_marked hplain (m := .back)).trans ?_
    constructor
    · rintro ⟨i, j, hmarked, hj, -⟩
      simp only [Move.step] at hj
      exact ⟨i, hmarked, by omega⟩
    · rintro ⟨i, hmarked, hi⟩
      have hlt := hmarked.lt
      exact ⟨i, i - 1, hmarked, by simp only [Move.step]; omega, by omega⟩
  previous i e hmarked := by
    refine (hmarked.entry_eq_ok hplain (m := .back)).trans (exists_congr fun j => ?_)
    simp only [Move.step]
    exact and_congr_left fun _ => by omega
  forward := by
    refine (exists_entry_iff_marked hplain (m := .forward)).trans ?_
    constructor
    · rintro ⟨i, j, hmarked, hj, hlt⟩
      simp only [Move.step] at hj
      exact ⟨i, hmarked, by omega⟩
    · rintro ⟨i, hmarked, hi⟩
      have hlt := hmarked.lt
      exact ⟨i, i + 1, hmarked, rfl, by omega⟩
  next i e hmarked := by
    refine (hmarked.entry_eq_ok hplain (m := .forward)).trans ?_
    constructor
    · rintro ⟨j, hj, he⟩
      simp only [Move.step] at hj
      exact (show j = i + 1 by omega) ▸ he
    · exact fun he => ⟨i + 1, rfl, he⟩

/-- A history of three entries, with the second one as the current one. -/
def twoVisited : NavigationHistory :=
  { currentIndex := 1
    entries :=
      [⟨10, "about:blank", "", "", .link⟩, ⟨11, "https://a/", "", "A (a)", .typed⟩,
        ⟨12, "https://b/", "", "", .link⟩] }

theorem lines_shown_twoVisited : Plain twoVisited ∧ LinesShown twoVisited ∧
    render twoVisited = "   0  about:blank\n*  1  https://a/  (A (a))\n   2  https://b/\n" := by
  have hplain : Plain twoVisited := by
    unfold Plain
    decide
  exact ⟨hplain, lines_shown hplain, by decide⟩

end PagePilot.History
