import PagePilot.Proofs.Operation.Navigation
/-!
# PagePilot.Proofs.Operation.Composed

The operations on a page as what they are put together of: commands and navigations, one
after the other (`Page.Composed`). What is to be proved of all operations is proved of these
parts, and of two operations in a row.
-/

namespace PagePilot

open Wire Program

namespace Page

/-- An operation that is put together of commands and navigations, and that consists of so
many acts at most. -/
inductive Composed (page : Page) (ctx : Context) : {α : Type} → Nat → Op α → Prop
  | known (result : Except Error α) : page.Composed ctx 0 (Op.ofExcept result)
  | command (command : Command α) : page.Composed ctx 7 (page.call ctx command)
  | setFrame (frame : FrameId) : page.Composed ctx 1 (Op.perform (.setFrame page.key frame))
  | navigation (n : Navigation) : page.Composed ctx 11 (n.op page ctx)
  | andThen {x : Op α} {f : α → Op β} {m n : Nat} (hx : page.Composed ctx m x)
      (hf : ∀ a, page.Composed ctx n (f a)) : page.Composed ctx (m + n) (x >>= f)

variable {page : Page} {ctx : Context} {n : Nat}

theorem move_composed (choose : NavigationHistory → Except Error NavigationEntry) :
    page.Composed ctx 18 (move choose page ctx) :=
  .andThen (.command _) fun history => .andThen (.known (choose history)) fun entry =>
    .navigation (.entry entry.id)

/-- Every operation on a page is put together of commands and navigations. -/
theorem Offers.composed {op : Op α} (h : page.Offers ctx op) :
    ∃ n ≤ 22, page.Composed ctx n op := by
  cases h with
  | navigate url => exact ⟨11, by decide, .navigation (.navigate url)⟩
  | reload params => exact ⟨11, by decide, .navigation (.reload params)⟩
  | navigateToEntry entryId => exact ⟨11, by decide, .navigation (.entry entryId)⟩
  | back | forward => exact ⟨18, by decide, move_composed _⟩
  | entries | stop => exact ⟨7, by decide, .command _⟩
  | screenshot params =>
    exact ⟨7, by decide, .andThen (.command _) fun data => .known (imageOf data)⟩
  | evaluateText expression =>
    exact ⟨7, by decide, .andThen (.command _) fun reply => .known (textOf expression reply)⟩
  | enable =>
    exact ⟨22, by decide, .andThen (.command .pageEnable) fun _ =>
      .andThen (.command (.setLifecycleEventsEnabled true)) fun _ =>
        .andThen (.command .getFrameTree) fun tree => .setFrame tree.frame.id⟩

/-- An operation consists of no more acts than its parts do. -/
theorem Composed.length_of_leads {op : Op α} (h : page.Composed ctx n op) {path : List Deed}
    {q : Program (Except Error α)} (hpath : op.run.Leads path q) : path.length ≤ n := by
  have hcommand : ∀ {α : Type} (command : Command α) path q,
      (page.call ctx command).run.Leads path q → path.length ≤ 7 := by
    intro α command path q hpath
    obtain ⟨q', hsend⟩ := send_of_execute hpath
    exact Send.length_of_leads hsend
  induction h generalizing path with
  | known result =>
    obtain ⟨rfl, -⟩ := hpath.of_done
    exact Nat.le_refl 0
  | command command => exact hcommand command path q hpath
  | setFrame frame =>
    rcases hpath.of_act with ⟨rfl, -⟩ | ⟨_, rest, rfl, hrest⟩
    · exact Nat.zero_le 1
    · obtain ⟨rfl, -⟩ := hrest.of_done
      exact Nat.le_refl 1
  | navigation n =>
    rw [n.op_run] at hpath
    rcases hpath.of_act with ⟨rfl, -⟩ | ⟨_, armed, rfl, harm⟩
    · exact Nat.zero_le 11
    rcases harm.of_act with ⟨rfl, -⟩ | ⟨barrier, triggered, rfl, htriggered⟩
    · exact Nat.le_of_ble_eq_true rfl
    simp only [List.length_cons]
    rcases htriggered.of_bind with ⟨q', hq', -⟩ | ⟨path₁, x, path₂, rfl, hx, hrest⟩
    · have hlength := hcommand n.command triggered q' hq'
      omega
    · have hlength := hcommand n.command path₁ _ hx
      obtain ⟨hafter, -⟩ := Navigation.acts_of_afterCommand hrest
      simp only [List.length_append]
      omega
  | andThen hx hf ihx ihf =>
    rw [run_bind] at hpath
    rcases hpath.of_bind with ⟨q', hq', -⟩ | ⟨path₁, result, path₂, rfl, hresult, hrest⟩
    · exact Nat.le_add_right_of_le (ihx hq')
    · rw [List.length_append]
      cases result with
      | ok a => exact Nat.add_le_add (ihx hresult) (ihf a hrest)
      | error e =>
        obtain ⟨rfl, -⟩ := hrest.of_done
        exact Nat.le_add_right_of_le (ihx hresult)

end Page

end PagePilot
