import PagePilot.Proofs.Navigation
import PagePilot.Proofs.Sequence.Errand
/-!
# PagePilot.Proofs.Sequence.Pursuit

Scripts: lists of errands that are run one after the other. A task that pursues a script
writes requests of it only, in its order and from its start; it writes a request when the
errands before it are done, and nothing once a deed of it has failed. Where it has a success
it has done every errand.

* `Run.Achieves` is what it takes to have done an errand;
* `Run.Pursues` and `Run.Fulfils` are about what happens between two positions of a run, and
  `Run.Fulfils.append` puts a script together of two.
-/

namespace PagePilot

open Wire Program

namespace Run

variable {r : Run} {ctx : Context} {task : TaskId} {script s₁ s₂ : List Errand} {e : Errand}
  {i j k l w : Nat}

/-! ### Requests -/

variable (r) in
/-- The requests that a task writes, or tries to write, from position `i` on and before `j`. -/
def requests (task : TaskId) (i j : Nat) : List Request :=
  (r.deeds task i j).filterMap Deed.request?

theorem requests_append (hik : i ≤ k) (hkj : k ≤ j) :
    r.requests task i j = r.requests task i k ++ r.requests task k j := by
  unfold requests
  rw [deeds_append hik hkj, List.filterMap_append]

theorem requests_at (hiw : i ≤ w) (hwj : w < j) {request : Request} {result : Except Error Unit}
    (h : r.Does w task (.write request) result) :
    r.requests task i j = r.requests task i w ++ request :: r.requests task (w + 1) j := by
  unfold requests
  rw [deeds_at (d := ⟨.write request, result⟩) hiw hwj h, List.filterMap_append]
  rfl

/-- Where no request is written, not this one either. -/
theorem not_writes_of_silent (h : r.requests task i j = []) (hiw : i ≤ w) (hwj : w < j)
    {request : Request} {result : Except Error Unit} :
    ¬ r.Does w task (.write request) result := by
  intro hw
  rw [requests_at hiw hwj hw] at h
  exact List.append_ne_nil_of_right_ne_nil _ (List.cons_ne_nil _ _) h

/-- A first deed that writes nothing. -/
theorem requests_of_first {d : Deed} (hik : i ≤ k) (hquiet : r.deeds task i k = [])
    (hd : r.Does k task d.act d.reply) (hsilent : d.request? = none) :
    r.requests task i (k + 1) = [] := by
  rw [requests, deeds_succ_of_does hik hd, hquiet, List.nil_append,
    List.filterMap_cons_none hsilent]
  rfl

theorem requests_of_quiet (h : r.deeds task i j = []) : r.requests task i j = [] := by
  rw [requests, h]
  rfl

/-! ### Errands that are done -/

variable (r) in
/-- The errand of the request that was written at `w` is done before `k`: the writing succeeded,
the browser answered the request, the task has learned of the answer with its context alive,
and the errand accepts it. If a load belongs to the errand, the task had armed a barrier for it
since the request before, and it has waited for the load after the answer. -/
def Achieves (ctx : Context) (task : TaskId) (e : Errand) (request : Request) (w k : Nat) : Prop :=
  r.Does w task (.write request) (.ok ()) ∧
    ∃ u d answer, w < u ∧ u < k ∧ d < u ∧ r.Answers d request.id (.ok answer) ∧
      r.Does u task (.awaitReply (some ctx) request.id) (.ok answer) ∧
      (r.world u).toldEndOf ctx = none ∧ e.accepts answer = true ∧
      ∀ page, e.loads = some page → ∃ m z key, m < w ∧ u < z ∧ z < k ∧
        r.requests task m w = [] ∧ r.Does m task (.arm page ctx Page.loadMilestone) key ∧
        r.Does z task (.awaitMatch key) (.ok ()) ∧ r.Loads m z page ctx

theorem Achieves.mono {request : Request} (h : r.Achieves ctx task e request w k) (hkl : k ≤ l) :
    r.Achieves ctx task e request w l := by
  obtain ⟨hw, u, d, answer, hwu, huk, hdu, hanswers, hu, htold, haccepts, hloads⟩ := h
  refine ⟨hw, u, d, answer, hwu, Nat.lt_of_lt_of_le huk hkl, hdu, hanswers, hu, htold, haccepts, ?_⟩
  intro page hpage
  obtain ⟨m, z, key, hmw, huz, hzk, hrest⟩ := hloads page hpage
  exact ⟨m, z, key, hmw, huz, Nat.lt_of_lt_of_le hzk hkl, hrest⟩

/-! ### Scripts -/

variable (r) in
/-- Between two positions a task goes along a script. -/
structure Pursues (ctx : Context) (task : TaskId) (script : List Errand) (i j : Nat) : Prop where
  /-- What it writes are the requests of the script, in its order and from its start. -/
  order : (r.requests task i j).map Request.wire <+: script.map Errand.wire
  /-- Before it writes a request, the errands of those before are done. -/
  achieved : ∀ w w' request request' result result', i ≤ w → w < w' → w' < j →
    r.Does w task (.write request) result → r.Does w' task (.write request') result' →
      ∃ e, script[(r.requests task i w).length]? = some e ∧ r.Achieves ctx task e request w w'
  /-- After a deed that failed it writes nothing. -/
  silent : ∀ f w (d : Deed) request result, i ≤ f → f < w → w < j → r.Does f task d.act d.reply →
    d.fails = true → ¬ r.Does w task (.write request) result

variable (r) in
/-- Between two positions a task has done all errands of a script, and nothing has failed. -/
structure Fulfils (ctx : Context) (task : TaskId) (script : List Errand) (i j : Nat) : Prop where
  pursues : r.Pursues ctx task script i j
  complete : (r.requests task i j).map Request.wire = script.map Errand.wire
  achieved : ∀ w request result, i ≤ w → w < j → r.Does w task (.write request) result →
    ∃ e, script[(r.requests task i w).length]? = some e ∧ r.Achieves ctx task e request w j
  sound : ∀ d ∈ r.deeds task i j, d.fails = false

namespace Pursues

/-- Who writes nothing pursues any script. -/
theorem of_silent (h : r.requests task i j = []) : r.Pursues ctx task script i j where
  order := by rw [h]; exact List.nil_prefix
  achieved w w' request request' result result' hiw hww' hw'j hw := by
    exact absurd hw (not_writes_of_silent h hiw (Nat.lt_trans hww' hw'j))
  silent f w d request result hif hfw hwj hf hfails :=
    not_writes_of_silent h (Nat.le_trans hif (Nat.le_of_lt hfw)) hwj

/-- Who goes along a script goes along a longer one. -/
theorem extend (h : r.Pursues ctx task s₁ i j) (s₂ : List Errand) :
    r.Pursues ctx task (s₁ ++ s₂) i j where
  order := by
    rw [List.map_append]
    exact h.order.trans (List.prefix_append _ _)
  achieved w w' request request' result result' hiw hww' hw'j hw hw' := by
    obtain ⟨e, he, hachieves⟩ := h.achieved w w' _ _ _ _ hiw hww' hw'j hw hw'
    refine ⟨e, ?_, hachieves⟩
    rw [List.getElem?_append_left (List.getElem?_eq_some_iff.mp he).1, he]
  silent := h.silent

/-- Who asks for one errand at most pursues it. -/
theorem of_askedBy (h : e.AskedBy (r.deeds task i j)) : r.Pursues ctx task [e] i j := by
  generalize hpath : r.deeds task i j = path at h
  cases h with
  | silent h =>
    subst hpath
    exact .of_silent h
  | @asked before after request result hwire hsound hbefore hafter =>
    obtain ⟨w₀, hiw₀, hw₀j, hw₀, hfront, hback⟩ := deeds_split hpath
    have hfirst : r.requests task i w₀ = [] := by rw [requests, hfront, hbefore]
    have hlast : r.requests task (w₀ + 1) j = [] := by rw [requests, hback, hafter]
    -- All that is written is written at `w₀`.
    have honly : ∀ {w request' result'}, i ≤ w → w < j →
        r.Does w task (.write request') result' → w = w₀ := by
      intro w request' result' hiw hwj hw
      rcases Nat.lt_trichotomy w w₀ with hlt | heq | hgt
      · exact absurd hw (not_writes_of_silent hfirst hiw hlt)
      · exact heq
      · exact absurd hw (not_writes_of_silent hlast hgt hwj)
    refine ⟨?_, ?_, ?_⟩
    · rw [requests_at hiw₀ hw₀j hw₀, hfirst, hlast, List.nil_append, List.map_singleton, hwire]
      exact List.prefix_refl _
    · intro w w' request request' result result' hiw hww' hw'j hw hw'
      obtain rfl := honly hiw (Nat.lt_trans hww' hw'j) hw
      exact absurd (honly (Nat.le_trans hiw (Nat.le_of_lt hww')) hw'j hw') (Nat.ne_of_gt hww')
    · intro f w d request' result' hif hfw hwj hf hfails hw
      obtain rfl := honly (Nat.le_trans hif (Nat.le_of_lt hfw)) hwj hw
      have hmem : d ∈ before := hfront ▸ mem_deeds.mpr ⟨f, hif, hfw, hf⟩
      rw [hsound d hmem] at hfails
      cases hfails

/-- What is written is the request of an errand. -/
theorem exists_errand (h : r.Pursues ctx task script i j) (hiw : i ≤ w) (hwj : w < j)
    {request : Request} {result : Except Error Unit} (hw : r.Does w task (.write request) result) :
    ∃ e ∈ script, e.method = request.method ∧ e.session = request.sessionId := by
  have hmem : request ∈ r.requests task i j := by
    rw [requests_at hiw hwj hw]
    exact List.mem_append_right _ List.mem_cons_self
  obtain ⟨e, he, heq⟩ := List.mem_map.mp (h.order.subset (List.mem_map_of_mem hmem))
  obtain ⟨hmethod, hsession⟩ := Prod.mk.inj heq
  exact ⟨e, he, hmethod, hsession⟩

/-- Of a script with one errand one request is written at most. -/
theorem alone (h : r.Pursues ctx task [e] i j) (hiw : i ≤ w) (hwj : w < j) {request : Request}
    {result : Except Error Unit} (hw : r.Does w task (.write request) result) :
    r.requests task i w = [] ∧ r.requests task (w + 1) j = [] := by
  have hle := h.order.length_le
  rw [List.length_map, requests_at hiw hwj hw, List.length_append, List.length_cons] at hle
  simp only [List.map_cons, List.map_nil, List.length_cons, List.length_nil] at hle
  exact ⟨List.length_eq_zero_iff.mp (by omega), List.length_eq_zero_iff.mp (by omega)⟩

end Pursues

namespace Fulfils

/-- Who asks for one errand, and has done it. -/
theorem of_achieves (h : r.Pursues ctx task [e] i j)
    (hsound : ∀ d ∈ r.deeds task i j, d.fails = false) (hiw : i ≤ w) (hwj : w < j)
    {request : Request} (ha : r.Achieves ctx task e request w j) :
    r.Fulfils ctx task [e] i j := by
  obtain ⟨hbefore, hafter⟩ := h.alone hiw hwj ha.1
  refine ⟨h, ?_, ?_, hsound⟩
  · refine h.order.eq_of_length ?_
    rw [List.length_map, requests_at hiw hwj ha.1, hbefore, hafter]
    rfl
  · intro w' request' result' hiw' hw'j hw'
    refine ⟨e, by rw [(h.alone hiw' hw'j hw').1]; rfl, ?_⟩
    -- There is one request, so it is this one.
    rcases Nat.lt_trichotomy w' w with hlt | rfl | hgt
    · exact absurd hw' (not_writes_of_silent hbefore hiw' hlt)
    · cases hw'.symm.trans ha.1
      exact ha
    · exact absurd hw' (not_writes_of_silent hafter hgt hw'j)

/-- Who does nothing of note fulfils the empty script. -/
theorem nil (hsilent : r.requests task i j = [])
    (hsound : ∀ d ∈ r.deeds task i j, d.fails = false) : r.Fulfils ctx task [] i j where
  pursues := .of_silent hsilent
  complete := by rw [hsilent]; rfl
  achieved w request result hiw hwj hw := absurd hw (not_writes_of_silent hsilent hiw hwj)
  sound := hsound

/-- A first deed that writes nothing and does not fail. -/
theorem of_first {d : Deed} (hik : i ≤ k) (hquiet : r.deeds task i k = [])
    (hd : r.Does k task d.act d.reply) (hsilent : d.request? = none) (hsound : d.fails = false) :
    r.Fulfils ctx task [] i (k + 1) := by
  refine .nil (requests_of_first hik hquiet hd hsilent) ?_
  rw [deeds_succ_of_does hik hd, hquiet]
  exact List.forall_mem_singleton.mpr hsound

variable (h₁ : r.Fulfils ctx task s₁ i k) (hik : i ≤ k) (hkj : k ≤ j)
include h₁

theorem length_eq : (r.requests task i k).length = s₁.length := by
  simpa using congrArg List.length h₁.complete

include hik

/-- The place in the script of what is written after its first part. -/
theorem getElem?_append (hkw : k ≤ w) :
    (s₁ ++ s₂)[(r.requests task i w).length]? = s₂[(r.requests task k w).length]? := by
  rw [requests_append hik hkw, List.length_append, h₁.length_eq,
    List.getElem?_append_right (Nat.le_add_right _ _), Nat.add_sub_cancel_left]

include hkj

/-- After a script that is fulfilled comes the next. -/
theorem append (h₂ : r.Pursues ctx task s₂ k j) : r.Pursues ctx task (s₁ ++ s₂) i j where
  order := by
    rw [requests_append hik hkj, List.map_append, List.map_append, h₁.complete]
    exact (List.prefix_append_right_inj _).mpr h₂.order
  achieved w w' request request' result result' hiw hww' hw'j hw hw' := by
    rcases Nat.lt_or_ge w k with hwk | hkw
    · obtain ⟨e, he, hachieves⟩ : ∃ e, s₁[(r.requests task i w).length]? = some e ∧
          r.Achieves ctx task e request w w' := by
        rcases Nat.lt_or_ge w' k with hw'k | hkw'
        · exact h₁.pursues.achieved w w' _ _ _ _ hiw hww' hw'k hw hw'
        · obtain ⟨e, he, hachieves⟩ := h₁.achieved w _ _ hiw hwk hw
          exact ⟨e, he, hachieves.mono hkw'⟩
      refine ⟨e, ?_, hachieves⟩
      rw [List.getElem?_append_left (List.getElem?_eq_some_iff.mp he).1, he]
    · rw [h₁.getElem?_append hik hkw]
      exact h₂.achieved w w' _ _ _ _ hkw hww' hw'j hw hw'
  silent f w d request result hif hfw hwj hf hfails := by
    rcases Nat.lt_or_ge f k with hfk | hkf
    · have hsound := h₁.sound d (mem_deeds.mpr ⟨f, hif, hfk, hf⟩)
      rw [hfails] at hsound
      cases hsound
    · exact h₂.silent f w d request result hkf hfw hwj hf hfails

/-- Two scripts that are fulfilled one after the other. -/
theorem append_fulfils (h₂ : r.Fulfils ctx task s₂ k j) :
    r.Fulfils ctx task (s₁ ++ s₂) i j where
  pursues := h₁.append hik hkj h₂.pursues
  complete := by
    rw [requests_append hik hkj, List.map_append, List.map_append, h₁.complete, h₂.complete]
  achieved w request result hiw hwj hw := by
    rcases Nat.lt_or_ge w k with hwk | hkw
    · obtain ⟨e, he, hachieves⟩ := h₁.achieved w _ _ hiw hwk hw
      refine ⟨e, ?_, hachieves.mono hkj⟩
      rw [List.getElem?_append_left (List.getElem?_eq_some_iff.mp he).1, he]
    · rw [h₁.getElem?_append hik hkw]
      exact h₂.achieved w _ _ hkw hwj hw
  sound d hd := by
    rw [deeds_append hik hkj] at hd
    rcases List.mem_append.mp hd with hd | hd
    · exact h₁.sound d hd
    · exact h₂.sound d hd

end Fulfils

end Run

end PagePilot
