import PagePilot.Proofs.Base64.Standard
import PagePilot.Proofs.Connection.Issuing
import PagePilot.Proofs.Operation.Orderly
/-!
# PagePilot.Proofs.Operation.Screenshot

What comes of the data that a browser sends for a screenshot, in any run. They are the standard
base64 of the image, so the screenshot is some bytes when the data are the base64 of these, and no
other data give them; of all other data come an error and no bytes (`Run.screenshot_read`).
-/

namespace PagePilot

open Wire

/-! ### The data of an answer -/

/-- An answer that carries data is acknowledged with them. -/
theorem Wire.acknowledge_captureScreenshot {params : ScreenshotParams} {answer : Json}
    {data : String} (h : screenshotReply answer = .ok data) :
    (Command.captureScreenshot params).acknowledge answer = .ok data := by
  have hsome : answer ≠ .null := by
    rintro rfl
    cases h
  unfold Command.acknowledge
  show ((screenshotReply _).mapError Error.json) = _
  cases answer with
  | null => exact absurd rfl hsome
  | _ => rw [h]; rfl

/-! ### Images -/

namespace Page

theorem imageOf_eq_ok {data : String} {bytes : List UInt8} :
    imageOf data = .ok bytes ↔ Base64.Writes data bytes :=
  mapError_eq_ok.trans Base64.decode_utf8_eq_ok

/-- Data that are the base64 of no bytes are refused. -/
theorem imageOf_eq_error {data : String} (h : ∀ bytes, ¬ Base64.Writes data bytes) :
    ∃ why : Base64.DecodeError,
      imageOf data = .error (.decode s!"Failed to decode screenshot: {why.message}") := by
  cases hdecode : Base64.decode data.toUTF8.toList with
  | ok bytes => exact absurd (Base64.decode_utf8_eq_ok.mp hdecode) (h bytes)
  | error why =>
    refine ⟨why, ?_⟩
    rw [imageOf, hdecode]
    rfl

/-- What a screenshot does with the data that it gets. -/
def afterData (data : Except Error String) : Program (Except Error (List UInt8)) :=
  .done (data.bind imageOf)

theorem screenshot_run (page : Page) (ctx : Context) (params : ScreenshotParams) :
    (page.screenshot ctx params).run =
      (execute ctx page.session (.captureScreenshot params)).run.bind afterData := by
  refine (Program.run_bind _ _).trans (congrArg (Program.bind _) (funext ?_))
  intro data
  cases data <;> rfl

end Page

namespace Run

variable {r : Run} {page : Page} {ctx : Context} {params : ScreenshotParams} {task : TaskId}
  {i j u id : Nat} {answer : Json} {data : String} {q : Program (Except Error (List UInt8))}

/-- A screenshot has come to what the data of the first reply stand for. -/
theorem Runs.screenshot (hr : r.Admissible)
    (h : r.Runs task i (page.screenshot ctx params).run j q) (hiu : i ≤ u) (huj : u < j)
    (hu : r.FirstReply ctx task i u id (.ok answer)) (hdata : screenshotReply answer = .ok data) :
    q = .done (Page.imageOf data) := by
  rw [Page.screenshot_run] at h
  have hstops : ∀ e, ∃ y, Page.afterData (.error e) = .done y := fun e => ⟨_, rfl⟩
  have hcall := h.first_reply hr hstops hiu huj hu
  rw [show (Except.ok answer : Reply).bind (Command.captureScreenshot params).acknowledge = .ok data
    from acknowledge_captureScreenshot hdata] at hcall
  obtain ⟨l, -, hrest, -⟩ := h.since hcall huj
  exact hrest.of_done.2

/-- What comes of a screenshot whose data are `data`. -/
structure ScreenshotRead (data : String) (q : Program (Except Error (List UInt8))) : Prop where
  /-- It is some bytes when the data are their standard base64, -/
  image : ∀ bytes, q = .done (.ok bytes) ↔ Base64.Writes data bytes
  /-- and an error when they are the base64 of no bytes. -/
  refused : (∀ bytes, ¬ Base64.Writes data bytes) → ∃ why : Base64.DecodeError,
    q = .done (.error (.decode s!"Failed to decode screenshot: {why.message}"))
  /-- For any bytes there is exactly one text that gives them. -/
  written : ∀ bytes text, Base64.Writes text bytes ↔ text = Base64.text bytes

/-- In every run a screenshot is the image that the browser has sent. -/
theorem screenshot_read (hr : r.Admissible)
    (h : r.Runs task i (page.screenshot ctx params).run j q) (hiu : i ≤ u) (huj : u < j)
    (hu : r.FirstReply ctx task i u id (.ok answer)) (hdata : screenshotReply answer = .ok data) :
    ScreenshotRead data q := by
  obtain rfl := h.screenshot hr hiu huj hu hdata
  refine ⟨fun bytes => ?_, fun hnone => ?_, fun bytes text => ?_⟩
  · rw [← Page.imageOf_eq_ok]
    exact ⟨Program.done.inj, congrArg _⟩
  · obtain ⟨why, hwhy⟩ := Page.imageOf_eq_error hnone
    exact ⟨why, congrArg _ hwhy⟩
  · constructor
    · exact fun h => h.unique (Base64.text_writes bytes)
    · rintro rfl
      exact Base64.text_writes bytes

/-- The answer with the image of two bytes. -/
def twoByteAnswer : Json :=
  .object [("data", .string "aGk=")]

/-- A screenshot that is answered with an image of two bytes. -/
def twoByteImage : Run where
  start := .initial [] .none
  transitions :=
    [.newScope none, .openPage none none, .startReading,
      .spawn (((⟨0, none⟩ : Page).screenshot ⟨0, none⟩ {}).task .image),
      .step 0, .step 0, .step 0, .step 0, .step 0, .step 0,
      .inject (.object [("id", .int 0), ("result", twoByteAnswer)]), .receive, .read, .step 0]

theorem twoByteImage_admissible : twoByteImage.Admissible := by
  refine admissible_of_admits ⟨trivial, trivial, trivial, ?_, trivial, trivial, trivial, trivial,
    trivial, trivial, trivial, trivial, trivial, trivial, trivial⟩
  exact (Page.screenshot_orderly ..).bind fun _ => .done _

theorem twoByteImage_runs : twoByteImage.Runs 0 4
    ((⟨0, none⟩ : Page).screenshot ⟨0, none⟩ {}).run 14 (.done (Page.imageOf "aGk=")) where
  begins := ⟨_, rfl⟩
  le := by decide
  leads := .cons (.cons (.cons (.cons (.cons (.cons (.cons (.nil _)))))))

theorem twoByteImage_reply : twoByteImage.FirstReply ⟨0, none⟩ 0 4 13 0 (.ok twoByteAnswer) :=
  .of_deeds (show twoByteImage.deed? 13 = _ from rfl) (by decide)

-- The bytes 01101000 01101001 are the sextets 011010 000110 100100.
theorem twoByteImage_writes : Base64.Writes "aGk=" [104, 105] :=
  ⟨[26, 6, 36], 2, 1, ⟨by decide, by decide, by decide, by decide, by decide⟩⟩

theorem screenshot_read_twoByteImage : twoByteImage.Admissible ∧
    twoByteImage.Runs 0 4 ((⟨0, none⟩ : Page).screenshot ⟨0, none⟩ {}).run 14
      (.done (Page.imageOf "aGk=")) ∧
      twoByteImage.FirstReply ⟨0, none⟩ 0 4 13 0 (.ok twoByteAnswer) ∧
        screenshotReply twoByteAnswer = .ok "aGk=" ∧ Base64.Writes "aGk=" [104, 105] ∧
          ScreenshotRead "aGk=" (.done (Page.imageOf "aGk=")) :=
  ⟨twoByteImage_admissible, twoByteImage_runs, twoByteImage_reply, rfl, twoByteImage_writes,
    screenshot_read twoByteImage_admissible twoByteImage_runs (by decide) (by decide)
      twoByteImage_reply rfl⟩

end Run

end PagePilot
