import PagePilot.Socket
/-!
# PagePilot.Proofs.Noise.Frames

Frames that carry no message: pings and pongs, and what does not read as JSON. The reading passes
over them wherever they come, so the messages of a socket, its end and the whole exchange are the
same without them (`Socket.exchange_withoutNoise`). A close and a cut are no noise, they end the
reading.
-/

namespace PagePilot

namespace Socket

/-- Whether a frame carries no message, and the socket goes on after it. -/
def Frame.isNoise : Frame → Bool
  | .close | .cut => false
  | frame => frame.message?.isNone

theorem read_of_isNoise {frame : Frame} (h : frame.isNoise = true) (heard : Bool)
    (rest : List Frame) : read heard (frame :: rest) = read heard rest := by
  cases frame with
  | close | cut => cases h
  | ping | pong => rfl
  | text | binary =>
    have hnone := Option.isNone_iff_eq_none.mp h
    simp only [read, hnone]

theorem read_congr (heard : Bool) (frame : Frame) {rest rest' : List Frame}
    (h : read heard rest = read heard rest') :
    read heard (frame :: rest) = read heard (frame :: rest') := by
  cases frame with
  | close | cut => rfl
  | _ => simp only [read, h]

/-- Frames that carry no message are passed over, wherever they come. -/
theorem read_without_noise (heard : Bool) (frames : List Frame) :
    read heard (frames.filter fun frame => !frame.isNoise) = read heard frames := by
  induction frames with
  | nil => rfl
  | cons frame rest ih =>
    by_cases hnoise : frame.isNoise = true
    · rw [List.filter_cons_of_neg (by simp [hnoise]), ih, read_of_isNoise hnoise]
    · rw [List.filter_cons_of_pos (by simp [hnoise])]
      exact read_congr heard frame ih

/-- An exchange without frames that carry no message. -/
def Script.withoutNoise (script : Script) : Script :=
  { script with frames := script.frames.filter fun frame => !frame.isNoise }

theorem exchange_withoutNoise (script : Script) :
    exchange script.withoutNoise = exchange script := by
  have hread := read_without_noise script.heard script.frames
  unfold exchange
  rw [show read script.withoutNoise.heard script.withoutNoise.frames =
    read script.heard script.frames from hread]
  rfl

end Socket

end PagePilot
