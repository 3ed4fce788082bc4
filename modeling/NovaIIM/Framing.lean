import Mathlib.Data.List.Basic

/-!
Frames in a stream of bytes.

A frame starts with a header that says how long the rest of it is. `split` takes the
complete frames off the front of a stream and keeps what is left for the bytes to come.
It finds the frames that were put together (`split_flatten`), however the stream is cut
into pieces on its way (`split_append`).
-/
namespace NovaIIM

/-- A header has a fixed size and determines how many bytes follow it. -/
structure Framing (β : Type) where
  header : Nat
  body : List β → Nat
  positive : 0 < header
  body_append : ∀ bytes rest : List β, header ≤ bytes.length → body (bytes ++ rest) = body bytes

namespace Framing
variable {β : Type} (f : Framing β)

/-- The size of the frame that a text starts with. -/
def size (bytes : List β) : Nat := f.header + f.body bytes

/-- A text starts with a complete frame. -/
def Complete (bytes : List β) : Prop := f.header ≤ bytes.length ∧ f.size bytes ≤ bytes.length

instance (bytes : List β) : Decidable (f.Complete bytes) := inferInstanceAs (Decidable (_ ∧ _))

/-- The complete frames of a stream, and the bytes behind them. -/
def split (bytes : List β) : List (List β) × List β :=
  if f.Complete bytes then
    let rest := split (bytes.drop (f.size bytes))
    (bytes.take (f.size bytes) :: rest.1, rest.2)
  else ([], bytes)
termination_by bytes.length
decreasing_by
  rename_i complete
  have := f.positive
  have := complete.2
  simp only [List.length_drop, size] at *
  omega

variable {f}

theorem split_incomplete {bytes : List β} (incomplete : ¬f.Complete bytes) : f.split bytes = ([], bytes) := by
  rw [split, if_neg incomplete]

theorem split_complete {bytes : List β} (complete : f.Complete bytes) :
    f.split bytes = (bytes.take (f.size bytes) :: (f.split (bytes.drop (f.size bytes))).1,
      (f.split (bytes.drop (f.size bytes))).2) := by
  rw [split, if_pos complete]

/-- A single frame. -/
structure IsFrame (f : Framing β) (frame : List β) : Prop where
  header : f.header ≤ frame.length
  whole : f.size frame = frame.length

/-- The bytes behind a frame do not matter for it. -/
theorem split_frame {frame : List β} (whole : f.IsFrame frame) (rest : List β) :
    f.split (frame ++ rest) = (frame :: (f.split rest).1, (f.split rest).2) := by
  have size : f.size (frame ++ rest) = frame.length := by
    rw [Framing.size, f.body_append frame rest whole.header]
    exact whole.whole
  have complete : f.Complete (frame ++ rest) := by
    refine ⟨?_, ?_⟩
    · rw [List.length_append]
      exact Nat.le_trans whole.header (Nat.le_add_right _ _)
    · rw [size, List.length_append]
      exact Nat.le_add_right _ _
  rw [split_complete complete, size, List.take_left, List.drop_left]

/-- A stream of frames is split into them. -/
theorem split_flatten {frames : List (List β)} (whole : ∀ frame ∈ frames, f.IsFrame frame) :
    f.split frames.flatten = (frames, []) := by
  induction frames with
  | nil =>
    refine split_incomplete fun complete => ?_
    have := f.positive
    exact absurd complete.1 (by simp; omega)
  | cons frame frames ih =>
    rw [List.flatten_cons, split_frame (whole frame List.mem_cons_self),
      ih fun other inside => whole other (List.mem_cons_of_mem _ inside)]

/-- More bytes complete more frames, and leave the complete ones. -/
theorem split_append (bytes more : List β) :
    f.split (bytes ++ more) =
      ((f.split bytes).1 ++ (f.split ((f.split bytes).2 ++ more)).1, (f.split ((f.split bytes).2 ++ more)).2) := by
  by_cases complete : f.Complete bytes
  · have shorter : (bytes.drop (f.size bytes)).length < bytes.length := by
      have := f.positive
      have := complete.2
      simp only [List.length_drop, size] at *
      omega
    have same : f.size (bytes ++ more) = f.size bytes := by
      rw [size, f.body_append bytes more complete.1, size]
    have still : f.Complete (bytes ++ more) := by
      refine ⟨?_, ?_⟩
      · rw [List.length_append]
        exact Nat.le_trans complete.1 (Nat.le_add_right _ _)
      · rw [same, List.length_append]
        exact Nat.le_trans complete.2 (Nat.le_add_right _ _)
    have ih := split_append (bytes.drop (f.size bytes)) more
    rw [split_complete complete, split_complete still, same, List.take_append_of_le_length complete.2,
      List.drop_append_of_le_length complete.2, ih]
    rfl
  · rw [split_incomplete complete, List.nil_append]
termination_by bytes.length
decreasing_by exact shorter

/-- What a reader has that is given a stream in pieces: the frames so far and the bytes left. -/
def receive (f : Framing β) (got : List (List β) × List β) (piece : List β) : List (List β) × List β :=
  (got.1 ++ (f.split (got.2 ++ piece)).1, (f.split (got.2 ++ piece)).2)

/-- The pieces do not matter. -/
theorem receive_foldl (pieces : List (List β)) :
    pieces.foldl f.receive ([], []) = f.split pieces.flatten := by
  have general : ∀ got : List β, pieces.foldl f.receive (f.split got) = f.split (got ++ pieces.flatten) := by
    induction pieces with
    | nil => simp
    | cons piece pieces ih =>
      intro got
      have step : f.receive (f.split got) piece = f.split (got ++ piece) := by
        rw [split_append, receive]
      rw [List.foldl_cons, step, ih, List.flatten_cons, List.append_assoc]
  have empty : f.split ([] : List β) = ([], []) := @split_flatten _ f [] (by simp)
  have all := general []
  rwa [empty, List.nil_append] at all

end Framing
end NovaIIM
