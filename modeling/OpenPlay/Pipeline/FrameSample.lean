import OpenPlay.Foundation.Slices
import OpenPlay.Pipeline.WebRtc

/-!
# Repacking frames

`frame_from_sample` of `openplay-pipeline`'s `receiver_pipeline.rs`, from the mapped
frame on: a plane of RGBA rows, each padded to a stride, becomes a tightly packed frame.

The source slices the plane in two ways, once as a whole where there is no padding and
else row by row.  The first panics and the second gives up where a slice is out of
range; `frame_repacking` says that neither happens while the plane holds its rows.
-/

namespace OpenPlay

open Slices (slice rows Holds)

/-- A frame as GStreamer maps it, with its first plane. -/
structure MappedFrame where
  width : UInt32
  height : UInt32
  stride : Nat
  data : List UInt8

namespace MappedFrame

/-- `row_bytes`. -/
def rowBytes (frame : MappedFrame) : Nat := frame.width.toNat * 4

/-- `&data[..row_bytes * height]`. -/
def packed (frame : MappedFrame) : Option (List UInt8) :=
  slice frame.data 0 (frame.rowBytes * frame.height.toNat)

/-- The loop over the rows, with `data.get(start..start + row_bytes)?`. -/
def repacked (frame : MappedFrame) : Option (List UInt8) :=
  (List.range frame.height.toNat).foldlM
    (fun rgba row =>
      (slice frame.data (row * frame.stride) (row * frame.stride + frame.rowBytes)).map (rgba ++ ·))
    []

end MappedFrame

/-- `frame_from_sample`, of a sample that was mapped or could not be.  None, where a slice
index is out of range. -/
def frameFromSample : Option MappedFrame → Option (Option VideoFrame)
  | none => some none
  | some frame =>
      if frame.stride = frame.rowBytes then
        frame.packed.map fun rgba => some ⟨frame.width, frame.height, rgba⟩
      else some (frame.repacked.map fun rgba => ⟨frame.width, frame.height, rgba⟩)

/-- The four bytes of a pixel in a tightly packed frame. -/
def VideoFrame.pixel (frame : VideoFrame) (x y : Nat) : List UInt8 :=
  (frame.rgba.drop (4 * (y * frame.width.toNat + x))).take 4

namespace MappedFrame

variable {frame : MappedFrame}

/-- The plane holds all rows at its stride. -/
abbrev HoldsRows (frame : MappedFrame) : Prop :=
  Holds frame.stride frame.rowBytes frame.data frame.height.toNat

/-- What both ways come to. -/
def rgba (frame : MappedFrame) : List UInt8 :=
  (rows frame.stride frame.rowBytes frame.data frame.height.toNat).flatten

theorem repacked_eq (h : frame.HoldsRows) : frame.repacked = some frame.rgba := by
  have hrows : ∀ row ∈ List.range frame.height.toNat,
      slice frame.data (row * frame.stride) (row * frame.stride + frame.rowBytes) =
        some ((frame.data.drop (row * frame.stride)).take frame.rowBytes) :=
    fun row hrow => Slices.slice_of_le (h row (List.mem_range.mp hrow))
  exact Slices.foldlM_append hrows []

theorem packed_eq (h : frame.HoldsRows) (hstride : frame.stride = frame.rowBytes) :
    frame.packed = some frame.rgba := by
  have hlen := Slices.length_flatten_rows h
  have hself : frame.rgba = frame.data.take (frame.height.toNat * frame.rowBytes) := by
    unfold rgba
    rw [hstride]
    exact Slices.flatten_rows_self _ _ _
  have hfits : frame.rowBytes * frame.height.toNat ≤ frame.data.length := by
    have htake := congrArg List.length hself
    rw [rgba, hlen, List.length_take] at htake
    rw [Nat.mul_comm]
    omega
  rw [packed, slice, if_pos ⟨Nat.zero_le _, hfits⟩, hself, Nat.mul_comm]
  rfl

/-- No more is reserved than the plane has. -/
theorem reserved_le (h : frame.HoldsRows) (hstride : frame.rowBytes ≤ frame.stride) :
    frame.rowBytes * frame.height.toNat ≤ frame.data.length := by
  cases hheight : frame.height.toNat with
  | zero => exact Nat.zero_le _
  | succ n =>
    have hlast := h n (by omega)
    calc frame.rowBytes * (n + 1) = n * frame.rowBytes + frame.rowBytes := by
          rw [Nat.mul_comm, Nat.succ_mul]
      _ ≤ n * frame.stride + frame.rowBytes := Nat.add_le_add_right (Nat.mul_le_mul_left n hstride) _
      _ ≤ frame.data.length := hlast

/-- **Repacking a frame** whose plane holds its rows: no index is out of range, the two ways
agree where both apply, and every pixel is where the window looks for it. -/
theorem frame_repacking (h : frame.HoldsRows) (hstride : 4 * frame.width.toNat ≤ frame.stride) :
    ∃ result : VideoFrame, frameFromSample (some frame) = some (some result) ∧
      (result.width = frame.width ∧ result.height = frame.height ∧
        result.rgba.length = 4 * frame.width.toNat * frame.height.toNat ∧
        frame.rowBytes * frame.height.toNat ≤ frame.data.length) ∧
      (frame.repacked = some result.rgba ∧
        (frame.stride = frame.rowBytes → frame.packed = some result.rgba)) ∧
      ∀ x < frame.width.toNat, ∀ y < frame.height.toNat,
        result.pixel x y = (frame.data.drop (y * frame.stride + 4 * x)).take 4 ∧
          (result.pixel x y).length = 4 := by
  have htight : frame.rowBytes ≤ frame.stride := by
    unfold rowBytes
    omega
  refine ⟨⟨frame.width, frame.height, frame.rgba⟩, ?_, ⟨rfl, rfl, ?_, reserved_le h htight⟩,
    ⟨repacked_eq h, packed_eq h⟩, fun x hx y hy => ?_⟩
  · rw [frameFromSample]
    split_ifs with hsame
    · rw [packed_eq h hsame]
      rfl
    · rw [repacked_eq h]
      rfl
  · show frame.rgba.length = _
    rw [rgba, Slices.length_flatten_rows h, rowBytes, Nat.mul_comm, Nat.mul_comm 4]
  · have hpixel : (⟨frame.width, frame.height, frame.rgba⟩ : VideoFrame).pixel x y =
        (frame.data.drop (y * frame.stride + 4 * x)).take 4 := by
      have hplace : 4 * (y * frame.width.toNat + x) = y * frame.rowBytes + 4 * x := by
        rw [rowBytes, Nat.mul_add, Nat.mul_comm 4 (y * _), Nat.mul_assoc]
      show (frame.rgba.drop (4 * (y * frame.width.toNat + x))).take 4 = _
      rw [hplace]
      exact Slices.take_drop_flatten_rows h hy (by unfold rowBytes; omega)
    have hrow := h y hy
    refine ⟨hpixel, ?_⟩
    rw [hpixel, List.length_take, List.length_drop]
    unfold rowBytes at hrow
    omega

theorem frame_repacking_of_padded :
    let frame : MappedFrame := ⟨1, 2, 6, [1, 2, 3, 4, 0, 0, 5, 6, 7, 8]⟩
    ∃ result : VideoFrame, frameFromSample (some frame) = some (some result) ∧
      (result.width = frame.width ∧ result.height = frame.height ∧
        result.rgba.length = 4 * frame.width.toNat * frame.height.toNat ∧
        frame.rowBytes * frame.height.toNat ≤ frame.data.length) ∧
      (frame.repacked = some result.rgba ∧
        (frame.stride = frame.rowBytes → frame.packed = some result.rgba)) ∧
      ∀ x < frame.width.toNat, ∀ y < frame.height.toNat,
        result.pixel x y = (frame.data.drop (y * frame.stride + 4 * x)).take 4 ∧
          (result.pixel x y).length = 4 := by
  have hrows : ∀ y < 2, y * 6 + 4 ≤ 10 := by decide
  exact frame_repacking hrows (by decide)

end MappedFrame

end OpenPlay
