import OpenPlay.Foundation.System
import OpenPlay.Receiver.SessionLoop

/-!
# The picture on screen

The frame slot with the window that reads it: `store_frame` and `clear_frame` of `net.rs`
against `refresh_texture` of `window.rs`, in any order.

The window keeps a texture and the sequence number that it was uploaded for, and both
storing and clearing advance the number of the slot.  So a texture is shown again only
while nothing has changed since its upload, as long as the number does not come round.
A texture is the `image` of a frame, which is the work of the window's library.
-/

namespace OpenPlay

open Transition

variable {Image : Type}

/-! ## The window and the slot -/

/-- The slot, and what the window holds: `texture` and `texture_sequence`. -/
structure FrameView (Image : Type) where
  slot : FrameSlot
  texture : Option Image
  textureSequence : UInt64

inductive FrameAction
  | store (frame : VideoFrame)
  | clear
  | refresh
deriving DecidableEq, Repr

/-- What a refresh returns, and the frame it uploads. -/
structure Refreshed (Image : Type) where
  shown : Option Image
  uploaded : Option VideoFrame

/-- `refresh_texture`. -/
def FrameView.refreshTexture (image : VideoFrame → Image) (v : FrameView Image) :
    FrameView Image × Refreshed Image :=
  if v.slot.sequence = v.textureSequence then (v, ⟨v.texture, none⟩)
  else
    match v.slot.frame with
    | none => (v, ⟨none, none⟩)
    | some frame =>
        (⟨v.slot, some (image frame), v.slot.sequence⟩, ⟨some (image frame), some frame⟩)

/-- The three ways out of `refresh_texture`: the texture again, nothing to show, and an
upload. -/
theorem FrameView.refreshTexture_cases (image : VideoFrame → Image) (v : FrameView Image) :
    (v.slot.sequence = v.textureSequence ∧ v.refreshTexture image = (v, ⟨v.texture, none⟩)) ∨
      (v.slot.sequence ≠ v.textureSequence ∧ v.slot.frame = none ∧
        v.refreshTexture image = (v, ⟨none, none⟩)) ∨
      (v.slot.sequence ≠ v.textureSequence ∧ ∃ frame, v.slot.frame = some frame ∧
        v.refreshTexture image = (⟨v.slot, some (image frame), v.slot.sequence⟩,
          ⟨some (image frame), some frame⟩)) := by
  unfold FrameView.refreshTexture
  by_cases same : v.slot.sequence = v.textureSequence
  · exact Or.inl ⟨same, if_pos same⟩
  · rw [if_neg same]
    cases v.slot.frame with
    | none => exact Or.inr (Or.inl ⟨same, rfl, rfl⟩)
    | some frame => exact Or.inr (Or.inr ⟨same, frame, rfl, rfl⟩)

/-- One step of the two threads. -/
def FrameView.act (image : VideoFrame → Image) (v : FrameView Image) :
    FrameAction → FrameView Image × Refreshed Image
  | .store frame => ({ v with slot := v.slot.store frame }, ⟨none, none⟩)
  | .clear => ({ v with slot := v.slot.clear }, ⟨none, none⟩)
  | .refresh => v.refreshTexture image

/-- The slot and the window from the start. -/
def frameView (image : VideoFrame → Image) :
    System (FrameView Image) FrameAction (Refreshed Image) where
  init v := v = ⟨FrameSlot.default, none, 0⟩
  step v action := some (v.act image action)

abbrev FrameMove (Image : Type) := Move (FrameView Image) FrameAction (Refreshed Image)

/-! ## What has happened -/

namespace FrameMove

def Stores (frame : VideoFrame) (m : FrameMove Image) : Prop := m.action = .store frame

def Clears (m : FrameMove Image) : Prop := m.action = .clear

/-- The move stores some frame. -/
def StoresAny (m : FrameMove Image) : Prop := ∃ frame, m.action = .store frame

/-- The move changes the slot. -/
def Changes (m : FrameMove Image) : Prop := m.action ≠ .refresh

def Uploads (m : FrameMove Image) : Prop := m.output.uploaded ≠ none

end FrameMove

open FrameMove

/-- The frame that was stored last, if it was not cleared. -/
def current : List (FrameMove Image) → Option VideoFrame
  | [] => none
  | m :: past =>
      match m.action with
      | .store frame => some frame
      | .clear => none
      | .refresh => current past

/-- How often the slot was changed. -/
def changeCount (past : List (FrameMove Image)) : Nat :=
  past.countP fun m => decide (m.action ≠ .refresh)

/-- The frame on hand is the one that was stored with no change since. -/
theorem current_eq_some_iff (past : List (FrameMove Image)) (frame : VideoFrame) :
    current past = some frame ↔ Since (Stores frame) Changes past := by
  induction past with
  | nil => simp [current, Since]
  | cons m past ih =>
      rw [Since.cons_iff, ← ih]
      cases h : m.action <;> simp [current, Stores, Changes, h]

/-- There is no frame on hand when the slot was cleared after the last store, or
when nothing was ever stored. -/
theorem current_eq_none_iff (past : List (FrameMove Image)) :
    current past = none ↔ Since Clears StoresAny past ∨ ∀ m ∈ past, ¬ StoresAny m := by
  induction past with
  | nil => simp [current]
  | cons m past ih =>
      rw [Since.cons_iff, List.forall_mem_cons]
      cases h : m.action <;> simp [current, Clears, StoresAny, h, ih]

/-! ## What the window holds -/

/-- What the moves so far say about the slot and the texture. -/
structure Tracks (image : VideoFrame → Image) (past : List (FrameMove Image))
    (v : FrameView Image) : Prop where
  frame : v.slot.frame = current past
  sequence : v.slot.sequence.toNat = changeCount past
  behind : v.textureSequence.toNat ≤ changeCount past
  fresh : v.slot.sequence = v.textureSequence → v.texture = (current past).map image
  pending : v.slot.sequence ≠ v.textureSequence → ∀ frame, current past = some frame →
    Since (Stores frame) (fun m => Changes m ∨ Uploads m) past

namespace Tracks

variable {image : VideoFrame → Image} {past : List (FrameMove Image)} {v : FrameView Image}

theorem initially : Tracks image [] ⟨FrameSlot.default, none, 0⟩ where
  frame := rfl
  sequence := rfl
  behind := Nat.zero_le _
  fresh := fun _ => rfl
  pending := fun stale => absurd rfl stale

/-- Storing and clearing advance the number of the slot past that of the texture. -/
theorem changed (h : Tracks image past v) {m : FrameMove Image} {slot : FrameSlot}
    (changes : m.Changes) (holds : slot.frame = current (m :: past))
    (advanced : slot.sequence = v.slot.sequence + 1)
    (room : changeCount past + 1 < UInt64.size) :
    Tracks image (m :: past) { v with slot := slot } := by
  have count : changeCount (m :: past) = changeCount past + 1 :=
    List.countP_cons_of_pos (decide_eq_true changes)
  have sequence : slot.sequence.toNat = changeCount past + 1 := by
    have unsigned := h.sequence
    rw [UInt64.size] at room
    rw [advanced, UInt64.toNat_add, UInt64.toNat_one]
    omega
  have differ : slot.sequence ≠ v.textureSequence := by
    intro same
    have behind := h.behind
    rw [same] at sequence
    omega
  refine ⟨holds, sequence.trans count.symm, ?_, fun same => absurd same differ, ?_⟩
  · rw [count]
    exact Nat.le_succ_of_le h.behind
  · intro _ frame onHand
    obtain stored | ⟨quiet, _⟩ :=
      Since.cons_iff.mp ((current_eq_some_iff _ frame).mp onHand)
    · exact Since.now stored
    · exact absurd changes quiet

/-- A refresh that uploads nothing leaves everything as it was. -/
theorem unchanged (h : Tracks image past v) {m : FrameMove Image}
    (refreshes : m.action = .refresh) (uploads : m.output.uploaded = none) :
    Tracks image (m :: past) v := by
  have count : changeCount (m :: past) = changeCount past := by
    simp [changeCount, refreshes]
  have same : current (m :: past) = current past := by simp [current, refreshes]
  refine ⟨?_, ?_, ?_, ?_, ?_⟩
  · rw [same]
    exact h.frame
  · rw [count]
    exact h.sequence
  · rw [count]
    exact h.behind
  · rw [same]
    exact h.fresh
  · intro stale frame onHand
    rw [same] at onHand
    have quiet : ¬ (Changes m ∨ Uploads m) := by simp [Changes, Uploads, refreshes, uploads]
    exact (h.pending stale frame onHand).later quiet

/-- An upload brings the texture up to the slot. -/
theorem uploaded (h : Tracks image past v) {m : FrameMove Image} {frame : VideoFrame}
    (refreshes : m.action = .refresh) (onHand : v.slot.frame = some frame) :
    Tracks image (m :: past) ⟨v.slot, some (image frame), v.slot.sequence⟩ := by
  have count : changeCount (m :: past) = changeCount past := by
    simp [changeCount, refreshes]
  have same : current (m :: past) = some frame := by
    rw [← onHand, h.frame]
    simp [current, refreshes]
  refine ⟨?_, ?_, ?_, ?_, fun stale => absurd rfl stale⟩
  · show v.slot.frame = current (m :: past)
    rw [onHand, same]
  · rw [count]
    exact h.sequence
  · rw [count]
    exact Nat.le_of_eq h.sequence
  · intro _
    rw [same]
    rfl

theorem of_makes (h : Tracks image past v) {m : FrameMove Image}
    (source : m.source = v) (made : (frameView image).Makes m)
    (room : past.length + 1 < UInt64.size) : Tracks image (m :: past) m.target := by
  have room : changeCount past + 1 < UInt64.size :=
    Nat.lt_of_le_of_lt (Nat.succ_le_succ List.countP_le_length) room
  subst source
  obtain ⟨v, action, output, target⟩ := m
  have moved : v.act image action = (target, output) := Option.some.inj made
  cases action with
  | store frame =>
      cases moved
      exact h.changed (by simp [Changes]) (by simp [FrameSlot.store, current]) rfl room
  | clear =>
      cases moved
      exact h.changed (by simp [Changes]) (by simp [FrameSlot.clear, current]) rfl room
  | refresh =>
      simp only [FrameView.act] at moved
      obtain ⟨_, result⟩ | ⟨_, _, result⟩ | ⟨_, frame, onHand, result⟩ :=
        v.refreshTexture_cases image
      · cases result.symm.trans moved
        exact h.unchanged rfl rfl
      · cases result.symm.trans moved
        exact h.unchanged rfl rfl
      · cases result.symm.trans moved
        exact h.uploaded rfl onHand

/-- A refresh shows the frame on hand. -/
theorem shows (h : Tracks image past v) :
    (v.refreshTexture image).2.shown = (current past).map image := by
  obtain ⟨same, result⟩ | ⟨_, gone, result⟩ | ⟨_, frame, onHand, result⟩ :=
    v.refreshTexture_cases image
  · rw [result]
    exact h.fresh same
  · rw [result, ← h.frame, gone]
    rfl
  · rw [result, ← h.frame, onHand]
    rfl

/-- What a refresh uploads is the frame on hand, which was not uploaded before. -/
theorem uploads (h : Tracks image past v) {frame : VideoFrame}
    (sent : (v.refreshTexture image).2.uploaded = some frame) :
    Since (Stores frame) (fun m => Changes m ∨ Uploads m) past := by
  obtain ⟨_, result⟩ | ⟨_, _, result⟩ | ⟨stale, held, onHand, result⟩ :=
    v.refreshTexture_cases image
  · simp [result] at sent
  · simp [result] at sent
  · rw [result] at sent
    cases sent
    exact h.pending stale frame (h.frame ▸ onHand)

end Tracks

/-- `Tracks`, as long as the sequence numbers have not come round. -/
def TracksIfShort (image : VideoFrame → Image) (past : List (FrameMove Image))
    (v : FrameView Image) : Prop :=
  past.length < UInt64.size → Tracks image past v

theorem tracksIfShort {image : VideoFrame → Image} {past : List (FrameMove Image)}
    {v : FrameView Image} (run : (frameView image).Run past v) :
    TracksIfShort image past v := by
  apply run.invariant_past
  · rintro _ rfl _
    exact Tracks.initially
  · intro past move _ made earlier short
    exact (earlier (Nat.lt_of_succ_lt short)).of_makes rfl made short

/-! ## No stale picture -/

/-- **No stale picture.**  In a run of fewer than `2 ^ 64` steps, a refresh shows a picture
of the frame that was stored last, with no clear since; it shows nothing exactly when the
slot was cleared after the last store or nothing was ever stored; and what it uploads was
stored, and neither changed nor uploaded since. -/
theorem no_stale_picture {image : VideoFrame → Image} {recent older : List (FrameMove Image)}
    {m : FrameMove Image} {v : FrameView Image}
    (run : (frameView image).Run (recent ++ m :: older) v)
    (short : (recent ++ m :: older).length < UInt64.size) (refreshes : m.action = .refresh) :
    (∀ picture, m.output.shown = some picture →
        ∃ frame, picture = image frame ∧ Since (Stores frame) Changes older) ∧
      (m.output.shown = none ↔
        Since Clears StoresAny older ∨ ∀ move ∈ older, ¬ StoresAny move) ∧
      ∀ frame, m.output.uploaded = some frame →
        Since (Stores frame) (fun move => Changes move ∨ Uploads move) older := by
  obtain ⟨before, made⟩ := run.at_position
  have length : older.length < UInt64.size := by
    simp at short
    omega
  have tracked := tracksIfShort before length
  have output : m.output = (m.source.refreshTexture image).2 := by
    have moved := Option.some.inj made
    rw [refreshes] at moved
    exact (congrArg Prod.snd moved).symm
  rw [output]
  refine ⟨?_, ?_, fun frame sent => tracked.uploads sent⟩
  · intro picture shown
    rw [tracked.shows, Option.map_eq_some_iff] at shown
    obtain ⟨frame, onHand, rfl⟩ := shown
    exact ⟨frame, rfl, (current_eq_some_iff older frame).mp onHand⟩
  · rw [tracked.shows, Option.map_eq_none_iff]
    exact current_eq_none_iff older

theorem no_stale_picture_of_store :
    ∃ frame : VideoFrame, [1, 2, 3, 255] = frame.rgba ∧
      Since (Stores frame) Changes ((frameView VideoFrame.rgba).history
        [.store ⟨1, 1, [1, 2, 3, 255]⟩] ⟨FrameSlot.default, none, 0⟩) := by
  have run : System.Run (frameView VideoFrame.rgba) ([] ++ _ :: _) _ :=
    System.Run.of_actions [.store ⟨1, 1, [1, 2, 3, 255]⟩, .refresh] rfl rfl
  exact (no_stale_picture run (by decide) rfl).1 _ rfl

end OpenPlay
