import Mathlib.Data.Nat.Bitwise
import OpenPlay.Foundation.Ladder
import OpenPlay.Miracast.Resolution

/-!
# The best mode of two masks

A mask stands for some of seven modes.  `negotiate_resolution` goes down a ladder that has
five of them: two modes of standard definition are missing, and one of these has a larger
picture than the one that is there.

`best_mode_iff` says for which masks the ladder finds the best mode that both have.
-/

namespace OpenPlay.Miracast

open CeaResolutions
open Dialogue (heard)
open Ladder (IsBest)

/-! ## Modes -/

/-- The number of pixels. -/
def Mode.pictureSize (mode : Mode) : Nat := mode.1.toNat * mode.2.1.toNat

/-- A larger picture, or a picture of the same size more often. -/
def Mode.Better (a b : Mode) : Prop :=
  b.pictureSize < a.pictureSize ∨ a.pictureSize = b.pictureSize ∧ b.2.2 < a.2.2

instance (a b : Mode) : Decidable (a.Better b) := inferInstanceAs (Decidable (_ ∨ _))

theorem Mode.Better.asymm (a b : Mode) (h : a.Better b) : ¬ b.Better a := by
  unfold Better at *
  rw [UInt32.lt_iff_toNat_lt] at *
  omega

/-- The mask has the bit of the mode. -/
def CeaResolutions.has (mask : CeaResolutions) (mode : Mode) : Bool :=
  ceaModes.any fun entry => entry.2 == mode && mask.bits &&& entry.1 != 0

/-- A mode of both masks. -/
def InBoth (source sink : WfdVideoFormats) (mode : Mode) : Prop :=
  source.ceaResolutions.has mode = true ∧ sink.ceaResolutions.has mode = true

instance (source sink : WfdVideoFormats) (mode : Mode) : Decidable (InBoth source sink mode) :=
  inferInstanceAs (Decidable (_ ∧ _))

/-- The best mode of both masks, if there is one, is chosen. -/
def ChoosesBest (source sink : WfdVideoFormats) (mode : Mode) : Prop :=
  (∃ shared, InBoth source sink shared) → IsBest Mode.Better (InBoth source sink) mode

/-- The masks share a mode of high definition, or 720x480 and not 720x576. -/
def OnLadder (source sink : WfdVideoFormats) : Prop :=
  (∃ mode ∈ ([(1920, 1080, 60), (1920, 1080, 30), (1280, 720, 60), (1280, 720, 30)] : List Mode),
      InBoth source sink mode) ∨
    InBoth source sink (720, 480, 60) ∧ ¬ InBoth source sink (720, 576, 50)

/-! ## The ladder with all its rungs -/

/-- The seven modes, the best one first. -/
def rungs : List Mode := (ceaModes.map Prod.snd).reverse

theorem rungs_fall : rungs.Pairwise Mode.Better := by
  decide

/-- What both masks have of a single bit. -/
theorem and_and_ne_zero_iff {bit : UInt32} {i : Nat} (single : bit.toNat = 2 ^ i) (a b : UInt32) :
    (a &&& b) &&& bit ≠ 0 ↔ a &&& bit ≠ 0 ∧ b &&& bit ≠ 0 := by
  have holds : ∀ x : UInt32, x &&& bit ≠ 0 ↔ x.toNat.testBit i = true := by
    intro x
    rw [Ne, ← UInt32.toNat_inj, UInt32.toNat_and, single, Nat.and_two_pow]
    cases x.toNat.testBit i <;> simp
  rw [holds, holds, holds, UInt32.toNat_and, Nat.testBit_and, Bool.and_eq_true]

section

variable (source sink : WfdVideoFormats)

/-- The mask that `negotiate_resolution` works with. -/
def commonCea : CeaResolutions := ⟨source.ceaResolutions.bits &&& sink.ceaResolutions.bits⟩

theorem inBoth_iff (mode : Mode) :
    InBoth source sink mode ↔ mode ∈ rungs ∧ (commonCea source sink).has mode = true := by
  have single : ∀ entry ∈ ceaModes, ∃ i, entry.1.toNat = 2 ^ i := by
    simp only [ceaModes, List.forall_mem_cons, List.not_mem_nil, false_implies, implies_true,
      and_true]
    exact ⟨⟨0, rfl⟩, ⟨1, rfl⟩, ⟨3, rfl⟩, ⟨5, rfl⟩, ⟨6, rfl⟩, ⟨7, rfl⟩, ⟨8, rfl⟩⟩
  have distinct : (ceaModes.map Prod.snd).Nodup := by decide
  have only : ∀ entry ∈ ceaModes, ∀ other ∈ ceaModes, entry.2 = other.2 → entry = other :=
    fun _ mem _ mem' same => List.inj_on_of_nodup_map distinct mem mem' same
  simp only [InBoth, CeaResolutions.has, List.any_eq_true, Bool.and_eq_true, beq_iff_eq,
    bne_iff_ne, commonCea, rungs, List.mem_reverse, List.mem_map]
  constructor
  · rintro ⟨⟨entry, mem, rfl, hsource⟩, other, mem', same, hsink⟩
    obtain rfl := only other mem' entry mem same
    obtain ⟨i, hi⟩ := single other mem
    exact ⟨⟨other, mem, rfl⟩, other, mem, rfl,
      (and_and_ne_zero_iff hi _ _).mpr ⟨hsource, hsink⟩⟩
  · rintro ⟨-, entry, mem, rfl, hboth⟩
    obtain ⟨i, hi⟩ := single entry mem
    obtain ⟨hsource, hsink⟩ := (and_and_ne_zero_iff hi _ _).mp hboth
    exact ⟨⟨entry, mem, rfl, hsource⟩, entry, mem, rfl, hsink⟩

/-- The best mode of both masks is found on the ladder with all its rungs. -/
theorem isBest_iff (mode : Mode) :
    IsBest Mode.Better (InBoth source sink) mode ↔
      rungs.find? (commonCea source sink).has = some mode := by
  rw [← Ladder.isBest_iff_find? rungs_fall Mode.Better.asymm]
  exact iff_of_eq (congrArg (IsBest Mode.Better · mode)
    (funext fun other => propext (inBoth_iff source sink other)))

theorem exists_inBoth_iff :
    (∃ mode, InBoth source sink mode) ↔
      ∃ mode, rungs.find? (commonCea source sink).has = some mode := by
  simp only [inBoth_iff]
  constructor
  · rintro ⟨mode, mem, ok⟩
    exact Option.isSome_iff_exists.mp (List.find?_isSome.mpr ⟨mode, mem, ok⟩)
  · rintro ⟨mode, found⟩
    exact ⟨mode, List.mem_of_find?_eq_some found, List.find?_some found⟩

/-- The ladder of the code, in terms of modes. -/
theorem negotiateResolution_eq :
    negotiateResolution source sink =
      let has := (commonCea source sink).has
      if has (1920, 1080, 60) then (1920, 1080, 60)
      else if has (1920, 1080, 30) then (1920, 1080, 30)
      else if has (1280, 720, 60) then (1280, 720, 60)
      else if has (1280, 720, 30) then (1280, 720, 30)
      else if has (720, 480, 60) then (720, 480, 60)
      else (1280, 720, 30) := by
  simp [negotiateResolution, CeaResolutions.has, ceaModes, commonCea]

theorem onLadder_iff :
    OnLadder source sink ↔
      let has := (commonCea source sink).has
      has (1920, 1080, 60) = true ∨ has (1920, 1080, 30) = true ∨ has (1280, 720, 60) = true ∨
        has (1280, 720, 30) = true ∨ has (720, 480, 60) = true ∧ has (720, 576, 50) = false := by
  have listed : ∀ mode ∈ rungs,
      (InBoth source sink mode ↔ (commonCea source sink).has mode = true) := fun mode mem =>
    (inBoth_iff source sink mode).trans (and_iff_right mem)
  simp only [OnLadder, List.exists_mem_cons_iff, List.not_mem_nil, false_and, exists_false,
    or_false, or_assoc, listed _ (by decide : (1920, 1080, 60) ∈ rungs),
    listed _ (by decide : (1920, 1080, 30) ∈ rungs), listed _ (by decide : (1280, 720, 60) ∈ rungs),
    listed _ (by decide : (1280, 720, 30) ∈ rungs), listed _ (by decide : (720, 480, 60) ∈ rungs),
    listed _ (by decide : (720, 576, 50) ∈ rungs), Bool.not_eq_true]

/-- **When the chosen mode is the best one.** -/
theorem choosesBest_iff :
    ChoosesBest source sink (negotiateResolution source sink) ↔
      ((∃ mode, InBoth source sink mode) → OnLadder source sink) := by
  rw [ChoosesBest, isBest_iff, exists_inBoth_iff, onLadder_iff, negotiateResolution_eq]
  have rungs_eq : rungs = [(1920, 1080, 60), (1920, 1080, 30), (1280, 720, 60), (1280, 720, 30),
    (720, 576, 50), (720, 480, 60), (640, 480, 60)] := rfl
  rw [rungs_eq]
  generalize (commonCea source sink).has = has
  refine imp_congr_right fun _ => ?_
  -- down the rungs, until one is there
  by_cases h1 : has (1920, 1080, 60) = true
  · simp [h1]
  by_cases h2 : has (1920, 1080, 30) = true
  · simp [h1, h2]
  by_cases h3 : has (1280, 720, 60) = true
  · simp [h1, h2, h3]
  by_cases h4 : has (1280, 720, 30) = true
  · simp [h1, h2, h3, h4]
  by_cases h5 : has (720, 576, 50) = true
  · by_cases h6 : has (720, 480, 60) = true <;> simp [h1, h2, h3, h4, h5, h6]
  by_cases h6 : has (720, 480, 60) = true
  · simp [h1, h2, h3, h4, h5, h6]
  · by_cases h7 : has (640, 480, 60) = true <;> simp [h1, h2, h3, h4, h5, h6, h7]

end

/-! ## The mode of a negotiation -/

/-- **The resolution of a negotiation.**  For all formats of the source and whatever the
sink sends: the mode is chosen from the masks of the source and of the M3 response, and it is
the best one that both have, if they have one, just where the ladder reaches it. -/
theorem best_mode_iff {Addr : Type} (sinkAddr : Addr) (source : WfdVideoFormats)
    (incoming : List Reading) :
    (∀ result, (negotiation sinkAddr source incoming).1 = .ok result →
      (result.width, result.height, result.fps) =
        negotiateResolution source (sinkFormats incoming)) ∧
    (ChoosesBest source (sinkFormats incoming)
        (negotiateResolution source (sinkFormats incoming)) ↔
      ((∃ mode, InBoth source (sinkFormats incoming) mode) →
        OnLadder source (sinkFormats incoming))) :=
  ⟨fun result hok => ((negotiate_follows sinkAddr source incoming).post result hok).mode,
    choosesBest_iff source (sinkFormats incoming)⟩

/-- Formats with one mode, of 576 lines. -/
def palDefinition : WfdVideoFormats :=
  { WfdVideoFormats.default with ceaResolutions := ⟨res720x576p50⟩ }

/-- **A mode that the sink has not offered**: two ends that know 720x576 only settle on
1280x720. -/
theorem unoffered_mode_chosen :
    ¬ ∀ (source : WfdVideoFormats) (incoming : List Reading)
      (result : WfdNegotiationResult Unit), (negotiation () source incoming).1 = .ok result →
        ChoosesBest source (sinkFormats incoming) (result.width, result.height, result.fps) := by
  intro all
  obtain ⟨result, hok⟩ := obligingSink_ok palDefinition (fun _ => 1)
    (setParameterBody palDefinition)
  have mode := ((negotiate_follows () palDefinition _).post result hok).mode
  have best := all _ _ result hok
  rw [mode] at best
  change ChoosesBest _ _ (negotiateResolution palDefinition (sinkFormats _)) at best
  rw [sinkFormats_obligingSink] at best
  have shared : ∃ mode, InBoth palDefinition palDefinition mode := ⟨(720, 576, 50), by decide⟩
  exact absurd (best shared).isAllowed (by decide)

end OpenPlay.Miracast
