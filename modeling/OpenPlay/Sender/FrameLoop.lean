import OpenPlay.Airplay.Mirror
import OpenPlay.Sender.Nalu

/-!
# The frame loop of an AirPlay cast

The loop of `run_airplay_pipeline` from `casting.rs`: for each access unit, codec data
if none was sent yet and the unit has an SPS, then the unit as a video frame.  A session
that has ended takes no more commands, and the loop ends with the first it refuses.

* `queued_open`: what is queued to a session that goes on
* `codec_data_first_iff`: when the codec data comes first, complete, and once
* `every_frame_follows_codec_data_iff`: the same asked of every video frame
-/

namespace OpenPlay.Sender

open Airplay

/-! ## The loop -/

/-- An access unit that the loop receives, and `stop_flag` as it is read then. -/
structure Delivery where
  data : List UInt8
  stop : Bool
deriving DecidableEq

structure FrameLoop where
  sentCodecData : Bool
  frameCount : Nat
  queued : List SessionCommand
deriving DecidableEq

namespace FrameLoop

def start : FrameLoop := ⟨false, 0, []⟩

/-- `session.send`, for a session that takes the commands whose numbers it `accepts`. -/
def send (accepts : Nat → Bool) (x : FrameLoop) (command : SessionCommand) :
    Bool × FrameLoop :=
  if accepts x.queued.length then (true, { x with queued := x.queued ++ [command] })
  else (false, x)

/-- The codec data of a unit, if it is to be sent. -/
def sendCodecData (accepts : Nat → Bool) (x : FrameLoop) (data : List UInt8) :
    Bool × FrameLoop :=
  if x.sentCodecData then (true, x)
  else
    match extractSpsPps data with
    | none => (true, x)
    | some spsPps =>
        let sent := x.send accepts (.sendCodecData spsPps)
        if sent.1 then (true, { sent.2 with sentCodecData := true }) else sent

/-- A turn of the loop, and whether there is another. -/
def turn (accepts : Nat → Bool) (x : FrameLoop) (d : Delivery) : Bool × FrameLoop :=
  if d.stop then (false, x)
  else if d.data.isEmpty then (true, x)
  else
    let announced := x.sendCodecData accepts d.data
    if announced.1 then
      let sent := announced.2.send accepts (.sendVideoFrame d.data)
      if sent.1 then (true, { sent.2 with frameCount := sent.2.frameCount + 1 }) else sent
    else announced

/-- The loop, until it breaks or nothing is delivered any more. -/
def run (accepts : Nat → Bool) : List Delivery → FrameLoop → FrameLoop
  | [], x => x
  | d :: ds, x =>
      let next := x.turn accepts d
      if next.1 then run accepts ds next.2 else next.2

end FrameLoop

/-- The commands that `run_airplay_pipeline` queues, the last of them when it is done. -/
def runAirplayPipeline (accepts : Nat → Bool) (ds : List Delivery) : List SessionCommand :=
  ((FrameLoop.start.run accepts ds).send accepts .stop).2.queued

/-! ## What is queued to a session that goes on -/

/-- A session that takes every command. -/
def goesOn : Nat → Bool := fun _ => true

/-- The units that the loop comes to and does not skip. -/
def handled (ds : List Delivery) : List (List UInt8) :=
  ((ds.takeWhile (!·.stop)).map Delivery.data).filter (!·.isEmpty)

/-- The commands for some units, when codec data was sent and when it was not. -/
def commandsFor : Bool → List (List UInt8) → List SessionCommand
  | _, [] => []
  | true, u :: us => .sendVideoFrame u :: commandsFor true us
  | false, u :: us =>
      match extractSpsPps u with
      | none => .sendVideoFrame u :: commandsFor false us
      | some spsPps => .sendCodecData spsPps :: .sendVideoFrame u :: commandsFor true us

theorem FrameLoop.send_goesOn (x : FrameLoop) (command : SessionCommand) :
    x.send goesOn command = (true, { x with queued := x.queued ++ [command] }) := rfl

theorem queued_run (ds : List Delivery) (x : FrameLoop) :
    (x.run goesOn ds).queued = x.queued ++ commandsFor x.sentCodecData (handled ds) := by
  induction ds generalizing x with
  | nil => exact (List.append_nil _).symm
  | cons d ds ih =>
      rw [FrameLoop.run, FrameLoop.turn]
      by_cases stop : d.stop = true
      · simp [stop, handled, commandsFor]
      · by_cases empty : d.data.isEmpty = true
        · have skipped : handled (d :: ds) = handled ds := by simp [handled, stop, empty]
          simp [stop, empty, skipped, ih]
        · have kept : handled (d :: ds) = d.data :: handled ds := by
            simp [handled, stop, empty]
          rw [kept]
          cases codec : x.sentCodecData with
          | true => simp [stop, empty, FrameLoop.sendCodecData, FrameLoop.send, goesOn, codec,
              ih, commandsFor]
          | false =>
              cases found : extractSpsPps d.data with
              | none => simp [stop, empty, FrameLoop.sendCodecData, FrameLoop.send, goesOn,
                  codec, found, ih, commandsFor]
              | some spsPps => simp [stop, empty, FrameLoop.sendCodecData, FrameLoop.send,
                  goesOn, codec, found, ih, commandsFor]

theorem queued_open (ds : List Delivery) :
    runAirplayPipeline goesOn ds = commandsFor false (handled ds) ++ [.stop] := by
  rw [runAirplayPipeline, FrameLoop.send_goesOn, queued_run]
  rfl

/-- Once codec data was sent, only video follows. -/
theorem commandsFor_true (us : List (List UInt8)) :
    commandsFor true us = us.map .sendVideoFrame := by
  induction us with
  | nil => rfl
  | cons u us ih => rw [commandsFor, ih, List.map_cons]

/-! ## A session that ends -/

namespace FrameLoop

variable {accepts : Nat → Bool}

theorem prefix_sendCodecData (x : FrameLoop) (data : List UInt8) :
    x.queued <+: (x.sendCodecData goesOn data).2.queued := by
  rw [sendCodecData]
  split_ifs
  · exact List.prefix_rfl
  · cases extractSpsPps data with
    | none => exact List.prefix_rfl
    | some spsPps => exact List.prefix_append _ _

/-- A turn goes as with a session that goes on, or it is the last one and has queued less. -/
theorem turn_cases (accepts : Nat → Bool) (x : FrameLoop) (d : Delivery) :
    x.turn accepts d = x.turn goesOn d ∨
      (x.turn accepts d).1 = false ∧
        (x.turn accepts d).2.queued <+: (x.turn goesOn d).2.queued := by
  by_cases stop : d.stop = true
  · exact Or.inl (by simp [turn, stop])
  by_cases empty : d.data.isEmpty = true
  · exact Or.inl (by simp [turn, stop, empty])
  -- the video frame is refused, or the codec data before it
  have refused : x.turn accepts d = x.turn goesOn d ∨
      (x.turn accepts d).1 = false ∧ ((x.turn accepts d).2 = x ∨
        (x.turn accepts d).2 = (x.sendCodecData goesOn d.data).2) := by
    cases codec : x.sentCodecData with
    | true =>
        by_cases takes : accepts x.queued.length = true <;>
          simp [turn, stop, empty, sendCodecData, send, goesOn, codec, takes]
    | false =>
        cases found : extractSpsPps d.data with
        | none =>
            by_cases takes : accepts x.queued.length = true <;>
              simp [turn, stop, empty, sendCodecData, send, goesOn, codec, found, takes]
        | some spsPps =>
            by_cases takes : accepts x.queued.length = true <;>
              by_cases takesNext : accepts (x.queued.length + 1) = true <;>
                simp [turn, stop, empty, sendCodecData, send, goesOn, codec, found, takes,
                  takesNext]
  have announced : (x.sendCodecData goesOn d.data).1 = true := by
    rw [sendCodecData]
    split_ifs
    · rfl
    · cases extractSpsPps d.data <;> rfl
  have more : (x.sendCodecData goesOn d.data).2.queued <+: (x.turn goesOn d).2.queued := by
    rw [turn, if_neg stop, if_neg empty, if_pos announced, send_goesOn]
    exact List.prefix_append _ _
  rcases refused with same | ⟨last, now | now⟩
  · exact Or.inl same
  · refine Or.inr ⟨last, ?_⟩
    rw [now]
    exact (x.prefix_sendCodecData d.data).trans more
  · refine Or.inr ⟨last, ?_⟩
    rw [now]
    exact more

theorem prefix_run_goesOn (ds : List Delivery) (x : FrameLoop) :
    x.queued <+: (x.run goesOn ds).queued := by
  rw [queued_run]
  exact List.prefix_append _ _

/-- A session that ends has got the first of the commands. -/
theorem run_prefix (ds : List Delivery) (x : FrameLoop) :
    (x.run accepts ds).queued <+: (x.run goesOn ds).queued := by
  induction ds generalizing x with
  | nil => exact List.prefix_rfl
  | cons d ds ih =>
      rw [run, run]
      rcases turn_cases accepts x d with same | ⟨last, less⟩
      · rw [same]
        split_ifs
        · exact ih _
        · exact List.prefix_rfl
      · rw [if_neg (ne_true_of_eq_false last)]
        split_ifs
        · exact less.trans (prefix_run_goesOn ds _)
        · exact less

end FrameLoop

/-! ## Codec data first -/

/-- Exactly one command carries codec data, it has both parameter sets, and no video
frame stands before it. -/
def CodecDataFirst (commands : List SessionCommand) : Prop :=
  ∃ before spsPps after, commands = before ++ .sendCodecData spsPps :: after ∧
    (∀ command ∈ before ++ after, ∀ data, command ≠ .sendCodecData data) ∧
    (∀ command ∈ before, ∀ data, command ≠ .sendVideoFrame data) ∧
    HasNal 7 spsPps ∧ HasNal 8 spsPps

/-- The first unit has both parameter sets. -/
def CompleteAtOnce (us : List (List UInt8)) : Prop :=
  ∃ u, us.head? = some u ∧ HasNal 7 u ∧ HasNal 8 u

theorem codecDataFirst_of_completeAtOnce {us : List (List UInt8)} (h : CompleteAtOnce us) :
    CodecDataFirst (commandsFor false us ++ [.stop]) := by
  obtain ⟨u, first, hasSps, hasPps⟩ := h
  cases us with
  | nil => cases first
  | cons u' us =>
      cases first
      cases found : extractSpsPps u with
      | none => exact absurd hasSps ((extractSpsPps_eq_none_iff u).mp found)
      | some spsPps =>
          obtain ⟨sps, pps⟩ := hasNal_extractSpsPps found
          refine ⟨[], spsPps, .sendVideoFrame u :: (commandsFor true us ++ [.stop]), ?_, ?_,
            nofun, sps, pps.mpr hasPps⟩
          · simp [commandsFor, found]
          · rw [commandsFor_true]
            rintro command mem data rfl
            simp at mem

/-- Codec data that comes first was made of the first unit. -/
theorem completeAtOnce_of_codecDataFirst {us : List (List UInt8)} {u : List UInt8}
    (first : us.head? = some u) (h : CodecDataFirst (commandsFor false us ++ [.stop])) :
    HasNal 7 u ∧ HasNal 8 u := by
  obtain ⟨before, spsPps, after, split, once, noVideo, hasSps, hasPps⟩ := h
  cases us with
  | nil => cases first
  | cons u' us =>
      cases first
      cases found : extractSpsPps u with
      | none =>
          -- the unit itself comes first
          simp only [commandsFor, found, List.cons_append] at split
          cases before with
          | nil => cases split
          | cons command before =>
              obtain ⟨rfl, -⟩ := List.cons.inj split
              exact absurd rfl (noVideo _ List.mem_cons_self u)
      | some spsPps' =>
          simp only [commandsFor, found, List.cons_append] at split
          cases before with
          | cons command before =>
              obtain ⟨rfl, -⟩ := List.cons.inj split
              exact absurd rfl (once _ List.mem_cons_self spsPps')
          | nil =>
              cases split
              obtain ⟨-, pps⟩ := hasNal_extractSpsPps found
              refine ⟨?_, pps.mp hasPps⟩
              by_contra noSps
              rw [(extractSpsPps_eq_none_iff u).mpr noSps] at found
              cases found

/-- **When codec data comes first.**  Once both parameter sets have been seen, the codec
data is there, complete, once, and before all video, if and only if the first unit that
is not empty had them both.  A session that ends has got the first of these commands. -/
theorem codec_data_first_iff (ds : List Delivery) :
    (((∃ u ∈ handled ds, HasNal 7 u) → (∃ u ∈ handled ds, HasNal 8 u) →
        CodecDataFirst (runAirplayPipeline goesOn ds)) ↔
      ((¬ ∃ u ∈ handled ds, HasNal 7 u) ∨ (¬ ∃ u ∈ handled ds, HasNal 8 u) ∨
        CompleteAtOnce (handled ds))) ∧
    ∀ accepts, (FrameLoop.start.run accepts ds).queued <+:
      (FrameLoop.start.run goesOn ds).queued := by
  refine ⟨?_, fun accepts => FrameLoop.run_prefix ds FrameLoop.start⟩
  rw [queued_open]
  constructor
  · intro h
    by_cases sps : ∃ u ∈ handled ds, HasNal 7 u
    · by_cases pps : ∃ u ∈ handled ds, HasNal 8 u
      · have codec := h sps pps
        cases first : (handled ds).head? with
        | none =>
            obtain ⟨u, mem, -⟩ := sps
            rw [List.head?_eq_none_iff.mp first] at mem
            cases mem
        | some u =>
            exact Or.inr (Or.inr ⟨u, first, completeAtOnce_of_codecDataFirst first codec⟩)
      · exact Or.inr (Or.inl pps)
    · exact Or.inl sps
  · rintro (noSps | noPps | complete) sps pps
    · exact absurd sps noSps
    · exact absurd pps noPps
    · exact codecDataFirst_of_completeAtOnce complete

/-- The parameter sets in two units: the codec data has the first only, and the second is
never sent as such. -/
theorem codec_data_without_pps :
    ¬ ∀ ds, (∃ u ∈ handled ds, HasNal 7 u) → (∃ u ∈ handled ds, HasNal 8 u) →
      CodecDataFirst (runAirplayPipeline goesOn ds) := by
  intro all
  have first := all [⟨[0, 0, 0, 1, 0x67], false⟩, ⟨[0, 0, 0, 1, 0x68], false⟩]
    ⟨_, List.mem_cons_self, [0], 0x67, [], rfl, rfl⟩
    ⟨_, List.mem_cons_of_mem _ List.mem_cons_self, [0], 0x68, [], rfl, rfl⟩
  rw [queued_open] at first
  obtain ⟨-, front, header, rest, split, pps⟩ := completeAtOnce_of_codecDataFirst rfl first
  match front with
  | [] => cases split
  | [_] =>
      cases split
      cases pps
  | [_, _] => cases split
  | [_, _, _] => cases split
  | _ :: _ :: _ :: _ :: front =>
      have long := congrArg List.length split
      simp at long
      omega

/-- Every video frame stands behind codec data that has both parameter sets. -/
def FramesFollowCodecData (commands : List SessionCommand) : Prop :=
  ∀ before data after, commands = before ++ .sendVideoFrame data :: after →
    ∃ spsPps, .sendCodecData spsPps ∈ before ∧ HasNal 7 spsPps ∧ HasNal 8 spsPps

/-- **What a receiver can count on**: no frame comes before complete codec data, if and
only if the first unit, if there is any, has both parameter sets. -/
theorem every_frame_follows_codec_data_iff (ds : List Delivery) :
    FramesFollowCodecData (runAirplayPipeline goesOn ds) ↔
      handled ds = [] ∨ CompleteAtOnce (handled ds) := by
  rw [queued_open]
  cases handled ds with
  | nil =>
      refine iff_of_true (fun before data after split => ?_) (Or.inl rfl)
      cases before <;> simp [commandsFor] at split
  | cons u us =>
      cases found : extractSpsPps u with
      | none =>
          have noSps := (extractSpsPps_eq_none_iff u).mp found
          refine iff_of_false (fun all => ?_) ?_
          · obtain ⟨_, mem, -⟩ := all [] u (commandsFor false us ++ [.stop])
              (by simp [commandsFor, found])
            cases mem
          · rintro (none | ⟨v, first, hasSps, -⟩)
            · cases none
            · cases first
              exact noSps hasSps
      | some spsPps =>
          obtain ⟨sps, pps⟩ := hasNal_extractSpsPps found
          have sure : commandsFor false (u :: us) ++ [.stop] =
              .sendCodecData spsPps :: .sendVideoFrame u :: (commandsFor true us ++ [.stop]) := by
            simp [commandsFor, found]
          rw [sure]
          constructor
          · intro all
            obtain ⟨_, mem, -, hasPps⟩ := all [.sendCodecData spsPps] u _ rfl
            cases List.mem_singleton.mp mem
            refine Or.inr ⟨u, rfl, ?_, pps.mp hasPps⟩
            by_contra noSps
            rw [(extractSpsPps_eq_none_iff u).mpr noSps] at found
            cases found
          · rintro (none | ⟨v, first, -, hasPps⟩) before data after split
            · cases none
            · cases first
              cases before with
              | nil => cases split
              | cons command before =>
                  obtain ⟨rfl, -⟩ := List.cons.inj split
                  exact ⟨spsPps, List.mem_cons_self, sps, pps.mpr hasPps⟩

end OpenPlay.Sender
