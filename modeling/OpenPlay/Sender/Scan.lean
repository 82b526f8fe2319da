import OpenPlay.Foundation.System
import OpenPlay.Sender.Discovered

/-!
# The Wi-Fi Direct scan

Find takes the radio off its channel, so the sender stops it for every cast that is not a
Wi-Fi Direct one.  `p2p_discovery_paused` changes at once; the call itself is made by a task
of its own, and the tasks complete in any order.  `scan_follows_cast_iff` says which orders
leave the scan as the cast needs it.
-/

namespace OpenPlay.Sender

open Transition

/-- What a spawned task calls, in `pause_discovery` and in `resume_discovery`. -/
inductive ScanCall
  | stopFind
  | find
deriving DecidableEq, Repr

/-- `is_casting` and `p2p_discovery_paused`, the tasks in flight, and whether Find is on. -/
structure ScanState where
  isCasting : Bool
  p2pDiscoveryPaused : Bool
  spawned : List ScanCall
  finding : Bool
deriving DecidableEq, Repr

/-- Whether a message is about the end of a cast.  No character outside ASCII becomes, in
lower case, a part of these words. -/
def isTerminal (msg : List Char) : Bool :=
  let lower := msg.map Char.toLower
  ["ended", "failed", "stopped", "error"].any fun word => (Text.find word.toList lower).isSome

namespace ScanState

/-- The scan that `WifiDirectManager::start` has begun. -/
def start : ScanState where
  isCasting := false
  p2pDiscoveryPaused := false
  spawned := []
  finding := true

/-- `pause_p2p_discovery`. -/
def pauseP2pDiscovery (x : ScanState) : ScanState :=
  if x.p2pDiscoveryPaused then x
  else { x with p2pDiscoveryPaused := true, spawned := x.spawned ++ [.stopFind] }

/-- `resume_p2p_discovery`. -/
def resumeP2pDiscovery (x : ScanState) : ScanState :=
  if x.p2pDiscoveryPaused then
    { x with p2pDiscoveryPaused := false, spawned := x.spawned ++ [.find] }
  else x

/-- `fail_cast`. -/
def failCast (x : ScanState) : ScanState := resumeP2pDiscovery { x with isCasting := false }

/-- `start_cast`. -/
def startCast (displayName : String) (x : ScanState) (receiver : DiscoveredReceiver) :
    ScanState :=
  let x := if receiver.isWifiDirect then x else x.pauseP2pDiscovery
  let x := { x with isCasting := true }
  match castTarget displayName receiver with
  | .ok _ => x
  | .error _ => x.failCast

/-- The body of the loop of `poll_status`. -/
def pollStatus (x : ScanState) (msg : List Char) : ScanState :=
  if isTerminal msg then resumeP2pDiscovery { x with isCasting := false } else x

/-- A task makes its call. -/
def complete (x : ScanState) (call : ScanCall) : ScanState :=
  { x with spawned := x.spawned.erase call, finding := call = .find }

end ScanState

inductive ScanAction
  | startCast (receiver : DiscoveredReceiver)
  | status (msg : List Char)
  | complete (call : ScanCall)

/-- The Start button is there only while nothing is cast. -/
def ScanState.step (displayName : String) (x : ScanState) :
    ScanAction → Option (ScanState × Unit)
  | .startCast receiver => if x.isCasting then none else some (x.startCast displayName receiver, ())
  | .status msg => some (x.pollStatus msg, ())
  | .complete call => if call ∈ x.spawned then some (x.complete call, ()) else none

def p2pScan (displayName : String) : System ScanState ScanAction Unit where
  init x := x = .start
  step := ScanState.step displayName

abbrev ScanMove := Move ScanState ScanAction Unit

/-- The receiver that is cast to: `start_cast` did not fail, and no message has ended it. -/
def inProgress (displayName : String) : List ScanMove → Option DiscoveredReceiver
  | [] => none
  | move :: past =>
      match move.action with
      | .startCast receiver => (castTarget displayName receiver).toOption.map fun _ => receiver
      | .status msg => if isTerminal msg then none else inProgress displayName past
      | .complete _ => inProgress displayName past

/-- Once all tasks have completed, the scan is off during a cast that is not a Wi-Fi Direct
one, and on when nothing is cast. -/
structure ScanFollowsCast (displayName : String) (past : List ScanMove) (x : ScanState) :
    Prop where
  stopped : x.spawned = [] → ∀ r, inProgress displayName past = some r →
    r.isWifiDirect = false → x.finding = false
  running : x.spawned = [] → inProgress displayName past = none → x.finding = true

/-- The task that completes last was spawned last, which is to pause if the flag says so:
unless a Wi-Fi Direct cast is in progress, which does not end with the scan off. -/
structure LastCallLast (displayName : String) (past : List ScanMove) (move : ScanMove) :
    Prop where
  completes : ∀ call, move.action = .complete call → move.source.spawned = [call] →
    (∀ r, inProgress displayName past = some r → r.isWifiDirect = false) →
      call = if move.source.p2pDiscoveryPaused then .stopFind else .find
  ends : ∀ msg r, move.action = .status msg → isTerminal msg = true →
    inProgress displayName past = some r → r.isWifiDirect = true →
      move.source.spawned = [] → move.source.finding = true

/-- The flags of the sender say what is in progress. -/
@[mk_iff]
structure FlagsAgree (displayName : String) (past : List ScanMove) (x : ScanState) : Prop where
  casting : x.isCasting = (inProgress displayName past).isSome
  paused : x.p2pDiscoveryPaused =
    (inProgress displayName past).any fun r => !r.isWifiDirect

section

variable {displayName : String} {past : List ScanMove} {move : ScanMove} {x : ScanState}
variable {r : DiscoveredReceiver}

/-- A Wi-Fi Direct receiver can always be dialled. -/
theorem castTarget_of_isWifiDirect (h : r.isWifiDirect = true) :
    ∃ target, castTarget displayName r = .ok target := by
  rcases dialTarget_castTarget displayName r with ⟨target, hok, -⟩ | ⟨-, -, nowhere⟩
  · exact ⟨target, hok⟩
  · rw [DiscoveredReceiver.isWifiDirect, nowhere] at h
    cases h

namespace ScanState

theorem startCast_of_idle (going : x.p2pDiscoveryPaused = false) (r : DiscoveredReceiver) :
    x.startCast displayName r =
      match r.isWifiDirect, castTarget displayName r with
      | true, _ => { x with isCasting := true }
      | false, .ok _ => ⟨true, true, x.spawned ++ [.stopFind], x.finding⟩
      | false, .error _ => ⟨false, false, x.spawned ++ [.stopFind] ++ [.find], x.finding⟩ := by
  cases direct : r.isWifiDirect with
  | true =>
      obtain ⟨target, hok⟩ : ∃ target, castTarget displayName r = .ok target :=
        castTarget_of_isWifiDirect direct
      simp [startCast, direct, hok]
  | false =>
      cases called : castTarget displayName r <;>
        simp [startCast, direct, called, pauseP2pDiscovery, going, failCast, resumeP2pDiscovery]

theorem pollStatus_paused {msg : List Char} (terminal : isTerminal msg = true)
    (paused : x.p2pDiscoveryPaused = true) :
    x.pollStatus msg = ⟨false, false, x.spawned ++ [.find], x.finding⟩ := by
  simp [pollStatus, terminal, resumeP2pDiscovery, paused]

theorem pollStatus_going {msg : List Char} (terminal : isTerminal msg = true)
    (going : x.p2pDiscoveryPaused = false) :
    x.pollStatus msg = ⟨false, false, x.spawned, x.finding⟩ := by
  simp [pollStatus, terminal, resumeP2pDiscovery, going]

theorem pollStatus_of_not {msg : List Char} (going : isTerminal msg = false) :
    x.pollStatus msg = x := by
  simp [pollStatus, going]

end ScanState

/-- Nothing is cast, so nothing is paused. -/
theorem FlagsAgree.idle (flags : FlagsAgree displayName past x) (h : x.isCasting = false) :
    inProgress displayName past = none ∧ x.p2pDiscoveryPaused = false := by
  have none : inProgress displayName past = none := by
    simpa [flags.casting] using h
  exact ⟨none, by rw [flags.paused, none]; rfl⟩

theorem inProgress_startCast (x y : ScanState) (r : DiscoveredReceiver) :
    inProgress displayName (⟨x, .startCast r, (), y⟩ :: past) =
      match castTarget displayName r with
      | .ok _ => some r
      | .error _ => none := by
  cases called : castTarget displayName r <;> simp [inProgress, called, Except.toOption]

theorem inProgress_status (x y : ScanState) (msg : List Char) :
    inProgress displayName (⟨x, .status msg, (), y⟩ :: past) =
      if isTerminal msg then none else inProgress displayName past := rfl

theorem flags_of_makes (made : (p2pScan displayName).Makes move)
    (flags : FlagsAgree displayName past move.source) :
    FlagsAgree displayName (move :: past) move.target := by
  obtain ⟨x, action, output, y⟩ := move
  replace made : x.step displayName action = some (y, output) := made
  replace flags : FlagsAgree displayName past x := flags
  cases action with
  | startCast r =>
      rw [ScanState.step] at made
      split_ifs at made with idle
      cases made
      obtain ⟨-, going⟩ := flags.idle (Bool.eq_false_of_not_eq_true idle)
      simp only [flagsAgree_iff, inProgress_startCast, ScanState.startCast_of_idle going]
      cases direct : r.isWifiDirect with
      | true =>
          obtain ⟨target, hok⟩ : ∃ target, castTarget displayName r = .ok target :=
            castTarget_of_isWifiDirect direct
          simp [hok, direct, going]
      | false =>
          cases castTarget displayName r <;> simp [direct]
  | status msg =>
      cases made
      simp only [flagsAgree_iff, inProgress_status]
      cases terminal : isTerminal msg with
      | false => simpa [ScanState.pollStatus_of_not terminal, flagsAgree_iff] using flags
      | true =>
          cases paused : x.p2pDiscoveryPaused with
          | true => simp [ScanState.pollStatus_paused terminal paused]
          | false => simp [ScanState.pollStatus_going terminal paused]
  | complete call =>
      rw [ScanState.step] at made
      split_ifs at made
      cases made
      exact ⟨flags.casting, flags.paused⟩

theorem flags_of_run (run : (p2pScan displayName).Run past x) :
    FlagsAgree displayName past x := by
  refine run.invariant_past ?_ fun past move _ made flags => flags_of_makes made flags
  rintro _ rfl
  exact ⟨rfl, rfl⟩

/-- While a task is in flight there is nothing to ask of the scan. -/
theorem ScanFollowsCast.of_busy (busy : x.spawned ≠ []) :
    ScanFollowsCast displayName past x :=
  ⟨fun empty => absurd empty busy, fun empty => absurd empty busy⟩

theorem startCast_follows (going : x.p2pDiscoveryPaused = false) (r : DiscoveredReceiver) :
    ScanFollowsCast displayName (⟨x, .startCast r, (), x.startCast displayName r⟩ :: past)
      (x.startCast displayName r) := by
  cases direct : r.isWifiDirect with
  | true =>
      obtain ⟨target, hok⟩ : ∃ target, castTarget displayName r = .ok target :=
        castTarget_of_isWifiDirect direct
      constructor
      · rintro - r' now lan
        simp only [inProgress_startCast, hok] at now
        cases now
        rw [direct] at lan
        cases lan
      · rintro - now
        simp [inProgress_startCast, hok] at now
  | false =>
      apply ScanFollowsCast.of_busy
      rw [ScanState.startCast_of_idle going, direct]
      cases castTarget displayName r <;> simp

theorem status_follows_iff (flags : FlagsAgree displayName past x)
    (follows : ScanFollowsCast displayName past x) (msg : List Char) :
    ScanFollowsCast displayName (⟨x, .status msg, (), x.pollStatus msg⟩ :: past)
        (x.pollStatus msg) ↔
      LastCallLast displayName past ⟨x, .status msg, (), x.pollStatus msg⟩ := by
  have now : inProgress displayName (⟨x, .status msg, (), x.pollStatus msg⟩ :: past) =
      if isTerminal msg then none else inProgress displayName past := rfl
  cases terminal : isTerminal msg with
  | false =>
      rw [terminal, if_neg Bool.false_ne_true] at now
      refine iff_of_true ?_ ⟨nofun, ?_⟩
      · rw [ScanState.pollStatus_of_not terminal] at now ⊢
        exact ⟨fun empty r h => follows.stopped empty r (now ▸ h),
          fun empty h => follows.running empty (now ▸ h)⟩
      · rintro _ r ⟨⟩ ends
        exact absurd (terminal.symm.trans ends) nofun
  | true =>
      rw [terminal, if_pos rfl] at now
      cases paused : x.p2pDiscoveryPaused with
      | true =>
          refine iff_of_true (.of_busy ?_) ⟨nofun, ?_⟩
          · simp [ScanState.pollStatus_paused terminal paused]
          · rintro _ r - - before direct
            have lan := flags.paused
            simp [before, paused, direct] at lan
      | false =>
          have target := ScanState.pollStatus_going terminal paused
          constructor
          · intro h
            refine ⟨nofun, fun _ r _ _ _ _ empty => ?_⟩
            have on := h.running (by simpa [target] using empty) now
            simpa [target] using on
          · intro ok
            refine ⟨fun _ r h => absurd (now.symm.trans h) nofun, fun empty _ => ?_⟩
            rw [target] at empty ⊢
            -- what was in progress, if anything, was a Wi-Fi Direct cast
            cases before : inProgress displayName past with
            | none => exact follows.running empty before
            | some r =>
                have direct := flags.paused
                rw [before, paused] at direct
                exact ok.ends msg r rfl terminal before (by simpa using direct) empty

theorem complete_follows_iff (flags : FlagsAgree displayName past x) {call : ScanCall}
    (mem : call ∈ x.spawned) :
    ScanFollowsCast displayName (⟨x, .complete call, (), x.complete call⟩ :: past)
        (x.complete call) ↔
      LastCallLast displayName past ⟨x, .complete call, (), x.complete call⟩ := by
  have empty : (x.complete call).spawned = [] ↔ x.spawned = [call] := by
    have some : x.spawned ≠ [] := List.ne_nil_of_mem mem
    simp [ScanState.complete, List.erase_eq_nil_iff, some]
  constructor
  · intro h
    refine ⟨?_, nofun⟩
    rintro _ ⟨⟩ single lan
    cases now : inProgress displayName past with
    | none =>
        have going : x.p2pDiscoveryPaused = false := by simp [flags.paused, now]
        have on := h.running (empty.mpr single) now
        simpa [going, ScanState.complete] using on
    | some r =>
        have direct := lan r now
        have paused : x.p2pDiscoveryPaused = true := by simp [flags.paused, now, direct]
        have off := h.stopped (empty.mpr single) r now direct
        cases call with
        | stopFind => simp [paused]
        | find => simp [ScanState.complete] at off
  · intro ok
    constructor
    · intro nothing r now lan
      replace now : inProgress displayName past = some r := now
      have paused : x.p2pDiscoveryPaused = true := by simp [flags.paused, now, lan]
      have last := ok.completes call rfl (empty.mp nothing) fun r' now' => by
        cases now.symm.trans now'
        exact lan
      simp [ScanState.complete, last, paused]
    · intro nothing now
      replace now : inProgress displayName past = none := now
      have going : x.p2pDiscoveryPaused = false := by simp [flags.paused, now]
      have last := ok.completes call rfl (empty.mp nothing) fun r' now' =>
        absurd (now.symm.trans now') nofun
      simp [ScanState.complete, last, going]

/-- One move, where the scan has followed the cast. -/
theorem ScanFollowsCast.step_iff (run : (p2pScan displayName).Run past move.source)
    (made : (p2pScan displayName).Makes move)
    (follows : ScanFollowsCast displayName past move.source) :
    ScanFollowsCast displayName (move :: past) move.target ↔
      LastCallLast displayName past move := by
  obtain ⟨x, action, output, y⟩ := move
  have flags : FlagsAgree displayName past x := flags_of_run run
  replace made : x.step displayName action = some (y, output) := made
  cases action with
  | startCast r =>
      rw [ScanState.step] at made
      split_ifs at made with idle
      cases made
      obtain ⟨-, going⟩ := flags.idle (Bool.eq_false_of_not_eq_true idle)
      exact iff_of_true (startCast_follows going r) ⟨nofun, nofun⟩
  | status msg =>
      cases made
      exact status_follows_iff flags follows msg
  | complete call =>
      rw [ScanState.step] at made
      split_ifs at made with mem
      cases made
      exact complete_follows_iff flags mem

/-- **When the scan follows the cast.** -/
theorem scan_follows_cast_iff (run : (p2pScan displayName).Run past x) :
    (∀ p ∈ System.positions past x, ScanFollowsCast displayName p.1 p.2) ↔
      ∀ move older, move :: older <:+ past → LastCallLast displayName older move := by
  apply run.forall_positions_iff
  · rintro _ rfl
    exact ⟨nofun, fun _ _ => rfl⟩
  · intro past move before made ok follows
    exact (follows.step_iff before made).mpr ok
  · intro past move before made follows follows'
    exact (follows.step_iff before made).mp follows'

end

/-! ## Two tasks in flight -/

/-- An AirPlay receiver, cast to until it ends, with the calls in the order in which they
are made. -/
def shortCast (calls : List ScanCall) : List ScanAction :=
  [.startCast (.airPlay
      { name := "TV._airplay._tcp.local.".toList
        displayName := "TV".toList
        addresses := [.v4 ⟨192, 168, 1, 5⟩]
        port := 7000 }),
    .status "AirPlay session ended".toList] ++ calls.map ScanAction.complete

theorem run_shortCast :
    (p2pScan "").Run ((p2pScan "").history (shortCast [.stopFind, .find]) .start)
        ((p2pScan "").final (shortCast [.stopFind, .find]) .start) ∧
      (p2pScan "").Run ((p2pScan "").history (shortCast [.find, .stopFind]) .start)
        ((p2pScan "").final (shortCast [.find, .stopFind]) .start) :=
  ⟨.of_actions _ rfl (by decide), .of_actions _ rfl (by decide)⟩

theorem scan_follows_cast_iff_for_short_cast :
    let past := (p2pScan "").history (shortCast [.stopFind, .find]) .start
    (∀ p ∈ System.positions past ((p2pScan "").final (shortCast [.stopFind, .find]) .start),
        ScanFollowsCast "" p.1 p.2) ↔
      ∀ move older, move :: older <:+ past → LastCallLast "" older move :=
  scan_follows_cast_iff run_shortCast.1

/-- **A scan that stays off**: the call of the resume task is made first. -/
theorem scan_stays_off :
    ¬ ∀ displayName past x, (p2pScan displayName).Run past x →
      ScanFollowsCast displayName past x := by
  intro all
  have on := (all _ _ _ run_shortCast.2).running (by decide) (by decide)
  exact absurd on (by decide)

end OpenPlay.Sender
