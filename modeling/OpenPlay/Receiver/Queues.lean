import OpenPlay.Receiver.Consent
import OpenPlay.Receiver.Screen

/-!
# The receiver with its queues

`SessionLoop::run` does not see a click or a media event when it happens.
`NetHandle::decide` puts a decision on one unbounded channel, every peer that
`handle_offer` ever built puts its events on another one, and the loop takes them
off in order, any number of turns later.  `receiver` is the loop together with
these two queues.

Two things are recorded beside the code's own data: what the window displayed
when a button was pressed, and which peer an event came from.  The loop reads
neither.  Forgetting the queues projects the receiver onto `sessionLoop`
(`receiverToLoop`), so what was proved of the loop holds of the receiver.
-/

namespace OpenPlay

open Transition

/-- A decision on its way, with the page on display when it was made. -/
structure Click where
  decision : Decision
  shown : Status
deriving DecidableEq, Repr

/-- A media event on its way, with the peer that emitted it. -/
structure Report where
  peer : WebRtcPeer
  event : WebRtcEvent
deriving DecidableEq, Repr

/-- The loop, the two channels it drains, and the peers that hold a clone of the
event sender. -/
structure Receiver where
  loop : SessionLoop
  decisions : List Click
  reports : List Report
  peers : List WebRtcPeer

/-- What can happen next: a turn of the loop, a button, or a media event. -/
inductive ReceiverAction
  | message (incoming : IncomingMessage) (around : Surroundings)
  /-- `NetHandle::decide`. -/
  | decide (decision : Decision)
  /-- The loop takes the oldest decision. -/
  | answer
  /-- A GStreamer thread reports through a peer. -/
  | emit (peer : WebRtcPeer) (event : WebRtcEvent)
  /-- The loop takes the oldest media event. -/
  | report
  | tick (seen : Liveness)
  | frame (frame : VideoFrame)

/-- The peer an effect brings into being. -/
def Effect.builtPeer : Effect → Option WebRtcPeer
  | .buildPipeline _ peer => some peer
  | _ => none

namespace Receiver

/-- One turn of the loop, with the peers it builds. -/
def turn (r : Receiver) (input : Input) : Receiver × List Effect :=
  let next := r.loop.react input
  ({ r with loop := next.1, peers := r.peers ++ next.2.filterMap Effect.builtPeer },
    next.2)

/-- The input that an action hands to the loop, if it is a turn of the loop. -/
def inputOf (r : Receiver) : ReceiverAction → Option Input
  | .message incoming around => some (.message incoming around)
  | .answer => r.decisions.head?.map fun click => .decision click.decision
  | .report => r.reports.head?.map fun report => .webrtc report.event
  | .tick seen => some (.tick seen)
  | .frame frame => some (.frame frame)
  | .decide _ | .emit _ _ => none

/-- The receiver without the queue entry that an action takes. -/
def taking (r : Receiver) : ReceiverAction → Receiver
  | .answer => { r with decisions := r.decisions.tail }
  | .report => { r with reports := r.reports.tail }
  | _ => r

def step (r : Receiver) (action : ReceiverAction) : Option (Receiver × List Effect) :=
  match action with
  | .decide decision =>
      some ({ r with decisions := r.decisions ++ [⟨decision, r.loop.status⟩] }, [])
  | .emit peer event =>
      if peer ∈ r.peers then
        some ({ r with reports := r.reports ++ [⟨peer, event⟩] }, [])
      else none
  | _ => (r.inputOf action).map fun input => (r.taking action).turn input

end Receiver

/-- The receiver: a loop before its first event, and empty queues. -/
def receiver : System Receiver ReceiverAction (List Effect) where
  init r := sessionLoop.init r.loop ∧ r.decisions = [] ∧ r.reports = [] ∧ r.peers = []
  step := Receiver.step

abbrev ReceiverMove := Move Receiver ReceiverAction (List Effect)

/-- The receiver as `start` leaves it. -/
def Receiver.startedWith (config : AppConfig) : Receiver :=
  ⟨.startedWith config, [], [], []⟩

theorem receiver_init (config : AppConfig) : receiver.init (.startedWith config) :=
  ⟨sessionLoop_init config, rfl, rfl, rfl⟩

namespace ReceiverAction

def asks (connection : ConnectionId) (displayName : String) : ReceiverAction :=
  .message (.request connection displayName) .calm

def offers (connection : ConnectionId) : ReceiverAction :=
  .message (.offer connection) .calm

def ends (connection : ConnectionId) : ReceiverAction :=
  .message (.goodbye connection) .calm

def allows (connection : ConnectionId) : ReceiverAction := .decide ⟨connection, true⟩

end ReceiverAction

/-! ## What a step does to the queues -/

namespace Receiver

variable {r r' : Receiver} {action : ReceiverAction} {effects : List Effect}

@[simp] theorem taking_loop (r : Receiver) (action : ReceiverAction) :
    (r.taking action).loop = r.loop := by
  cases action <;> rfl

@[simp] theorem taking_peers (r : Receiver) (action : ReceiverAction) :
    (r.taking action).peers = r.peers := by
  cases action <;> rfl

/-- A step puts something on a queue, or it is a turn of the loop. -/
theorem step_cases (stepped : r.step action = some (r', effects)) :
    (∃ decision, action = .decide decision ∧ effects = [] ∧
        r' = { r with decisions := r.decisions ++ [⟨decision, r.loop.status⟩] }) ∨
      (∃ peer event, action = .emit peer event ∧ peer ∈ r.peers ∧ effects = [] ∧
        r' = { r with reports := r.reports ++ [⟨peer, event⟩] }) ∨
      ∃ input, r.inputOf action = some input ∧
        (r.taking action).turn input = (r', effects) := by
  cases action with
  | decide decision =>
      cases stepped
      exact Or.inl ⟨decision, rfl, rfl, rfl⟩
  | emit peer event =>
      rw [step] at stepped
      split_ifs at stepped with known
      cases stepped
      exact Or.inr (Or.inl ⟨peer, event, rfl, known, rfl, rfl⟩)
  | _ =>
      refine Or.inr (Or.inr ?_)
      exact Option.map_eq_some_iff.mp stepped

/-- A turn of the loop is a move of the loop. -/
theorem step_of_inputOf_some {input : Input}
    (stepped : r.step action = some (r', effects))
    (h : r.inputOf action = some input) :
    r.loop.react input = (r'.loop, effects) ∧
      r'.decisions = (r.taking action).decisions ∧
      r'.reports = (r.taking action).reports ∧
      r'.peers = r.peers ++ effects.filterMap Effect.builtPeer := by
  rcases step_cases stepped with
    ⟨decision, rfl, -, -⟩ | ⟨peer, event, rfl, -, -, -⟩ | ⟨input', hinput, hturn⟩
  · cases h
  · cases h
  · rw [hinput] at h
    cases h
    obtain ⟨rfl, rfl⟩ := Prod.mk.inj hturn
    refine ⟨?_, rfl, rfl, ?_⟩
    · rw [← taking_loop r action]
    · rw [← taking_peers r action]

/-- Any other step leaves the loop alone. -/
theorem step_of_inputOf_none (stepped : r.step action = some (r', effects))
    (h : r.inputOf action = none) : r'.loop = r.loop ∧ effects = [] := by
  rcases step_cases stepped with
    ⟨decision, -, rfl, rfl⟩ | ⟨peer, event, -, -, rfl, rfl⟩ | ⟨input, hinput, -⟩
  · exact ⟨rfl, rfl⟩
  · exact ⟨rfl, rfl⟩
  · rw [h] at hinput
    cases hinput

/-- An input of the loop comes with the action that brings it. -/
theorem inputOf_cases {input : Input} (h : r.inputOf action = some input) :
    (∃ incoming around, action = .message incoming around ∧
        input = .message incoming around) ∨
      (∃ click ∈ r.decisions, action = .answer ∧ input = .decision click.decision) ∨
      (∃ report ∈ r.reports, action = .report ∧ input = .webrtc report.event) ∨
      (∃ seen, action = .tick seen ∧ input = .tick seen) ∨
      ∃ frame, action = .frame frame ∧ input = .frame frame := by
  cases action with
  | message incoming around =>
      cases h
      exact Or.inl ⟨incoming, around, rfl, rfl⟩
  | answer =>
      obtain ⟨click, hhead, rfl⟩ := Option.map_eq_some_iff.mp h
      exact Or.inr (Or.inl ⟨click, List.mem_of_mem_head? hhead, rfl, rfl⟩)
  | report =>
      obtain ⟨report, hhead, rfl⟩ := Option.map_eq_some_iff.mp h
      exact Or.inr (Or.inr (Or.inl ⟨report, List.mem_of_mem_head? hhead, rfl, rfl⟩))
  | tick seen =>
      cases h
      exact Or.inr (Or.inr (Or.inr (Or.inl ⟨seen, rfl, rfl⟩)))
  | frame frame =>
      cases h
      exact Or.inr (Or.inr (Or.inr (Or.inr ⟨frame, rfl, rfl⟩)))
  | decide decision => cases h
  | emit peer event => cases h

/-- A message is handled by the action that brings it. -/
theorem action_of_inputOf_message {incoming : IncomingMessage} {around : Surroundings}
    (h : r.inputOf action = some (.message incoming around)) :
    action = .message incoming around := by
  rcases inputOf_cases h with ⟨incoming', around', rfl, hinput⟩ | ⟨click, -, -, hinput⟩ |
    ⟨report, -, -, hinput⟩ | ⟨seen, -, hinput⟩ | ⟨frame, -, hinput⟩ <;> cases hinput
  rfl

/-- The loop handles no media event that was not reported. -/
theorem report_of_inputOf_webrtc {event : WebRtcEvent}
    (h : r.inputOf action = some (.webrtc event)) :
    ∃ report ∈ r.reports, report.event = event := by
  rcases inputOf_cases h with ⟨incoming, around, -, hinput⟩ | ⟨click, -, -, hinput⟩ |
    ⟨report, mem, -, hinput⟩ | ⟨seen, -, hinput⟩ | ⟨frame, -, hinput⟩ <;> cases hinput
  exact ⟨report, mem, rfl⟩

/-- A tick is handled by the action that brings it. -/
theorem action_of_inputOf_tick {seen : Liveness}
    (h : r.inputOf action = some (.tick seen)) : action = .tick seen := by
  rcases inputOf_cases h with ⟨incoming, around, -, hinput⟩ | ⟨click, -, -, hinput⟩ |
    ⟨report, -, -, hinput⟩ | ⟨seen', rfl, hinput⟩ | ⟨frame, -, hinput⟩ <;> cases hinput
  rfl

theorem mem_reports_of_taking {report : Report}
    (mem : report ∈ (r.taking action).reports) : report ∈ r.reports := by
  cases action with
  | report => exact List.mem_of_mem_tail mem
  | _ => exact mem

theorem mem_decisions_of_taking {click : Click}
    (mem : click ∈ (r.taking action).decisions) : click ∈ r.decisions := by
  cases action with
  | answer => exact List.mem_of_mem_tail mem
  | _ => exact mem

/-- A decision that waits was waiting before, or the window just queued it. -/
theorem click_source (stepped : r.step action = some (r', effects)) {click : Click}
    (mem : click ∈ r'.decisions) :
    click ∈ r.decisions ∨
      (action = .decide click.decision ∧ click.shown = r.loop.status) := by
  rcases step_cases stepped with
    ⟨decision, rfl, -, rfl⟩ | ⟨peer, event, -, -, -, rfl⟩ | ⟨input, -, hturn⟩
  · rcases List.mem_append.mp mem with mem | mem
    · exact Or.inl mem
    · cases List.mem_singleton.mp mem
      exact Or.inr ⟨rfl, rfl⟩
  · exact Or.inl mem
  · obtain ⟨rfl, -⟩ := Prod.mk.inj hturn
    exact Or.inl (mem_decisions_of_taking mem)

/-- A media event that waits was waiting before, or its peer just reported it. -/
theorem report_source (stepped : r.step action = some (r', effects)) {report : Report}
    (mem : report ∈ r'.reports) :
    report ∈ r.reports ∨ action = .emit report.peer report.event := by
  rcases step_cases stepped with
    ⟨decision, -, -, rfl⟩ | ⟨peer, event, rfl, -, -, rfl⟩ | ⟨input, -, hturn⟩
  · exact Or.inl mem
  · rcases List.mem_append.mp mem with mem | mem
    · exact Or.inl mem
    · cases List.mem_singleton.mp mem
      exact Or.inr rfl
  · obtain ⟨rfl, -⟩ := Prod.mk.inj hturn
    exact Or.inl (mem_reports_of_taking mem)

end Receiver

/-! ## Forgetting the queues -/

/-- The turn of the loop that a move of the receiver is. -/
def ReceiverMove.loopMove (move : ReceiverMove) : Option LoopMove :=
  (move.source.inputOf move.action).map fun input =>
    ⟨move.source.loop, input, move.output, move.target.loop⟩

/-- The receiver without its queues is the session loop. -/
def receiverToLoop : Projection receiver sessionLoop where
  view r := r.loop
  seen := ReceiverMove.loopMove
  init_view r h := h.1
  seen_some move move' made h := by
    obtain ⟨input, hinput, rfl⟩ := Option.map_eq_some_iff.mp h
    refine ⟨rfl, rfl, ?_⟩
    exact sessionLoop_makes_iff.mpr (Receiver.step_of_inputOf_some made hinput).1
  seen_none move made h := by
    have hinput := Option.map_eq_none_iff.mp h
    exact (Receiver.step_of_inputOf_none made hinput).1

section Reachable

variable {past : List ReceiverMove} {r : Receiver}

/-- The loop inside a reachable receiver is exclusive and accounts for its
prompt. -/
theorem receiver_invariants_of_run (run : receiver.Run past r) :
    Exclusive r.loop ∧ OnScreen r.loop := by
  have loopRun := receiverToLoop.run run
  exact ⟨exclusive_of_run loopRun, onScreen_of_run loopRun⟩

end Reachable

end OpenPlay
