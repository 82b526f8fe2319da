import Mathlib.Logic.Function.Basic
import OpenPlay.Receiver.Queues
import OpenPlay.Signaling.Link

/-!
# Senders and the receiver together

Any number of senders, each with its own connection and its own cast, and the one
receiver they all talk to.  `network` interleaves everything that can happen on a
connection with the turns of the receiver and with the passing of time, in any
order.  The session loop takes the messages of one connection in the order in
which they were read; between connections any order is possible.

A liveness tick sees a closed reply channel as closed, except for the connections
whose closing it is too early to see: the send task is aborted, not awaited.

Forgetting the connections projects the network onto `receiver`
(`networkToReceiver`), and from there onto the session loop.

## Main definitions

* `Network`, `network` — the composition
* `Network.step_cases` — a step concerns one connection, the clock or the receiver
* `Network.Sees`, `Network.step_sees` — what a step is to one connection
-/

namespace OpenPlay

open Transition

structure Network where
  /-- Milliseconds. -/
  now : Nat
  receiver : Receiver
  link : ConnectionId → Link

inductive NetworkAction
  | link (c : ConnectionId) (action : LinkAction)
  /-- The session loop takes the next message of `c`. -/
  | handle (c : ConnectionId) (around : Surroundings)
  /-- A step of the receiver that involves no connection. -/
  | inside (action : ReceiverAction)
  /-- A liveness tick; it misses the closing of `unseen` when it sweeps the pending
  map, and still of `unseenLater` when it looks at the active session. -/
  | tick (unseen unseenLater : List ConnectionId)
  | advance (millis : Nat)

/-- The steps of the receiver that involve no connection. -/
def ReceiverAction.isInside : ReceiverAction → Bool
  | .message _ _ | .tick _ => false
  | _ => true

namespace Network

/-- What `is_connected` answers. -/
def liveness (n : Network) (unseen unseenLater : List ConnectionId) : Liveness where
  atRetain c := (n.link c).serving || decide (c ∈ unseen)
  atActive c := (n.link c).serving || (decide (c ∈ unseen) && decide (c ∈ unseenLater))
  closed_stays_closed c h := by
    rcases Bool.or_eq_true_iff.mp h with h | h
    · rw [h, Bool.true_or]
    · rw [(Bool.and_eq_true_iff.mp h).1, Bool.or_true]

/-- The receiver takes a step, and its replies go out. -/
def receive (n : Network) (action : ReceiverAction) : Option (Network × List Effect) :=
  (n.receiver.step action).map fun next =>
    ({ n with
        receiver := next.1
        link := fun c => (n.link c).replied (sentTo c next.2) },
      next.2)

/-- The step of the receiver that an action is. -/
def actionOf (n : Network) : NetworkAction → Option ReceiverAction
  | .handle c around =>
      (n.link c).inbox.head?.map fun message => .message (.from c message) around
  | .inside action => if action.isInside then some action else none
  | .tick unseen unseenLater => some (.tick (n.liveness unseen unseenLater))
  | .link _ _ | .advance _ => none

/-- The network without the message that an action takes. -/
def taking (n : Network) : NetworkAction → Network
  | .handle c _ =>
      { n with link := Function.update n.link c (n.link c).popped }
  | _ => n

def step (n : Network) (action : NetworkAction) : Option (Network × List Effect) :=
  match action with
  | .link c action =>
      ((n.link c).step n.now action).map fun l =>
        ({ n with link := Function.update n.link c l }, [])
  | .advance millis => some ({ n with now := n.now + millis }, [])
  | _ => (n.actionOf action).bind fun receiverAction => (n.taking action).receive receiverAction

end Network

/-- The network, before anybody has connected. -/
def network : System Network NetworkAction (List Effect) where
  init n := receiver.init n.receiver ∧ n.link = fun _ => .unconnected
  step := Network.step

abbrev NetworkMove := Move Network NetworkAction (List Effect)

/-- The network as the receiver's `start` leaves it. -/
def Network.startedWith (config : AppConfig) : Network :=
  ⟨0, .startedWith config, fun _ => .unconnected⟩

theorem network_init (config : AppConfig) : network.init (.startedWith config) :=
  ⟨receiver_init config, rfl⟩

/-! ## Actions by name -/

/-- A receiver that has just been started, and nobody connected. -/
def Network.livingRoom : Network := .startedWith ⟨"Living room", 7000, 8000, 60⟩

theorem livingRoom_init : network.init .livingRoom := network_init _

/-- A cast of a laptop screen. -/
def CastConfig.laptop : CastConfig := ⟨"openplay-0", "Alice", 1920, 1080, 30⟩

namespace NetworkAction

/-- `c` connects, asks for a session, and is put on screen. -/
def asks (c : ConnectionId) : List NetworkAction :=
  [.link c (.connect .laptop), .link c (.own .request), .link c .read, .handle c .calm,
    .link c (.own .poll)]

/-- The user presses Allow, and the loop takes the decision. -/
def allows (c : ConnectionId) : List NetworkAction :=
  [.inside (.allows c), .inside .answer]

/-- The sender reads the acceptance and builds its pipeline. -/
def builds (c : ConnectionId) : List NetworkAction :=
  [.link c (.hear (.ok ())), .link c (.own (.newPipeline (.ok ()))),
    .link c (.own (.startPipeline (.ok ())))]

end NetworkAction

/-! ## What a step does -/

namespace Link

variable (l : Link) (messages : List SignalingMessage)

@[simp] theorem replied_cast : (l.replied messages).cast = l.cast := by
  unfold replied
  split <;> rfl

@[simp] theorem replied_up : (l.replied messages).up = l.up := by
  unfold replied
  split <;> rfl

@[simp] theorem replied_inbox : (l.replied messages).inbox = l.inbox := by
  unfold replied
  split <;> rfl

@[simp] theorem replied_writer : (l.replied messages).writer = l.writer := by
  unfold replied
  split <;> rfl

@[simp] theorem replied_reader : (l.replied messages).reader = l.reader := by
  unfold replied
  split <;> rfl

@[simp] theorem replied_serving : (l.replied messages).serving = l.serving := by
  unfold replied
  split <;> rfl

@[simp] theorem replied_cut : (l.replied messages).cut = l.cut := by
  unfold replied
  split <;> rfl

@[simp] theorem replied_armed : (l.replied messages).armed = l.armed := by
  unfold replied
  split <;> rfl

@[simp] theorem replied_closing : (l.replied messages).closing = l.closing := by
  simp [closing]

/-- No reply, no change. -/
theorem replied_nil : l.replied [] = l := by
  unfold replied
  split
  · rfl
  · rw [List.append_nil]

theorem replied_down (opened : l.closing = false) :
    (l.replied messages).down = l.down ++ messages := by
  rw [replied, if_neg (by simp [opened])]

theorem mem_replied_down {m : SignalingMessage} (mem : m ∈ (l.replied messages).down) :
    m ∈ l.down ∨ m ∈ messages := by
  unfold replied at mem
  split at mem
  · exact Or.inl mem
  · exact List.mem_append.mp mem

end Link

namespace Network

variable {n n' : Network} {action : NetworkAction} {effects : List Effect}

@[simp] theorem taking_receiver (n : Network) (action : NetworkAction) :
    (n.taking action).receiver = n.receiver := by
  cases action <;> rfl

@[simp] theorem taking_now (n : Network) (action : NetworkAction) :
    (n.taking action).now = n.now := by
  cases action <;> rfl

/-- Taking a message touches one inbox. -/
theorem taking_link (n : Network) (action : NetworkAction) (c : ConnectionId) :
    ((∀ around, action ≠ .handle c around) ∧ (n.taking action).link c = n.link c) ∨
      ∃ around, action = .handle c around ∧ (n.taking action).link c = (n.link c).popped := by
  cases action with
  | handle d around =>
      by_cases hcd : c = d
      · subst hcd
        exact Or.inr ⟨around, rfl, Function.update_self c _ n.link⟩
      · refine Or.inl ⟨?_, Function.update_of_ne hcd _ n.link⟩
        intro around' h
        cases h
        exact hcd rfl
  | _ => exact Or.inl ⟨by simp, rfl⟩

/-- The receiver hears the next message of a connection, a tick looks at the
connections, or they are not involved. -/
theorem actionOf_cases {receiverAction : ReceiverAction}
    (h : n.actionOf action = some receiverAction) :
    (∃ c message rest around, action = .handle c around ∧
        (n.link c).inbox = message :: rest ∧
        receiverAction = .message (.from c message) around) ∨
      (action = .inside receiverAction ∧ receiverAction.isInside = true) ∨
      ∃ unseen unseenLater, action = .tick unseen unseenLater ∧
        receiverAction = .tick (n.liveness unseen unseenLater) := by
  cases action with
  | handle c around =>
      obtain ⟨message, hhead, rfl⟩ := Option.map_eq_some_iff.mp h
      obtain ⟨rest, hinbox⟩ := List.head?_eq_some_iff.mp hhead
      exact Or.inl ⟨c, message, rest, around, rfl, hinbox, rfl⟩
  | inside receiverAction' =>
      rw [actionOf] at h
      split at h
      · rename_i inside
        cases h
        exact Or.inr (Or.inl ⟨rfl, inside⟩)
      · cases h
  | tick unseen unseenLater =>
      cases h
      exact Or.inr (Or.inr ⟨unseen, unseenLater, rfl, rfl⟩)
  | link c linkAction => cases h
  | advance millis => cases h

/-- A step concerns one connection, the clock, or the receiver. -/
theorem step_cases (stepped : n.step action = some (n', effects)) :
    (∃ c linkAction l', action = .link c linkAction ∧
        (n.link c).Moves n.now linkAction l' ∧ effects = [] ∧
        n' = { n with link := Function.update n.link c l' }) ∨
      (∃ millis, action = .advance millis ∧ effects = [] ∧
        n' = { n with now := n.now + millis }) ∨
      ∃ receiverAction, n.actionOf action = some receiverAction ∧
        n.receiver.step receiverAction = some (n'.receiver, effects) ∧
        n'.now = n.now ∧
        ∀ c, n'.link c = ((n.taking action).link c).replied (sentTo c effects) := by
  have received : (n.actionOf action).bind
        (fun receiverAction => (n.taking action).receive receiverAction) =
      some (n', effects) →
      ∃ receiverAction, n.actionOf action = some receiverAction ∧
        n.receiver.step receiverAction = some (n'.receiver, effects) ∧
        n'.now = n.now ∧
        ∀ c, n'.link c = ((n.taking action).link c).replied (sentTo c effects) := by
    intro h
    obtain ⟨receiverAction, haction, h⟩ := Option.bind_eq_some_iff.mp h
    obtain ⟨next, hnext, hpair⟩ := Option.map_eq_some_iff.mp h
    rw [taking_receiver] at hnext
    obtain ⟨rfl, rfl⟩ := Prod.mk.inj hpair
    exact ⟨receiverAction, haction, hnext, taking_now n action, fun c => rfl⟩
  cases action with
  | link c linkAction =>
      obtain ⟨l', hl', hpair⟩ := Option.map_eq_some_iff.mp stepped
      cases hpair
      exact Or.inl ⟨c, linkAction, l', rfl, Link.step_moves hl', rfl, rfl⟩
  | advance millis =>
      cases stepped
      exact Or.inr (Or.inl ⟨millis, rfl, rfl, rfl⟩)
  | handle c around => exact Or.inr (Or.inr (received stepped))
  | inside receiverAction => exact Or.inr (Or.inr (received stepped))
  | tick unseen unseenLater => exact Or.inr (Or.inr (received stepped))

/-- A step of one connection is what the connection does. -/
theorem moves_of_link {c : ConnectionId} {linkAction : LinkAction}
    (stepped : n.step (.link c linkAction) = some (n', effects)) :
    (n.link c).Moves n.now linkAction (n'.link c) := by
  rcases step_cases stepped with ⟨d, linkAction', l', is, moves, -, rfl⟩ |
    ⟨millis, is, -⟩ | ⟨receiverAction, haction, -⟩
  · cases is
    show (n.link c).Moves n.now linkAction (Function.update n.link c l' c)
    rwa [Function.update_self]
  · cases is
  · cases haction

/-- The input that an action hands to the session loop. -/
def inputOf (n : Network) (action : NetworkAction) : Option Input :=
  (n.actionOf action).bind n.receiver.inputOf

/-- A step that is a turn of the session loop is one of the loop's own moves. -/
theorem loop_of_inputOf_some {input : Input}
    (stepped : n.step action = some (n', effects)) (h : n.inputOf action = some input) :
    sessionLoop.Makes ⟨n.receiver.loop, input, effects, n'.receiver.loop⟩ := by
  obtain ⟨receiverAction, haction, hinput⟩ := Option.bind_eq_some_iff.mp h
  rcases step_cases stepped with ⟨c, linkAction, l', rfl, -, -, -⟩ |
    ⟨millis, rfl, -, -⟩ | ⟨receiverAction', haction', hstep, -, -⟩
  · cases haction
  · cases haction
  · rw [haction] at haction'
    cases haction'
    exact sessionLoop_makes_iff.mpr (Receiver.step_of_inputOf_some hstep hinput).1

/-- Any other step leaves the session loop alone. -/
theorem loop_of_inputOf_none (stepped : n.step action = some (n', effects))
    (h : n.inputOf action = none) : n'.receiver.loop = n.receiver.loop ∧ effects = [] := by
  rcases step_cases stepped with ⟨c, linkAction, l', -, -, rfl, rfl⟩ |
    ⟨millis, -, rfl, rfl⟩ | ⟨receiverAction, haction, hstep, -, -⟩
  · exact ⟨rfl, rfl⟩
  · exact ⟨rfl, rfl⟩
  · rw [inputOf, haction, Option.bind_some] at h
    exact Receiver.step_of_inputOf_none hstep h

/-- The session loop hears the messages of a connection in their order. -/
theorem inputOf_message {incoming : IncomingMessage} {around : Surroundings}
    (h : n.inputOf action = some (.message incoming around)) :
    ∃ message rest, action = .handle incoming.connection around ∧
      (n.link incoming.connection).inbox = message :: rest ∧
      incoming = .from incoming.connection message := by
  obtain ⟨receiverAction, haction, hinput⟩ := Option.bind_eq_some_iff.mp h
  rw [Receiver.action_of_inputOf_message hinput] at haction
  rcases actionOf_cases haction with ⟨c, message, rest, around', rfl, hinbox, hmessage⟩ |
    ⟨-, inside⟩ | ⟨unseen, unseenLater, -, htick⟩
  · cases hmessage
    exact ⟨message, rest, rfl, hinbox, rfl⟩
  · cases inside
  · cases htick

/-- The session loop handles no media event that was not reported. -/
theorem inputOf_webrtc {event : WebRtcEvent}
    (h : n.inputOf action = some (.webrtc event)) :
    ∃ report ∈ n.receiver.reports, report.event = event := by
  obtain ⟨receiverAction, -, hinput⟩ := Option.bind_eq_some_iff.mp h
  exact Receiver.report_of_inputOf_webrtc hinput

/-- A tick looks at the connections as they are. -/
theorem inputOf_tick {seen : Liveness} (h : n.inputOf action = some (.tick seen)) :
    ∃ unseen unseenLater, seen = n.liveness unseen unseenLater := by
  obtain ⟨receiverAction, haction, hinput⟩ := Option.bind_eq_some_iff.mp h
  rw [Receiver.action_of_inputOf_tick hinput] at haction
  rcases actionOf_cases haction with ⟨c, message, rest, around, -, -, hmessage⟩ |
    ⟨-, inside⟩ | ⟨unseen, unseenLater, -, htick⟩
  · cases hmessage
  · cases inside
  · cases htick
    exact ⟨unseen, unseenLater, rfl⟩

/-- A media event that waits was waiting before, or its peer just reported it. -/
theorem report_source (stepped : n.step action = some (n', effects)) {report : Report}
    (mem : report ∈ n'.receiver.reports) :
    report ∈ n.receiver.reports ∨ action = .inside (.emit report.peer report.event) := by
  rcases step_cases stepped with ⟨c, linkAction, l', -, -, -, rfl⟩ |
    ⟨millis, -, -, rfl⟩ | ⟨receiverAction, haction, hstep, -, -⟩
  · exact Or.inl mem
  · exact Or.inl mem
  · refine (Receiver.report_source hstep mem).imp_right fun emitted => ?_
    rw [emitted] at haction
    rcases actionOf_cases haction with ⟨c, message, rest, around, -, -, hmessage⟩ |
      ⟨is, -⟩ | ⟨unseen, unseenLater, -, htick⟩
    · cases hmessage
    · exact is
    · cases htick

/-! ## A step as one connection sees it -/

/-- What a step of the network is to the connection `c`. -/
inductive Sees (c : ConnectionId) (n : Network) (action : NetworkAction) (n' : Network)
    (effects : List Effect) : Prop
  /-- Something happens on the connection itself. -/
  | own {linkAction : LinkAction} (is : action = .link c linkAction)
      (moves : (n.link c).Moves n.now linkAction (n'.link c))
      (receiver : n'.receiver = n.receiver) (now : n'.now = n.now)
  /-- Nothing happens, except that time may pass. -/
  | still (link : n'.link c = n.link c) (loop : n'.receiver.loop = n.receiver.loop)
      (now : n'.now = n.now ∨ ∃ millis, action = .advance millis ∧
        n'.now = n.now + millis)
      (silent : effects = [])
  /-- The session loop hears its next message. -/
  | heard {message : SignalingMessage} {rest : List SignalingMessage}
      {around : Surroundings} (is : action = .handle c around)
      (inbox : (n.link c).inbox = message :: rest)
      (made : sessionLoop.Makes ⟨n.receiver.loop, .message (.from c message) around,
        effects, n'.receiver.loop⟩)
      (link : n'.link c = (n.link c).popped.replied (sentTo c effects))
      (now : n'.now = n.now)
  /-- The session loop does something else. -/
  | elsewhere {input : Input} (isInput : n.inputOf action = some input)
      (other : ∀ incoming around, input = .message incoming around →
        incoming.connection ≠ c)
      (made : sessionLoop.Makes ⟨n.receiver.loop, input, effects, n'.receiver.loop⟩)
      (link : n'.link c = (n.link c).replied (sentTo c effects))
      (now : n'.now = n.now)

theorem step_sees (stepped : n.step action = some (n', effects)) (c : ConnectionId) :
    Sees c n action n' effects := by
  rcases step_cases stepped with ⟨d, linkAction, l', rfl, moves, rfl, rfl⟩ |
    ⟨millis, rfl, rfl, rfl⟩ | ⟨receiverAction, haction, hstep, now, hlink⟩
  · by_cases hcd : c = d
    · subst hcd
      refine .own rfl ?_ rfl rfl
      show (n.link c).Moves n.now linkAction (Function.update n.link c l' c)
      rwa [Function.update_self]
    · exact .still (Function.update_of_ne hcd l' n.link) rfl (Or.inl rfl) rfl
  · exact .still rfl rfl (Or.inr ⟨millis, rfl, rfl⟩) rfl
  · have link := hlink c
    cases hinput : n.inputOf action with
    | none =>
        obtain ⟨hloop, heffects⟩ := loop_of_inputOf_none stepped hinput
        refine .still ?_ hloop (Or.inl now) heffects
        rcases n.taking_link action c with ⟨-, hsame⟩ | ⟨around, rfl, -⟩
        · rw [link, hsame, heffects, sentTo, List.filterMap_nil, Link.replied_nil]
        · rw [inputOf, haction, Option.bind_some] at hinput
          obtain ⟨message, -, rfl⟩ := Option.map_eq_some_iff.mp haction
          cases hinput
    | some input =>
        have made := loop_of_inputOf_some stepped hinput
        rcases n.taking_link action c with ⟨not_its, hsame⟩ | ⟨around, rfl, hpopped⟩
        · refine .elsewhere hinput ?_ made (by rw [link, hsame]) now
          rintro incoming around rfl rfl
          obtain ⟨message, rest, is, -, -⟩ := inputOf_message hinput
          exact not_its around is
        · obtain ⟨message, hhead, rfl⟩ := Option.map_eq_some_iff.mp haction
          obtain ⟨rest, hinbox⟩ := List.head?_eq_some_iff.mp hhead
          rw [inputOf, haction, Option.bind_some] at hinput
          cases hinput
          exact .heard rfl hinbox made (by rw [link, hpopped]) now

end Network

/-! ## Forgetting the connections -/

/-- The step of the receiver that a move of the network is. -/
def NetworkMove.receiverMove (move : NetworkMove) : Option ReceiverMove :=
  (move.source.actionOf move.action).map fun action =>
    ⟨move.source.receiver, action, move.output, move.target.receiver⟩

/-- The network without its connections is the receiver. -/
def networkToReceiver : Projection network receiver where
  view n := n.receiver
  seen := NetworkMove.receiverMove
  init_view n h := h.1
  seen_some move move' made h := by
    obtain ⟨receiverAction, haction, rfl⟩ := Option.map_eq_some_iff.mp h
    refine ⟨rfl, rfl, ?_⟩
    rcases Network.step_cases made with ⟨c, linkAction, l', hlink, -, -, -⟩ |
      ⟨millis, hadvance, -, -⟩ | ⟨receiverAction', haction', hstep, -, -⟩
    · rw [hlink] at haction
      cases haction
    · rw [hadvance] at haction
      cases haction
    · rw [haction] at haction'
      cases haction'
      exact hstep
  seen_none move made h := by
    have haction := Option.map_eq_none_iff.mp h
    rcases Network.step_cases made with ⟨c, linkAction, l', -, -, -, htarget⟩ |
      ⟨millis, -, -, htarget⟩ | ⟨receiverAction', haction', -, -, -⟩
    · rw [htarget]
    · rw [htarget]
    · rw [haction] at haction'
      cases haction'

/-- The session loop inside a reachable network is exclusive. -/
theorem network_exclusive_of_run {past : List NetworkMove} {n : Network}
    (run : network.Run past n) : Exclusive n.receiver.loop :=
  (receiver_invariants_of_run (networkToReceiver.run run)).1

end OpenPlay
