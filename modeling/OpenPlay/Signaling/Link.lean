import OpenPlay.Sender.Cast
import OpenPlay.Signaling.Connection

/-!
# One connection between a sender and the receiver

A `Link` is everything between the program of one sender and the session loop: the
cast, the two tasks that `SignalingClient::connect` spawns, the socket, and
`serve_connection` on the other side with its read loop and its send task.

Messages travel in order.  `up` is what the cast has queued and the server has not
read yet, in the outgoing channel, the write task or the socket; `inbox` is what
`serve_connection` has read and validated and the session loop has not taken yet;
`down` is what the session loop has put on the reply channel and the cast has not
taken yet.  No queue is ever full.

The connection comes down from either side.  The server side is gone once
`serving` is false, with its reply channel, because `serve_connection` aborts its
send task as it returns.  The sender's side is gone once both tasks have ended;
the write task ends when the cast has dropped its end of the outgoing channel, but
the read task only notices that the cast is over when it has a message to hand on.
`cut` is a network failure: nothing passes any more, and each side finds out in its
own time.  A send task whose send fails on such a connection ends together with the
read loop beside it.

## Main definitions

* `Link`, `Link.step` — the connection and what can happen on it
* `Link.closing` — the server side is closed, or the network is cut
* `Link.Moves`, `Link.step_moves` — what each action does, as rules
-/

namespace OpenPlay

structure Link where
  cast : Cast
  up : List SignalingMessage
  inbox : List SignalingMessage
  down : List SignalingMessage
  /-- The client's write task runs. -/
  writer : Bool
  /-- The client's read task runs. -/
  reader : Bool
  /-- `serve_connection` runs, and its reply channel is open. -/
  serving : Bool
  cut : Bool
  /-- When `serve_connection` last began to wait for a frame. -/
  armed : Nat

/-- What can happen on one connection without the session loop. -/
inductive LinkAction
  /-- `connect_to_receiver` returns and `serve_connection` starts to read. -/
  | connect (config : CastConfig)
  /-- The cast goes on, without taking a message. -/
  | own (input : CastInput)
  /-- The cast takes the next message, or learns that the channel is closed. -/
  | hear (applied : Except String Unit)
  /-- The client's read task drops a message that is out of bounds. -/
  | discard
  /-- `serve_connection` reads a frame. -/
  | read
  /-- No frame arrived for `IDLE_TIMEOUT`; `kept` replies still get out. -/
  | idle (kept : Nat)
  /-- `serve_connection` meets the end of the stream, or an error. -/
  | hangup (kept : Nat)
  /-- The network fails; so much of what is on its way gets through. -/
  | cut (keptUp keptDown : Nat)
  | readerEnds
  | writerEnds

/-- The cast has returned from `run_openplay_pipeline`. -/
def Phase.isFinished : Phase → Bool
  | .finished _ => true
  | _ => false

/-- The request has not been queued yet. -/
def Phase.isFresh : Phase → Bool
  | .offline | .connected => true
  | _ => false

/-- Inputs that are no message of the receiver. -/
def CastInput.isOwn : CastInput → Bool
  | .incoming _ _ => false
  | _ => true

namespace Link

/-- A sender that has not connected. -/
def unconnected : Link where
  cast := ⟨⟨"", "", 0, 0, 0⟩, .offline, false⟩
  up := []
  inbox := []
  down := []
  writer := false
  reader := false
  serving := false
  cut := false
  armed := 0

/-- The server side is closed, or the network is cut: the sender reads the end of
the connection behind what is left in `down`. -/
def closing (l : Link) : Bool := ! l.serving || l.cut

/-- What the sender has said and the session loop has not heard. -/
def stream (l : Link) : List SignalingMessage := l.inbox ++ l.up

/-- The cast queues messages; they are lost on a network that is cut. -/
def afterCast (l : Link) (next : Cast × List SignalingMessage) : Link :=
  { l with cast := next.1, up := if l.cut then l.up else l.up ++ next.2 }

/-- The session loop replies; a reply to a closed or broken connection is lost. -/
def replied (l : Link) (messages : List SignalingMessage) : Link :=
  if l.closing then l else { l with down := l.down ++ messages }

/-- The session loop takes the next message. -/
def popped (l : Link) : Link := { l with inbox := l.inbox.tail }

/-- The connection as it is when `connect_to_receiver` returns. -/
def opened (now : Nat) (config : CastConfig) (stopFlag : Bool) : Link :=
  { unconnected with
    cast := ⟨config, .connected, stopFlag⟩
    writer := true
    reader := true
    serving := true
    armed := now }

/-- `serve_connection` returns. -/
def closed (l : Link) (kept : Nat) : Link :=
  { l with serving := false, down := l.down.take kept }

def step (now : Nat) (l : Link) : LinkAction → Option Link
  | .connect config =>
      match l.cast.phase with
      | .offline => some (opened now config l.cast.stopFlag)
      | _ => none
  | .own input =>
      if input.isOwn then (l.cast.step l.writer input).map l.afterCast else none
  | .hear applied =>
      match l.down with
      | message :: rest =>
          if message.valid then
            (l.cast.step l.writer (.incoming (some message) applied)).map
              { l with down := rest }.afterCast
          else none
      | [] =>
          if l.reader then none
          else (l.cast.step l.writer (.incoming none applied)).map l.afterCast
  | .discard =>
      match l.down with
      | message :: rest => if message.valid then none else some { l with down := rest }
      | [] => none
  | .read =>
      match l.up with
      | message :: rest =>
          if l.serving then
            some { l with
              up := rest
              inbox := if message.valid then l.inbox ++ [message] else l.inbox
              armed := now }
          else none
      | [] => none
  | .idle kept =>
      if l.serving ∧ l.armed + idleTimeout ≤ now then some (l.closed kept) else none
  | .hangup kept =>
      if l.serving ∧ l.up = [] ∧ (l.cut ∨ ¬ (l.writer ∨ l.reader)) then
        some (l.closed kept)
      else none
  | .cut keptUp keptDown =>
      some { l with
        cut := true
        up := l.up.take keptUp
        down := l.down.take keptDown }
  | .readerEnds =>
      if l.reader ∧ (l.closing ∨ (l.cast.phase.isFinished ∧ l.down.any (·.valid))) then
        some { l with reader := false }
      else none
  | .writerEnds =>
      if l.writer ∧ (l.closing ∨ l.cast.phase.isFinished) then
        some { l with writer := false }
      else none

/-! ## The actions as rules -/

/-- `Moves now l action l'`: everything an action can do, guards included. -/
inductive Moves (now : Nat) (l : Link) : LinkAction → Link → Prop
  | connected {config : CastConfig} (offline : l.cast.phase = .offline) :
      Moves now l (.connect config) (opened now config l.cast.stopFlag)
  | stopPressed :
      Moves now l (.own .stop) { l with cast := { l.cast with stopFlag := true } }
  | went {input : CastInput} {phase' : Phase} {messages : List SignalingMessage}
      (own : input.isOwn = true)
      (goes : Cast.Goes l.cast.config l.cast.stopFlag l.writer l.cast.phase input phase'
        messages) :
      Moves now l (.own input) (l.afterCast ({ l.cast with phase := phase' }, messages))
  | heard {message : SignalingMessage} {rest messages : List SignalingMessage}
      {applied : Except String Unit} {phase' : Phase}
      (queue : l.down = message :: rest) (valid : message.valid = true)
      (goes : Cast.Goes l.cast.config l.cast.stopFlag l.writer l.cast.phase
        (.incoming (some message) applied) phase' messages) :
      Moves now l (.hear applied)
        ({ l with down := rest }.afterCast ({ l.cast with phase := phase' }, messages))
  | heardEnd {messages : List SignalingMessage} {applied : Except String Unit}
      {phase' : Phase} (queue : l.down = []) (gone : l.reader = false)
      (goes : Cast.Goes l.cast.config l.cast.stopFlag l.writer l.cast.phase
        (.incoming none applied) phase' messages) :
      Moves now l (.hear applied) (l.afterCast ({ l.cast with phase := phase' }, messages))
  | discarded {message : SignalingMessage} {rest : List SignalingMessage}
      (queue : l.down = message :: rest) (invalid : message.valid = false) :
      Moves now l .discard { l with down := rest }
  | read {message : SignalingMessage} {rest : List SignalingMessage}
      (queue : l.up = message :: rest) (serving : l.serving = true) :
      Moves now l .read
        { l with
          up := rest
          inbox := if message.valid then l.inbox ++ [message] else l.inbox
          armed := now }
  | idled {kept : Nat} (serving : l.serving = true) (late : l.armed + idleTimeout ≤ now) :
      Moves now l (.idle kept) (l.closed kept)
  | hungUp {kept : Nat} (serving : l.serving = true)
      (gone : l.cut = true ∨ (l.writer = false ∧ l.reader = false)) :
      Moves now l (.hangup kept) (l.closed kept)
  | broke {keptUp keptDown : Nat} :
      Moves now l (.cut keptUp keptDown)
        { l with cut := true, up := l.up.take keptUp, down := l.down.take keptDown }
  | readerEnded
      (done : l.closing = true ∨ l.cast.phase.isFinished = true) :
      Moves now l .readerEnds { l with reader := false }
  | writerEnded
      (done : l.closing = true ∨ l.cast.phase.isFinished = true) :
      Moves now l .writerEnds { l with writer := false }

/-- **The connection does nothing but what the rules say.** -/
theorem step_moves {now : Nat} {l l' : Link} {action : LinkAction}
    (h : l.step now action = some l') : Moves now l action l' := by
  unfold step at h
  cases action with
  | connect config =>
      dsimp only at h
      split at h
      · rename_i offline
        cases h
        exact .connected offline
      · cases h
  | own input =>
      dsimp only at h
      split at h
      · rename_i own
        obtain ⟨⟨cast', messages⟩, hstep, rfl⟩ := Option.map_eq_some_iff.mp h
        rcases Cast.step_goes hstep with ⟨rfl, rfl, rfl⟩ | ⟨phase', rfl, goes⟩
        · have same : l.afterCast ({ l.cast with stopFlag := true }, []) =
              { l with cast := { l.cast with stopFlag := true } } := by
            unfold afterCast
            cases l.cut <;> simp
          rw [same]
          exact .stopPressed
        · exact .went own goes
      · cases h
  | hear applied =>
      dsimp only at h
      split at h
      · rename_i message rest queue
        split at h
        · rename_i valid
          obtain ⟨⟨cast', messages⟩, hstep, rfl⟩ := Option.map_eq_some_iff.mp h
          rcases Cast.step_goes hstep with ⟨hinput, -, -⟩ | ⟨phase', rfl, goes⟩
          · cases hinput
          · exact .heard queue valid goes
        · cases h
      · rename_i queue
        split at h
        · cases h
        · rename_i gone
          obtain ⟨⟨cast', messages⟩, hstep, rfl⟩ := Option.map_eq_some_iff.mp h
          rcases Cast.step_goes hstep with ⟨hinput, -, -⟩ | ⟨phase', rfl, goes⟩
          · cases hinput
          · exact .heardEnd queue (by simpa using gone) goes
  | discard =>
      dsimp only at h
      split at h
      · rename_i message rest queue
        split at h
        · cases h
        · rename_i invalid
          cases h
          exact .discarded queue (by simpa using invalid)
      · cases h
  | read =>
      dsimp only at h
      split at h
      · rename_i message rest queue
        split at h
        · rename_i serving
          cases h
          exact .read queue serving
        · cases h
      · cases h
  | idle kept =>
      dsimp only at h
      split at h
      · rename_i guard
        cases h
        exact .idled guard.1 guard.2
      · cases h
  | hangup kept =>
      dsimp only at h
      split at h
      · rename_i guard
        cases h
        exact .hungUp guard.1 (by simpa using guard.2.2)
      · cases h
  | cut keptUp keptDown =>
      cases h
      exact .broke
  | readerEnds =>
      dsimp only at h
      split at h
      · rename_i guard
        cases h
        exact .readerEnded (guard.2.imp_right And.left)
      · cases h
  | writerEnds =>
      dsimp only at h
      split at h
      · rename_i guard
        cases h
        exact .writerEnded guard.2
      · cases h

end Link

end OpenPlay
