import OpenPlay.Foundation.AssocList
import OpenPlay.Foundation.System
import OpenPlay.Protocol.FrameSize
import OpenPlay.Protocol.Wire
import OpenPlay.Signaling.Connection

/-!
# The signaling server

`SignalingServer::run` and `serve_connection` of `openplay-signaling`'s `server.rs`: the
accept loop with its permits and its numbers, and for each accepted connection a task that
reads frames and a send task that writes replies.

A connection hands its messages to one bounded channel that all of them share, and waits for
room there; its replies come over a channel of its own, which drops what it has no room for.
The listener, the sockets and the clock are in the actions: a handshake that fails and one
that times out are one action, and so are a connection that is silent for too long and one
that fails.

* `connections_are_counted`: at most 16 connections are served, and no number is used twice
* `messages_in_order`: what the receiver takes from the channel is, for each connection, what
  that connection has said
* `replies_in_order`: what is written to a connection is what was sent through its handle
-/

namespace OpenPlay

open Transition

/-! ## The server -/

/-- `MAX_CONNECTIONS`. -/
def maxConnections : Nat := 16

/-- The bound of a reply channel. -/
def replyCapacity : Nat := 32

/-- A frame that the WebSocket hands out. -/
inductive Frame
  | text (t : List Char)
  | close
  | other
deriving DecidableEq

/-- Where the task of a connection is. -/
inductive ServeStage
  | tls
  | upgrade
  | reading
  /-- It waits for room in the channel. -/
  | handing (m : IncomingMessage)

/-- The task of a connection: where it is, its reply channel, the reply that the send task is
about to write, and whether the send task runs. -/
structure Served where
  stage : ServeStage
  replies : List SignalingMessage
  inFlight : Option SignalingMessage
  writer : Bool

def Served.new : Served := ⟨.tls, [], none, false⟩

structure SignalingServer where
  /-- The accept loop runs. -/
  accepting : Bool
  permits : Nat
  nextId : UInt64
  tasks : AList fun _ : ConnectionId => Served
  /-- The channel to the receiver. -/
  incoming : List IncomingMessage
  /-- The receiver has dropped its end of the channel. -/
  closed : Bool

inductive ServerAction
  | accept
  | acceptFails
  | stop
  | dropIncoming
  | tls (id : ConnectionId) (ok : Bool)
  | upgrade (id : ConnectionId) (ok : Bool)
  | frame (id : ConnectionId) (f : Frame)
  /-- The stream ends, fails, or is silent for too long. -/
  | ends (id : ConnectionId)
  | handOn (id : ConnectionId)
  /-- The receiver takes the next message. -/
  | take
  /-- `ConnectionHandle::send`. -/
  | reply (id : ConnectionId) (m : SignalingMessage)
  /-- The send task takes the next reply. -/
  | nextReply (id : ConnectionId)
  | written (id : ConnectionId) (ok : Bool)

inductive ServerOutput
  | nothing
  | accepted (id : ConnectionId)
  | refused
  | took (m : IncomingMessage)
  | replied (ok : Bool)
  | wrote (text : List Char)

/-- The message of a text frame, if it is one and within its bounds.  `parse` is
`serde_json::from_str`. -/
def received (parse : List Char → Option SignalingMessage) (t : List Char) :
    Option SignalingMessage :=
  (parse t).filter SignalingMessage.valid

namespace SignalingServer

def start : SignalingServer := ⟨true, maxConnections, 1, ∅, [], false⟩

variable (parse : List Char → Option SignalingMessage) (s : SignalingServer)

/-- A task goes on. -/
def put (id : ConnectionId) (t : Served) : SignalingServer :=
  { s with tasks := s.tasks.insert id t }

/-- A task ends, with its permit and its send task. -/
def finish (id : ConnectionId) : SignalingServer :=
  { s with permits := s.permits + 1, tasks := s.tasks.erase id }

/-- `capacity` is the bound of the channel to the receiver. -/
def step (capacity : Nat) : ServerAction → Option (SignalingServer × ServerOutput)
  | .accept =>
      if s.accepting = false then none
      else if s.permits = 0 then some (s, .refused)
      else
        let id : ConnectionId := ⟨s.nextId⟩
        some ({ s.put id .new with permits := s.permits - 1, nextId := s.nextId + 1 },
          .accepted id)
  | .acceptFails => if s.accepting then some (s, .nothing) else none
  | .stop =>
      if s.accepting ∧ s.closed then some ({ s with accepting := false }, .nothing) else none
  | .dropIncoming =>
      if s.closed then none else some ({ s with incoming := [], closed := true }, .nothing)
  | .tls id ok =>
      match s.tasks.lookup id with
      | some ⟨.tls, replies, inFlight, writer⟩ =>
          if ok then some (s.put id ⟨.upgrade, replies, inFlight, writer⟩, .nothing)
          else some (s.finish id, .nothing)
      | _ => none
  | .upgrade id ok =>
      match s.tasks.lookup id with
      | some ⟨.upgrade, _, _, _⟩ =>
          if ok then some (s.put id ⟨.reading, [], none, true⟩, .nothing)
          else some (s.finish id, .nothing)
      | _ => none
  | .frame id f =>
      match s.tasks.lookup id with
      | some ⟨.reading, replies, inFlight, writer⟩ =>
          match f with
          | .text t =>
              match received parse t with
              | some m =>
                  some (s.put id ⟨.handing (.from id m), replies, inFlight, writer⟩, .nothing)
              | none => some (s, .nothing)
          | .close => some (s.finish id, .nothing)
          | .other => some (s, .nothing)
      | _ => none
  | .ends id =>
      match s.tasks.lookup id with
      | some ⟨.reading, _, _, _⟩ => some (s.finish id, .nothing)
      | _ => none
  | .handOn id =>
      match s.tasks.lookup id with
      | some ⟨.handing m, replies, inFlight, writer⟩ =>
          if s.closed then some (s.finish id, .nothing)
          else if s.incoming.length < capacity then
            some ({ s.put id ⟨.reading, replies, inFlight, writer⟩ with
              incoming := s.incoming ++ [m] }, .nothing)
          else none
      | _ => none
  | .take =>
      match s.incoming with
      | [] => none
      | m :: rest => some ({ s with incoming := rest }, .took m)
  | .reply id m =>
      match s.tasks.lookup id with
      | some t =>
          if t.writer ∧ t.replies.length < replyCapacity then
            some (s.put id { t with replies := t.replies ++ [m] }, .replied true)
          else some (s, .replied false)
      | none => some (s, .replied false)
  | .nextReply id =>
      match s.tasks.lookup id with
      | some ⟨stage, m :: rest, none, true⟩ =>
          some (s.put id ⟨stage, rest, some m, true⟩, .nothing)
      | _ => none
  | .written id ok =>
      match s.tasks.lookup id with
      | some ⟨stage, replies, some m, true⟩ =>
          if ok then some (s.put id ⟨stage, replies, none, true⟩, .wrote m.serialize)
          else some (s.put id ⟨stage, [], none, false⟩, .nothing)
      | _ => none

/-- What can happen, with the messages that wait to be handed on before and behind it. -/
inductive Does : ServerAction → SignalingServer → ServerOutput → Prop
  | accepted (room : s.permits ≠ 0) :
      Does .accept { s.put ⟨s.nextId⟩ .new with
        permits := s.permits - 1, nextId := s.nextId + 1 } (.accepted ⟨s.nextId⟩)
  | refused : Does .accept s .refused
  /-- The accept loop fails or stops. -/
  | stopped {action : ServerAction} {accepting : Bool}
      (is : action = .acceptFails ∨ action = .stop) :
      Does action { s with accepting := accepting } .nothing
  | dropped : Does .dropIncoming { s with incoming := [], closed := true } .nothing
  /-- A handshake goes on. -/
  | shook {action : ServerAction} {id : ConnectionId} {t t' : Served}
      (is : action = .tls id true ∨ action = .upgrade id true)
      (was : s.tasks.lookup id = some t) (early : t.stage = .tls ∨ t.stage = .upgrade)
      (now : t' = { t with stage := .upgrade } ∨ t' = ⟨.reading, [], none, true⟩) :
      Does action (s.put id t') .nothing
  /-- A task ends, with nothing to hand on or nobody to hand it to. -/
  | finished {action : ServerAction} {id : ConnectionId} {t : Served}
      (is : action = .tls id false ∨ action = .upgrade id false ∨ action = .ends id ∨
        action = .frame id .close ∨ action = .handOn id)
      (was : s.tasks.lookup id = some t)
      (nothing : (∀ m, t.stage ≠ .handing m) ∨ s.closed = true) :
      Does action (s.finish id) .nothing
  /-- A frame without a message. -/
  | ignored {id : ConnectionId} {f : Frame}
      (is : f = .other ∨ ∃ t, f = .text t ∧ received parse t = none) :
      Does (.frame id f) s .nothing
  | heard {id : ConnectionId} {t : Served} {text : List Char} {m : SignalingMessage}
      (was : s.tasks.lookup id = some t) (reading : t.stage = .reading)
      (is : received parse text = some m) :
      Does (.frame id (.text text)) (s.put id { t with stage := .handing (.from id m) }) .nothing
  | handed {id : ConnectionId} {t : Served} {m : IncomingMessage}
      (was : s.tasks.lookup id = some t) (stage : t.stage = .handing m)
      (isOpen : s.closed = false) :
      Does (.handOn id)
        { s.put id { t with stage := .reading } with incoming := s.incoming ++ [m] } .nothing
  | took {m : IncomingMessage} {rest : List IncomingMessage} (queue : s.incoming = m :: rest) :
      Does .take { s with incoming := rest } (.took m)
  | replied {id : ConnectionId} {t : Served} {m : SignalingMessage}
      (was : s.tasks.lookup id = some t) (writer : t.writer = true)
      (room : t.replies.length < replyCapacity) :
      Does (.reply id m) (s.put id { t with replies := t.replies ++ [m] }) (.replied true)
  | unheard {id : ConnectionId} {m : SignalingMessage} : Does (.reply id m) s (.replied false)
  | picked {id : ConnectionId} {t : Served} {m : SignalingMessage} {rest : List SignalingMessage}
      (was : s.tasks.lookup id = some t) (writer : t.writer = true)
      (queue : t.replies = m :: rest) (none : t.inFlight = none) :
      Does (.nextReply id) (s.put id { t with replies := rest, inFlight := some m }) .nothing
  | wrote {id : ConnectionId} {t : Served} {m : SignalingMessage}
      (was : s.tasks.lookup id = some t) (writer : t.writer = true)
      (inFlight : t.inFlight = some m) :
      Does (.written id true) (s.put id { t with inFlight := none }) (.wrote m.serialize)
  | broke {id : ConnectionId} {t : Served} (was : s.tasks.lookup id = some t) :
      Does (.written id false)
        (s.put id { t with replies := [], inFlight := none, writer := false }) .nothing

/-- **The server does nothing but what the rules say.** -/
theorem step_does {capacity : Nat} {action : ServerAction} {s' : SignalingServer}
    {output : ServerOutput} (stepped : s.step parse capacity action = some (s', output)) :
    Does parse s action s' output := by
  cases action with
  | accept =>
    simp only [step] at stepped
    split_ifs at stepped with off full
    · cases stepped
      exact .refused
    · cases stepped
      exact .accepted full
  | acceptFails =>
    simp only [step] at stepped
    split_ifs at stepped
    cases stepped
    exact .stopped (Or.inl rfl)
  | stop =>
    simp only [step] at stepped
    split_ifs at stepped
    cases stepped
    exact .stopped (Or.inr rfl)
  | dropIncoming =>
    simp only [step] at stepped
    split_ifs at stepped
    cases stepped
    exact .dropped
  | tls id ok =>
    simp only [step] at stepped
    split at stepped
    · rename_i replies inFlight writer was
      cases ok with
      | true =>
        cases stepped
        exact .shook (Or.inl rfl) was (Or.inl rfl) (Or.inl rfl)
      | false =>
        cases stepped
        exact .finished (Or.inl rfl) was (Or.inl nofun)
    · cases stepped
  | upgrade id ok =>
    simp only [step] at stepped
    split at stepped
    · rename_i was
      cases ok with
      | true =>
        cases stepped
        exact .shook (Or.inr rfl) was (Or.inr rfl) (Or.inr rfl)
      | false =>
        cases stepped
        exact .finished (Or.inr (Or.inl rfl)) was (Or.inl nofun)
    · cases stepped
  | frame id f =>
    simp only [step] at stepped
    split at stepped
    · rename_i was
      cases f with
      | text t =>
        dsimp only at stepped
        split at stepped
        · rename_i is
          cases stepped
          exact .heard was rfl is
        · rename_i is
          cases stepped
          exact .ignored (Or.inr ⟨t, rfl, is⟩)
      | close =>
        cases stepped
        exact .finished (by simp) was (Or.inl nofun)
      | other =>
        cases stepped
        exact .ignored (Or.inl rfl)
    · cases stepped
  | ends id =>
    simp only [step] at stepped
    split at stepped
    · rename_i was
      cases stepped
      exact .finished (by simp) was (Or.inl nofun)
    · cases stepped
  | handOn id =>
    simp only [step] at stepped
    split at stepped
    · rename_i was
      split_ifs at stepped with isClosed
      · cases stepped
        exact .finished (by simp) was (Or.inr isClosed)
      · cases stepped
        exact .handed was rfl (Bool.eq_false_iff.mpr isClosed)
    · cases stepped
  | take =>
    simp only [step] at stepped
    split at stepped
    · cases stepped
    · rename_i queue
      cases stepped
      exact .took queue
  | reply id m =>
    simp only [step] at stepped
    split at stepped
    · rename_i was
      split_ifs at stepped with room
      · cases stepped
        exact .replied was room.1 room.2
      · cases stepped
        exact .unheard
    · cases stepped
      exact .unheard
  | nextReply id =>
    simp only [step] at stepped
    split at stepped
    · rename_i was
      cases stepped
      exact .picked was rfl rfl rfl
    · cases stepped
  | written id ok =>
    simp only [step] at stepped
    split at stepped
    · rename_i was
      cases ok with
      | true =>
        cases stepped
        exact .wrote was rfl rfl
      | false =>
        cases stepped
        exact .broke was
    · cases stepped

end SignalingServer

def signalingServer (parse : List Char → Option SignalingMessage) (capacity : Nat) :
    System SignalingServer ServerAction ServerOutput where
  init s := s = .start
  step s := s.step parse capacity

abbrev ServerMove := Move SignalingServer ServerAction ServerOutput

/-- A sender connects, asks whether anybody is there, and is answered. -/
def visit : List ServerAction :=
  [.accept, .tls ⟨1⟩ true, .upgrade ⟨1⟩ true,
    .frame ⟨1⟩ (.text (SignalingMessage.ping 7).serialize), .handOn ⟨1⟩, .take,
    .reply ⟨1⟩ (.pong 7 9), .nextReply ⟨1⟩, .written ⟨1⟩ true]

/-- The server after `visit`. -/
def visited : SignalingServer :=
  (signalingServer SignalingMessage.deserialize 64).final visit .start

def visitedPast : List ServerMove :=
  (signalingServer SignalingMessage.deserialize 64).history visit .start

theorem visited_run :
    (signalingServer SignalingMessage.deserialize 64).Run visitedPast visited :=
  .of_actions visit rfl (by decide)

/-! ## What a run has come to -/

namespace ServerMove

variable (parse : List Char → Option SignalingMessage) (id : ConnectionId) (move : ServerMove)

def accepts : List ConnectionId :=
  match move.output with
  | .accepted id => [id]
  | _ => []

/-- The message that a connection says in this move. -/
def hears : List SignalingMessage :=
  match move.action with
  | .frame d (.text t) => if d = id then (received parse t).toList else []
  | _ => []

/-- The message of a connection that the receiver takes. -/
def takes : List SignalingMessage :=
  match move.output with
  | .took m => if m.connection = id then [m.message] else []
  | _ => []

/-- The reply that `send` says it has queued. -/
def sends : List SignalingMessage :=
  match move.action, move.output with
  | .reply d m, .replied true => if d = id then [m] else []
  | _, _ => []

/-- The text that is written to a connection. -/
def writes : List (List Char) :=
  match move.action, move.output with
  | .written d _, .wrote text => if d = id then [text] else []
  | _, _ => []

end ServerMove

section History

variable (parse : List Char → Option SignalingMessage) (id : ConnectionId)
  (past : List ServerMove)

def accepted : List ConnectionId := collect ServerMove.accepts past

def heard : List SignalingMessage := collect (ServerMove.hears parse id) past

def taken : List SignalingMessage := collect (ServerMove.takes id) past

def replied : List SignalingMessage := collect (ServerMove.sends id) past

def written : List (List Char) := collect (ServerMove.writes id) past

end History

/-- The messages of a connection in the channel. -/
def queuedBy (id : ConnectionId) (incoming : List IncomingMessage) : List SignalingMessage :=
  (incoming.filter fun m => m.connection = id).map IncomingMessage.message

/-- The message that a task waits to hand on. -/
def Served.pending (t : Served) : List SignalingMessage :=
  match t.stage with
  | .handing m => [m.message]
  | _ => []

/-- The replies that are not written yet. -/
def Served.unwritten (t : Served) : List SignalingMessage := t.inFlight.toList ++ t.replies

def SignalingServer.pending (s : SignalingServer) (id : ConnectionId) : List SignalingMessage :=
  (s.tasks.lookup id).elim [] Served.pending

section Tasks

variable {s : SignalingServer} {d id : ConnectionId} {t : Served}

theorem lookup_put :
    (s.put d t).tasks.lookup id = if id = d then some t else s.tasks.lookup id := by
  by_cases same : id = d
  · rw [if_pos same, same]
    exact AList.lookup_insert _
  · rw [if_neg same]
    exact AList.lookup_insert_ne same

theorem lookup_finish :
    (s.finish d).tasks.lookup id = if id = d then none else s.tasks.lookup id := by
  by_cases same : id = d
  · rw [if_pos same, same]
    exact AList.lookup_erase _ _
  · rw [if_neg same]
    exact AList.lookup_erase_ne same

theorem pending_put : (s.put d t).pending id = if id = d then t.pending else s.pending id := by
  rw [SignalingServer.pending, lookup_put]
  split_ifs <;> rfl

theorem pending_finish : (s.finish d).pending id = if id = d then [] else s.pending id := by
  rw [SignalingServer.pending, lookup_finish]
  split_ifs <;> rfl

theorem pending_eq (was : s.tasks.lookup id = some t) : s.pending id = t.pending := by
  rw [SignalingServer.pending, was]
  rfl

theorem length_keys_put (was : s.tasks.lookup d = some t) (t' : Served) :
    (s.put d t').tasks.keys.length = s.tasks.keys.length := by
  have mem : d ∈ s.tasks.keys := AList.mem_of_lookup was
  have pos := List.length_pos_of_mem mem
  show (s.tasks.insert d t').keys.length = _
  rw [AList.keys_insert, List.length_cons, List.length_erase_of_mem mem]
  omega

theorem length_keys_finish (was : s.tasks.lookup d = some t) :
    (s.finish d).tasks.keys.length + 1 = s.tasks.keys.length := by
  have mem : d ∈ s.tasks.keys := AList.mem_of_lookup was
  have pos := List.length_pos_of_mem mem
  show (s.tasks.erase d).keys.length + 1 = _
  rw [AList.keys_erase, List.length_erase_of_mem mem]
  omega

theorem length_keys_new (fresh : s.tasks.lookup d = none) :
    (s.put d t).tasks.keys.length = s.tasks.keys.length + 1 := by
  have notMem : d ∉ s.tasks.keys := fun mem => by
    obtain ⟨t, was⟩ := AList.exists_lookup mem
    rw [fresh] at was
    cases was
  show (s.tasks.insert d t).keys.length = _
  rw [AList.keys_insert, List.length_cons, List.erase_of_not_mem notMem]

end Tasks

/-! ## Permits and numbers -/

section Runs

variable {parse : List Char → Option SignalingMessage} {capacity : Nat}
  {past : List ServerMove} {s : SignalingServer} {move : ServerMove}

/-- The number of the `i`-th connection. -/
def connectionNumber (i : Nat) : ConnectionId := ⟨UInt64.ofNat (i + 1)⟩

theorem connectionNumber_injective {i j : Nat} (hi : i < UInt64.size) (hj : j < UInt64.size)
    (same : connectionNumber i = connectionNumber j) : i = j := by
  have values := congrArg (fun id : ConnectionId => id.val.toNat) same
  simp only [connectionNumber, UInt64.toNat_ofNat'] at values
  rw [show (2 : Nat) ^ 64 = UInt64.size from rfl] at values
  simp only [UInt64.size] at *
  omega

/-- Every connection that is served has a permit, and every one has the next number. -/
structure Counted (past : List ServerMove) (s : SignalingServer) : Prop where
  permits : s.permits + s.tasks.keys.length = maxConnections
  numbers : accepted past = (List.range (accepted past).length).map connectionNumber
  next : (⟨s.nextId⟩ : ConnectionId) = connectionNumber (accepted past).length
  served : ∀ id t, s.tasks.lookup id = some t → id ∈ accepted past

/-- The next number is new. -/
theorem Counted.unused (counted : Counted past s) (few : (accepted past).length < UInt64.size) :
    (⟨s.nextId⟩ : ConnectionId) ∉ accepted past := by
  intro mem
  rw [counted.next, counted.numbers] at mem
  obtain ⟨i, small, same⟩ := List.mem_map.mp mem
  rw [List.mem_range] at small
  rw [List.length_map, List.length_range] at same
  have := connectionNumber_injective (by omega) few same
  omega

theorem Counted.fresh (counted : Counted past s) (few : (accepted past).length < UInt64.size) :
    s.tasks.lookup ⟨s.nextId⟩ = none := by
  cases found : s.tasks.lookup ⟨s.nextId⟩ with
  | none => rfl
  | some t => exact absurd (counted.served _ t found) (counted.unused few)

theorem Counted.start : Counted [] .start where
  permits := rfl
  numbers := rfl
  next := rfl
  served id t found := by cases found

/-- A move that accepts nobody, and serves only who was served. -/
theorem Counted.keep {s' : SignalingServer} (counted : Counted past s)
    (nobody : ServerMove.accepts move = [])
    (permits : s'.permits + s'.tasks.keys.length = s.permits + s.tasks.keys.length)
    (next : s'.nextId = s.nextId)
    (served : ∀ id t, s'.tasks.lookup id = some t → ∃ t, s.tasks.lookup id = some t) :
    Counted (move :: past) s' := by
  have same : accepted (move :: past) = accepted past := by
    rw [accepted, collect_cons, nobody, List.append_nil]
    rfl
  refine ⟨permits.trans counted.permits, ?_, ?_, fun id t found => ?_⟩
  · rw [same]
    exact counted.numbers
  · rw [same, next]
    exact counted.next
  · rw [same]
    obtain ⟨t', was⟩ := served id t found
    exact counted.served id t' was

/-- A task of a connection that is served goes on. -/
theorem Counted.put (counted : Counted past s) (nobody : ServerMove.accepts move = [])
    {d : ConnectionId} {t t' : Served} (was : s.tasks.lookup d = some t) :
    Counted (move :: past) (s.put d t') := by
  refine counted.keep nobody (congrArg (s.permits + ·) (length_keys_put was t')) rfl
    fun id t'' found => ?_
  rw [lookup_put] at found
  split_ifs at found with own
  · exact ⟨t, own ▸ was⟩
  · exact ⟨t'', found⟩

/-- The next connection. -/
theorem Counted.accept (counted : Counted past s) (few : (accepted past).length < UInt64.size)
    (room : s.permits ≠ 0) (is : ServerMove.accepts move = [⟨s.nextId⟩]) :
    Counted (move :: past)
      { s.put ⟨s.nextId⟩ .new with permits := s.permits - 1, nextId := s.nextId + 1 } := by
  have longer : accepted (move :: past) = accepted past ++ [⟨s.nextId⟩] := by
    rw [accepted, collect_cons, is]
    rfl
  have length : (accepted (move :: past)).length = (accepted past).length + 1 := by
    rw [longer, List.length_append, List.length_singleton]
  have number : s.nextId = UInt64.ofNat ((accepted past).length + 1) :=
    congrArg ConnectionId.val counted.next
  refine ⟨?_, ?_, ?_, fun id t found => ?_⟩
  · have keys := length_keys_new (t := .new) (counted.fresh few)
    have permits := counted.permits
    show s.permits - 1 + (s.put ⟨s.nextId⟩ .new).tasks.keys.length = _
    omega
  · rw [length, longer, List.range_succ, List.map_append, ← counted.numbers, counted.next]
    rfl
  · rw [length]
    show (⟨s.nextId + 1⟩ : ConnectionId) = _
    rw [number, connectionNumber, UInt64.ofNat_add ((accepted past).length + 1) 1]
    rfl
  · replace found : (s.put ⟨s.nextId⟩ .new).tasks.lookup id = some t := found
    rw [lookup_put] at found
    rw [longer]
    split_ifs at found with own
    · rw [own]
      exact List.mem_append_right _ (List.mem_singleton_self _)
    · exact List.mem_append_left _ (counted.served id t found)

theorem Counted.step (counted : Counted past move.source)
    (few : (accepted past).length < UInt64.size)
    (made : (signalingServer parse capacity).Makes move) : Counted (move :: past) move.target := by
  obtain ⟨s, action, output, s'⟩ := move
  replace counted : Counted past s := counted
  have does : s.Does parse action s' output := SignalingServer.step_does parse s made
  cases does with
  | accepted room => exact counted.accept few room rfl
  | refused => exact counted.keep rfl rfl rfl fun id t found => ⟨t, found⟩
  | stopped is => exact counted.keep rfl rfl rfl fun id t found => ⟨t, found⟩
  | dropped => exact counted.keep rfl rfl rfl fun id t found => ⟨t, found⟩
  | shook is was early now => exact counted.put rfl was
  | @finished _ d t is was nothing =>
    refine counted.keep rfl ?_ rfl fun id t' found => ?_
    · have keys := length_keys_finish was
      show s.permits + 1 + (s.finish d).tasks.keys.length = _
      omega
    · rw [lookup_finish] at found
      split_ifs at found
      exact ⟨t', found⟩
  | ignored is => exact counted.keep rfl rfl rfl fun id t found => ⟨t, found⟩
  | heard was reading is => exact counted.put rfl was
  | @handed d t m was stage isOpen =>
    refine counted.keep rfl (congrArg (s.permits + ·) (length_keys_put was _)) rfl
      fun id t' found => ?_
    replace found : (s.put d { t with stage := .reading }).tasks.lookup id = some t' := found
    rw [lookup_put] at found
    split_ifs at found with own
    · exact ⟨t, own ▸ was⟩
    · exact ⟨t', found⟩
  | took queue => exact counted.keep rfl rfl rfl fun id t found => ⟨t, found⟩
  | replied was writer room => exact counted.put rfl was
  | unheard => exact counted.keep rfl rfl rfl fun id t found => ⟨t, found⟩
  | picked was writer queue none => exact counted.put rfl was
  | wrote was writer inFlight => exact counted.put rfl was
  | broke was => exact counted.put rfl was

theorem accepted_le (move : ServerMove) (past : List ServerMove) :
    (accepted past).length ≤ (accepted (move :: past)).length := by
  rw [accepted, accepted, collect_cons, List.length_append]
  exact Nat.le_add_right _ _

/-- The induction over runs in which the numbers last. -/
theorem invariant_of_run {I : List ServerMove → SignalingServer → Prop} (start : I [] .start)
    (keeps : ∀ past move, Counted past move.source → (accepted past).length < UInt64.size →
      move.source.Does parse move.action move.target move.output → I past move.source →
      I (move :: past) move.target)
    (run : (signalingServer parse capacity).Run past s)
    (few : (accepted past).length < UInt64.size) : Counted past s ∧ I past s := by
  induction run with
  | start first =>
    rw [show _ = SignalingServer.start from first]
    exact ⟨.start, start⟩
  | @move past move before made ih =>
    have fewer := Nat.lt_of_le_of_lt (accepted_le move past) few
    obtain ⟨counted, holds⟩ := ih fewer
    exact ⟨counted.step fewer made,
      keeps past move counted fewer (SignalingServer.step_does parse _ made) holds⟩

/-- **Connections are counted.**  As long as the numbers last, at most 16 connections are
served, every one that ends gives its permit back, and the connections are numbered one after
the other, so that no number is used twice. -/
theorem connections_are_counted (run : (signalingServer parse capacity).Run past s)
    (few : (accepted past).length < UInt64.size) :
    s.tasks.keys.length ≤ maxConnections ∧
      s.permits = maxConnections - s.tasks.keys.length ∧
      accepted past = (List.range (accepted past).length).map connectionNumber ∧
      (accepted past).Nodup ∧ ∀ id ∈ s.tasks, id ∈ accepted past := by
  obtain ⟨counted, -⟩ := invariant_of_run (I := fun _ _ => True) trivial
    (fun _ _ _ _ _ _ => trivial) run few
  have permits := counted.permits
  refine ⟨by omega, by omega, counted.numbers, ?_, fun id mem => ?_⟩
  · rw [counted.numbers]
    refine List.Nodup.map_on (fun i hi j hj same => ?_) List.nodup_range
    rw [List.mem_range] at hi hj
    exact connectionNumber_injective (by omega) (by omega) same
  · obtain ⟨t, found⟩ := AList.exists_lookup mem
    exact counted.served id t found

theorem connections_are_counted_visit :
    visited.permits = 15 ∧ visited.permits = maxConnections - visited.tasks.keys.length :=
  ⟨by decide, (connections_are_counted visited_run (by decide)).2.1⟩

/-! ## Messages -/

section Messages

variable {id : ConnectionId}

@[simp] theorem queuedBy_append (id : ConnectionId) (front back : List IncomingMessage) :
    queuedBy id (front ++ back) = queuedBy id front ++ queuedBy id back := by
  rw [queuedBy, List.filter_append, List.map_append]
  rfl

theorem queuedBy_cons (m : IncomingMessage) (rest : List IncomingMessage) :
    queuedBy id (m :: rest) =
      (if m.connection = id then [m.message] else []) ++ queuedBy id rest := by
  rw [queuedBy, List.filter_cons]
  split_ifs <;> simp_all [queuedBy]

/-- What a connection has said is with the receiver, in the channel, or about to be handed
on. -/
structure Conveyed (parse : List Char → Option SignalingMessage) (id : ConnectionId)
    (past : List ServerMove) (s : SignalingServer) : Prop where
  own : ∀ d t m, s.tasks.lookup d = some t → t.stage = .handing m → m.connection = d
  whole : s.closed = false →
    taken id past ++ (queuedBy id s.incoming ++ s.pending id) = heard parse id past
  begins : taken id past <+: heard parse id past
  empty : s.closed = true → s.incoming = []

theorem Conveyed.start : Conveyed parse id [] .start where
  own d t m found := by cases found
  whole _ := rfl
  begins := List.nil_prefix
  empty isClosed := by cases isClosed

/-- A move that neither hears nor takes, and changes no message on its way. -/
theorem Conveyed.keep {s' : SignalingServer} (conveyed : Conveyed parse id past s)
    (hears : ServerMove.hears parse id move = []) (takes : ServerMove.takes id move = [])
    (own : ∀ d t' m, s'.tasks.lookup d = some t' → t'.stage = .handing m →
      ∃ t, s.tasks.lookup d = some t ∧ t.stage = .handing m)
    (closed : s'.closed = false → s.closed = false)
    (same : s'.closed = false →
      queuedBy id s'.incoming ++ s'.pending id = queuedBy id s.incoming ++ s.pending id)
    (empty : s'.closed = true → s'.incoming = []) : Conveyed parse id (move :: past) s' := by
  have heardSame : heard parse id (move :: past) = heard parse id past := by
    rw [heard, collect_cons, hears, List.append_nil]
    rfl
  have takenSame : taken id (move :: past) = taken id past := by
    rw [taken, collect_cons, takes, List.append_nil]
    rfl
  refine ⟨fun d t' m found stage => ?_, fun isOpen => ?_, ?_, empty⟩
  · obtain ⟨t, was, stage⟩ := own d t' m found stage
    exact conveyed.own d t m was stage
  · rw [heardSame, takenSame, same isOpen]
    exact conveyed.whole (closed isOpen)
  · rw [heardSame, takenSame]
    exact conveyed.begins

/-- A task goes on, with the message that it had to hand on. -/
theorem Conveyed.put (conveyed : Conveyed parse id past s)
    (hears : ServerMove.hears parse id move = []) (takes : ServerMove.takes id move = [])
    {d : ConnectionId} {t t' : Served} (was : s.tasks.lookup d = some t)
    (stage : ∀ m, t'.stage = .handing m → t.stage = .handing m)
    (pending : t'.pending = t.pending) :
    Conveyed parse id (move :: past) (s.put d t') := by
  refine conveyed.keep hears takes (fun e t'' m found handing => ?_) (fun isOpen => isOpen)
    (fun _ => ?_) conveyed.empty
  · rw [lookup_put] at found
    split_ifs at found with same
    · cases found
      exact ⟨t, same ▸ was, stage m handing⟩
    · exact ⟨t'', found, handing⟩
  · rw [pending_put]
    split_ifs with same
    · rw [same, pending_eq was, pending]
      rfl
    · rfl

theorem pending_of_not_handing {t : Served} (none : ∀ m, t.stage ≠ .handing m) :
    t.pending = [] := by
  cases stage : t.stage with
  | handing m => exact absurd stage (none m)
  | _ => simp only [Served.pending, stage]

theorem Conveyed.step (conveyed : Conveyed parse id past move.source)
    (counted : Counted past move.source) (few : (accepted past).length < UInt64.size)
    (does : move.source.Does parse move.action move.target move.output) :
    Conveyed parse id (move :: past) move.target := by
  obtain ⟨s, action, output, s'⟩ := move
  replace conveyed : Conveyed parse id past s := conveyed
  replace counted : Counted past s := counted
  replace does : s.Does parse action s' output := does
  cases does with
  | accepted room =>
    have fresh := counted.fresh few
    refine conveyed.keep rfl rfl (fun d t m found handing => ?_) (fun isOpen => isOpen)
      (fun _ => ?_) conveyed.empty
    · replace found : (s.put ⟨s.nextId⟩ .new).tasks.lookup d = some t := found
      rw [lookup_put] at found
      split_ifs at found
      · cases found
        cases handing
      · exact ⟨t, found, handing⟩
    · show _ ++ (s.put ⟨s.nextId⟩ .new).pending id = _
      rw [pending_put]
      split_ifs with same
      · rw [same, SignalingServer.pending, fresh]
        rfl
      · rfl
  | refused =>
    exact conveyed.keep rfl rfl (fun d t m found handing => ⟨t, found, handing⟩)
      (fun isOpen => isOpen) (fun _ => rfl) conveyed.empty
  | stopped is =>
    refine conveyed.keep ?_ rfl (fun d t m found handing => ⟨t, found, handing⟩)
      (fun isOpen => isOpen) (fun _ => rfl) conveyed.empty
    rcases is with rfl | rfl <;> rfl
  | dropped =>
    exact conveyed.keep rfl rfl (fun d t m found handing => ⟨t, found, handing⟩) nofun nofun
      fun _ => rfl
  | @shook _ d t t' is was early now =>
    have notHanding (m : IncomingMessage) : t.stage ≠ .handing m := by
      rintro stage
      rw [stage] at early
      rcases early with early | early <;> cases early
    have notHanding' (m : IncomingMessage) : t'.stage ≠ .handing m := by
      rcases now with rfl | rfl <;> exact nofun
    refine conveyed.put ?_ rfl was (fun m stage => absurd stage (notHanding' m)) ?_
    · rcases is with rfl | rfl <;> rfl
    · rw [pending_of_not_handing notHanding, pending_of_not_handing notHanding']
  | @finished _ d t is was nothing =>
    refine conveyed.keep ?_ rfl (fun e t' m found handing => ?_) (fun isOpen => isOpen)
      (fun isOpen => ?_) conveyed.empty
    · rcases is with rfl | rfl | rfl | rfl | rfl <;> rfl
    · rw [lookup_finish] at found
      split_ifs at found
      exact ⟨t', found, handing⟩
    · rw [pending_finish]
      split_ifs with same
      · have quiet : t.pending = [] := by
          refine pending_of_not_handing (nothing.resolve_right fun isClosed => ?_)
          exact absurd (isOpen.symm.trans isClosed) (by decide)
        rw [same, pending_eq was, quiet]
        rfl
      · rfl
  | ignored is =>
    refine conveyed.keep ?_ rfl (fun d t m found handing => ⟨t, found, handing⟩)
      (fun isOpen => isOpen) (fun _ => rfl) conveyed.empty
    rcases is with rfl | ⟨t, rfl, none⟩
    · rfl
    · simp [ServerMove.hears, none]
  | @heard d t text m was reading is =>
    have more : heard parse id ((⟨s, .frame d (.text text), .nothing,
        s.put d { t with stage := .handing (.from d m) }⟩ : ServerMove) :: past) =
          heard parse id past ++ if d = id then [m] else [] := by
      show heard parse id past ++ (if d = id then (received parse text).toList else []) = _
      rw [is]
      rfl
    have quiet : t.pending = [] := pending_of_not_handing fun m stage => by
      rw [reading] at stage
      cases stage
    refine ⟨fun e t' m' found handing => ?_, fun isOpen => ?_, ?_, conveyed.empty⟩
    · rw [lookup_put] at found
      split_ifs at found with same
      · cases found
        cases handing
        exact same.symm
      · exact conveyed.own e t' m' found handing
    · rw [more, ← conveyed.whole isOpen, pending_put]
      show taken id past ++ [] ++ _ = _
      split_ifs with same other other
      · rw [same, pending_eq was, quiet]
        simp [Served.pending, IncomingMessage.from, queuedBy, SignalingServer.put]
      · exact absurd same.symm other
      · exact absurd other.symm same
      · simp [SignalingServer.put]
    · rw [more]
      show taken id past ++ [] <+: _
      rw [List.append_nil]
      exact conveyed.begins.trans (List.prefix_append _ _)
  | @handed d t m was stage isOpen =>
    have pendingAs : t.pending = [m.message] := by
      rw [Served.pending, stage]
    refine conveyed.keep rfl rfl (fun e t' m' found handing => ?_) (fun _ => isOpen)
      (fun _ => ?_) fun isClosed => absurd (isOpen.symm.trans isClosed) (by decide)
    · replace found : (s.put d { t with stage := .reading }).tasks.lookup e = some t' := found
      rw [lookup_put] at found
      split_ifs at found
      · cases found
        cases handing
      · exact ⟨t', found, handing⟩
    · show queuedBy id (s.incoming ++ [m]) ++
        (s.put d { t with stage := .reading }).pending id = _
      rw [queuedBy_append, queuedBy_cons, conveyed.own d t m was stage, pending_put]
      split_ifs with same other other
      · rw [← same, pending_eq was, pendingAs]
        simp [Served.pending, queuedBy]
      · exact absurd same.symm other
      · exact absurd other.symm same
      · simp [queuedBy]
  | @took m rest queue =>
    have isOpen : s.closed = false := by
      cases isClosed : s.closed with
      | false => rfl
      | true =>
        rw [conveyed.empty isClosed] at queue
        cases queue
    have whole := conveyed.whole isOpen
    rw [queue, queuedBy_cons] at whole
    have more :
        taken id ((⟨s, .take, .took m, { s with incoming := rest }⟩ : ServerMove) :: past) ++
          (queuedBy id rest ++ s.pending id) = heard parse id past := by
      rw [← whole]
      show taken id past ++ (if m.connection = id then [m.message] else []) ++ _ = _
      simp only [List.append_assoc]
    refine ⟨conveyed.own, fun _ => ?_, ?_, fun isClosed => ?_⟩
    · show _ = heard parse id past ++ []
      rw [List.append_nil]
      exact more
    · show _ <+: heard parse id past ++ []
      rw [List.append_nil, ← more]
      exact List.prefix_append _ _
    · exact absurd (isOpen.symm.trans isClosed) (by decide)
  | @replied d t m was writer room => exact conveyed.put rfl rfl was (fun _ stage => stage) rfl
  | unheard =>
    exact conveyed.keep rfl rfl (fun d t m found handing => ⟨t, found, handing⟩)
      (fun isOpen => isOpen) (fun _ => rfl) conveyed.empty
  | picked was writer queue none => exact conveyed.put rfl rfl was (fun _ stage => stage) rfl
  | wrote was writer inFlight => exact conveyed.put rfl rfl was (fun _ stage => stage) rfl
  | broke was => exact conveyed.put rfl rfl was (fun _ stage => stage) rfl

/-- **Messages arrive in order.**  Of each connection the receiver takes what that connection
has said, in its order, whole and once; what it has not taken is in the channel or about to be
handed on.  Only a receiver that drops its end of the channel loses messages, from some one
on. -/
theorem messages_in_order (run : (signalingServer parse capacity).Run past s)
    (few : (accepted past).length < UInt64.size) (id : ConnectionId) :
    taken id past <+: heard parse id past ∧
      (s.closed = false →
        taken id past ++ queuedBy id s.incoming ++ s.pending id = heard parse id past) := by
  obtain ⟨-, conveyed⟩ := invariant_of_run (I := Conveyed parse id) Conveyed.start
    (fun _ _ counted few does conveyed => conveyed.step counted few does) run few
  refine ⟨conveyed.begins, fun isOpen => ?_⟩
  rw [List.append_assoc]
  exact conveyed.whole isOpen

theorem messages_in_order_visit :
    heard SignalingMessage.deserialize ⟨1⟩ visitedPast = [.ping 7] ∧
      taken ⟨1⟩ visitedPast <+: heard SignalingMessage.deserialize ⟨1⟩ visitedPast :=
  ⟨by decide, (messages_in_order visited_run (by decide) ⟨1⟩).1⟩

end Messages

/-! ## Replies -/

section Replies

variable {id : ConnectionId}

/-- A task that has not read anything. -/
def Served.Early (t : Served) : Prop := t.stage = .tls ∨ t.stage = .upgrade

/-- What was sent through the handle of a connection is written, or waits to be. -/
structure Answered (id : ConnectionId) (past : List ServerMove) (s : SignalingServer) : Prop where
  whole : ∀ t, s.tasks.lookup id = some t → t.writer = true →
    written id past ++ t.unwritten.map SignalingMessage.serialize =
      (replied id past).map SignalingMessage.serialize
  begins : written id past <+: (replied id past).map SignalingMessage.serialize
  small : ∀ t, s.tasks.lookup id = some t → t.replies.length ≤ replyCapacity
  early : ∀ t, s.tasks.lookup id = some t → t.Early → t.writer = false ∧ replied id past = []
  unknown : id ∉ accepted past → replied id past = []

theorem Answered.start : Answered id [] .start where
  whole t found := by cases found
  begins := List.nil_prefix
  small t found := by cases found
  early t found := by cases found
  unknown _ := rfl

/-- A move that neither queues nor writes a reply to this connection. -/
theorem Answered.keep {s' : SignalingServer} (answered : Answered id past s)
    (sends : ServerMove.sends id move = []) (writes : ServerMove.writes id move = [])
    (tasks : ∀ t', s'.tasks.lookup id = some t' →
      ∃ t, s.tasks.lookup id = some t ∧
        (t'.writer = true → t.writer = true ∧ t'.unwritten = t.unwritten) ∧
        t'.replies.length ≤ t.replies.length ∧ (t'.Early → t.Early)) :
    Answered id (move :: past) s' := by
  have repliedSame : replied id (move :: past) = replied id past := by
    rw [replied, collect_cons, sends, List.append_nil]
    rfl
  have writtenSame : written id (move :: past) = written id past := by
    rw [written, collect_cons, writes, List.append_nil]
    rfl
  refine ⟨fun t' found writer => ?_, ?_, fun t' found => ?_, fun t' found isEarly => ?_,
    fun unknown => ?_⟩
  · obtain ⟨t, was, same, -, -⟩ := tasks t' found
    rw [repliedSame, writtenSame, (same writer).2]
    exact answered.whole t was (same writer).1
  · rw [repliedSame, writtenSame]
    exact answered.begins
  · obtain ⟨t, was, -, fewer, -⟩ := tasks t' found
    exact fewer.trans (answered.small t was)
  · obtain ⟨t, was, same, -, stays⟩ := tasks t' found
    obtain ⟨off, silent⟩ := answered.early t was (stays isEarly)
    rw [repliedSame]
    refine ⟨Bool.eq_false_iff.mpr fun writer => ?_, silent⟩
    exact absurd ((same writer).1.symm.trans off) (by decide)
  · rw [repliedSame]
    exact answered.unknown fun mem => unknown (List.mem_append_left _ mem)

/-- Nothing happens to the task of this connection. -/
theorem Answered.still {s' : SignalingServer} (answered : Answered id past s)
    (sends : ServerMove.sends id move = []) (writes : ServerMove.writes id move = [])
    (same : s'.tasks.lookup id = s.tasks.lookup id) : Answered id (move :: past) s' :=
  answered.keep sends writes fun t found =>
    ⟨t, same ▸ found, fun writer => ⟨writer, rfl⟩, Nat.le_refl _, fun isEarly => isEarly⟩

/-- A task goes on, with its replies or without a send task. -/
theorem Answered.put (answered : Answered id past s)
    (sends : ServerMove.sends id move = []) (writes : ServerMove.writes id move = [])
    {d : ConnectionId} {t t' : Served} (was : s.tasks.lookup d = some t)
    (same : t'.writer = true → t.writer = true ∧ t'.unwritten = t.unwritten)
    (fewer : t'.replies.length ≤ t.replies.length) (stays : t'.Early → t.Early) :
    Answered id (move :: past) (s.put d t') := by
  refine answered.keep sends writes fun t'' found => ?_
  rw [lookup_put] at found
  split_ifs at found with own
  · cases found
    exact ⟨t, own ▸ was, same, fewer, stays⟩
  · exact ⟨t'', found, fun writer => ⟨writer, rfl⟩, Nat.le_refl _, fun isEarly => isEarly⟩

/-- A task with a new, empty reply channel. -/
theorem Answered.fresh (answered : Answered id past s) {s' : SignalingServer}
    (sends : ServerMove.sends id move = []) (writes : ServerMove.writes id move = [])
    (silent : replied id past = []) {t : Served} (empty : t.unwritten = [])
    (none : t.replies = []) (off : t.Early → t.writer = false)
    (now : s'.tasks.lookup id = some t) : Answered id (move :: past) s' := by
  have repliedSame : replied id (move :: past) = [] := by
    rw [replied, collect_cons, sends, List.append_nil]
    exact silent
  have writtenSame : written id (move :: past) = [] := by
    have begins := answered.begins
    rw [silent] at begins
    rw [written, collect_cons, writes, List.append_nil]
    exact List.prefix_nil.mp begins
  refine ⟨fun t' found _ => ?_, ?_, fun t' found => ?_, fun t' found isEarly => ?_,
    fun _ => repliedSame⟩
  · cases now.symm.trans found
    rw [repliedSame, writtenSame, empty]
    rfl
  · rw [writtenSame]
    exact List.nil_prefix
  · cases now.symm.trans found
    rw [none]
    exact Nat.zero_le _
  · cases now.symm.trans found
    exact ⟨off isEarly, repliedSame⟩

/-- A reply is queued. -/
theorem Answered.queue (answered : Answered id past s) {t : Served} {m : SignalingMessage}
    (was : s.tasks.lookup id = some t) (writer : t.writer = true)
    (room : t.replies.length < replyCapacity) (known : id ∈ accepted past) :
    Answered id
      (⟨s, .reply id m, .replied true, s.put id { t with replies := t.replies ++ [m] }⟩ :: past)
      (s.put id { t with replies := t.replies ++ [m] }) := by
  have longer : replied id
      (⟨s, .reply id m, .replied true, s.put id { t with replies := t.replies ++ [m] }⟩ :: past) =
        replied id past ++ [m] := congrArg (replied id past ++ ·) (if_pos rfl)
  have writtenSame : written id
      (⟨s, .reply id m, .replied true, s.put id { t with replies := t.replies ++ [m] }⟩ :: past) =
        written id past := List.append_nil _
  have now : (s.put id { t with replies := t.replies ++ [m] }).tasks.lookup id =
      some { t with replies := t.replies ++ [m] } := AList.lookup_insert _
  refine ⟨fun t' found _ => ?_, ?_, fun t' found => ?_, fun t' found isEarly => ?_,
    fun unknown => ?_⟩
  · cases now.symm.trans found
    rw [longer, writtenSame, List.map_append, ← answered.whole t was writer]
    simp [Served.unwritten]
  · rw [longer, writtenSame, List.map_append]
    exact answered.begins.trans (List.prefix_append _ _)
  · cases now.symm.trans found
    show (t.replies ++ [m]).length ≤ replyCapacity
    rw [List.length_append, List.length_singleton]
    exact room
  · cases now.symm.trans found
    exact absurd (writer.symm.trans (answered.early t was isEarly).1) (by decide)
  · exact absurd (List.mem_append_left _ known) unknown

/-- The reply that was picked is written. -/
theorem Answered.write (answered : Answered id past s) {t : Served} {m : SignalingMessage}
    (was : s.tasks.lookup id = some t) (writer : t.writer = true) (inFlight : t.inFlight = some m) :
    Answered id
      (⟨s, .written id true, .wrote m.serialize, s.put id { t with inFlight := none }⟩ :: past)
      (s.put id { t with inFlight := none }) := by
  have longer : written id
      (⟨s, .written id true, .wrote m.serialize, s.put id { t with inFlight := none }⟩ :: past) =
        written id past ++ [m.serialize] := congrArg (written id past ++ ·) (if_pos rfl)
  have repliedSame : replied id
      (⟨s, .written id true, .wrote m.serialize, s.put id { t with inFlight := none }⟩ :: past) =
        replied id past := List.append_nil _
  have now : (s.put id { t with inFlight := none }).tasks.lookup id =
      some { t with inFlight := none } := AList.lookup_insert _
  have whole : written id past ++ [m.serialize] ++ t.replies.map SignalingMessage.serialize =
      (replied id past).map SignalingMessage.serialize := by
    rw [← answered.whole t was writer, Served.unwritten, inFlight, List.append_assoc]
    rfl
  refine ⟨fun t' found _ => ?_, ?_, fun t' found => ?_, fun t' found isEarly => ?_,
    fun unknown => ?_⟩
  · cases now.symm.trans found
    rw [longer, repliedSame, ← whole]
    rfl
  · rw [longer, repliedSame, ← whole]
    exact List.prefix_append _ _
  · cases now.symm.trans found
    exact answered.small t was
  · cases now.symm.trans found
    exact absurd (writer.symm.trans (answered.early t was isEarly).1) (by decide)
  · rw [repliedSame]
    exact answered.unknown fun mem => unknown (List.mem_append_left _ mem)

theorem Answered.step (answered : Answered id past move.source)
    (counted : Counted past move.source) (few : (accepted past).length < UInt64.size)
    (does : move.source.Does parse move.action move.target move.output) :
    Answered id (move :: past) move.target := by
  obtain ⟨s, action, output, s'⟩ := move
  replace answered : Answered id past s := answered
  replace counted : Counted past s := counted
  replace does : s.Does parse action s' output := does
  cases does with
  | accepted room =>
    by_cases own : id = ⟨s.nextId⟩
    · refine answered.fresh (t := .new) rfl rfl (answered.unknown ?_) rfl rfl (fun _ => rfl) ?_
      · rw [own]
        exact counted.unused few
      · rw [own]
        exact AList.lookup_insert _
    · exact answered.still rfl rfl (AList.lookup_insert_ne own)
  | refused => exact answered.still rfl rfl rfl
  | stopped is =>
    refine answered.still ?_ ?_ rfl <;> rcases is with rfl | rfl <;> rfl
  | dropped => exact answered.still rfl rfl rfl
  | @shook _ d t t' is was early now =>
    have sends : ServerMove.sends id ⟨s, action, .nothing, s.put d t'⟩ = [] := by
      rcases is with rfl | rfl <;> rfl
    have writes : ServerMove.writes id ⟨s, action, .nothing, s.put d t'⟩ = [] := by
      rcases is with rfl | rfl <;> rfl
    rcases now with rfl | rfl
    · exact answered.put sends writes was (fun writer => ⟨writer, rfl⟩) (Nat.le_refl _)
        fun _ => early
    · by_cases own : id = d
      · refine answered.fresh (t := ⟨.reading, [], none, true⟩) sends writes
          (answered.early t (own ▸ was) early).2 rfl rfl (fun isEarly => ?_) ?_
        · rcases isEarly with is | is <;> cases is
        · rw [own]
          exact AList.lookup_insert _
      · exact answered.still sends writes (AList.lookup_insert_ne own)
  | @finished _ d t is was nothing =>
    refine answered.keep ?_ ?_ fun t' found => ?_
    · rcases is with rfl | rfl | rfl | rfl | rfl <;> rfl
    · rcases is with rfl | rfl | rfl | rfl | rfl <;> rfl
    · rw [lookup_finish] at found
      split_ifs at found
      exact ⟨t', found, fun writer => ⟨writer, rfl⟩, Nat.le_refl _, fun isEarly => isEarly⟩
  | ignored is => exact answered.still rfl rfl rfl
  | @heard d t text m was reading is =>
    exact answered.put rfl rfl was (fun writer => ⟨writer, rfl⟩) (Nat.le_refl _) fun isEarly => by
      rcases isEarly with is | is <;> cases is
  | @handed d t m was stage isOpen =>
    by_cases own : id = d
    · refine answered.keep rfl rfl fun t' found => ?_
      replace found : (s.put d { t with stage := .reading }).tasks.lookup id = some t' := found
      rw [lookup_put, if_pos own] at found
      cases found
      refine ⟨t, own ▸ was, fun writer => ⟨writer, rfl⟩, Nat.le_refl _, fun isEarly => ?_⟩
      rcases isEarly with is | is <;> cases is
    · exact answered.still rfl rfl (AList.lookup_insert_ne own)
  | @took m rest queue => exact answered.still rfl rfl rfl
  | @replied d t m was writer room =>
    by_cases own : d = id
    · subst own
      exact answered.queue was writer room (counted.served d t was)
    · exact answered.still (if_neg own) rfl (AList.lookup_insert_ne (Ne.symm own))
  | unheard => exact answered.still rfl rfl rfl
  | @picked d t m rest was writer queue none =>
    refine answered.put rfl rfl was (fun _ => ⟨writer, ?_⟩) ?_ fun isEarly => isEarly
    · rw [Served.unwritten, Served.unwritten, queue, none]
      rfl
    · rw [queue]
      exact Nat.le_succ _
  | @wrote d t m was writer inFlight =>
    by_cases own : d = id
    · subst own
      exact answered.write was writer inFlight
    · exact answered.still rfl (if_neg own) (AList.lookup_insert_ne (Ne.symm own))
  | @broke d t was =>
    exact answered.put rfl rfl was nofun (Nat.zero_le _) fun isEarly => isEarly

/-- **Replies are written in order.**  What is written to a connection is a first part of what
its handle has queued, in its order and each message once.  While its send task runs, the rest
waits: at most 32 messages, and the one that is being written. -/
theorem replies_in_order (run : (signalingServer parse capacity).Run past s)
    (few : (accepted past).length < UInt64.size) (id : ConnectionId) :
    written id past <+: (replied id past).map SignalingMessage.serialize ∧
      ∀ t, s.tasks.lookup id = some t → t.replies.length ≤ replyCapacity ∧
        (t.writer = true → written id past ++ t.unwritten.map SignalingMessage.serialize =
          (replied id past).map SignalingMessage.serialize) := by
  obtain ⟨-, answered⟩ := invariant_of_run (I := Answered id) Answered.start
    (fun _ _ counted few does answered => answered.step counted few does) run few
  exact ⟨answered.begins, fun t was => ⟨answered.small t was, answered.whole t was⟩⟩

theorem replies_in_order_visit :
    replied ⟨1⟩ visitedPast = [.pong 7 9] ∧
      written ⟨1⟩ visitedPast <+: (replied ⟨1⟩ visitedPast).map SignalingMessage.serialize :=
  ⟨by decide, (replies_in_order visited_run (by decide) ⟨1⟩).1⟩

end Replies

end Runs

end OpenPlay
