import OpenPlay.Pipeline.WebRtc

/-!
# A peer and its event channel

`WebRtcPeer` of `openplay-pipeline`'s `webrtc.rs`, as far as it reports.  All its
reporting is done in callbacks, which `webrtcbin` runs on threads of its own, so any
of them may run between two steps of another.  `request_description` takes two such
steps: its promise is answered and the description is set as the local one
(`PeerAction.reply`), and later the description is put on the channel
(`PeerAction.publish`).

Of `webrtcbin` itself the model says one thing: no candidate is reported before
`set-local-description` has been emitted.
-/

namespace OpenPlay

/-- Which half of the offer/answer exchange this peer performs. -/
inductive Role
  | offerer
  | answerer
deriving DecidableEq, Repr

/-- The field of the promise's reply. -/
def SdpKind.field : SdpKind → String
  | .offer => "offer"
  | .answer => "answer"

inductive IceGatheringState
  | new
  | gathering
  | complete
deriving DecidableEq, Repr

inductive PeerConnectionState
  | new
  | connecting
  | connected
  | disconnected
  | failed
  | closed
deriving DecidableEq, Repr

/-- The event a connection state is reported as. -/
def PeerConnectionState.event : PeerConnectionState → Option WebRtcEvent
  | .connected => some .connected
  | .disconnected => some .disconnected
  | .failed => some (.failed "Peer connection failed")
  | .closed => some (.failed "Peer connection closed")
  | _ => none

/-- How the promise of a `create-offer` or `create-answer` is answered. -/
inductive PromiseReply
  /-- With a description; `text` is what `as_text` will make of it. -/
  | description (text : Except String String)
  | empty
  | failed (error : String)
  /-- With a reply that lacks the description. -/
  | missing (error : String)

/-- A peer, and the channel `new` gave it. -/
structure PeerChannel where
  role : Role
  /-- The promises that have not been answered. -/
  promised : List SdpKind
  /-- The descriptions that are set as the local one and not reported yet. -/
  unpublished : List (SdpKind × Except String String)
  /-- `set-local-description` has been emitted. -/
  committed : Bool
  /-- The events on the channel. -/
  events : List WebRtcEvent
  /-- The events that were taken off the channel; the code keeps no record of them. -/
  received : List WebRtcEvent

inductive PeerAction
  /-- `on-negotiation-needed` fires. -/
  | negotiationNeeded
  /-- The promise in place `i` is answered. -/
  | reply (i : Nat) (reply : PromiseReply)
  /-- The description in place `i` is reported. -/
  | publish (i : Nat)
  /-- `on-ice-candidate` fires. -/
  | iceCandidate (sdpMlineIndex : UInt32) (candidate : String)
  | gatheringState (state : IceGatheringState)
  | connectionState (state : PeerConnectionState)

namespace PeerChannel

/-- `WebRtcPeer::new`. -/
def new (role : Role) : PeerChannel := ⟨role, [], [], false, [], []⟩

/-- `UnboundedSender::send`. -/
def send (p : PeerChannel) (event : WebRtcEvent) : PeerChannel :=
  { p with events := p.events ++ [event] }

/-- `UnboundedReceiver::recv`. -/
def recv (p : PeerChannel) : Option (WebRtcEvent × PeerChannel) :=
  match p.events with
  | event :: rest => some (event, { p with events := rest, received := p.received ++ [event] })
  | [] => none

/-- `request_description`, up to the promise. -/
def requestDescription (p : PeerChannel) (kind : SdpKind) : PeerChannel :=
  { p with promised := p.promised ++ [kind] }

/-- The closure of the promise, up to `set-local-description`. -/
def answerPromise (p : PeerChannel) (kind : SdpKind) (reply : PromiseReply) : PeerChannel :=
  let field := kind.field
  match reply with
  | .empty => p.send (.failed s!"create-{field} returned an empty reply")
  | .failed e => p.send (.failed s!"create-{field} failed: {e}")
  | .missing e => p.send (.failed s!"create-{field} reply had no {field}: {e}")
  | .description text =>
      { p with committed := true, unpublished := p.unpublished ++ [(kind, text)] }

/-- The rest of the closure. -/
def publish (p : PeerChannel) (kind : SdpKind) (text : Except String String) : PeerChannel :=
  let field := kind.field
  match text with
  | .ok sdp => p.send (.localDescription kind sdp)
  | .error e => p.send (.failed s!"Could not serialize the local {field}: {e}")

def step (p : PeerChannel) : PeerAction → Option PeerChannel
  | .negotiationNeeded =>
      some (if p.role ≠ .offerer then p else p.requestDescription .offer)
  | .reply i reply =>
      p.promised[i]?.map fun kind =>
        { p with promised := p.promised.eraseIdx i }.answerPromise kind reply
  | .publish i =>
      p.unpublished[i]?.map fun described =>
        { p with unpublished := p.unpublished.eraseIdx i }.publish described.1 described.2
  | .iceCandidate sdpMlineIndex candidate =>
      if p.committed then some (p.send (.iceCandidate sdpMlineIndex candidate)) else none
  | .gatheringState state =>
      some (if state = .complete then p.send .iceGatheringComplete else p)
  | .connectionState state =>
      some (match state.event with
        | some event => p.send event
        | none => p)

/-! ## What a callback does -/

variable {p p' : PeerChannel} {action : PeerAction} {event : WebRtcEvent}

@[simp] theorem answerPromise_received (p : PeerChannel) (kind : SdpKind)
    (reply : PromiseReply) : (p.answerPromise kind reply).received = p.received := by
  cases reply <;> rfl

@[simp] theorem publish_received (p : PeerChannel) (kind : SdpKind)
    (text : Except String String) : (p.publish kind text).received = p.received := by
  cases text <;> rfl

/-- No callback takes an event off the channel. -/
theorem received_of_step (stepped : p.step action = some p') : p'.received = p.received := by
  cases action with
  | negotiationNeeded =>
      cases stepped
      split <;> rfl
  | reply i reply =>
      obtain ⟨kind, -, rfl⟩ := Option.map_eq_some_iff.mp stepped
      exact answerPromise_received _ kind reply
  | publish i =>
      obtain ⟨described, -, rfl⟩ := Option.map_eq_some_iff.mp stepped
      exact publish_received _ described.1 described.2
  | iceCandidate sdpMlineIndex candidate =>
      rw [step] at stepped
      split at stepped
      · cases stepped
        rfl
      · cases stepped
  | gatheringState state =>
      cases stepped
      split <;> rfl
  | connectionState state =>
      cases stepped
      split <;> rfl

theorem received_of_recv (h : p.recv = some (event, p')) :
    p'.received = p.received ++ [event] := by
  unfold recv at h
  split at h
  · cases h
    rfl
  · cases h

theorem head_of_recv (h : p.recv = some (event, p')) : p.events.head? = some event := by
  unfold recv at h
  split at h
  · rename_i queue
    cases h
    rw [queue]
    rfl
  · cases h

end PeerChannel

end OpenPlay
