/-!
# Media types

What the session layer sees of GStreamer: the events a `webrtcbin` reports on
the channel, and decoded frames.  The pipelines themselves are outside the
model; the results of the calls into them are inputs.
-/

namespace OpenPlay

inductive SdpKind
  | offer
  | answer
deriving DecidableEq, Repr

/-- Everything the session layer reports upward. -/
inductive WebRtcEvent
  | localDescription (kind : SdpKind) (sdp : String)
  | iceCandidate (sdpMlineIndex : UInt32) (candidate : String)
  | iceGatheringComplete
  | connected
  | failed (reason : String)
  | disconnected
deriving DecidableEq, Repr

/-- One decoded frame, packed tightly as RGBA. -/
structure VideoFrame where
  width : UInt32
  height : UInt32
  rgba : List UInt8
deriving DecidableEq, Repr

end OpenPlay
