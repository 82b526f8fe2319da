import OpenPlay.Protocol.Message

/-!
# Connections

The server's view of one sender: an id handed out by the accept loop, and the
handle its replies go through.  A connection has one reply channel, so a handle
is determined by the connection it writes to.
-/

namespace OpenPlay

/-- Identifies one sender connection for the life of that connection. -/
structure ConnectionId where
  val : UInt64
deriving DecidableEq, Repr

/-- Sends messages back to one connected sender. -/
structure ConnectionHandle where
  id : ConnectionId
deriving DecidableEq, Repr

/-- One message from one sender, with the handle to answer it.  `serve_connection`
builds both from the same connection, which is the field `reply_id`. -/
structure IncomingMessage where
  message : SignalingMessage
  reply : ConnectionHandle
  connection : ConnectionId
  reply_id : reply.id = connection

/-- A message as `serve_connection` hands it on. -/
def IncomingMessage.from (connection : ConnectionId) (message : SignalingMessage) :
    IncomingMessage where
  message := message
  reply := ⟨connection⟩
  connection := connection
  reply_id := rfl

/-- How long an established connection may stay silent before it is closed, in
milliseconds. -/
def idleTimeout : Nat := 120 * 1000

end OpenPlay
