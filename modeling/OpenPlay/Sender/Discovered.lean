import OpenPlay.Common.Config
import OpenPlay.Foundation.Utf8
import OpenPlay.Sender.Pinned

/-!
# Receivers

What discovery reports and what the sender makes of it: `DiscoveryEvent`, and
`DiscoveredReceiver` of `receiver_list.rs`.  A receiver is listed under its `key()`; the
events call the service by its name, and the two need not agree.

`castTarget` is what `start_cast` does with a receiver: the task it spawns, or the
complaint.
-/

namespace OpenPlay.Sender

/-! ## Events -/

structure ReceiverInfo where
  name : List Char
  displayName : List Char
  /-- Most connectable first. -/
  addresses : List IpAddr
  port : UInt16
  fingerprint : List Char
deriving DecidableEq

structure AirPlayReceiverInfo where
  name : List Char
  displayName : List Char
  addresses : List IpAddr
  port : UInt16
deriving DecidableEq

structure MiracastReceiverInfo where
  name : List Char
  displayName : List Char
  addresses : List IpAddr
  port : UInt16
  deviceInfo : List Char
deriving DecidableEq

inductive DiscoveryEvent
  | receiverFound (info : ReceiverInfo)
  | receiverLost (name : List Char)
  | airPlayReceiverFound (info : AirPlayReceiverInfo)
  | airPlayReceiverLost (name : List Char)
  | miracastReceiverFound (info : MiracastReceiverInfo)
  | miracastReceiverLost (name : List Char)
deriving DecidableEq

/-! ## Receivers -/

inductive Protocol
  | openPlay
  | airPlay
  | miracast
deriving DecidableEq, Repr

inductive MiracastMode
  | infrastructure (addr : IpAddr) (port : UInt16)
  | wifiDirect (deviceAddress : List Char)
deriving DecidableEq

structure MiracastReceiver where
  displayName : List Char
  mode : MiracastMode
deriving DecidableEq

inductive DiscoveredReceiver
  | openPlay (info : ReceiverInfo)
  | airPlay (info : AirPlayReceiverInfo)
  | miracast (receiver : MiracastReceiver)
deriving DecidableEq

namespace DiscoveredReceiver

/-- `DiscoveredReceiver::protocol`. -/
def protocol : DiscoveredReceiver → Protocol
  | openPlay _ => .openPlay
  | airPlay _ => .airPlay
  | miracast _ => .miracast

/-- `DiscoveredReceiver::fingerprint`. -/
def fingerprint : DiscoveredReceiver → Option (List Char)
  | openPlay r => some r.fingerprint
  | airPlay _ => none
  | miracast _ => none

/-- `DiscoveredReceiver::addr`. -/
def addr : DiscoveredReceiver → Option SocketAddr
  | openPlay r => r.addresses.head?.map fun ip => ⟨ip, r.port⟩
  | airPlay r => r.addresses.head?.map fun ip => ⟨ip, r.port⟩
  | miracast r =>
      match r.mode with
      | .infrastructure ip port => some ⟨ip, port⟩
      | .wifiDirect _ => none

/-- `DiscoveredReceiver::addrs`. -/
def addrs : DiscoveredReceiver → List SocketAddr
  | openPlay r => r.addresses.map fun ip => ⟨ip, r.port⟩
  | airPlay r => r.addresses.map fun ip => ⟨ip, r.port⟩
  | miracast r => (miracast r).addr.toList

/-- `DiscoveredReceiver::wifi_direct_address`. -/
def wifiDirectAddress : DiscoveredReceiver → Option (List Char)
  | miracast ⟨_, .wifiDirect deviceAddress⟩ => some deviceAddress
  | _ => none

/-- `DiscoveredReceiver::is_wifi_direct`. -/
def isWifiDirect (r : DiscoveredReceiver) : Bool := r.wifiDirectAddress.isSome

/-- `DiscoveredReceiver::key`. -/
def key : DiscoveredReceiver → List Char
  | openPlay r => r.name
  | airPlay r => r.name
  | miracast r =>
      match r.mode with
      | .infrastructure ip _ => "miracast-".toList ++ ip.toText
      | .wifiDirect deviceAddress => "miracast-p2p-".toList ++ deviceAddress

/-- What `poll_discovery` makes of a Miracast sink: device information that looks like a
MAC address says that it is one of Wi-Fi Direct. -/
def ofMiracast (info : MiracastReceiverInfo) : DiscoveredReceiver :=
  let addr := info.addresses.head?.getD (.v4 .unspecified)
  .miracast ⟨info.displayName,
    if ':' ∈ info.deviceInfo ∧ (Utf8.encode info.deviceInfo).length = 17 then
      .wifiDirect info.deviceInfo
    else .infrastructure addr info.port⟩

end DiscoveredReceiver

/-! ## What is cast to -/

/-- The task that `start_cast` spawns. -/
inductive CastTarget
  | airPlay (addr : SocketAddr)
  | miracast (addr : SocketAddr)
  | miracastP2p (mac : List Char)
  | openPlay (target : OpenPlayTarget)
deriving DecidableEq

/-- The branches of `start_cast`. -/
def castTarget (displayName : String) (receiver : DiscoveredReceiver) :
    Except String CastTarget :=
  match receiver.protocol with
  | .airPlay =>
      match receiver.addr with
      | none => .error "Receiver has no reachable address"
      | some addr => .ok (.airPlay addr)
  | .miracast =>
      match receiver.wifiDirectAddress with
      | some mac => .ok (.miracastP2p mac)
      | none =>
          match receiver.addr with
          | none => .error "Receiver has no reachable address"
          | some addr => .ok (.miracast addr)
  | .openPlay =>
      match receiver.addrs.head?, receiver.fingerprint with
      | some _, some fingerprint => .ok (.openPlay ⟨receiver.addrs, fingerprint, displayName⟩)
      | none, _ => .error "Receiver has no reachable address"
      | _, none => .error
          "Receiver did not publish a certificate fingerprint — cannot connect safely"

/-- Where a cast goes: the protocol, with the primary address or the Wi-Fi Direct one. -/
structure DialTarget where
  protocol : Protocol
  addr : Option SocketAddr
  wifiDirectAddress : Option (List Char)
deriving DecidableEq

def DiscoveredReceiver.dialTarget (r : DiscoveredReceiver) : DialTarget :=
  ⟨r.protocol, r.addr, r.wifiDirectAddress⟩

/-- Where the spawned task goes. -/
def CastTarget.dialTarget : CastTarget → DialTarget
  | airPlay addr => ⟨.airPlay, some addr, none⟩
  | miracast addr => ⟨.miracast, some addr, none⟩
  | miracastP2p mac => ⟨.miracast, none, some mac⟩
  | openPlay target => ⟨.openPlay, target.addrs.head?, none⟩

/-- **A cast goes where its receiver is**, or is refused because that is nowhere. -/
theorem dialTarget_castTarget (displayName : String) (r : DiscoveredReceiver) :
    (∃ target, castTarget displayName r = .ok target ∧ target.dialTarget = r.dialTarget) ∨
      castTarget displayName r = .error "Receiver has no reachable address" ∧
        r.addr = none ∧ r.wifiDirectAddress = none := by
  cases r with
  | openPlay info =>
      obtain ⟨name, shown, addresses, port, fingerprint⟩ := info
      cases addresses with
      | nil => exact Or.inr ⟨rfl, rfl, rfl⟩
      | cons ip rest => exact Or.inl ⟨_, rfl, rfl⟩
  | airPlay info =>
      obtain ⟨name, shown, addresses, port⟩ := info
      cases addresses with
      | nil => exact Or.inr ⟨rfl, rfl, rfl⟩
      | cons ip rest => exact Or.inl ⟨_, rfl, rfl⟩
  | miracast receiver =>
      obtain ⟨shown, mode⟩ := receiver
      cases mode <;> exact Or.inl ⟨_, rfl, rfl⟩

/-! ## Manual entries -/

/-- `INVALID_PORT_MSG`. -/
def invalidPortMsg : String := "Invalid port — expected 1-65535"

/-- `parse_port`. -/
def parsePort (raw : List Char) : Option UInt16 :=
  match Text.parseUnsigned 10 65536 (Text.trim isWhitespace raw) with
  | none => none
  | some 0 => none
  | some port => some (UInt16.ofNat port)

/-- The Add button of the AirPlay dialog: the entry, or the complaint. -/
def manualAirplay (name ip port : List Char) : Except String DiscoveredReceiver :=
  match IpAddr.fromStr ip, parsePort port with
  | some addr, some port =>
      .ok (.airPlay
        { name := "manual-airplay-".toList ++ addr.toText
          displayName := if name.isEmpty then ip else name
          addresses := [addr]
          port := port })
  | none, _ => .error "Invalid IP address"
  | _, none => .error invalidPortMsg

/-- The Add button of the Miracast dialog. -/
def manualMiracast (name addr port : List Char) (isP2p : Bool) :
    Except String DiscoveredReceiver :=
  let displayName := if name.isEmpty then addr else name
  if isP2p then
    if 11 ≤ (Utf8.encode addr).length ∧ ':' ∈ addr then
      .ok (.miracast ⟨displayName, .wifiDirect addr⟩)
    else .error "Invalid MAC address"
  else
    match IpAddr.fromStr addr, parsePort port with
    | some ip, some port => .ok (.miracast ⟨displayName, .infrastructure ip port⟩)
    | none, _ => .error "Invalid IP address"
    | _, none => .error invalidPortMsg

end OpenPlay.Sender
