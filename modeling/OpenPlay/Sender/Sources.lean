import OpenPlay.Crypto.Fingerprint
import OpenPlay.Discovery.Address
import OpenPlay.Sender.Lost

/-!
# Where Miracast receivers come from

Two tasks report Miracast receivers: the browser of `miracast_browser.rs`, which has them
from mDNS, and the forwarder of `app.rs`, which has them from the Wi-Fi Direct manager.
Both send the same event, and `poll_discovery` tells them apart by the text of
`device_info`.

* `MiracastSource.event`: what either task makes of what it finds
* `classified_iff`: when the receiver is classified by its source
-/

namespace OpenPlay.Sender

/-! ## mDNS -/

/-- A TXT property: `key()` and `val_str()`. -/
structure TxtProperty where
  key : List Char
  valStr : List Char
deriving DecidableEq

/-- A resolved service, with its addresses in some order. -/
structure ServiceInfo where
  fullname : List Char
  properties : List TxtProperty
  addresses : List IpAddr
  port : UInt16
deriving DecidableEq

/-- The property describes the device.  No character outside ASCII becomes, in lower case,
a part of these words. -/
def TxtProperty.isDeviceInfo (p : TxtProperty) : Bool :=
  ["model", "manufacturer", "deviceinfo", "fn"].any fun word =>
    p.key.map Char.toLower == word.toList

/-- What `run_browser_thread` reports of a resolved service. -/
def ServiceInfo.receiverInfo (info : ServiceInfo) : MiracastReceiverInfo where
  name := info.fullname
  displayName := info.fullname.takeWhile (· ≠ '.')
  addresses := sortByConnectability info.addresses
  port := if info.port = 0 then 7236 else info.port
  deviceInfo := ((info.properties.find? TxtProperty.isDeviceInfo).map TxtProperty.valStr).getD []

/-! ## Wi-Fi Direct -/

/-- What the D-Bus says of a peer: the properties that can be read, and its object path. -/
structure PeerObject where
  deviceName : Option (List Char)
  deviceAddress : Option (List UInt8)
  path : List Char
deriving DecidableEq

/-- The part of an object path after its last slash. -/
def lastSegment (path : List Char) : List Char := (path.splitOn '/').getLastD []

/-- Two and two digits with colons between. -/
def colonPairs : List Char → List Char
  | a :: b :: c :: rest => a :: b :: ':' :: colonPairs (c :: rest)
  | rest => rest

/-- `extract_mac_from_path`. -/
def extractMacFromPath (path : List Char) : List Char :=
  let last := lastSegment path
  if '_' ∈ last then last.map fun c => if c = '_' then ':' else c
  else if (Utf8.encode last).length = 12 ∧ last.all Crypto.isAsciiHexdigit = true then
    colonPairs last
  else last

/-- The device address of `get_peer_info`. -/
def PeerObject.macAddress (peer : PeerObject) : List Char :=
  match peer.deviceAddress with
  | some [a, b, c, d, e, f] =>
      [':'].intercalate ([a, b, c, d, e, f].map fun octet =>
        (Text.paddedDigits 16 2 octet.toNat).map Char.toLower)
  | _ => extractMacFromPath peer.path

/-- The device name of `get_peer_info`. -/
def PeerObject.name (peer : PeerObject) : List Char := peer.deviceName.getD "Unknown".toList

/-! ## Both -/

/-- What a Found event of a Miracast receiver was made of. -/
inductive MiracastSource
  | mdns (service : ServiceInfo)
  | wifiDirect (peer : PeerObject)
deriving DecidableEq

def MiracastSource.event : MiracastSource → DiscoveryEvent
  | mdns service => .miracastReceiverFound service.receiverInfo
  | wifiDirect peer => peerFound peer.name peer.macAddress

/-- `poll_discovery` adds the receiver. -/
def Lists (event : DiscoveryEvent) (r : MiracastReceiver) : Prop :=
  ∀ x : ReceiverList, x.discover event = x.add (.miracast r)

/-- A service of mDNS is listed with the first of its sorted addresses and its port, which
is 7236 if it has none; a peer of Wi-Fi Direct with its device address. -/
def MiracastSource.ClassifiedBySource : MiracastSource → Prop
  | mdns service => ∃ addr,
      Lists (mdns service).event
          ⟨service.fullname.takeWhile (· ≠ '.'),
            .infrastructure addr (if service.port = 0 then 7236 else service.port)⟩ ∧
        ∀ first, (sortByConnectability service.addresses).head? = some first → addr = first
  | wifiDirect peer =>
      Lists (wifiDirect peer).event ⟨peer.name, .wifiDirect peer.macAddress⟩

/-- What `poll_discovery` takes for a MAC address. -/
def LooksLikeMac (text : List Char) : Prop := ':' ∈ text ∧ (Utf8.encode text).length = 17

/-- The first describing property of a service does not look like a MAC address; the
address of a peer can be read, or its object path ends in one. -/
def MiracastSource.Recognizable : MiracastSource → Prop
  | mdns service => ∀ p, service.properties.find? TxtProperty.isDeviceInfo = some p →
      ¬ LooksLikeMac p.valStr
  | wifiDirect peer => (∃ octets, peer.deviceAddress = some octets ∧ octets.length = 6) ∨
      let last := lastSegment peer.path
      (Utf8.encode last).length = 17 ∧ ('_' ∈ last ∨ ':' ∈ last) ∨
        (Utf8.encode last).length = 12 ∧ ∀ c ∈ last, Crypto.isAsciiHexdigit c = true

/-! ## What is added -/

theorem lookup_add_empty (r : DiscoveredReceiver) (k : Key) :
    (ReceiverList.empty.add r).receivers.lookup k = if k = r.key then some r else none := by
  rw [ReceiverList.lookup_add]
  by_cases same : k = r.key
  · rw [if_pos ⟨same, AList.notMem_empty _⟩, if_pos same]
  · rw [if_neg fun h => same h.1, if_neg same]
    rfl

/-- An event lists the one receiver that is made of it. -/
theorem lists_iff {info : MiracastReceiverInfo} {r : MiracastReceiver} :
    Lists (.miracastReceiverFound info) r ↔ .ofMiracast info = DiscoveredReceiver.miracast r := by
  constructor
  · intro lists
    have listed : ReceiverList.empty.add (.ofMiracast info) = ReceiverList.empty.add (.miracast r) :=
      lists .empty
    have found := lookup_add_empty (.ofMiracast info) (DiscoveredReceiver.ofMiracast info).key
    rw [if_pos rfl, listed, lookup_add_empty] at found
    split_ifs at found
    exact (Option.some.inj found).symm
  · intro same x
    rw [← same]
    rfl

theorem ofMiracast_of_looksLikeMac {info : MiracastReceiverInfo}
    (mac : LooksLikeMac info.deviceInfo) : DiscoveredReceiver.ofMiracast info =
      .miracast ⟨info.displayName, .wifiDirect info.deviceInfo⟩ := by
  simp only [DiscoveredReceiver.ofMiracast, if_pos (show _ ∧ _ from mac)]

theorem ofMiracast_of_not_looksLikeMac {info : MiracastReceiverInfo}
    (other : ¬ LooksLikeMac info.deviceInfo) : DiscoveredReceiver.ofMiracast info =
      .miracast ⟨info.displayName,
        .infrastructure (info.addresses.head?.getD (.v4 .unspecified)) info.port⟩ := by
  simp only [DiscoveredReceiver.ofMiracast, if_neg (show ¬ (_ ∧ _) from other)]

theorem looksLikeMac_deviceInfo_iff {service : ServiceInfo} :
    LooksLikeMac service.receiverInfo.deviceInfo ↔
      ∃ p, service.properties.find? TxtProperty.isDeviceInfo = some p ∧ LooksLikeMac p.valStr := by
  unfold ServiceInfo.receiverInfo
  cases service.properties.find? TxtProperty.isDeviceInfo with
  | none => simp [LooksLikeMac]
  | some p => simp

theorem mdns_classified_iff {service : ServiceInfo} :
    (MiracastSource.mdns service).ClassifiedBySource ↔
      ¬ LooksLikeMac service.receiverInfo.deviceInfo := by
  constructor
  · rintro ⟨addr, lists, _⟩ mac
    have same := lists_iff.mp lists
    rw [ofMiracast_of_looksLikeMac mac] at same
    simp at same
  · intro other
    refine ⟨_, lists_iff.mpr (ofMiracast_of_not_looksLikeMac other), ?_⟩
    intro first found
    rw [ServiceInfo.receiverInfo, found]
    rfl

theorem peer_classified_iff {peer : PeerObject} :
    (MiracastSource.wifiDirect peer).ClassifiedBySource ↔ LooksLikeMac peer.macAddress := by
  constructor
  · intro lists
    by_contra other
    have same := lists_iff.mp lists
    rw [ofMiracast_of_not_looksLikeMac other] at same
    simp at same
  · intro mac
    exact lists_iff.mpr (ofMiracast_of_looksLikeMac mac)

/-! ## The addresses of peers -/

/-- Colons for underscores. -/
theorem looksLikeMac_map_iff (last : List Char) :
    LooksLikeMac (last.map fun c => if c = '_' then ':' else c) ↔
      (Utf8.encode last).length = 17 ∧ ('_' ∈ last ∨ ':' ∈ last) := by
  have length : (Utf8.encode (last.map fun c => if c = '_' then ':' else c)).length =
      (Utf8.encode last).length := by
    induction last with
    | nil => rfl
    | cons c rest ih =>
        rw [List.map_cons, Utf8.length_encode_cons, Utf8.length_encode_cons, ih]
        split_ifs with underscore
        · rw [underscore]
          rfl
        · rfl
  have colon : ':' ∈ (last.map fun c => if c = '_' then ':' else c) ↔
      '_' ∈ last ∨ ':' ∈ last := by
    have becomes : ∀ c : Char, (if c = '_' then ':' else c) = ':' ↔ c = '_' ∨ c = ':' := by
      intro c
      split_ifs with underscore
      · simp [underscore]
      · simp [underscore]
    simp [List.mem_map, becomes, and_or_left, exists_or]
  rw [LooksLikeMac, length, colon, and_comm]

/-- Two digits of a byte in lower case. -/
theorem length_octetText (octet : UInt8) :
    (Utf8.encode ((Text.paddedDigits 16 2 octet.toNat).map Char.toLower)).length = 2 := by
  rw [Utf8.length_encode_ascii, List.length_map]
  · exact Text.length_paddedDigits (by decide) (by decide) octet.toNat_lt
  · intro c mem
    obtain ⟨d, digit, rfl⟩ := List.mem_map.mp mem
    obtain ⟨k, small, rfl⟩ := Text.exists_digit_of_mem_padded (by decide) digit
    have ascii : ∀ k < 16, Utf8.IsAscii (Text.digitChar k).toLower := by decide
    exact ascii k small

theorem looksLikeMac_octets (a b c d e f : UInt8) :
    LooksLikeMac ([':'].intercalate ([a, b, c, d, e, f].map fun octet =>
      (Text.paddedDigits 16 2 octet.toNat).map Char.toLower)) := by
  constructor
  · simp [List.intercalate, List.intersperse]
  · have colon : ':'.utf8Size = 1 := rfl
    simp [List.intercalate, List.intersperse, length_octetText, colon]

theorem isAscii_of_isAsciiHexdigit {c : Char} (h : Crypto.isAsciiHexdigit c = true) :
    Utf8.IsAscii c := by
  simp only [Crypto.isAsciiHexdigit, decide_eq_true_eq, Char.le_def,
    UInt32.le_iff_toNat_le] at h
  rw [Utf8.IsAscii, UInt32.lt_iff_toNat_lt]
  have bounds : '9'.val.toNat = 57 ∧ 'F'.val.toNat = 70 ∧ 'f'.val.toNat = 102 := by decide
  have limit : (128 : UInt32).toNat = 128 := rfl
  omega

/-- Twelve digits, which are a MAC address without its colons. -/
theorem looksLikeMac_colonPairs {last : List Char} (twelve : (Utf8.encode last).length = 12)
    (hex : ∀ c ∈ last, Crypto.isAsciiHexdigit c = true) : LooksLikeMac (colonPairs last) := by
  have ascii : ∀ c ∈ last, Utf8.IsAscii c := fun c mem => isAscii_of_isAsciiHexdigit (hex c mem)
  rw [Utf8.length_encode_ascii ascii] at twelve
  match last, twelve with
  | [a, b, c, d, e, f, g, h, i, j, k, l], _ =>
      have colon : Utf8.IsAscii ':' := by decide
      constructor
      · simp [colonPairs]
      · rw [Utf8.length_encode_ascii]
        · rfl
        · simpa [colonPairs, colon] using ascii

/-- An object path that ends in what looks like a MAC address. -/
theorem looksLikeMac_extractMacFromPath_iff (path : List Char) :
    LooksLikeMac (extractMacFromPath path) ↔
      (Utf8.encode (lastSegment path)).length = 17 ∧
          ('_' ∈ lastSegment path ∨ ':' ∈ lastSegment path) ∨
        (Utf8.encode (lastSegment path)).length = 12 ∧
          ∀ c ∈ lastSegment path, Crypto.isAsciiHexdigit c = true := by
  unfold extractMacFromPath
  simp only [List.all_eq_true]
  split_ifs with underscore hex
  · have other : ¬ ∀ c ∈ lastSegment path, Crypto.isAsciiHexdigit c = true := by
      intro hex
      exact absurd (hex _ underscore) (by decide)
    rw [looksLikeMac_map_iff]
    exact (or_iff_left fun h => other h.2).symm
  · exact iff_of_true (looksLikeMac_colonPairs hex.1 hex.2) (Or.inr hex)
  · rw [or_iff_left hex, or_iff_right underscore, and_comm]
    rfl

theorem looksLikeMac_macAddress_iff (peer : PeerObject) :
    LooksLikeMac peer.macAddress ↔ (MiracastSource.wifiDirect peer).Recognizable := by
  unfold PeerObject.macAddress
  split
  · rename_i a b c d e f read
    exact iff_of_true (looksLikeMac_octets a b c d e f) (Or.inl ⟨_, read, rfl⟩)
  · rename_i unread
    refine (looksLikeMac_extractMacFromPath_iff peer.path).trans (or_iff_right ?_).symm
    rintro ⟨octets, read, six⟩
    match octets, six with
    | [a, b, c, d, e, f], _ => exact unread a b c d e f read

/-! ## Classified by source -/

/-- **Classified by source.**  A Miracast receiver is classified by the task that found it,
exactly when its TXT record does not look like a MAC address and the address of its peer
does. -/
theorem classified_iff (source : MiracastSource) :
    source.ClassifiedBySource ↔ source.Recognizable := by
  cases source with
  | mdns service =>
      rw [mdns_classified_iff, looksLikeMac_deviceInfo_iff]
      simp [MiracastSource.Recognizable]
  | wifiDirect peer => rw [peer_classified_iff, looksLikeMac_macAddress_iff]

/-- A television that calls itself by a name of seventeen bytes. -/
def namedTelevision : ServiceInfo where
  fullname := "TV._display._tcp.local.".toList
  properties := [⟨"fn".toList, "TV: Conference 04".toList⟩]
  addresses := [.v4 ⟨192, 168, 1, 5⟩]
  port := 7236

theorem named_television_misclassified :
    ¬ ∀ source : MiracastSource, source.ClassifiedBySource := by
  intro all
  have other := mdns_classified_iff.mp (all (.mdns namedTelevision))
  exact other ⟨by decide, by decide⟩

end OpenPlay.Sender
