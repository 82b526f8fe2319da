import OpenPlay.Foundation.Text

/-!
# Addresses

`IpAddr` and `SocketAddr` of the standard library as the sender uses them: `Display`,
which its keys and error texts are made of, and `FromStr`, which reads what a user types.
-/

namespace OpenPlay

structure Ipv4Addr where
  a : UInt8
  b : UInt8
  c : UInt8
  d : UInt8
deriving DecidableEq, Repr

structure Ipv6Addr where
  segments : Vector UInt16 8
deriving DecidableEq, Repr

inductive IpAddr
  | v4 (addr : Ipv4Addr)
  | v6 (addr : Ipv6Addr)
deriving DecidableEq, Repr

/-- A `SocketAddr` as `SocketAddr::new` makes it. -/
structure SocketAddr where
  ip : IpAddr
  port : UInt16
deriving DecidableEq, Repr

/-- `Ipv4Addr::UNSPECIFIED`. -/
def Ipv4Addr.unspecified : Ipv4Addr := ⟨0, 0, 0, 0⟩

/-! ## `Display` -/

def Ipv4Addr.toText (ip : Ipv4Addr) : List Char :=
  ['.'].intercalate ([ip.a, ip.b, ip.c, ip.d].map fun octet => Text.digits 10 octet.toNat)

/-- A group of an IPv6 address, in lower case and without zeros in front. -/
def groupText (segment : UInt16) : List Char :=
  (Text.digits 16 segment.toNat).map Char.toLower

def groupsText (segments : List UInt16) : List Char := [':'].intercalate (segments.map groupText)

/-- The zeros at the front of some groups. -/
def leadingZeros (segments : List UInt16) : Nat := (segments.takeWhile (· = 0)).length

/-- Where the first of the longest runs of zeros begins, and its length. -/
def longestZeros (segments : List UInt16) : Nat × Nat :=
  (List.range segments.length).foldl
    (fun longest start =>
      let run := leadingZeros (segments.drop start)
      if longest.2 < run then (start, run) else longest)
    (0, 0)

def Ipv6Addr.toText (ip : Ipv6Addr) : List Char :=
  let segments := ip.segments.toList
  match segments with
  -- `to_ipv4_mapped`
  | [0, 0, 0, 0, 0, 0xffff, high, low] =>
      "::ffff:".toList ++ Ipv4Addr.toText ⟨(high >>> 8).toUInt8, high.toUInt8,
        (low >>> 8).toUInt8, low.toUInt8⟩
  | _ =>
      let zeros := longestZeros segments
      if 1 < zeros.2 then
        groupsText (segments.take zeros.1) ++ [':', ':'] ++
          groupsText (segments.drop (zeros.1 + zeros.2))
      else groupsText segments

def IpAddr.toText : IpAddr → List Char
  | v4 ip => ip.toText
  | v6 ip => ip.toText

def SocketAddr.toText (addr : SocketAddr) : List Char :=
  match addr.ip with
  | .v4 ip => ip.toText ++ ':' :: Text.digits 10 addr.port.toNat
  | .v6 ip => '[' :: ip.toText ++ ']' :: ':' :: Text.digits 10 addr.port.toNat

/-! ## `FromStr` -/

/-- An octet: up to three digits, with no zero in front of another digit. -/
def parseOctet (text : List Char) : Option UInt8 :=
  if text.all Char.isDigit ∧ text.length ≤ 3 ∧ (text.head? = some '0' → text.length = 1) then
    (Text.parseUnsigned 10 256 text).map UInt8.ofNat
  else none

def Ipv4Addr.fromStr (text : List Char) : Option Ipv4Addr :=
  match (text.splitOn '.').mapM parseOctet with
  | some [a, b, c, d] => some ⟨a, b, c, d⟩
  | _ => none

/-- A group: up to four digits. -/
def parseGroup (text : List Char) : Option UInt16 :=
  if text.length ≤ 4 ∧ text.head? ≠ some '+' then
    (Text.parseUnsigned 16 65536 text).map UInt16.ofNat
  else none

def parseGroups (text : List Char) : Option (List UInt16) :=
  if text = [] then some [] else (text.splitOn ':').mapM parseGroup

/-- Groups of which the last two may be written as an IPv4 address. -/
def parseLastGroups (text : List Char) : Option (List UInt16) :=
  let pieces := text.splitOn ':'
  match pieces.getLast?.bind Ipv4Addr.fromStr with
  | none => parseGroups text
  | some ip => (pieces.dropLast.mapM parseGroup).map fun groups =>
      groups ++ [ip.a.toUInt16 <<< 8 ||| ip.b.toUInt16, ip.c.toUInt16 <<< 8 ||| ip.d.toUInt16]

def Ipv6Addr.ofGroups (groups : List UInt16) : Option Ipv6Addr :=
  if h : groups.length = 8 then some ⟨⟨groups.toArray, h⟩⟩ else none

def Ipv6Addr.fromStr (text : List Char) : Option Ipv6Addr :=
  match Text.find [':', ':'] text with
  | none => (parseLastGroups text).bind ofGroups
  | some i =>
      (parseGroups (text.take i)).bind fun head =>
        (parseLastGroups (text.drop (i + 2))).bind fun tail =>
          if head.length + tail.length ≤ 7 then
            ofGroups (head ++ List.replicate (8 - head.length - tail.length) 0 ++ tail)
          else none

/-- `IpAddr::from_str`. -/
def IpAddr.fromStr (text : List Char) : Option IpAddr :=
  match Ipv4Addr.fromStr text with
  | some ip => some (v4 ip)
  | none => (Ipv6Addr.fromStr text).map v6

end OpenPlay
