/-!
# Configuration and text

The part of `openplay-common` that the session logic reads: the validated
configuration, the protocol version, and the two character classes of the
standard library that names are checked against.
-/

namespace OpenPlay

/-- Protocol version for signaling messages. -/
def protocolVersion : UInt32 := 1

/-! ## Characters -/

/-- `char::is_control`: general category `Cc`. -/
def isControl (c : Char) : Bool :=
  c.val < 0x20 || (0x7f ≤ c.val && c.val < 0xa0)

/-- `char::is_whitespace`: the Unicode property `White_Space`. -/
def isWhitespace (c : Char) : Bool :=
  (0x09 ≤ c.val && c.val ≤ 0x0d) || c.val == 0x20 || c.val == 0x85 ||
    c.val == 0xa0 || c.val == 0x1680 || (0x2000 ≤ c.val && c.val ≤ 0x200a) ||
    c.val == 0x2028 || c.val == 0x2029 || c.val == 0x202f || c.val == 0x205f ||
    c.val == 0x3000

/-- `text.trim().is_empty()`: nothing but white space. -/
def isBlank (text : String) : Bool := text.toList.all isWhitespace

/-! ## `AppConfig` -/

def minBitrateKbps : UInt32 := 100
def maxBitrateKbps : UInt32 := 100000
def minFramerate : UInt32 := 1
def maxFramerate : UInt32 := 240

/-- The keys of `config.toml` that reach the session logic. -/
structure AppConfig where
  displayName : String
  port : UInt16
  maxBitrateKbps : UInt32
  framerate : UInt32
deriving DecidableEq, Repr

/-- `AppConfig::validate`: the first field outside its range. -/
def AppConfig.validate (config : AppConfig) : Except String Unit :=
  if isBlank config.displayName then
    .error "display_name must not be empty"
  else if config.port = 0 then
    .error "port must be between 1 and 65535"
  else if ¬ (minBitrateKbps ≤ config.maxBitrateKbps ∧
      config.maxBitrateKbps ≤ OpenPlay.maxBitrateKbps) then
    .error ("max_bitrate_kbps must be between 100 and 100000, got "
      ++ toString config.maxBitrateKbps)
  else if ¬ (minFramerate ≤ config.framerate ∧
      config.framerate ≤ OpenPlay.maxFramerate) then
    .error ("framerate must be between 1 and 240, got " ++ toString config.framerate)
  else
    .ok ()

end OpenPlay
