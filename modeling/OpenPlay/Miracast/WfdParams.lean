import OpenPlay.Common.Config
import OpenPlay.Foundation.Text

/-!
# WFD parameters

The video formats of `openplay-miracast`'s `wfd_params.rs`: eleven hexadecimal
fields in a line of text, the fifth of them a mask of CEA resolutions, and the
choice of a resolution that source and sink have in common.  The RTP ports of the
client: two numbers between two words.

Encoding is followed by parsing without loss (`parse_encode_append`, `parse_toText`),
whatever the fields hold.
-/

namespace OpenPlay.Miracast

/-! ## Resolutions -/

/-- A mask of CEA resolutions. -/
structure CeaResolutions where
  bits : UInt32
deriving DecidableEq, Repr

namespace CeaResolutions

def res640x480p60 : UInt32 := (1 : UInt32) <<< 0
def res720x480p60 : UInt32 := (1 : UInt32) <<< 1
def res720x576p50 : UInt32 := (1 : UInt32) <<< 3
def res1280x720p30 : UInt32 := (1 : UInt32) <<< 5
def res1280x720p60 : UInt32 := (1 : UInt32) <<< 6
def res1920x1080p30 : UInt32 := (1 : UInt32) <<< 7
def res1920x1080p60 : UInt32 := (1 : UInt32) <<< 8

end CeaResolutions

open CeaResolutions

/-- Width, height and frames per second. -/
abbrev Mode := UInt32 × UInt32 × UInt32

/-- What each bit of the mask stands for, as its name says. -/
def ceaModes : List (UInt32 × Mode) :=
  [(res640x480p60, 640, 480, 60), (res720x480p60, 720, 480, 60),
    (res720x576p50, 720, 576, 50), (res1280x720p30, 1280, 720, 30),
    (res1280x720p60, 1280, 720, 60), (res1920x1080p30, 1920, 1080, 30),
    (res1920x1080p60, 1920, 1080, 60)]

/-! ## `wfd_video_formats` -/

/-- Negotiated WFD video parameters. -/
structure WfdVideoFormats where
  native : UInt8
  preferredDisplayMode : UInt8
  profile : UInt8
  level : UInt8
  ceaResolutions : CeaResolutions
  vesaResolutions : UInt32
  hhResolutions : UInt32
  latency : UInt8
  minSliceSize : UInt16
  sliceEncParams : UInt16
  frameRateCtrl : UInt8
deriving DecidableEq, Repr

/-- `WfdVideoFormats::default`. -/
def WfdVideoFormats.default : WfdVideoFormats where
  native := 0x00
  preferredDisplayMode := 0
  profile := 0x01
  level := 0x10
  ceaResolutions := ⟨res1920x1080p30 ||| res1280x720p30⟩
  vesaResolutions := 0
  hhResolutions := 0
  latency := 0
  minSliceSize := 0
  sliceEncParams := 0
  frameRateCtrl := 0x11

/-- `{:02X}` and its wider kin. -/
def hex (width n : Nat) : List Char := Text.paddedDigits 16 width n

/-- The eleven fields in the order of the line. -/
def WfdVideoFormats.fields (f : WfdVideoFormats) : List (List Char) :=
  [hex 2 f.native.toNat, hex 2 f.preferredDisplayMode.toNat, hex 2 f.profile.toNat,
    hex 2 f.level.toNat, hex 8 f.ceaResolutions.bits.toNat, hex 8 f.vesaResolutions.toNat,
    hex 8 f.hhResolutions.toNat, hex 2 f.latency.toNat, hex 4 f.minSliceSize.toNat,
    hex 4 f.sliceEncParams.toNat, hex 2 f.frameRateCtrl.toNat]

/-- `encode`: the fields with a space between them. -/
def WfdVideoFormats.encode (f : WfdVideoFormats) : List Char :=
  List.intercalate [' '] f.fields

/-- `u8::from_str_radix(_, 16)`. -/
def hexU8 (text : List Char) : Option UInt8 :=
  (Text.parseUnsigned 16 UInt8.size text).map UInt8.ofNat

/-- `u16::from_str_radix(_, 16)`. -/
def hexU16 (text : List Char) : Option UInt16 :=
  (Text.parseUnsigned 16 UInt16.size text).map UInt16.ofNat

/-- `u32::from_str_radix(_, 16)`. -/
def hexU32 (text : List Char) : Option UInt32 :=
  (Text.parseUnsigned 16 UInt32.size text).map UInt32.ofNat

/-- `parse`: at least eleven fields, each a hexadecimal number of its size. -/
def WfdVideoFormats.parse (s : List Char) : Option WfdVideoFormats :=
  match Text.words isWhitespace s with
  | native :: preferredDisplayMode :: profile :: level :: ceaResolutions ::
      vesaResolutions :: hhResolutions :: latency :: minSliceSize :: sliceEncParams ::
      frameRateCtrl :: _ => do
      let native ← hexU8 native
      let preferredDisplayMode ← hexU8 preferredDisplayMode
      let profile ← hexU8 profile
      let level ← hexU8 level
      let ceaResolutions ← hexU32 ceaResolutions
      let vesaResolutions ← hexU32 vesaResolutions
      let hhResolutions ← hexU32 hhResolutions
      let latency ← hexU8 latency
      let minSliceSize ← hexU16 minSliceSize
      let sliceEncParams ← hexU16 sliceEncParams
      let frameRateCtrl ← hexU8 frameRateCtrl
      some ⟨native, preferredDisplayMode, profile, level, ⟨ceaResolutions⟩,
        vesaResolutions, hhResolutions, latency, minSliceSize, sliceEncParams,
        frameRateCtrl⟩
  | _ => none

/-! ### Reading back -/

theorem hexU8_hex (width : Nat) (n : UInt8) : hexU8 (hex width n.toNat) = some n := by
  rw [hexU8, hex, Text.parseUnsigned_paddedDigits (by decide) (by decide) width n.toNat_lt,
    Option.map_some, UInt8.ofNat_toNat]

theorem hexU16_hex (width : Nat) (n : UInt16) : hexU16 (hex width n.toNat) = some n := by
  rw [hexU16, hex, Text.parseUnsigned_paddedDigits (by decide) (by decide) width n.toNat_lt,
    Option.map_some, UInt16.ofNat_toNat]

theorem hexU32_hex (width : Nat) (n : UInt32) : hexU32 (hex width n.toNat) = some n := by
  rw [hexU32, hex, Text.parseUnsigned_paddedDigits (by decide) (by decide) width n.toNat_lt,
    Option.map_some, UInt32.ofNat_toNat]

theorem hex_ne_nil (width n : Nat) : hex width n ≠ [] :=
  List.append_ne_nil_of_right_ne_nil _ (Text.digits_ne_nil 16 n)

/-- A field is made of hexadecimal digits only. -/
theorem isWhitespace_of_mem_hex {width n : Nat} {c : Char} (h : c ∈ hex width n) :
    isWhitespace c = false :=
  Text.forall_mem_paddedDigits (p := fun c => isWhitespace c = false) (by decide) (by decide)
    width n c h

/-- Nor has a decimal number any white space in it. -/
theorem isWhitespace_of_mem_digits {n : Nat} {c : Char} (h : c ∈ Text.digits 10 n) :
    isWhitespace c = false :=
  Text.forall_mem_digits (p := fun c => isWhitespace c = false) (by decide) (by decide) n c h

namespace WfdVideoFormats

theorem exists_hex_of_mem_fields {f : WfdVideoFormats} {field : List Char}
    (h : field ∈ f.fields) : ∃ width n, field = hex width n := by
  simp only [fields, List.mem_cons, List.not_mem_nil, or_false] at h
  rcases h with h | h | h | h | h | h | h | h | h | h | h <;> exact ⟨_, _, h⟩

theorem fields_ne_nil {f : WfdVideoFormats} : ∀ field ∈ f.fields, field ≠ [] := by
  intro field hfield
  obtain ⟨width, n, rfl⟩ := exists_hex_of_mem_fields hfield
  exact hex_ne_nil width n

theorem isWhitespace_of_mem_fields {f : WfdVideoFormats} :
    ∀ field ∈ f.fields, ∀ c ∈ field, isWhitespace c = false := by
  intro field hfield c hc
  obtain ⟨width, n, rfl⟩ := exists_hex_of_mem_fields hfield
  exact isWhitespace_of_mem_hex hc

/-- The encoding is one line, without white space at its ends. -/
theorem trim_encode (f : WfdVideoFormats) : Text.trim isWhitespace f.encode = f.encode :=
  Text.trim_intercalate fields_ne_nil isWhitespace_of_mem_fields

theorem not_mem_encode {c : Char} (hspace : c ≠ ' ') (h : isWhitespace c = true)
    (f : WfdVideoFormats) : c ∉ f.encode := by
  intro hc
  rcases Text.mem_intercalate hc with hsep | ⟨field, hfield, hc⟩
  · exact hspace (List.mem_singleton.mp hsep)
  · exact absurd (h.symm.trans (isWhitespace_of_mem_fields field hfield c hc)) nofun

theorem words_encode (f : WfdVideoFormats) : Text.words isWhitespace f.encode = f.fields :=
  Text.words_intercalate rfl _ fields_ne_nil isWhitespace_of_mem_fields

/-- **What is encoded is parsed again**, whatever tokens stand behind it. -/
theorem parse_encode_append (f : WfdVideoFormats) {extra : List Char}
    (h : ∀ c ∈ extra.head?, isWhitespace c = true) : parse (f.encode ++ extra) = some f := by
  have hwords : ∃ more, Text.words isWhitespace (f.encode ++ extra) = f.fields ++ more := by
    rcases extra with _ | ⟨space, rest⟩
    · exact ⟨[], by rw [List.append_nil, List.append_nil, words_encode]⟩
    · exact ⟨_, by rw [Text.words_append_cons (h space rfl), words_encode]⟩
  obtain ⟨more, hwords⟩ := hwords
  rw [parse, hwords, fields]
  simp only [List.cons_append, hexU8_hex, hexU16_hex, hexU32_hex]
  rfl

theorem parse_encode (f : WfdVideoFormats) : parse f.encode = some f := by
  have hparse := @parse_encode_append f [] nofun
  rwa [List.append_nil] at hparse

end WfdVideoFormats

/-! ## `wfd_client_rtp_ports` -/

/-- WFD client RTP port configuration. -/
structure WfdClientRtpPorts where
  profile : List Char
  rtpPort0 : UInt16
  rtpPort1 : UInt16
  mode : List Char
deriving DecidableEq, Repr

namespace WfdClientRtpPorts

/-- `WfdClientRtpPorts::default`. -/
def default : WfdClientRtpPorts where
  profile := "RTP/AVP/UDP;unicast".toList
  rtpPort0 := 1028
  rtpPort1 := 0
  mode := "mode=play".toList

def fields (p : WfdClientRtpPorts) : List (List Char) :=
  [p.profile, Text.digits 10 p.rtpPort0.toNat, Text.digits 10 p.rtpPort1.toNat, p.mode]

/-- `fmt`: the fields with a space between them. -/
def toText (p : WfdClientRtpPorts) : List Char := List.intercalate [' '] p.fields

/-- `parse`: at least four fields, the middle ones numbers. -/
def parse (s : List Char) : Option WfdClientRtpPorts :=
  match Text.words isWhitespace s with
  | profile :: rtpPort0 :: rtpPort1 :: mode :: _ => do
      let rtpPort0 ← Text.parseU16 10 rtpPort0
      let rtpPort1 ← Text.parseU16 10 rtpPort1
      some ⟨profile, rtpPort0, rtpPort1, mode⟩
  | _ => none

/-- Two fields are free text, and each is one word. -/
structure WellFormed (p : WfdClientRtpPorts) : Prop where
  profile_ne_nil : p.profile ≠ []
  profile_word : ∀ c ∈ p.profile, isWhitespace c = false
  mode_ne_nil : p.mode ≠ []
  mode_word : ∀ c ∈ p.mode, isWhitespace c = false

theorem fields_ne_nil {p : WfdClientRtpPorts} (h : p.WellFormed) :
    ∀ field ∈ p.fields, field ≠ [] := by
  simp only [fields, List.forall_mem_cons]
  exact ⟨h.profile_ne_nil, Text.digits_ne_nil _ _, Text.digits_ne_nil _ _, h.mode_ne_nil,
    List.forall_mem_nil _⟩

theorem isWhitespace_of_mem_fields {p : WfdClientRtpPorts} (h : p.WellFormed) :
    ∀ field ∈ p.fields, ∀ c ∈ field, isWhitespace c = false := by
  simp only [fields, List.forall_mem_cons]
  exact ⟨h.profile_word, fun _ => isWhitespace_of_mem_digits, fun _ => isWhitespace_of_mem_digits,
    h.mode_word, List.forall_mem_nil _⟩

theorem trim_toText {p : WfdClientRtpPorts} (h : p.WellFormed) :
    Text.trim isWhitespace p.toText = p.toText :=
  Text.trim_intercalate (fields_ne_nil h) (isWhitespace_of_mem_fields h)

theorem words_toText {p : WfdClientRtpPorts} (h : p.WellFormed) :
    Text.words isWhitespace p.toText = p.fields :=
  Text.words_intercalate rfl _ (fields_ne_nil h) (isWhitespace_of_mem_fields h)

/-- **What is written is parsed again.** -/
theorem parse_toText {p : WfdClientRtpPorts} (h : p.WellFormed) : parse p.toText = some p := by
  rw [parse, words_toText h, fields]
  simp only [Text.parseU16_digits (by decide : 1 < 10) (by decide : 10 ≤ 36)]
  rfl

end WfdClientRtpPorts

/-! ## The choice of a resolution -/

/-- `negotiate_resolution`: the best resolution both sides support. -/
def negotiateResolution (source sink : WfdVideoFormats) : Mode :=
  let commonCea := source.ceaResolutions.bits &&& sink.ceaResolutions.bits
  if commonCea &&& res1920x1080p60 ≠ 0 then (1920, 1080, 60)
  else if commonCea &&& res1920x1080p30 ≠ 0 then (1920, 1080, 30)
  else if commonCea &&& res1280x720p60 ≠ 0 then (1280, 720, 60)
  else if commonCea &&& res1280x720p30 ≠ 0 then (1280, 720, 30)
  else if commonCea &&& res720x480p60 ≠ 0 then (720, 480, 60)
  else (1280, 720, 30)

end OpenPlay.Miracast
