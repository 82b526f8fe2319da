import OpenPlay.Miracast.Rtsp

/-!
# The parameters of a sink

A body of parameters has one on each line, its name in front of a colon.  The first line
with a name decides, wherever in the body it stands and whatever the others say, and what
was written on it is read back (`wfd_round_trip`).
-/

namespace OpenPlay.Miracast

/-- The first line with a name in front, and what stands on it behind the name. -/
def FirstNamed (name value body : List Char) : Prop :=
  ∃ earlier later, Text.lines body = earlier ++ (name ++ value) :: later ∧
    ∀ line ∈ earlier, ¬ name <+: line

theorem firstNamed_of_first {name value body : List Char} {later : List (List Char)}
    (h : Text.lines body = (name ++ value) :: later) : FirstNamed name value body :=
  ⟨[], later, h, List.forall_mem_nil _⟩

theorem findSome_stripPrefix {name value body : List Char} (h : FirstNamed name value body) :
    (Text.lines body).findSome? (Text.stripPrefix name) = some value := by
  obtain ⟨earlier, later, hlines, hfirst⟩ := h
  have hskip : earlier.findSome? (Text.stripPrefix name) = none := by
    rw [List.findSome?_eq_none_iff]
    intro line hline
    exact if_neg fun hprefix => hfirst line hline (List.isPrefixOf_iff_prefix.mp hprefix)
  rw [hlines, List.findSome?_append, hskip, Option.none_or, List.findSome?_cons,
    Text.stripPrefix_append]

theorem parseSinkVideoFormats_of_firstNamed {formats : WfdVideoFormats} {body : List Char}
    (h : FirstNamed "wfd_video_formats:".toList (' ' :: formats.encode) body) :
    parseSinkVideoFormats body = some formats := by
  rw [parseSinkVideoFormats, findSome_stripPrefix h, Option.bind_some, Text.trim_cons rfl,
    formats.trim_encode, formats.parse_encode]

theorem parseSinkRtpPorts_of_firstNamed {ports : WfdClientRtpPorts} {body : List Char}
    (hports : ports.WellFormed)
    (h : FirstNamed "wfd_client_rtp_ports:".toList (' ' :: ports.toText) body) :
    parseSinkRtpPorts body = some ports := by
  rw [parseSinkRtpPorts, findSome_stripPrefix h, Option.bind_some, Text.trim_cons rfl,
    WfdClientRtpPorts.trim_toText hports, WfdClientRtpPorts.parse_toText hports]

/-- **What is written is read back**: video formats in front of any further tokens, ports
whose profile and mode are words, and either of them on the first line of its name in a
body. -/
theorem wfd_round_trip (formats : WfdVideoFormats) (ports : WfdClientRtpPorts) :
    (∀ extra, (∀ c ∈ extra.head?, isWhitespace c = true) →
        WfdVideoFormats.parse (formats.encode ++ extra) = some formats) ∧
      (ports.WellFormed → WfdClientRtpPorts.parse ports.toText = some ports) ∧
      (∀ body, FirstNamed "wfd_video_formats:".toList (' ' :: formats.encode) body →
        parseSinkVideoFormats body = some formats) ∧
      ∀ body, ports.WellFormed →
        FirstNamed "wfd_client_rtp_ports:".toList (' ' :: ports.toText) body →
        parseSinkRtpPorts body = some ports :=
  ⟨fun _ => formats.parse_encode_append, WfdClientRtpPorts.parse_toText,
    fun _ => parseSinkVideoFormats_of_firstNamed,
    fun _ wellFormed => parseSinkRtpPorts_of_firstNamed wellFormed⟩

theorem WfdClientRtpPorts.wellFormed_default : WfdClientRtpPorts.default.WellFormed where
  profile_ne_nil := by decide
  profile_word := List.all_iff_forall_prop.mp (by decide)
  mode_ne_nil := by decide
  mode_word := List.all_iff_forall_prop.mp (by decide)

theorem wfd_round_trip_of_default :
    WfdVideoFormats.parse (WfdVideoFormats.default.encode ++ " 0780 0438".toList) =
        some .default ∧
      WfdClientRtpPorts.parse WfdClientRtpPorts.default.toText = some .default ∧
      parseSinkVideoFormats ("wfd_uibc_capability: none\nwfd_video_formats: ".toList ++
        WfdVideoFormats.default.encode) = some .default := by
  have h := wfd_round_trip .default .default
  refine ⟨h.1 _ ?_, h.2.1 WfdClientRtpPorts.wellFormed_default, h.2.2.1 _ ?_⟩
  · rintro c ⟨⟩
    rfl
  · refine ⟨["wfd_uibc_capability: none".toList], [], by decide, ?_⟩
    exact List.forall_mem_singleton.mpr (by decide)

end OpenPlay.Miracast
