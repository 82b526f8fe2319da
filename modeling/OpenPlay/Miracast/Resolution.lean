import OpenPlay.Miracast.Negotiation
import OpenPlay.Miracast.SinkParameters

/-!
# The announced resolution

The mode that `negotiate` returns is chosen by one table, the bit that M4 announces by
another.  Five modes can be chosen and four can be announced: 720x480 at 60 frames is
chosen when source and sink share nothing better, and announced as 1280x720 at 30.
`announced_iff` says that this is the only mode where the two differ.
-/

namespace OpenPlay.Miracast

open CeaResolutions
open Dialogue (heard sayings)

/-! ## Reading M4 -/

/-- **The formats of M4 are read back.** -/
theorem parseSinkVideoFormats_setParameterBody (formats : WfdVideoFormats) :
    parseSinkVideoFormats (setParameterBody formats) = some formats := by
  have hname : "wfd_video_formats: ".toList = "wfd_video_formats:".toList ++ [' '] := by decide
  have hline : "wfd_video_formats: ".toList ++ formats.encode =
      "wfd_video_formats:".toList ++ ' ' :: formats.encode := by
    rw [hname, List.append_assoc]
    rfl
  have hlf : '\n' ∉ "wfd_video_formats: ".toList ++ formats.encode := by
    rw [List.mem_append]
    rintro (hmem | hmem)
    · exact absurd hmem (by decide)
    · exact WfdVideoFormats.not_mem_encode (by decide) rfl formats hmem
  have hcrlf : ∀ rest, Text.crlf ++ rest = '\r' :: '\n' :: rest := fun _ => rfl
  obtain ⟨later, hbody⟩ : ∃ later, setParameterBody formats =
      "wfd_video_formats: ".toList ++ formats.encode ++ '\r' :: '\n' :: later := by
    unfold setParameterBody
    rw [List.append_assoc, hcrlf]
    exact ⟨_, rfl⟩
  have hlines := Text.lines_crlf hlf later
  rw [← hbody, hline] at hlines
  exact parseSinkVideoFormats_of_firstNamed (firstNamed_of_first hlines)

/-- What a sink reads in M4. -/
def announcedFormats (m4 : List Char) : Option WfdVideoFormats :=
  parseSinkVideoFormats (splitHeaderBody m4).2

theorem announcedFormats_sendSetParameter (cseq : UInt32) (formats : WfdVideoFormats) :
    announcedFormats (sendSetParameter cseq formats) = some formats := by
  rw [announcedFormats, sendSetParameter,
    body_parameterRequest (Text.isLine_of_all rfl), parseSinkVideoFormats_setParameterBody]

/-! ## The two tables -/

/-- Source and sink share 720x480 at 60 frames and nothing better. -/
def OnlyStandardDefinition (source sink : WfdVideoFormats) : Prop :=
  let common := source.ceaResolutions.bits &&& sink.ceaResolutions.bits
  common &&& res720x480p60 ≠ 0 ∧ common &&& res1920x1080p60 = 0 ∧
    common &&& res1920x1080p30 = 0 ∧ common &&& res1280x720p60 = 0 ∧
    common &&& res1280x720p30 = 0

/-- The modes that are chosen, the last of them without a bit of its own. -/
theorem negotiateResolution_cases (source sink : WfdVideoFormats) :
    negotiateResolution source sink ∈ ([(1920, 1080, 60), (1920, 1080, 30), (1280, 720, 60),
        (1280, 720, 30)] : List Mode) ∧ ¬ OnlyStandardDefinition source sink ∨
      negotiateResolution source sink = (720, 480, 60) ∧
        OnlyStandardDefinition source sink := by
  unfold negotiateResolution OnlyStandardDefinition
  dsimp only
  split_ifs with h1 h2 h3 h4 h5
  · exact Or.inl ⟨by decide, fun h => h1 h.2.1⟩
  · exact Or.inl ⟨by decide, fun h => h2 h.2.2.1⟩
  · exact Or.inl ⟨by decide, fun h => h3 h.2.2.2.1⟩
  · exact Or.inl ⟨by decide, fun h => h4 h.2.2.2.2⟩
  · exact Or.inr ⟨rfl, h5, not_not.mp h1, not_not.mp h2, not_not.mp h3, not_not.mp h4⟩
  · exact Or.inl ⟨by decide, fun h => h5 h.1⟩

/-- The mask has one bit, and the bit stands for the mode. -/
def Denotes (mask : CeaResolutions) (mode : Mode) : Prop :=
  (∃ i < 32, mask.bits = (1 : UInt32) <<< UInt32.ofNat i) ∧ (mask.bits, mode) ∈ ceaModes

/-- Four modes are announced as they are. -/
theorem denotes_announcedResolution :
    ∀ mode ∈ ([(1920, 1080, 60), (1920, 1080, 30), (1280, 720, 60), (1280, 720, 30)] :
      List Mode), Denotes ⟨announcedResolution mode⟩ mode := by
  simp only [List.forall_mem_cons, List.not_mem_nil, false_implies, implies_true, and_true]
  exact ⟨⟨⟨8, by decide⟩, by decide⟩, ⟨⟨7, by decide⟩, by decide⟩, ⟨⟨6, by decide⟩, by decide⟩,
    ⟨⟨5, by decide⟩, by decide⟩⟩

/-- **The chosen mode is announced** unless it is 720x480. -/
theorem denotes_announcedResolution_iff (source sink : WfdVideoFormats) :
    Denotes ⟨announcedResolution (negotiateResolution source sink)⟩
        (negotiateResolution source sink) ↔
      ¬ OnlyStandardDefinition source sink := by
  rcases negotiateResolution_cases source sink with ⟨hmode, hno⟩ | ⟨hmode, hyes⟩
  · exact iff_of_true (denotes_announcedResolution _ hmode) hno
  · rw [hmode]
    refine iff_of_false (fun h => ?_) (not_not.mpr hyes)
    exact absurd h.2 (by decide)

/-! ## What M4 announces -/

/-- What the source takes the sink to support: the formats of the M3 response, or the
default ones when the response has none that can be read. -/
def sinkFormats (incoming : List Reading) : WfdVideoFormats :=
  (parseSinkVideoFormats (parseResponse (rawOf (heard silence incoming 2))).body).getD
    WfdVideoFormats.default

/-- The formats in the body of an obliging sink are those of the sink. -/
theorem sinkFormats_obligingSink (cseq : Nat → UInt32) (formats : WfdVideoFormats) :
    sinkFormats (obligingSink cseq (setParameterBody formats)) = formats := by
  have hbody : (parseResponse (rawOf (okResponse (cseq 1) (setParameterBody formats)))).body =
      setParameterBody formats :=
    body_ok (List.forall_mem_singleton.mpr (isLine_cseqLine (cseq 1))) _
  show (parseSinkVideoFormats (parseResponse (rawOf (okResponse _ _))).body).getD _ = _
  rw [hbody, parseSinkVideoFormats_setParameterBody, Option.getD_some]

/-- The M4 that was sent announces the mode. -/
def Announces (sent : List (List Char)) (mode : Mode) : Prop :=
  ∃ m4 formats, sent[3]? = some m4 ∧ announcedFormats m4 = some formats ∧
    Denotes formats.ceaResolutions mode

theorem announces_iff {sent : List (List Char)} {cseq : UInt32} {formats : WfdVideoFormats}
    (h : sent[3]? = some (sendSetParameter cseq formats)) (mode : Mode) :
    Announces sent mode ↔ Denotes formats.ceaResolutions mode := by
  constructor
  · rintro ⟨m4, read, hm4, hread, hdenotes⟩
    cases h.symm.trans hm4
    cases (announcedFormats_sendSetParameter cseq formats).symm.trans hread
    exact hdenotes
  · intro hdenotes
    exact ⟨_, formats, h, announcedFormats_sendSetParameter cseq formats, hdenotes⟩

theorem announces_of_ok {Addr : Type} {sinkAddr : Addr} {source : WfdVideoFormats}
    {incoming : List Reading} {result : WfdNegotiationResult Addr}
    (hok : (negotiation sinkAddr source incoming).1 = .ok result) :
    let mode := negotiateResolution source (sinkFormats incoming)
    Announces (sayings (negotiation sinkAddr source incoming).2.log)
        (result.width, result.height, result.fps) ↔
      Denotes ⟨announcedResolution mode⟩ mode := by
  have hmode := ((negotiate_follows sinkAddr source incoming).post result hok).mode
  have hm4 : (sayings (negotiation sinkAddr source incoming).2.log)[3]? =
      some (setParameter source (heard silence incoming)) := by
    rw [(log_of_ok sinkAddr source incoming hok).1]
    rfl
  rw [announces_iff hm4, hmode]
  exact Iff.rfl

/-- **The format announced to the sink is the format reported to the caller** in a
successful negotiation, but for a source and a sink that share 720x480 at 60 frames and
nothing better. -/
theorem announced_iff {Addr : Type} (sinkAddr : Addr) (source : WfdVideoFormats)
    (incoming : List Reading) {result : WfdNegotiationResult Addr}
    (hok : (negotiation sinkAddr source incoming).1 = .ok result) :
    Announces (sayings (negotiation sinkAddr source incoming).2.log)
        (result.width, result.height, result.fps) ↔
      ¬ OnlyStandardDefinition source (sinkFormats incoming) :=
  (announces_of_ok hok).trans (denotes_announcedResolution_iff source (sinkFormats incoming))

theorem announced_iff_for_default_formats :
    let incoming := obligingSink (fun _ => 1) []
    ∃ result, (negotiation () .default incoming).1 = .ok result ∧
      (Announces (sayings (negotiation () .default incoming).2.log)
          (result.width, result.height, result.fps) ↔
        ¬ OnlyStandardDefinition .default (sinkFormats incoming)) := by
  intro incoming
  obtain ⟨result, hok⟩ := obligingSink_ok .default (fun _ => 1) []
  exact ⟨result, hok, announced_iff () .default incoming hok⟩

/-- Formats with 720x480 at 60 frames only. -/
def standardDefinition : WfdVideoFormats :=
  { WfdVideoFormats.default with ceaResolutions := ⟨res720x480p60⟩ }

/-- Two ends that know 720x480 only agree on it, and M4 says 1280x720. -/
theorem standard_definition_announced_as_another_mode :
    ¬ ∀ (source : WfdVideoFormats) (incoming : List Reading)
      (result : WfdNegotiationResult Unit),
      (negotiation () source incoming).1 = .ok result →
        Announces (sayings (negotiation () source incoming).2.log)
          (result.width, result.height, result.fps) := by
  intro hall
  obtain ⟨result, hok⟩ := obligingSink_ok standardDefinition (fun _ => 1)
    (setParameterBody standardDefinition)
  have hannounces := (announces_of_ok hok).mp (hall _ _ result hok)
  rw [sinkFormats_obligingSink] at hannounces
  refine (denotes_announcedResolution_iff _ _).mp hannounces ?_
  unfold OnlyStandardDefinition
  decide

end OpenPlay.Miracast
