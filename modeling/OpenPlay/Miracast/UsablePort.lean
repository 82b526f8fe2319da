import OpenPlay.Miracast.Negotiation

/-!
# The RTP port of a setup

Which port a sink asks for in M6, against which one `parse_transport_port` takes.

Every `client_port` parameter of a transport line is a `PortParameter`.  A setup asks
for the first number from 1 to 65535 among them, whatever the letter case in which the
name of its line is written.  The code takes the first number up to 65535, with 0 among
them, and only of lines that are named `Transport` or `transport`.
`sameChoice_iff` says for which headers the two come to the same.

A number is written as the parser of the code reads one, in decimal digits with at most
one plus sign in front.
-/

namespace OpenPlay.Miracast

open Dialogue (heard outcome sayings played)

/-! ## The parameters of the transport lines -/

/-- A `client_port` parameter with a number in front of its first dash. -/
structure PortParameter where
  /-- Its line is named `Transport` or `transport`. -/
  spelt : Bool
  number : Nat
deriving DecidableEq, Repr

/-- The number that a text spells, of whatever size. -/
def spelledNumber (text : List Char) : Option Nat :=
  let spelled :=
    match text with
    | '+' :: rest => rest
    | _ => text
  if spelled = [] then none else Text.ofDigits 10 spelled

/-- The first number of a `client_port` parameter. -/
def firstNumber (part : List Char) : Option Nat :=
  (Text.stripPrefix "client_port=".toList (Text.trim isWhitespace part)).bind fun value =>
    spelledNumber (Text.trim isWhitespace ((value.splitOn '-').head?.getD []))

/-- The line is named in one of the two ways that the code knows. -/
def isSpelt (line : List Char) : Bool :=
  "Transport:".toList.isPrefixOf line || "transport:".toList.isPrefixOf line

/-- What a transport line says behind its name, in whatever letter case that is. -/
def transportValue (line : List Char) : Option (List Char) :=
  if startsWithLower "transport:".toList line then some (line.drop 10) else none

/-- The parameters of one line. -/
def lineParameters (line : List Char) : List PortParameter :=
  match transportValue line with
  | some value => ((value.splitOn ';').filterMap firstNumber).map (PortParameter.mk (isSpelt line))
  | none => []

/-- All of them, in header order. -/
def portParameters (headers : List Char) : List PortParameter :=
  (Text.lines headers).flatMap lineParameters

namespace PortParameter

/-- A port that RTP can be sent to. -/
def usable (p : PortParameter) : Bool := 0 < p.number && p.number < UInt16.size

/-- What the code takes for a port. -/
def heeded (p : PortParameter) : Bool := p.spelt && decide (p.number < UInt16.size)

theorem heeded_spelt {n : Nat} : heeded ⟨true, n⟩ = true ↔ n < UInt16.size :=
  decide_eq_true_iff

theorem lt_of_usable {p : PortParameter} (h : p.usable = true) : p.number < UInt16.size :=
  of_decide_eq_true (Bool.and_eq_true_iff.mp h).2

end PortParameter

/-- The port that a setup asks for. -/
def wantedPort (headers : List Char) : Option Nat :=
  ((portParameters headers).find? PortParameter.usable).map PortParameter.number

/-- Of the parameters that are usable or heeded, the first one is usable, and it is heeded
too unless the first heeded one behind it has the same number. -/
def sameChoice : List PortParameter → Bool
  | [] => true
  | p :: rest =>
      if p.usable then p.spelt || ((rest.find? PortParameter.heeded).map (·.number)) == some p.number
      else !p.heeded && sameChoice rest

/-! ## What the code reads -/

theorem parseUnsigned_eq (size : Nat) (text : List Char) :
    Text.parseUnsigned 10 size text = (spelledNumber text).filter (· < size) := by
  unfold spelledNumber
  exact (apply_ite (Option.filter (· < size)) _ none _).symm

theorem clientPort_eq (part : List Char) :
    clientPort part = ((firstNumber part).filter (· < UInt16.size)).map UInt16.ofNat := by
  rw [clientPort, firstNumber]
  cases Text.stripPrefix "client_port=".toList (Text.trim isWhitespace part) with
  | none => rfl
  | some value => exact congrArg (Option.map UInt16.ofNat) (parseUnsigned_eq _ _)

/-- Both names that the code knows are names in some letter case. -/
theorem stripPrefix_transport (line : List Char) :
    (Text.stripPrefix "Transport:".toList line).or
        (Text.stripPrefix "transport:".toList line) =
      if isSpelt line then transportValue line else none := by
  have hlower {name : List Char} (hname : name.map Char.toLower = "transport:".toList)
      (h : name.isPrefixOf line = true) : transportValue line = some (line.drop 10) := by
    refine if_pos (List.isPrefixOf_iff_prefix.mpr ?_)
    rw [← hname]
    exact (List.isPrefixOf_iff_prefix.mp h).map _
  unfold isSpelt Text.stripPrefix
  by_cases hupper : "Transport:".toList.isPrefixOf line = true
  · rw [if_pos hupper, hupper, Bool.true_or, if_pos rfl, hlower (by decide) hupper]
    rfl
  · rw [if_neg hupper, Bool.eq_false_iff.mpr hupper, Bool.false_or, Option.none_or]
    by_cases h : "transport:".toList.isPrefixOf line = true
    · rw [if_pos h, if_pos h, hlower (by decide) h]
      rfl
    · rw [if_neg h, if_neg h]

/-- The port of one line. -/
theorem find_lineParameters (line : List Char) :
    ((lineParameters line).find? PortParameter.heeded).map (fun p => UInt16.ofNat p.number) =
      (if isSpelt line then transportValue line else none).bind fun value =>
        (value.splitOn ';').findSome? clientPort := by
  unfold lineParameters
  cases hvalue : transportValue line with
  | none =>
    rw [ite_self]
    rfl
  | some value =>
    by_cases hspelt : isSpelt line = true
    · rw [if_pos hspelt, hspelt]
      simp only [Option.bind_some]
      induction value.splitOn ';' with
      | nil => rfl
      | cons part rest ih =>
        rw [List.findSome?_cons, clientPort_eq, List.filterMap_cons]
        cases hfirst : firstNumber part with
        | none => exact ih
        | some n =>
          show Option.map _ (List.find? _ (PortParameter.mk true n :: _)) = _
          rw [Option.filter_some]
          by_cases hn : n < UInt16.size
          · rw [if_pos (decide_eq_true hn),
              List.find?_cons_of_pos (PortParameter.heeded_spelt.mpr hn)]
            rfl
          · rw [if_neg fun h => hn (of_decide_eq_true h),
              List.find?_cons_of_neg fun h => hn (PortParameter.heeded_spelt.mp h)]
            exact ih
    · have hnone : ∀ p ∈ ((value.splitOn ';').filterMap firstNumber).map
          (PortParameter.mk (isSpelt line)), ¬ p.heeded = true := by
        rw [List.forall_mem_map]
        intro n _ hheeded
        exact hspelt (Bool.and_eq_true_iff.mp hheeded).1
      rw [if_neg hspelt, Option.bind_none]
      exact congrArg (Option.map _) (List.find?_eq_none.mpr hnone)

/-- **What the code takes**: the first parameter that it heeds. -/
theorem parseTransportPort_eq (headers : List Char) :
    parseTransportPort headers =
      ((portParameters headers).find? PortParameter.heeded).map fun p =>
        UInt16.ofNat p.number := by
  rw [parseTransportPort, portParameters, List.find?_flatMap]
  induction Text.lines headers with
  | nil => rfl
  | cons line rest ih =>
    rw [List.findSome?_cons, List.findSome?_cons, stripPrefix_transport, ← find_lineParameters]
    cases (lineParameters line).find? PortParameter.heeded with
    | none => exact ih
    | some p => rfl

/-! ## Where the two agree -/

/-- **The two choices are the same** on the parameters without a spoiling one. -/
theorem sameChoice_iff (ps : List PortParameter) :
    (ps.find? PortParameter.heeded).map (·.number) =
        (ps.find? PortParameter.usable).map (·.number) ↔ sameChoice ps = true := by
  induction ps with
  | nil => exact iff_of_true rfl rfl
  | cons p rest ih =>
    unfold sameChoice
    by_cases husable : p.usable = true
    · rw [if_pos husable, List.find?_cons_of_pos husable, Option.map_some]
      have hsmall := PortParameter.lt_of_usable husable
      by_cases hspelt : p.spelt = true
      · have hheeded : p.heeded = true := by simp [PortParameter.heeded, hspelt, hsmall]
        rw [List.find?_cons_of_pos hheeded, hspelt]
        exact iff_of_true rfl rfl
      · have hheeded : ¬ p.heeded = true := by simp [PortParameter.heeded, hspelt]
        rw [List.find?_cons_of_neg hheeded, Bool.eq_false_iff.mpr hspelt, Bool.false_or, beq_iff_eq]
    · rw [if_neg husable, List.find?_cons_of_neg husable]
      by_cases hheeded : p.heeded = true
      · -- Only 0 is heeded and not usable, and no usable parameter has that number.
        rw [List.find?_cons_of_pos hheeded, hheeded, Bool.not_true, Bool.false_and, Option.map_some]
        refine iff_of_false (fun h => husable ?_) nofun
        obtain ⟨q, hq, hnumber⟩ := Option.map_eq_some_iff.mp h.symm
        have hother := List.find?_some hq
        rw [PortParameter.usable, hnumber] at hother
        exact hother
      · rw [List.find?_cons_of_neg hheeded, Bool.eq_false_iff.mpr hheeded, Bool.not_false, Bool.true_and]
        exact ih

/-! ## In a negotiation -/

section Negotiation

variable {Addr : Type} (sinkAddr : Addr) (source : WfdVideoFormats) (incoming : List Reading)

/-- The negotiation comes to M6, and M6 is a setup. -/
def ReachesSetup : Prop :=
  (∀ i < 5, acceptable i (heard silence incoming i) = true) ∧
    isRequest "SETUP".toList (heard silence incoming 5) = true

/-- The headers of M6. -/
def setupHeaders : List Char := (parseRequest (rawOf (heard silence incoming 5))).headers

/-- The sixth message of the source, which is its response to an accepted M6. -/
def sixthMessage : Option (List Char) :=
  (sayings (negotiation sinkAddr source incoming).2.log)[5]?

/-- M6 is accepted just when it asks for a port, and that port is the one that the
response says and that the negotiation returns. -/
structure TakesWantedPort : Prop where
  accepted : (sixthMessage sinkAddr source incoming).isSome ↔
    (wantedPort (setupHeaders incoming)).isSome
  echoed : ∀ msg, sixthMessage sinkAddr source incoming = some msg →
    ∃ port : UInt16, wantedPort (setupHeaders incoming) = some port.toNat ∧
      msg = sendSetupResponse (parseRequest (rawOf (heard silence incoming 5))) port
  returned : ∀ result, (negotiation sinkAddr source incoming).1 = .ok result →
    wantedPort (setupHeaders incoming) = some result.rtpPort.toNat

variable {incoming}

/-- What the source says of M6. -/
theorem sixthMessage_eq (h : ReachesSetup incoming) :
    sixthMessage sinkAddr source incoming =
      (setupPort (heard silence incoming 5)).map
        (sendSetupResponse (parseRequest (rawOf (heard silence incoming 5)))) := by
  obtain ⟨hbefore, hsetup⟩ := h
  have hlog : (negotiation sinkAddr source incoming).2.log = _ :=
    (negotiate_follows sinkAddr source incoming).log
  unfold sixthMessage
  rw [hlog]
  unfold course reading
  rw [hbefore 0 (by decide), hbefore 1 (by decide), hbefore 2 (by decide),
    hbefore 3 (by decide), hbefore 4 (by decide)]
  simp only [Dialogue.played_say, Dialogue.played_hear_true, acceptable, hsetup, Bool.true_and]
  cases hport : setupPort (heard silence incoming 5) with
  | none => rfl
  | some port =>
    rw [setupResponse, hport]
    rfl

/-- What is taken is what is wanted just where the choices are the same. -/
theorem toNat_setupPort_eq_iff :
    (setupPort (heard silence incoming 5)).map UInt16.toNat = wantedPort (setupHeaders incoming) ↔
      sameChoice (portParameters (setupHeaders incoming)) = true := by
  rw [← sameChoice_iff, wantedPort, setupPort, setupHeaders, parseTransportPort_eq, Option.map_map]
  refine Eq.congr_left (Option.map_congr fun p hp => ?_)
  have hheeded := List.find?_some hp
  exact UInt16.toNat_ofNat_of_lt' (of_decide_eq_true (Bool.and_eq_true_iff.mp hheeded).2)

theorem takesWantedPort_iff (h : ReachesSetup incoming) :
    TakesWantedPort sinkAddr source incoming ↔
      (setupPort (heard silence incoming 5)).map UInt16.toNat =
        wantedPort (setupHeaders incoming) := by
  have hsixth := sixthMessage_eq sinkAddr source h
  constructor
  · intro htakes
    cases hport : setupPort (heard silence incoming 5) with
    | none =>
      rw [hport] at hsixth
      have hwanted := htakes.accepted.not.mp (by rw [hsixth]; exact Bool.false_ne_true)
      exact (Option.not_isSome_iff_eq_none.mp hwanted).symm
    | some port =>
      -- The port is read back from the response, so that the response says which it is.
      rw [hport] at hsixth
      obtain ⟨wanted, hwanted, hmsg⟩ := htakes.echoed _ hsixth
      have hread := congrArg (fun msg => parseTransportPort (splitHeaderBody msg).1) hmsg
      simp only [parseTransportPort_sendSetupResponse, Option.some.injEq] at hread
      rw [hwanted, hread]
      rfl
  · intro hsame
    constructor
    · rw [hsixth, ← hsame, Option.isSome_map, Option.isSome_map]
    · intro msg hmsg
      rw [hsixth, Option.map_eq_some_iff] at hmsg
      obtain ⟨port, hport, rfl⟩ := hmsg
      refine ⟨port, ?_, rfl⟩
      rw [← hsame, hport]
      rfl
    · intro result hresult
      have hport := ((negotiate_follows sinkAddr source incoming).post result hresult).rtpPort
      rw [← hsame, hport]
      rfl

/-- **Which setups are answered with the port they ask for**: those in which no
parameter with the number 0, and none in a line that is named in another letter case,
comes before it. -/
theorem setup_takes_wanted_port_iff (h : ReachesSetup incoming) :
    TakesWantedPort sinkAddr source incoming ↔
      sameChoice (portParameters (setupHeaders incoming)) = true :=
  (takesWantedPort_iff sinkAddr source h).trans toNat_setupPort_eq_iff

end Negotiation

/-! ### A sink that asks for a port -/

/-- A sink that accepts all up to M6, and then sends `setup`. -/
def sinkWithSetup (setup : List Char) : List Reading :=
  (obligingSink (fun _ => 1) []).take 5 ++ [.ok setup, playRequest]

theorem reachesSetup_sinkWithSetup {setup : List Char}
    (h : (parseRequest setup).method = "SETUP".toList) : ReachesSetup (sinkWithSetup setup) := by
  refine ⟨fun i hi => ?_, decide_eq_true h⟩
  have hsame : heard silence (sinkWithSetup setup) i =
      heard silence (obligingSink (fun _ => 1) []) i := by
    interval_cases i <;> rfl
  rw [hsame]
  exact acceptable_obligingSink _ _ i (by omega)

theorem setup_takes_wanted_port_of_range :
    let setup := "SETUP * RTSP/1.0\r\nTransport: a; client_port = 1; client_port= 19000 -19001".toList
    TakesWantedPort () WfdVideoFormats.default (sinkWithSetup setup) ↔
      sameChoice (portParameters (setupHeaders (sinkWithSetup setup))) = true :=
  setup_takes_wanted_port_iff () _ (reachesSetup_sinkWithSetup (by decide))

/-- A setup for the port 0 is answered, and RTP goes to port 0. -/
theorem setup_for_port_zero_accepted :
    ¬ ∀ (source : WfdVideoFormats) (incoming : List Reading), ReachesSetup incoming →
      TakesWantedPort () source incoming := by
  intro hall
  have hreaches : ReachesSetup
      (sinkWithSetup "SETUP * RTSP/1.0\r\nTransport: client_port=0".toList) :=
    reachesSetup_sinkWithSetup (by decide)
  have hsame := (takesWantedPort_iff () _ hreaches).mp (hall .default _ hreaches)
  exact absurd (toNat_setupPort_eq_iff.mp hsame) (by decide)

end OpenPlay.Miracast
