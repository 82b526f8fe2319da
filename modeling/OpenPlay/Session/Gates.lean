import OpenPlay.Foundation.Text
import OpenPlay.Receiver.Senders
import OpenPlay.Sender.Cast

/-!
# What the other end's gate lets through

Three bounds on names were written in three places: `AppConfig::validate` wants a
display name that is not blank, the sender shortens and cleans the name it puts
into its request, and `SignalingMessage::validate` wants at most 64 characters
without control characters in either direction.

The sender's side nests: `sanitiseDisplayName` makes a name of any string, and of one
that is a name already the same again (`sanitised_name_passes`), so every request passes.
The receiver's side does not: an acceptance carries the configured name as it is, and
passes exactly if that is a name (`negotiation_passes_gates_iff`).
-/

namespace OpenPlay

open Transition

/-! ## Names -/

/-- What `check_name` accepts. -/
structure IsName (value : String) : Prop where
  nonempty : value ≠ ""
  short : value.length ≤ maxNameChars
  plain : ∀ c ∈ value.toList, isControl c = false

theorem checkName_eq_ok_iff {field value : String} :
    checkName field value = .ok () ↔ IsName value := by
  rw [checkName]
  constructor
  · intro h
    split_ifs at h with hempty hlong hcontrol
    refine ⟨fun heq => hempty (String.isEmpty_iff.mpr heq), Nat.not_lt.mp hlong, ?_⟩
    intro c hc
    by_contra hbad
    exact hcontrol (List.any_eq_true.mpr ⟨c, hc, Bool.not_eq_false _ ▸ hbad⟩)
  · intro h
    have hcontrol : value.toList.any isControl = false := by
      rw [List.any_eq_false]
      intro c hc
      rw [h.plain c hc]
      exact Bool.false_ne_true
    rw [if_neg fun hempty => h.nonempty (String.isEmpty_iff.mp hempty),
      if_neg (Nat.not_lt.mpr h.short), hcontrol, if_neg Bool.false_ne_true]

theorem ne_empty_of_not_isBlank {text : String} (h : isBlank text = false) : text ≠ "" := by
  rintro rfl
  cases h

/-- A configuration that passes has a display name to show. -/
theorem AppConfig.not_isBlank_of_validate {config : AppConfig}
    (h : config.validate = .ok ()) : isBlank config.displayName = false := by
  rw [validate] at h
  split at h
  · cases h
  · rename_i hblank
    exact Bool.eq_false_iff.mpr hblank

/-! ## The request -/

/-- `sender_id`, on the hash of the data directory. -/
def senderId (hash : UInt64) : String :=
  String.ofList ("openplay-".toList ++
    (Text.paddedDigits 16 16 hash.toNat).map Char.toLower)

/-- A name in front of 16 digits. -/
theorem isName_append_digits {digits : List Char} (hlength : digits.length = 16)
    (hdigits : ∀ c ∈ digits, ∃ d < 16, c = Text.digitChar d) :
    IsName (String.ofList ("openplay-".toList ++ digits.map Char.toLower)) where
  nonempty h := by
    have hlist := congrArg String.toList h
    rw [String.toList_ofList] at hlist
    cases hlist
  short := by
    rw [String.length_ofList, List.length_append, List.length_map, hlength]
    decide
  plain c hc := by
    rw [String.toList_ofList, List.mem_append] at hc
    rcases hc with hprefix | hdigit
    · have hall : ∀ c ∈ "openplay-".toList, isControl c = false :=
        List.all_iff_forall_prop.mp (by decide)
      exact hall c hprefix
    · obtain ⟨digit, hmem, rfl⟩ := List.mem_map.mp hdigit
      obtain ⟨d, hd, rfl⟩ := hdigits digit hmem
      have hall : ∀ d : Fin 16, isControl (Text.digitChar d).toLower = false := by decide
      exact hall ⟨d, hd⟩

theorem isName_senderId (hash : UInt64) : IsName (senderId hash) :=
  isName_append_digits
    (Text.length_paddedDigits (by decide) (by decide) hash.toNat_lt)
    fun _ hc => Text.exists_digit_of_mem_padded (by decide) hc

/-- **The sanitiser makes a name of every string.** -/
theorem isName_sanitiseDisplayName (name : String) : IsName (sanitiseDisplayName name) := by
  rw [sanitiseDisplayName]
  split
  · exact ⟨by decide, by decide, List.all_iff_forall_prop.mp (by decide)⟩
  · rename_i hblank
    refine ⟨ne_empty_of_not_isBlank (Bool.eq_false_iff.mpr hblank), ?_, ?_⟩
    · rw [String.length_ofList]
      exact List.length_take_le _ _
    · intro c hc
      rw [String.toList_ofList] at hc
      have hkept := (List.mem_filter.mp (List.mem_of_mem_take hc)).2
      rwa [Bool.not_eq_true'] at hkept

theorem isBlank_eq_false_iff {text : String} :
    isBlank text = false ↔ ∃ c ∈ text.toList, isWhitespace c = false := by
  simp only [isBlank, List.all_eq_false, Bool.not_eq_true]

theorem isBlank_sanitiseDisplayName (name : String) :
    isBlank (sanitiseDisplayName name) = false := by
  rw [sanitiseDisplayName]
  split
  · decide
  · rename_i hblank
    exact Bool.eq_false_iff.mpr hblank

/-- A name with something to see is left as it is. -/
theorem sanitiseDisplayName_eq_self {name : String} (h : IsName name)
    (hvisible : isBlank name = false) : sanitiseDisplayName name = name := by
  have hkept : name.toList.filter (fun c => ! isControl c) = name.toList := by
    rw [List.filter_eq_self]
    intro c hc
    rw [h.plain c hc]
    rfl
  have hshort : name.toList.length ≤ maxNameChars := h.short
  have hcleaned : String.ofList ((name.toList.filter fun c => ! isControl c).take
      maxNameChars) = name := by
    rw [hkept, List.take_of_length_le hshort, String.ofList_toList]
  simp only [sanitiseDisplayName, hcleaned, hvisible, Bool.false_eq_true, if_false]

/-- **A sanitised name passes, and only what does not pass is changed.**  The sanitiser has
nothing left to do on what it returns. -/
theorem sanitised_name_passes (name : String) :
    (∀ field, checkName field (sanitiseDisplayName name) = .ok ()) ∧
      sanitiseDisplayName (sanitiseDisplayName name) = sanitiseDisplayName name ∧
      ∀ field, (sanitiseDisplayName name = name ↔
        checkName field name = .ok () ∧ ∃ c ∈ name.toList, isWhitespace c = false) := by
  have hname := isName_sanitiseDisplayName name
  have hvisible := isBlank_sanitiseDisplayName name
  refine ⟨fun field => checkName_eq_ok_iff.mpr hname,
    sanitiseDisplayName_eq_self hname hvisible, fun field => ?_⟩
  rw [checkName_eq_ok_iff, ← isBlank_eq_false_iff]
  constructor
  · intro hself
    rw [hself] at hname hvisible
    exact ⟨hname, hvisible⟩
  · rintro ⟨hpasses, hseen⟩
    exact sanitiseDisplayName_eq_self hpasses hseen

/-- Every request of this sender passes the receiver's gate. -/
theorem valid_sessionRequest {config : CastConfig} (h : IsName config.senderId) :
    config.sessionRequest.valid = true := by
  have hid : checkName "sender_id" config.senderId = .ok () := checkName_eq_ok_iff.mpr h
  have hname : checkName "display_name" (sanitiseDisplayName config.displayName) =
      .ok () := checkName_eq_ok_iff.mpr (isName_sanitiseDisplayName _)
  have hvalid : config.sessionRequest.validate = .ok () := by
    rw [CastConfig.sessionRequest, SignalingMessage.validate, hid, hname]
    rfl
  rw [SignalingMessage.valid, hvalid]

/-! ## The receiver's replies -/

/-- The replies that negotiate a session. -/
def SignalingMessage.isVerdict (message : SignalingMessage) : Bool :=
  message.isSessionAccept || message.isSessionReject || message.isSessionEnd

theorem valid_acceptance_iff (s : SessionLoop) (p : Pending) :
    (s.acceptance p).valid = true ↔ IsName s.config.displayName := by
  rw [← checkName_eq_ok_iff, SignalingMessage.valid, SessionLoop.acceptance,
    SignalingMessage.validate]
  cases checkName "receiver_id" s.config.displayName with
  | ok _ => exact ⟨fun _ => rfl, fun _ => rfl⟩
  | error _ =>
      constructor
      · intro h
        cases h
      · intro h
        cases h

/-- No turn of the loop touches the configuration. -/
theorem SessionLoop.Reacts.config {s s' : SessionLoop} {input : Input}
    {effects : List Effect} (rule : Reacts s input s' effects) :
    s'.config = s.config := by
  cases rule <;> rfl

theorem config_of_run {past : List LoopMove} {s : SessionLoop}
    (run : sessionLoop.Run past s) : ∀ move ∈ past, move.source.config = s.config := by
  induction run with
  | start _ =>
      intro move mem
      cases mem
  | @move past move before made ih =>
      intro earlier mem
      rw [(reacts_of_makes made).config]
      rcases List.mem_cons.mp mem with rfl | mem
      · rfl
      · exact ih earlier mem

/-- Whatever the loop sends to negotiate passes the sender's gate, if the
configured name is a name. -/
theorem valid_of_sends {s s' : SessionLoop} {input : Input} {reply : ConnectionHandle}
    {message : SignalingMessage} (name : IsName s.config.displayName)
    (sends : SessionLoop.Sends s input s' reply message)
    (verdict : message.isVerdict = true) : message.valid = true := by
  cases sends with
  | refused => rfl
  | ponged => cases verdict
  | denied => rfl
  | approved => exact (valid_acceptance_iff s _).mpr name
  | forwarded was dest forwards =>
      cases forwards <;> cases verdict
  | ended => rfl

/-- In some run of every configuration, somebody is accepted. -/
theorem exists_acceptance (config : AppConfig) :
    ∃ past s, sessionLoop.Run past s ∧ s.config = config ∧
      ∃ move ∈ past, ∃ reply p,
        Effect.send reply (SessionLoop.acceptance (.startedWith config) p) ∈
          move.output := by
  have run := System.Run.of_actions [.asks ⟨1⟩ "Alice", .allows ⟨1⟩]
    (sessionLoop_init config) rfl
  exact ⟨_, _, run, rfl, _, List.mem_cons_self, _, _, List.mem_cons_self⟩

/-- **Which configurations can talk to their peers.**  Under a validated
configuration everything either end says to negotiate a session passes the
other's gate, whatever the sender's name and capture are and in every run of the
loop, exactly if the receiver's display name has at most 64 characters and no
control character. -/
theorem negotiation_passes_gates_iff (config : AppConfig)
    (validated : config.validate = .ok ()) :
    ((∀ (hash : UInt64) (displayName : String) (width height framerate : UInt32),
        (CastConfig.sessionRequest
          ⟨senderId hash, displayName, width, height, framerate⟩).valid = true) ∧
      ∀ past s, sessionLoop.Run past s → s.config = config →
        ∀ move ∈ past, ∀ reply message, Effect.send reply message ∈ move.output →
          message.isVerdict = true → message.valid = true) ↔
    config.displayName.length ≤ maxNameChars ∧
      ∀ c ∈ config.displayName.toList, isControl c = false := by
  have hblank := AppConfig.not_isBlank_of_validate validated
  constructor
  · rintro ⟨-, hreplies⟩
    obtain ⟨past, s, run, hconfig, move, mem, reply, p, sent⟩ := exists_acceptance config
    have hvalid := hreplies past s run hconfig move mem reply _ sent rfl
    have hname := (valid_acceptance_iff (.startedWith config) p).mp hvalid
    exact ⟨hname.short, hname.plain⟩
  · rintro ⟨hshort, hplain⟩
    have hname : IsName config.displayName :=
      ⟨ne_empty_of_not_isBlank hblank, hshort, hplain⟩
    refine ⟨fun hash _ _ _ _ => valid_sessionRequest (isName_senderId hash), ?_⟩
    intro past s run hconfig move mem reply message sent verdict
    obtain ⟨-, made⟩ := run.of_mem mem
    have hsource : IsName move.source.config.displayName := by
      rwa [config_of_run run move mem, hconfig]
    exact valid_of_sends hsource ((reacts_of_makes made).sends sent) verdict

theorem negotiation_passes_gates_iff_in_living_room :
    let config : AppConfig := ⟨"Living room", 7000, 8000, 60⟩
    (∀ (hash : UInt64) (displayName : String) (width height framerate : UInt32),
        (CastConfig.sessionRequest
          ⟨senderId hash, displayName, width, height, framerate⟩).valid = true) ∧
      ∀ past s, sessionLoop.Run past s → s.config = config →
        ∀ move ∈ past, ∀ reply message, Effect.send reply message ∈ move.output →
          message.isVerdict = true → message.valid = true :=
  (negotiation_passes_gates_iff ⟨"Living room", 7000, 8000, 60⟩ rfl).mpr
    ⟨by decide, List.all_iff_forall_prop.mp (by decide)⟩

/-- A configured name with a line break passes `AppConfig::validate`, and the
acceptance that carries it is dropped by the sender's gate. -/
theorem acceptance_dropped_by_sender :
    let config : AppConfig := ⟨"Living\nroom", 7000, 8000, 60⟩
    config.validate = .ok () ∧
      ¬ ∀ past s, sessionLoop.Run past s → s.config = config →
        ∀ move ∈ past, ∀ reply message, Effect.send reply message ∈ move.output →
          message.isVerdict = true → message.valid = true := by
  refine ⟨rfl, fun passes => ?_⟩
  obtain ⟨past, s, run, hconfig, move, mem, reply, p, sent⟩ :=
    exists_acceptance ⟨"Living\nroom", 7000, 8000, 60⟩
  have hvalid := passes past s run hconfig move mem reply _ sent rfl
  have hname := (valid_acceptance_iff _ p).mp hvalid
  have hbreak : isControl '\n' = false := hname.plain '\n' (by decide)
  cases hbreak

end OpenPlay
