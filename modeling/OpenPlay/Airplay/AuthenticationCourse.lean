import OpenPlay.Airplay.Authentication
import OpenPlay.Airplay.PairingCourse

/-!
# Negotiation and authentication, whoever answers

What the second step of `run_session` does with any network at all.

`AuthCourse` and `PlainCourse` say what it can write.  Behind a pairing that is only the stream
request, in one frame under the key of a receiver that has proved it, and no stream comes of it:
`stream_is_accepted_in_plaintext`.
-/

namespace OpenPlay.Airplay

open Exchange HttpSession
open HapPairing (PairingError Post Primitives CarriesIdentity)

/-! ## Logs -/

abbrev NetLog := List (NetCall × Except Stop NetAnswer)

/-- What a call writes. -/
def NetCall.writes : NetCall → Option (List UInt8)
  | write bytes => some bytes
  | connect | read => none

/-- What is written, call by call. -/
def written (log : NetLog) : List (List UInt8) := log.filterMap fun entry => entry.1.writes

@[simp] theorem written_nil : written [] = [] := rfl

@[simp] theorem written_connect (answer : Except Stop NetAnswer) (log : NetLog) :
    written ((.connect, answer) :: log) = written log := rfl

@[simp] theorem written_read (answer : Except Stop NetAnswer) (log : NetLog) :
    written ((.read, answer) :: log) = written log := rfl

@[simp] theorem written_write (bytes : List UInt8) (answer : Except Stop NetAnswer)
    (log : NetLog) : written ((.write bytes, answer) :: log) = bytes :: written log := rfl

@[simp] theorem written_append (front rest : NetLog) :
    written (front ++ rest) = written front ++ written rest :=
  List.filterMap_append

/-! ## The parts -/

section Parts

variable {α β : Type} {log : NetLog} {result : Except Stop β}

theorem trace_stop {e : AirPlayError} (trace : Trace (stop e : Negotiating β) log result) :
    log = [] ∧ result = .error (.error e) :=
  trace_done.mp trace

theorem trace_perform {c : NetCall} {error : String → AirPlayError}
    {more : Unit → Negotiating β} (trace : Trace (perform c error >>= more) log result) :
    (∃ answer stop, log = [(c, answer)] ∧ result = .error stop ∧
        (answer = .error stop ∨ ∃ e, stop = .error (error e))) ∨
      ∃ answer rest, log = (c, .ok answer) :: rest ∧ Trace (more ()) rest result := by
  rcases trace_bind.mp trace with ⟨s, part, rfl⟩ | ⟨⟨⟩, front, rest, part, rfl, later⟩
  · rcases trace_query.mp part with ⟨e, rfl, failed⟩ | ⟨answer, rest, rfl, judged⟩
    · cases failed
      exact Or.inl ⟨_, s, rfl, rfl, Or.inl rfl⟩
    · cases answer with
      | works bytes ending cuts => exact nomatch (trace_pure.mp judged).2
      | fails e =>
        obtain ⟨rfl, same⟩ := trace_stop judged
        exact Or.inl ⟨_, s, rfl, rfl, Or.inr ⟨e, Except.error.inj same⟩⟩
  · rcases trace_query.mp part with ⟨e, -, failed⟩ | ⟨answer, rest', rfl, judged⟩
    · cases failed
    · cases answer with
      | works bytes ending cuts =>
        obtain ⟨rfl, -⟩ := trace_pure.mp judged
        exact Or.inr ⟨_, rest, rfl, later⟩
      | fails e => exact nomatch (trace_stop judged).2

theorem trace_readResponse {more : List Char × List UInt8 → Negotiating β}
    (trace : Trace (readResponse >>= more) log result) :
    (∃ answer stop, log = [(.read, answer)] ∧ result = .error stop ∧
        (answer = .error stop ∨ ∀ msg, stop ≠ .error (.negotiation msg))) ∨
      ∃ answer headers body rest, log = (.read, .ok answer) :: rest ∧
        readHttpResponse answer.cuts answer.bytes answer.ending = .ok headers body ∧
        Trace (more (headers, body)) rest result := by
  rcases trace_bind.mp trace with ⟨s, part, rfl⟩ | ⟨response, front, rest, part, rfl, later⟩
  · rcases trace_query.mp part with ⟨e, rfl, failed⟩ | ⟨answer, rest, rfl, judged⟩
    · cases failed
      exact Or.inl ⟨_, s, rfl, rfl, Or.inl rfl⟩
    · split at judged
      · exact nomatch (trace_pure.mp judged).2
      · obtain ⟨rfl, same⟩ := trace_stop judged
        cases same
        exact Or.inl ⟨_, _, rfl, rfl, Or.inr nofun⟩
      · obtain ⟨rfl, same⟩ := trace_done.mp judged
        cases same
        exact Or.inl ⟨_, _, rfl, rfl, Or.inr nofun⟩
      · obtain ⟨rfl, same⟩ := trace_done.mp judged
        cases same
        exact Or.inl ⟨_, _, rfl, rfl, Or.inr nofun⟩
  · rcases trace_query.mp part with ⟨e, -, failed⟩ | ⟨answer, rest', rfl, judged⟩
    · cases failed
    · split at judged
      · rename_i headers body read
        obtain ⟨rfl, same⟩ := trace_pure.mp judged
        cases same
        exact Or.inr ⟨answer, headers, body, rest, rfl, read, later⟩
      · exact nomatch (trace_stop judged).2
      · exact nomatch (trace_done.mp judged).2
      · exact nomatch (trace_done.mp judged).2

theorem eq_ok_of_mapError {ε ε' : Type} {f : ε → ε'} {x : Except ε α} {a : α}
    (ok : x.mapError f = .ok a) : x = .ok a := by
  cases x with
  | error e => cases ok
  | ok b =>
    cases ok
    rfl

theorem trace_calculate {x : Except AirPlayError α} {more : α → Negotiating β}
    (trace : Trace (calculate x >>= more) log result) :
    (∃ e, x = .error e ∧ log = [] ∧ result = .error (.error e)) ∨
      ∃ a, x = .ok a ∧ Trace (more a) log result := by
  rcases trace_lift.mp trace with ⟨stop, failed, rfl, rfl⟩ | ⟨a, is, later⟩
  · cases x with
    | error e =>
      cases failed
      exact Or.inl ⟨e, rfl, rfl, rfl⟩
    | ok a => cases failed
  · exact Or.inr ⟨a, eq_ok_of_mapError is, later⟩

end Parts

/-! ## Negotiation -/

section Plaintext

variable (crates : Crates) (params : SessionParams)

/-- A response was read, and these are its parts. -/
def NetAnswer.Responds (answer : NetAnswer) (headers : List Char) (body : List UInt8) : Prop :=
  readHttpResponse answer.cuts answer.bytes answer.ending = .ok headers body

/-- The log of a negotiation in plaintext that the receiver has accepted. -/
inductive AcceptedPlainly : NetLog → ServerInfo → Prop
  | intro {connected asked sentHead sentBody infoAnswer streamAnswer : NetAnswer}
      {infoHeaders headers : List Char} {info rest head body : List UInt8}
      {serverInfo : ServerInfo} (responds : infoAnswer.Responds infoHeaders info)
      (parsed : parseInfoResponse crates.fromBytes info = .ok serverInfo)
      (pieces : postStream crates.toWriterBinary params.width params.height params.fps
        params.sessionId params.deviceName = .ok [head, body])
      (answers : streamAnswer.Responds headers rest) (success : statusIsSuccess headers = true) :
      AcceptedPlainly
        [(.connect, .ok connected),
          (.write (getInfo params.sessionId params.deviceName), .ok asked),
          (.read, .ok infoAnswer), (.write head, .ok sentHead), (.write body, .ok sentBody),
          (.read, .ok streamAnswer)]
        serverInfo

variable {crates params} {log : NetLog}

/-- There are two pieces. -/
theorem exists_postStream {pieces : List (List UInt8)}
    (built : postStream crates.toWriterBinary params.width params.height params.fps
      params.sessionId params.deviceName = .ok pieces) : ∃ head body, pieces = [head, body] := by
  rw [postStream] at built
  split at built
  · cases built
  · cases built
    exact ⟨_, _, rfl⟩

/-- A stream request that succeeds. -/
theorem trace_postStreamOn (trace : Trace (postStreamOn crates params) log (.ok ())) :
    ∃ head body sentHead sentBody answer headers rest,
      postStream crates.toWriterBinary params.width params.height params.fps params.sessionId
        params.deviceName = .ok [head, body] ∧
      log = [(.write head, .ok sentHead), (.write body, .ok sentBody), (.read, .ok answer)] ∧
      answer.Responds headers rest ∧ statusIsSuccess headers = true := by
  apply trace_calculate at trace
  rcases trace with ⟨_, -, -, failed⟩ | ⟨pieces, built, trace⟩
  · cases failed
  have built' := eq_ok_of_mapError built
  obtain ⟨head, body, rfl⟩ := exists_postStream built'
  rw [trace_bind] at trace
  rcases trace with ⟨_, -, failed⟩ | ⟨⟨⟩, front, rest, wrote, rfl, trace⟩
  · cases failed
  apply trace_perform at wrote
  rcases wrote with ⟨_, _, -, failed, -⟩ | ⟨sentHead, rest', rfl, wrote⟩
  · cases failed
  apply trace_perform at wrote
  rcases wrote with ⟨_, _, -, failed, -⟩ | ⟨sentBody, rest', rfl, wrote⟩
  · cases failed
  obtain ⟨rfl, -⟩ := trace_pure.mp wrote
  apply trace_readResponse at trace
  rcases trace with ⟨_, _, -, failed, -⟩ |
    ⟨answer, headers, text, rest, rfl, responds, trace⟩
  · cases failed
  refine ⟨head, body, sentHead, sentBody, answer, headers, text, built', ?_, responds, ?_⟩
  · dsimp only at trace
    split at trace
    · exact nomatch (trace_stop trace).2
    · obtain ⟨rfl, -⟩ := trace_pure.mp trace
      rfl
  · dsimp only at trace
    split at trace
    · exact nomatch (trace_stop trace).2
    · rename_i none
      rw [rejection] at none
      split_ifs at none with success
      exact success

/-- **Negotiation succeeds** only in one way. -/
theorem acceptedPlainly_of_trace {addr : String} {serverInfo : ServerInfo}
    (trace : Trace (negotiate crates params addr) log (.ok serverInfo)) :
    AcceptedPlainly crates params log serverInfo := by
  apply trace_perform at trace
  rcases trace with ⟨_, _, -, failed, -⟩ | ⟨connected, log, rfl, trace⟩
  · cases failed
  apply trace_perform at trace
  rcases trace with ⟨_, _, -, failed, -⟩ | ⟨asked, log, rfl, trace⟩
  · cases failed
  apply trace_readResponse at trace
  rcases trace with ⟨_, _, -, failed, -⟩ |
    ⟨infoAnswer, infoHeaders, info, log, rfl, responds, trace⟩
  · cases failed
  apply trace_calculate at trace
  rcases trace with ⟨_, -, -, failed⟩ | ⟨serverInfo', parsed, trace⟩
  · cases failed
  rw [trace_bind] at trace
  rcases trace with ⟨_, -, failed⟩ | ⟨⟨⟩, front, rest, posted, rfl, trace⟩
  · cases failed
  obtain ⟨rfl, same⟩ := trace_pure.mp trace
  cases same
  obtain ⟨head, body, sentHead, sentBody, answer, headers, text, built, rfl, answers, success⟩ :=
    trace_postStreamOn posted
  exact .intro responds parsed built answers success

/-- The receiver has refused the stream request, with `msg` for the text of the error. -/
def Refuses (log : NetLog) (msg : List Char) : Prop :=
  ∃ answer headers body, (.read, .ok answer) ∈ log ∧ answer.Responds headers body ∧
    rejection headers = some msg

/-- Every call has returned. -/
def Returned (log : NetLog) : Prop := ∀ entry ∈ log, ∃ answer, entry.2 = .ok answer

theorem Returned.of_cons {entry : NetCall × Except Stop NetAnswer}
    (returned : Returned (entry :: log)) : Returned log :=
  fun entry mem => returned entry (List.mem_cons_of_mem _ mem)

theorem Returned.of_append {front rest : NetLog} (returned : Returned (front ++ rest)) :
    Returned rest :=
  fun entry mem => returned entry (List.mem_append_right _ mem)

theorem Returned.not_error {c : NetCall} {stop : Stop}
    (returned : Returned ((c, .error stop) :: log)) : False := by
  obtain ⟨answer, same⟩ := returned _ List.mem_cons_self
  cases same

theorem Refuses.of_append (front : NetLog) {rest : NetLog} {msg : List Char}
    (refuses : Refuses rest msg) : Refuses (front ++ rest) msg := by
  obtain ⟨answer, headers, body, mem, read⟩ := refuses
  exact ⟨answer, headers, body, List.mem_append_right front mem, read⟩

/-- A negotiation writes the question for `/info`, and behind it the stream request. -/
def PlainCourse (crates : Crates) (params : SessionParams) (log : NetLog) : Prop :=
  written log <+: [getInfo params.sessionId params.deviceName] ∨
    ∃ head body, postStream crates.toWriterBinary params.width params.height params.fps
      params.sessionId params.deviceName = .ok [head, body] ∧
      written log <+: [getInfo params.sessionId params.deviceName, head, body]

/-- The pieces are written one after the other. -/
theorem written_writePieces {pieces : List (String × List UInt8)} {result : Except Stop Unit}
    (trace : Trace (writePieces pieces) log result) :
    written log <+: pieces.map Prod.snd ∧
      (result = .ok () → written log = pieces.map Prod.snd) := by
  induction pieces generalizing log with
  | nil =>
    obtain ⟨rfl, -⟩ := trace_pure.mp trace
    exact ⟨List.nil_prefix, fun _ => rfl⟩
  | cons piece pieces ih =>
    rcases trace_perform trace with ⟨answer, stop, rfl, rfl, -⟩ | ⟨answer, rest, rfl, later⟩
    · exact ⟨⟨pieces.map Prod.snd, rfl⟩, nofun⟩
    · obtain ⟨some, all⟩ := ih later
      refine ⟨?_, fun ok => ?_⟩
      · rw [written_write, List.map_cons]
        exact List.cons_prefix_cons.mpr ⟨rfl, some⟩
      · rw [written_write, all ok, List.map_cons]

/-- The stream request, as far as it is written. -/
theorem written_postStreamOn {result : Except Stop Unit}
    (trace : Trace (postStreamOn crates params) log result) :
    written log = [] ∨
      ∃ head body, postStream crates.toWriterBinary params.width params.height params.fps
        params.sessionId params.deviceName = .ok [head, body] ∧ written log <+: [head, body] := by
  rcases trace_calculate trace with ⟨e, -, rfl, -⟩ | ⟨pieces, built, posted⟩
  · exact Or.inl rfl
  right
  have built := eq_ok_of_mapError built
  obtain ⟨head, body, rfl⟩ := exists_postStream built
  refine ⟨head, body, built, ?_⟩
  rcases trace_bind.mp posted with ⟨stop, wrote, -⟩ | ⟨⟨⟩, front, rest, wrote, rfl, answered⟩
  · exact (written_writePieces wrote).1
  · have quiet : written rest = [] := by
      rcases trace_readResponse answered with ⟨_, _, rfl, -, -⟩ | ⟨_, _, _, rest, rfl, -, judged⟩
      · rfl
      · dsimp only at judged
        split at judged
        · cases (trace_stop judged).1
          rfl
        · cases (trace_pure.mp judged).1
          rfl
    rw [written_append, (written_writePieces wrote).2 rfl, quiet, List.append_nil]
    exact List.prefix_rfl

/-- What a negotiation writes. -/
theorem plainCourse_of_trace {addr : String} {result : Except Stop ServerInfo}
    (trace : Trace (negotiate crates params addr) log result) : PlainCourse crates params log := by
  apply trace_perform at trace
  rcases trace with ⟨_, _, rfl, -, -⟩ | ⟨_, log, rfl, trace⟩
  · exact Or.inl List.nil_prefix
  apply trace_perform at trace
  rcases trace with ⟨_, _, rfl, -, -⟩ | ⟨_, log, rfl, trace⟩
  · exact Or.inl List.prefix_rfl
  apply trace_readResponse at trace
  rcases trace with ⟨_, _, rfl, -, -⟩ | ⟨_, _, _, log, rfl, -, trace⟩
  · exact Or.inl List.prefix_rfl
  apply trace_calculate at trace
  rcases trace with ⟨_, -, rfl, -⟩ | ⟨serverInfo, -, trace⟩
  · exact Or.inl List.prefix_rfl
  have posted : ∃ r, Trace (postStreamOn crates params) log r := by
    rw [trace_bind] at trace
    rcases trace with ⟨_, posted, -⟩ | ⟨⟨⟩, front, rest, posted, rfl, last⟩
    · exact ⟨_, posted⟩
    · cases (trace_pure.mp last).1
      rw [List.append_nil]
      exact ⟨_, posted⟩
  obtain ⟨r, posted⟩ := posted
  rcases written_postStreamOn posted with none | ⟨head, body, built, some⟩
  · left
    rw [written_connect, written_write, written_read, none]
  · right
    refine ⟨head, body, built, ?_⟩
    rw [written_connect, written_write, written_read]
    exact List.cons_prefix_cons.mpr ⟨rfl, some⟩

section Refusals

variable {β : Type} {msg : List Char}

/-- A call of which the failure is another error is not the one that is refused. -/
theorem refuses_behind_perform {c : NetCall} {error : String → AirPlayError}
    {more : Unit → Negotiating β} (returned : Returned log)
    (trace : Trace (perform c error >>= more) log (.error (.error (.negotiation msg))))
    (other : ∀ e, error e ≠ .negotiation msg) :
    ∃ answer rest, log = (c, .ok answer) :: rest ∧ Returned rest ∧
      Trace (more ()) rest (.error (.error (.negotiation msg))) := by
  rcases trace_perform trace with ⟨answer, stop, rfl, same, which⟩ | ⟨answer, rest, rfl, later⟩
  · cases same
    rcases which with rfl | ⟨e, is⟩
    · exact returned.not_error.elim
    · exact absurd (Stop.error.inj is).symm (other e)
  · exact ⟨answer, rest, rfl, returned.of_cons, later⟩

theorem refuses_behind_readResponse {more : List Char × List UInt8 → Negotiating β}
    (returned : Returned log)
    (trace : Trace (readResponse >>= more) log (.error (.error (.negotiation msg)))) :
    ∃ answer headers body rest, log = (.read, .ok answer) :: rest ∧ Returned rest ∧
      answer.Responds headers body ∧
      Trace (more (headers, body)) rest (.error (.error (.negotiation msg))) := by
  rcases trace_readResponse trace with ⟨answer, stop, rfl, same, which⟩ |
    ⟨answer, headers, body, rest, rfl, responds, later⟩
  · cases same
    rcases which with rfl | other
    · exact returned.not_error.elim
    · exact absurd rfl (other msg)
  · exact ⟨answer, headers, body, rest, rfl, returned.of_cons, responds, later⟩

theorem not_refuses_writePieces {pieces : List (String × List UInt8)} (returned : Returned log) :
    ¬ Trace (writePieces pieces) log (.error (.error (.negotiation msg))) := by
  intro trace
  induction pieces generalizing log with
  | nil => exact nomatch (trace_pure.mp trace).2
  | cons piece pieces ih =>
    obtain ⟨_, rest, -, returned, later⟩ := refuses_behind_perform returned trace fun _ => nofun
    exact ih returned later

theorem refuses_of_postStreamOn (returned : Returned log)
    (trace : Trace (postStreamOn crates params) log (.error (.error (.negotiation msg)))) :
    Refuses log msg := by
  apply trace_calculate at trace
  rcases trace with ⟨e, failed, rfl, same⟩ | ⟨pieces, built, trace⟩
  · -- the error of a dictionary that cannot be encoded
    cases same
    revert failed
    cases postStream crates.toWriterBinary params.width params.height params.fps
      params.sessionId params.deviceName <;> nofun
  rw [trace_bind] at trace
  rcases trace with ⟨stop, wrote, same⟩ | ⟨⟨⟩, front, rest, wrote, rfl, trace⟩
  · cases same
    exact absurd wrote (not_refuses_writePieces returned)
  obtain ⟨answer, headers, body, rest, rfl, -, responds, judged⟩ :=
    refuses_behind_readResponse returned.of_append trace
  refine .of_append _ ⟨answer, headers, body, List.mem_cons_self, responds, ?_⟩
  dsimp only at judged
  split at judged
  · rename_i text rejects
    cases (trace_stop judged).2
    exact rejects
  · exact nomatch (trace_pure.mp judged).2

/-- **A negotiation error** is a refusal of the stream request. -/
theorem refuses_of_trace {addr : String} (returned : Returned log)
    (trace : Trace (negotiate crates params addr) log (.error (.error (.negotiation msg)))) :
    Refuses log msg := by
  obtain ⟨connected, _, rfl, returned, trace⟩ :=
    refuses_behind_perform returned trace fun _ => nofun
  obtain ⟨asked, _, rfl, returned, trace⟩ :=
    refuses_behind_perform returned trace fun _ => nofun
  obtain ⟨infoAnswer, headers, info, _, rfl, returned, responds, trace⟩ :=
    refuses_behind_readResponse returned trace
  rcases trace_calculate trace with ⟨e, failed, -, same⟩ | ⟨serverInfo, parsed, trace⟩
  · cases same
    rw [parseInfoResponse] at failed
    split_ifs at failed
    split at failed <;> cases failed
  · rcases trace_bind.mp trace with ⟨stop, posted, same⟩ | ⟨⟨⟩, front, rest, -, rfl, last⟩
    · cases same
      have refuses := refuses_of_postStreamOn returned posted
      exact refuses.of_append [_, _, _]
    · exact nomatch (trace_pure.mp last).2

end Refusals

end Plaintext

/-! ## Authentication -/

section Pairing

variable {crates : Crates} {log : NetLog}

/-- A post and its answer are a call each. -/
theorem written_putPost {p : Post} {result : Except Stop (Except PairingError (List UInt8))}
    (trace : Trace (putPost p) log result) : written log = [p.bytes] := by
  rw [putPost, trace_query] at trace
  rcases trace with ⟨_, rfl, -⟩ | ⟨answer, log, rfl, trace⟩
  · rfl
  cases answer with
  | fails e =>
    obtain ⟨rfl, -⟩ := trace_pure.mp trace
    rfl
  | works bytes ending cuts =>
    rw [trace_query] at trace
    rcases trace with ⟨_, rfl, -⟩ | ⟨answer, log, rfl, trace⟩
    · rfl
    · obtain ⟨rfl, -⟩ := trace_done.mp trace
      rfl

/-- What is written for some posts. -/
theorem written_puts {asked : HapPairing.Log} (puts : Puts putPost asked log) :
    written log = asked.map fun entry => entry.1.bytes := by
  induction puts with
  | nil => rfl
  | cons putting later ih =>
    rw [written_append, written_putPost putting, ih]
    rfl
  | stopped stopping => exact written_putPost stopping

/-- The answer to a post was read off the connection. -/
theorem read_of_putPost {p : Post} {body : List UInt8}
    (trace : Trace (putPost p) log (.ok (.ok body))) :
    ∃ answer, (.read, .ok answer) ∈ log ∧ receivePost answer = .ok (.ok body) := by
  rw [putPost, trace_query] at trace
  rcases trace with ⟨_, -, failed⟩ | ⟨answer, log, rfl, trace⟩
  · cases failed
  cases answer with
  | fails e => exact nomatch (trace_pure.mp trace).2
  | works bytes ending cuts =>
    rw [trace_query] at trace
    rcases trace with ⟨_, -, failed⟩ | ⟨answer, log, rfl, trace⟩
    · cases failed
    · have received := (trace_done.mp trace).2
      exact ⟨answer, List.mem_cons_of_mem _ List.mem_cons_self, received.symm⟩

/-- Every answer to a post was read off the connection. -/
theorem read_of_puts {asked : HapPairing.Log} (puts : Puts putPost asked log) {p : Post}
    {body : List UInt8} (mem : (p, .ok body) ∈ asked) :
    ∃ answer, (.read, .ok answer) ∈ log ∧ receivePost answer = .ok (.ok body) := by
  induction puts with
  | nil => cases mem
  | cons putting later ih =>
    rcases List.mem_cons.mp mem with same | mem
    · cases same
      obtain ⟨answer, read, received⟩ := read_of_putPost putting
      exact ⟨answer, List.mem_append_left _ read, received⟩
    · obtain ⟨answer, read, received⟩ := ih mem
      exact ⟨answer, List.mem_append_right _ read, received⟩
  | stopped stopping => cases List.mem_singleton.mp mem

end Pairing

section Authentication

variable (crates : Crates) (params : SessionParams) (a : Nat)

/-- The receiver has said that it supports transient pairing. -/
def Offers (log : NetLog) : Prop :=
  ∃ answer headers body serverInfo, (.read, .ok answer) ∈ log ∧
    answer.Responds headers body ∧ parseInfoResponse crates.fromBytes body = .ok serverInfo ∧
    serverInfo.features.supportsTransientPairing = true

/-- What authentication writes, whoever answers. -/
inductive AuthCourse : NetLog → Prop
  /-- Nothing, or the question for `/info`. -/
  | inquires {log : NetLog}
      (wrote : written log <+: [getInfoRaw params.sessionId params.deviceName]) : AuthCourse log
  /-- Posts of the pairing, without an identity, if the receiver offers it. -/
  | pairs {log : NetLog} (posts : List Post) (offers : Offers crates log)
      (wrote : written log =
        getInfoRaw params.sessionId params.deviceName :: posts.map Post.bytes)
      (setup : ∀ p ∈ posts, p.path = "/pair-setup" ∧ ¬ CarriesIdentity p.body) : AuthCourse log
  /-- Behind a proof that was read off the connection, the stream request in the first frame
  under the session key. -/
  | requests {log : NetLog} {m2 m4 request : List UInt8} {client : Srp.ClientSession}
      {serverPkAndSalt : List UInt8 × List UInt8} {answer : NetAnswer} (offers : Offers crates log)
      (read : HapPairing.readM2 m2 = .ok serverPkAndSalt)
      (computed : HapPairing.clientCompute crates.prims "3939" serverPkAndSalt a = .ok client)
      (answered : (.read, .ok answer) ∈ log ∧ receivePost answer = .ok (.ok m4))
      (proof : HapPairing.readM4 client m4 = .ok ())
      (built : buildStreamRequest crates.toWriterBinary params.width params.height params.fps
        params.sessionId params.deviceName = .ok request)
      (wrote : written log =
        [getInfoRaw params.sessionId params.deviceName,
          (⟨"/pair-setup", HapPairing.setupM1 true⟩ : Post).bytes,
          (⟨"/pair-setup", HapPairing.setupM3 client⟩ : Post).bytes,
          ControlChannel.frame crates.prims.cipher
            (crates.prims.hkdfDerive controlSalt client.sessionKey writeInfo) 0 request]) :
      AuthCourse log

variable {crates params a} {log : NetLog}

/-- More of a log. -/
theorem Offers.append {front : NetLog} (offers : Offers crates front) (rest : NetLog) :
    Offers crates (front ++ rest) := by
  obtain ⟨answer, headers, body, serverInfo, mem, read⟩ := offers
  exact ⟨answer, headers, body, serverInfo, List.mem_append_left rest mem, read⟩

/-- A log that writes nothing but the question and the posts of the pairing. -/
theorem AuthCourse.of_puts {whole : NetLog} {asked : HapPairing.Log}
    {result : Except PairingError (List UInt8)} (offers : Offers crates whole)
    (trace : Trace (HapPairing.pairSetupTransient crates.prims a) asked result)
    (puts : Puts putPost asked log)
    (wrote : written whole = getInfoRaw params.sessionId params.deviceName :: written log) :
    AuthCourse crates params a whole := by
  have bare := (HapPairing.srpCourse_of_trace trace).no_identity
  have direct : Direct (fun p : Post => p.path = "/pair-setup")
      (HapPairing.pairSetupTransient crates.prims a) :=
    HapPairing.direct_pairSetupSrp (fun _ => rfl) "3939" true a
  refine .pairs (asked.map Prod.fst) offers ?_ ?_
  · rw [wrote, written_puts puts, List.map_map]
    rfl
  · intro p mem
    obtain ⟨entry, was, rfl⟩ := List.mem_map.mp mem
    exact ⟨direct.asked trace was, bare entry was⟩

/-- The calls of a transient pairing: the connection cannot be opened, or the posts of the flow
are put. -/
theorem puts_of_pairTransient {result : Except Stop (Except PairingError (List UInt8))}
    (trace : Trace (pairTransient crates a) log result) :
    (written log = [] ∧ ∀ key, result ≠ .ok (.ok key)) ∨
      ∃ connected asked rest r, log = (.connect, connected) :: rest ∧
        Trace (HapPairing.pairSetupTransient crates.prims a) asked r ∧ Puts putPost asked rest ∧
        ∀ key, result = .ok (.ok key) → r = .ok key := by
  rw [pairTransient, trace_query] at trace
  rcases trace with ⟨e, rfl, rfl⟩ | ⟨answer, rest, rfl, trace⟩
  · exact Or.inl ⟨rfl, fun key => nofun⟩
  cases answer with
  | fails e =>
    obtain ⟨rfl, rfl⟩ := trace_pure.mp trace
    exact Or.inl ⟨rfl, fun key => nofun⟩
  | works bytes ending cuts =>
    have direct : Direct (fun _ : Post => True) (HapPairing.pairSetupTransient crates.prims a) :=
      HapPairing.direct_pairSetupSrp (fun _ => trivial) "3939" true a
    obtain ⟨asked, r, flow, puts, same⟩ := trace_through .panicked direct trace
    exact Or.inr ⟨_, asked, rest, r, rfl, flow, puts, fun key is => (same _ is).symm⟩

/-- A request is one frame, or nothing if it is too long. -/
theorem written_requestOver {channel : ControlChannel HapPairing.Key} {request : List UInt8}
    (fresh : channel.stream.written = []) {result : Except Stop (List UInt8)}
    (trace : Trace (requestOver crates channel request) log result) :
    written log = [] ∨
      written log = [ControlChannel.frame crates.prims.cipher channel.writeCipher
        channel.writeCounter request] := by
  rw [requestOver] at trace
  by_cases long : maxFrame < request.length
  · rw [ControlChannel.send_of_gt long] at trace
    obtain ⟨rfl, -⟩ := trace_stop trace
    exact Or.inl rfl
  · have sent : channel.send crates.prims.cipher request .all = (.ok (),
        ({ channel with writeCounter := channel.writeCounter + 1 } :
          ControlChannel HapPairing.Key).wrote
            (ControlChannel.frame crates.prims.cipher channel.writeCipher channel.writeCounter
              request)) := if_neg long
    rw [sent] at trace
    right
    apply trace_perform at trace
    have frame : channel.stream.written ++ ControlChannel.frame crates.prims.cipher
        channel.writeCipher channel.writeCounter request =
          ControlChannel.frame crates.prims.cipher channel.writeCipher channel.writeCounter
            request := by rw [fresh, List.nil_append]
    rcases trace with ⟨_, _, rfl, -, -⟩ | ⟨_, rest, rfl, trace⟩
    · exact congrArg (fun bytes => [bytes]) frame
    · rw [trace_query] at trace
      have quiet : written rest = [] := by
        rcases trace with ⟨_, rfl, -⟩ | ⟨_, rest, rfl, trace⟩
        · rfl
        · split at trace
          · obtain ⟨rfl, -⟩ := trace_done.mp trace
            rfl
          · obtain ⟨rfl, -⟩ := trace_stop trace
            rfl
          · obtain ⟨rfl, -⟩ := trace_pure.mp trace
            rfl
      rw [written_write, quiet]
      exact congrArg (fun bytes => [bytes]) frame

/-- Over the channel the stream request is written, or nothing. -/
theorem trace_streamOverChannel {sessionKey : List UInt8} {result : Except Stop ServerInfo}
    (trace : Trace (streamOverChannel crates params sessionKey) log result) :
    (∃ stop, result = .error stop) ∧
      (written log = [] ∨ ∃ request,
        buildStreamRequest crates.toWriterBinary params.width params.height params.fps
          params.sessionId params.deviceName = .ok request ∧
        written log = [ControlChannel.frame crates.prims.cipher
          (crates.prims.hkdfDerive controlSalt sessionKey writeInfo) 0 request]) := by
  apply trace_calculate at trace
  rcases trace with ⟨e, -, rfl, rfl⟩ | ⟨request, built, trace⟩
  · exact ⟨⟨_, rfl⟩, Or.inl rfl⟩
  rw [trace_bind] at trace
  rcases trace with ⟨stop, trace, rfl⟩ | ⟨response, front, rest, trace, rfl, ended⟩
  · refine ⟨⟨stop, rfl⟩, ?_⟩
    rcases written_requestOver rfl trace with none | one
    · exact Or.inl none
    · exact Or.inr ⟨request, eq_ok_of_mapError built, one⟩
  · obtain ⟨rfl, rfl⟩ := trace_stop ended
    refine ⟨⟨_, rfl⟩, ?_⟩
    rw [List.append_nil]
    rcases written_requestOver rfl trace with none | one
    · exact Or.inl none
    · exact Or.inr ⟨request, eq_ok_of_mapError built, one⟩

/-- The pairing, and what is written over the channel. -/
theorem trace_pairAndStream (front : NetLog) {result : Except Stop ServerInfo}
    (offers : Offers crates front)
    (wrote : written front = [getInfoRaw params.sessionId params.deviceName])
    (trace : Trace (pairAndStream crates params a) log result) :
    (∃ stop, result = .error stop) ∧ AuthCourse crates params a (front ++ log) := by
  rw [pairAndStream, trace_bind] at trace
  rcases trace with ⟨stop, paired, rfl⟩ | ⟨r, calls, rest, paired, rfl, trace⟩
  · refine ⟨⟨stop, rfl⟩, ?_⟩
    rcases puts_of_pairTransient paired with ⟨quiet, -⟩ | ⟨_, asked, rest, r, rfl, flow, puts, -⟩
    · refine .pairs [] (offers.append log) ?_ nofun
      rw [written_append, wrote, quiet]
      rfl
    · refine .of_puts (offers.append _) flow puts ?_
      rw [written_append, wrote, written_connect]
      rfl
  have later : (∃ stop, result = .error stop) ∧ (written rest = [] ∨ ∃ key request,
      r = .ok key ∧ buildStreamRequest crates.toWriterBinary params.width params.height
        params.fps params.sessionId params.deviceName = .ok request ∧
      written rest = [ControlChannel.frame crates.prims.cipher
        (crates.prims.hkdfDerive controlSalt key writeInfo) 0 request]) := by
    split at trace
    · obtain ⟨rfl, rfl⟩ := trace_done.mp trace
      exact ⟨⟨_, rfl⟩, Or.inl rfl⟩
    · obtain ⟨rfl, rfl⟩ := trace_stop trace
      exact ⟨⟨_, rfl⟩, Or.inl rfl⟩
    · rename_i key
      obtain ⟨ends, none | ⟨request, built, one⟩⟩ := trace_streamOverChannel trace
      · exact ⟨ends, Or.inl none⟩
      · exact ⟨ends, Or.inr ⟨key, request, rfl, built, one⟩⟩
  refine ⟨later.1, ?_⟩
  rcases puts_of_pairTransient paired with ⟨quiet, fails⟩ |
    ⟨_, asked, log, r', rfl, flow, puts, same⟩
  · rcases later.2 with none | ⟨key, _, rfl, -⟩
    · refine .pairs [] (offers.append _) ?_ nofun
      rw [written_append, written_append, wrote, quiet, none]
      rfl
    · exact absurd rfl (fails key)
  · rcases later.2 with none | ⟨key, request, rfl, built, one⟩
    · refine .of_puts (offers.append _) flow puts ?_
      rw [written_append, written_append, wrote, written_connect, none, List.append_nil]
      rfl
    · -- the pairing has succeeded, so it was proved
      rw [same key rfl] at flow
      have course := HapPairing.srpCourse_of_trace flow
      cases course with
      | @proven m2 m4 client _ read computed proof =>
        obtain ⟨answer, heard, received⟩ :=
          read_of_puts puts (List.mem_cons_of_mem _ List.mem_cons_self)
        refine .requests (offers.append _) read computed
          ⟨List.mem_append_right _ (List.mem_append_left _ (List.mem_cons_of_mem _ heard)),
            received⟩
          proof built ?_
        rw [written_append, written_append, wrote, written_connect, written_puts puts, one]
        rfl

/-- **Authentication, whoever answers**, returns no stream.  It writes the question for `/info`;
if the receiver offers it, the posts of a transient pairing, which carry no identity; and only
when an answer has proved the pairing, the stream request, sealed in the first frame under its
key. -/
theorem authCourse_of_trace {result : Except Stop ServerInfo}
    (trace : Trace (negotiateWithAuth crates params a) log result) :
    (∃ stop, result = .error stop) ∧ AuthCourse crates params a log := by
  rw [negotiateWithAuth] at trace
  apply trace_perform at trace
  rcases trace with ⟨_, stop, rfl, rfl, -⟩ | ⟨_, log, rfl, trace⟩
  · exact ⟨⟨stop, rfl⟩, .inquires List.nil_prefix⟩
  apply trace_perform at trace
  rcases trace with ⟨_, stop, rfl, rfl, -⟩ | ⟨_, log, rfl, trace⟩
  · exact ⟨⟨stop, rfl⟩, .inquires List.prefix_rfl⟩
  apply trace_readResponse at trace
  rcases trace with ⟨_, stop, rfl, rfl, -⟩ | ⟨answer, headers, body, log, rfl, responds, trace⟩
  · exact ⟨⟨stop, rfl⟩, .inquires List.prefix_rfl⟩
  apply trace_calculate at trace
  rcases trace with ⟨e, -, rfl, rfl⟩ | ⟨serverInfo, parsed, trace⟩
  · exact ⟨⟨_, rfl⟩, .inquires List.prefix_rfl⟩
  split_ifs at trace with supported
  · refine trace_pairAndStream [_, _, _] ?_ rfl trace
    exact ⟨answer, headers, body, serverInfo, by simp, responds, parsed, supported⟩
  · obtain ⟨rfl, rfl⟩ := trace_stop trace
    exact ⟨⟨_, rfl⟩, .inquires List.prefix_rfl⟩

end Authentication

/-! ## The session -/

section Session

variable {crates : Crates} {params : SessionParams} {addr : String} {a : Nat} {log : NetLog}
variable {result : Except Stop ServerInfo}

/-- Pairing was tried behind `front`: a stream request was refused there, with a code that is
retried. -/
structure RetriedBehind (crates : Crates) (params : SessionParams) (a : Nat)
    (front rest : NetLog) : Prop where
  plain : PlainCourse crates params front
  refused : ∃ msg, Refuses front msg ∧ wantsAuthentication msg = true
  course : AuthCourse crates params a rest

/-- Where the session goes with what the second step comes to, unless that waits for ever. -/
def AirPlaySession.afterNegotiation (x : AirPlaySession) :
    Except Stop ServerInfo → Option AirPlaySession
  | .ok _ => some { x with stage := .sendingReady }
  | .error (.error e) => some (x.fail e)
  | .error .panics => some x.panic
  | .error .waits => none

/-- The session takes one step of negotiation, or one more. -/
def AirPlaySession.Negotiates (x y : AirPlaySession) : Prop :=
  ∃ result z, x.step (.negotiate result) = some (z, none) ∧
    (z = y ∨ ∃ e, z.step (.authenticate e) = some (y, none))

/-- One part of the second step or both, as a trace. -/
theorem trace_negotiateSession
    (trace : Trace (negotiateSession crates params addr a) log result) :
    (∃ r, Trace (negotiate crates params addr) log r ∧ r = result ∧
        ∀ msg, r = .error (.error (.negotiation msg)) → wantsAuthentication msg = false) ∨
      ∃ msg front rest, log = front ++ rest ∧
        Trace (negotiate crates params addr) front (.error (.error (.negotiation msg))) ∧
        wantsAuthentication msg = true ∧ Trace (negotiateWithAuth crates params a) rest result := by
  rw [negotiateSession, trace_bind] at trace
  rcases trace with ⟨_, first, -⟩ | ⟨r, front, rest, first, rfl, trace⟩
  · obtain ⟨r, same, -⟩ := trace_attempt.mp first
    cases same
  obtain ⟨r', same, first⟩ := trace_attempt.mp first
  cases same
  split at trace
  · obtain ⟨rfl, rfl⟩ := trace_pure.mp trace
    rw [List.append_nil]
    exact Or.inl ⟨_, first, rfl, nofun⟩
  · rename_i msg _
    split_ifs at trace with wants
    · exact Or.inr ⟨msg, front, rest, rfl, first, wants, trace⟩
    · obtain ⟨rfl, rfl⟩ := trace_stop trace
      rw [List.append_nil]
      refine Or.inl ⟨_, first, rfl, fun msg' same => ?_⟩
      cases same
      exact Bool.eq_false_iff.mpr wants
  · rename_i e other _
    obtain ⟨rfl, rfl⟩ := trace_done.mp trace
    rw [List.append_nil]
    exact Or.inl ⟨_, first, rfl, fun msg same => absurd (Except.error.inj same) (other msg)⟩

/-- The session goes where the second step leads. -/
theorem negotiates_of_trace {x y : AirPlaySession} (stage : x.stage = .negotiating)
    (trace : Trace (negotiateSession crates params addr a) log result)
    (leads : x.afterNegotiation result = some y) : x.Negotiates y := by
  rcases trace_negotiateSession trace with ⟨r, -, rfl, settled⟩ |
    ⟨msg, front, rest, -, -, wants, auth⟩
  · rcases r with stop | serverInfo
    · rcases stop with e | _ | _
      · cases leads
        refine ⟨some (.error e), x.fail e, ?_, Or.inl rfl⟩
        cases e with
        | negotiation msg =>
          refine (if_pos stage).trans ?_
          exact if_neg (Bool.eq_false_iff.mp (settled msg rfl))
        | _ => exact if_pos stage
      · cases leads
        exact ⟨none, x.panic, if_pos stage, Or.inl rfl⟩
      · cases leads
    · cases leads
      exact ⟨some (.ok ()), _, if_pos stage, Or.inl rfl⟩
  · have first : x.step (.negotiate (some (.error (.negotiation msg)))) =
        some ({ x with stage := .authenticating }, none) := by
      rw [AirPlaySession.step, if_pos stage]
      exact if_pos wants
    obtain ⟨⟨stop, rfl⟩, -⟩ := authCourse_of_trace auth
    refine ⟨_, _, first, Or.inr ?_⟩
    rcases stop with e | _ | _
    · cases leads
      exact ⟨some e, rfl⟩
    · cases leads
      exact ⟨none, rfl⟩
    · cases leads

/-- **Video is sent in plaintext only, to who has accepted it in plaintext.**  When the calls of
the second step have returned: a stream is returned only if both requests went out in plaintext
and were answered, the second with a success; pairing is tried only behind a refusal that asks
for it, and keeps its course; and the session goes where this leads. -/
theorem stream_is_accepted_in_plaintext {x : AirPlaySession} (stage : x.stage = .negotiating)
    (trace : Trace (negotiateSession crates params addr a) log result)
    (returned : Returned log) :
    (∀ serverInfo, result = .ok serverInfo → AcceptedPlainly crates params log serverInfo) ∧
      (PlainCourse crates params log ∨
        ∃ front rest, log = front ++ rest ∧ RetriedBehind crates params a front rest) ∧
      ∀ y, x.afterNegotiation result = some y → x.Negotiates y := by
  refine ⟨?_, ?_, fun y leads => negotiates_of_trace stage trace leads⟩
  · rintro serverInfo rfl
    rcases trace_negotiateSession trace with ⟨r, first, rfl, -⟩ | ⟨msg, front, rest, -, -, -, auth⟩
    · exact acceptedPlainly_of_trace first
    · obtain ⟨⟨stop, same⟩, -⟩ := authCourse_of_trace auth
      cases same
  · rcases trace_negotiateSession trace with ⟨r, first, rfl, -⟩ |
      ⟨msg, front, rest, rfl, first, wants, auth⟩
    · exact Or.inl (plainCourse_of_trace first)
    · have before : Returned front :=
        fun entry mem => returned entry (List.mem_append_left _ mem)
      exact Or.inr ⟨front, rest, rfl, plainCourse_of_trace first,
        ⟨msg, refuses_of_trace before first, wants⟩, (authCourse_of_trace auth).2⟩

end Session

/-! ## A sample -/

section Sample

/-- A call that has worked. -/
theorem trace_perform_works {β : Type} {c : NetCall} {error : String → AirPlayError}
    {more : Unit → Negotiating β} {log : NetLog} {result : Except Stop β} {bytes : List UInt8}
    {ending : Ending} {cuts : Nat → Nat} (later : Trace (more ()) log result) :
    Trace (perform c error >>= more) ((c, .ok (.works bytes ending cuts)) :: log) result :=
  trace_bind.mpr (Or.inr ⟨(), [_], log,
    trace_query.mpr (Or.inr ⟨_, [], rfl, trace_pure.mpr ⟨rfl, rfl⟩⟩), rfl, later⟩)

/-- A response that was read. -/
theorem trace_readResponse_responds {β : Type} {more : List Char × List UInt8 → Negotiating β}
    {log : NetLog} {result : Except Stop β} {answer : NetAnswer} {headers : List Char}
    {body : List UInt8} (responds : answer.Responds headers body)
    (later : Trace (more (headers, body)) log result) :
    Trace (readResponse >>= more) ((.read, .ok answer) :: log) result := by
  refine trace_bind.mpr (Or.inr ⟨(headers, body), [_], log, ?_, rfl, later⟩)
  refine trace_query.mpr (Or.inr ⟨answer, [], rfl, ?_⟩)
  have read : readHttpResponse answer.cuts answer.bytes answer.ending = .ok headers body :=
    responds
  rw [read]
  exact trace_pure.mpr ⟨rfl, rfl⟩

/-- A response of one line, which comes in one read on a connection that stays open. -/
def bareAnswer : NetAnswer :=
  .works (Utf8.encode "HTTP/1.1 200 OK".toList ++ headerEndMark) .staysOpen fun _ => 18

theorem responds_bareAnswer : bareAnswer.Responds "HTTP/1.1 200 OK".toList [] := by
  let head := "HTTP/1.1 200 OK".toList
  have ascii : ∀ c ∈ head, Utf8.IsAscii c := List.all_iff_forall_prop.mp (by decide)
  have ends : Airplay.findHeaderEnd (Utf8.encode head ++ headerEndMark) = some head.length := by
    decide
  have text : headerText (Utf8.encode head ++ headerEndMark) head.length = head :=
    headerText_encode ascii _
  have length : lengthRead (Utf8.encode head ++ headerEndMark) head.length = 0 := by
    rw [lengthRead, text]
    decide
  refine (readHttpResponse_at ends 0).trans ?_
  rw [readAt_eq (Nat.le_refl _), length, text]
  decide

def sampleParams : SessionParams := ⟨1920, 1080, 30, "session".toList, "Laptop".toList⟩

/-- A writer of empty property lists, which are not read. -/
def sampleCrates : Crates where
  fromBytes _ := none
  toWriterBinary _ := .ok ⟨[], by decide⟩
  prims := HapPairing.samplePrimitives []

/-- Two requests that are answered by a bare success. -/
def sampleLog : NetLog :=
  [(.connect, .ok bareAnswer),
    (.write (getInfo sampleParams.sessionId sampleParams.deviceName), .ok bareAnswer),
    (.read, .ok bareAnswer),
    (.write (headerFormat (streamLines sampleParams.sessionId
      (headerSafeDeviceName sampleParams.deviceName) 0)), .ok bareAnswer),
    (.write [], .ok bareAnswer),
    (.read, .ok bareAnswer)]

theorem trace_sample :
    Trace (negotiateSession sampleCrates sampleParams "192.0.2.7:7000" 0) sampleLog
      (.ok .default) := by
  have posted : Trace (postStreamOn sampleCrates sampleParams) (sampleLog.drop 3) (.ok ()) := by
    refine trace_lift.mpr (Or.inr ⟨_, rfl, ?_⟩)
    refine trace_bind.mpr (Or.inr ⟨(), [_, _], [_], ?_, rfl, ?_⟩)
    · exact trace_perform_works (trace_perform_works (trace_pure.mpr ⟨rfl, rfl⟩))
    · exact trace_readResponse_responds responds_bareAnswer (trace_pure.mpr ⟨rfl, rfl⟩)
  have negotiated : Trace (negotiate sampleCrates sampleParams "192.0.2.7:7000") sampleLog
      (.ok .default) := by
    refine trace_perform_works (trace_perform_works
      (trace_readResponse_responds responds_bareAnswer ?_))
    refine trace_lift.mpr (Or.inr ⟨.default, rfl, ?_⟩)
    exact trace_bind.mpr (Or.inr ⟨(), _, [], posted, (List.append_nil _).symm,
      trace_pure.mpr ⟨rfl, rfl⟩⟩)
  exact trace_bind.mpr (Or.inr ⟨_, sampleLog, [], trace_attempt.mpr ⟨_, rfl, negotiated⟩,
    (List.append_nil _).symm, trace_pure.mpr ⟨rfl, rfl⟩⟩)

/-- A receiver that answers each request with a bare success. -/
theorem stream_is_accepted_in_plaintext_sample :
    AcceptedPlainly sampleCrates sampleParams sampleLog .default := by
  have returned : Returned sampleLog := by
    intro entry mem
    simp only [sampleLog, List.mem_cons, List.not_mem_nil, or_false] at mem
    rcases mem with rfl | rfl | rfl | rfl | rfl | rfl <;> exact ⟨bareAnswer, rfl⟩
  let x : AirPlaySession := { AirPlaySession.start with stage := .negotiating }
  have stage : x.stage = .negotiating := rfl
  exact (stream_is_accepted_in_plaintext stage trace_sample returned).1 .default rfl

end Sample

end OpenPlay.Airplay
