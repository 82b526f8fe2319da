import OpenPlay.Miracast.Negotiation
import Mathlib.Data.List.Count

/-!
# The control channel

`serve_control_channel_every` of `openplay-miracast`'s `rtsp_server.rs`: the loop that
answers what the sink sends while the media flows, and pings it when it is silent.

The loop turns once for every message and once for every period without one.  As long as
`Lasting` holds of what happened, it has answered all of it (`Serving`), and it knows how
many periods of silence there were since the last message.
-/

namespace OpenPlay.Miracast

/-! ## The loop -/

/-- What `timeout(ping_every, read_message())` returns: a message, a failure of the
connection, or nothing for a whole period. -/
inductive ControlEvent where
  | message (raw : List Char)
  | failure (reason : List Char)
  | silence
deriving DecidableEq, Repr

/-- `MAX_UNANSWERED_KEEPALIVES`. -/
def maxUnansweredKeepalives : Nat := 3

/-- `handle_control_message`: what is written, and whether the message ended the
session. -/
def handleControlMessage (raw : List Char) : List (List Char) × Bool :=
  if isResponse raw then ([], false)
  else
    let req := parseRequest raw
    if req.method = "TEARDOWN".toList then ([sendOk req], true)
    else if req.method = "OPTIONS".toList then ([sendOptionsResponse req], false)
    else ([sendOk req], false)

/-- The loop's variables, what it has written, and what it has returned. -/
structure ControlLoop where
  cseq : UInt32
  unanswered : UInt32
  written : List (List Char)
  exit : Option (Except MiracastError Unit)

/-- The loop before its first turn. -/
def ControlLoop.start (cseq : UInt32) : ControlLoop := ⟨cseq, 0, [], none⟩

/-- One turn of the loop. -/
def ControlLoop.turn (pingEvery : Nat) (l : ControlLoop) : ControlEvent → ControlLoop
  | .message raw =>
      let (answer, ended) := handleControlMessage raw
      { l with
        unanswered := 0
        written := l.written ++ answer
        exit := if ended then some (.ok ()) else none }
  | .failure reason => { l with exit := some (.error (.rtsp reason)) }
  | .silence =>
      let unanswered := l.unanswered + 1
      if unanswered.toNat > maxUnansweredKeepalives then
        { l with
          unanswered := unanswered
          exit := some (.error (.rtspTimeout (pingEvery * unanswered.toNat))) }
      else
        let cseq := l.cseq + 1
        { l with
          cseq := cseq
          unanswered := unanswered
          written := l.written ++ [sendKeepalive cseq] }

/-- `serve_control_channel_every`, on the events so far. -/
def ControlLoop.serve (pingEvery : Nat) : ControlLoop → List ControlEvent → ControlLoop
  | l, [] => l
  | l, event :: rest =>
      let next := l.turn pingEvery event
      match next.exit with
      | some _ => next
      | none => next.serve pingEvery rest

/-! ## What the sink gets -/

/-- The messages that answer an event. -/
inductive Answers : ControlEvent → List (List Char) → Prop where
  | request {raw answer} (h : isResponse raw = false)
      (answered : IsResponseTo (parseRequest raw) answer) : Answers (.message raw) [answer]
  | response {raw} (h : isResponse raw = true) : Answers (.message raw) []
  | ping (cseq : UInt32) : Answers .silence [sendKeepalive cseq]

/-- A message that ends the session. -/
def IsTeardown (raw : List Char) : Prop :=
  isResponse raw = false ∧ (parseRequest raw).method = "TEARDOWN".toList

theorem handleControlMessage_answers (raw : List Char) :
    Answers (.message raw) (handleControlMessage raw).1 := by
  rw [handleControlMessage]
  by_cases hresponse : isResponse raw = true
  · rw [if_pos hresponse]
    exact .response hresponse
  · have hrequest := Bool.eq_false_iff.mpr hresponse
    rw [if_neg hresponse]
    dsimp only
    split_ifs
    · exact .request hrequest (isResponseTo_sendOk _)
    · exact .request hrequest (isResponseTo_sendOptionsResponse _)
    · exact .request hrequest (isResponseTo_sendOk _)

theorem handleControlMessage_ends (raw : List Char) :
    (handleControlMessage raw).2 = true ↔ IsTeardown raw := by
  rw [handleControlMessage, IsTeardown]
  by_cases hresponse : isResponse raw = true
  · rw [if_pos hresponse, hresponse]
    exact iff_of_false nofun nofun
  · rw [if_neg hresponse]
    dsimp only
    split_ifs with hteardown hoptions
    · exact iff_of_true rfl ⟨Bool.eq_false_iff.mpr hresponse, hteardown⟩
    · exact iff_of_false nofun fun h => hteardown h.2
    · exact iff_of_false nofun fun h => hteardown h.2

/-- The requests of the source among what it wrote. -/
def pings (written : List (List Char)) : List (List Char) :=
  written.filter fun msg => ! isResponse msg

theorem pings_append_answer {raw : List Char} {answer : List (List Char)}
    (h : Answers (.message raw) answer) (written : List (List Char)) :
    pings (written ++ answer) = pings written := by
  cases h with
  | request _ answered =>
    rw [pings, List.filter_append, List.filter_singleton, answered.response]
    exact List.append_nil _
  | response _ => rw [List.append_nil]

theorem pings_append_keepalive (written : List (List Char)) (cseq : UInt32) :
    pings (written ++ [sendKeepalive cseq]) = pings written ++ [sendKeepalive cseq] := by
  rw [pings, List.filter_append, List.filter_singleton]
  rfl

/-- Keep-alives with the `n` numbers behind `cseq`. -/
def keepalives (cseq : UInt32) (n : Nat) : List (List Char) :=
  (List.range n).map fun i => sendKeepalive (cseq + UInt32.ofNat (i + 1))

/-- What was written is the answers to what happened, in order, and the pings among it
are numbered one by one. -/
structure Exchanged (cseq : UInt32) (past : List ControlEvent)
    (written : List (List Char)) : Prop where
  answered : ∃ parts, List.Forall₂ Answers past parts ∧ written = parts.flatten
  numbered : pings written = keepalives cseq (past.count .silence)

namespace Exchanged

variable {cseq : UInt32} {past : List ControlEvent} {written : List (List Char)}

theorem answered_concat {event : ControlEvent} {answer : List (List Char)}
    (h : Exchanged cseq past written) (hanswer : Answers event answer) :
    ∃ parts, List.Forall₂ Answers (past ++ [event]) parts ∧
      written ++ answer = parts.flatten := by
  obtain ⟨parts, hparts, rfl⟩ := h.answered
  refine ⟨parts ++ [answer], ?_, ?_⟩
  · exact List.rel_append hparts (.cons hanswer .nil)
  · rw [List.flatten_append, List.flatten_singleton]

theorem message {raw : List Char} {answer : List (List Char)}
    (h : Exchanged cseq past written) (hanswer : Answers (.message raw) answer) :
    Exchanged cseq (past ++ [.message raw]) (written ++ answer) where
  answered := h.answered_concat hanswer
  numbered := by
    rw [pings_append_answer hanswer, h.numbered, List.count_append]
    rfl

theorem silence (h : Exchanged cseq past written) :
    Exchanged cseq (past ++ [.silence])
      (written ++ [sendKeepalive (cseq + UInt32.ofNat (past.count .silence + 1))]) where
  answered := h.answered_concat (.ping _)
  numbered := by
    rw [pings_append_keepalive, h.numbered, List.count_append, List.count_singleton_self,
      keepalives, keepalives, List.range_succ, List.map_append]
    rfl

/-- **Each ping has a larger number than those before.** -/
theorem numbers (h : Exchanged cseq past written)
    (hfew : cseq.toNat + past.count .silence < UInt32.size) :
    (pings written).map (fun msg => (parseRequest msg).cseq.toNat) =
      (List.range (past.count .silence)).map (cseq.toNat + 1 + ·) := by
  rw [h.numbered, keepalives, List.map_map]
  refine List.map_congr_left fun i hi => ?_
  rw [List.mem_range] at hi
  have hsize : cseq.toNat + (i + 1) < UInt32.size := by omega
  show (parseRequest (sendKeepalive _)).cseq.toNat = cseq.toNat + 1 + i
  rw [cseq_sendKeepalive, UInt32.toNat_add, UInt32.toNat_ofNat', Nat.add_mod_mod,
    Nat.mod_eq_of_lt hsize]
  omega

end Exchanged

/-! ## Runs of silence -/

section Silence

variable {α : Type*} {s x : α} {past : List α} {n : Nat}

theorem replicate_suffix_concat :
    List.replicate (n + 1) s <:+ past ++ [x] ↔ x = s ∧ List.replicate n s <:+ past := by
  rw [List.replicate_succ']
  constructor
  · rintro ⟨front, hfront⟩
    rw [← List.append_assoc] at hfront
    obtain ⟨hpast, hx⟩ := List.append_inj' hfront rfl
    exact ⟨(List.singleton_inj.mp hx).symm, front, hpast⟩
  · rintro ⟨rfl, front, rfl⟩
    exact ⟨front, (List.append_assoc _ _ _).symm⟩

theorem replicate_suffix_replicate {m : Nat} (h : m ≤ n) (s : α) :
    List.replicate m s <:+ List.replicate n s :=
  ⟨List.replicate (n - m) s, by rw [← List.replicate_add, Nat.sub_add_cancel h]⟩

end Silence

/-! ## As long as the session lasts -/

/-- Nothing that ends the session has happened. -/
structure Lasting (past : List ControlEvent) : Prop where
  no_teardown : ∀ raw, .message raw ∈ past → ¬ IsTeardown raw
  no_failure : ∀ reason, .failure reason ∉ past
  no_silence : ¬ List.replicate (maxUnansweredKeepalives + 1) .silence <:+: past

/-- What ends the session. -/
inductive Ends (past : List ControlEvent) : ControlEvent → Prop where
  | teardown {raw} (h : IsTeardown raw) : Ends past (.message raw)
  | failure (reason : List Char) : Ends past (.failure reason)
  | silence (h : List.replicate maxUnansweredKeepalives .silence <:+ past) :
      Ends past .silence

theorem Lasting.nil : Lasting [] where
  no_teardown _ h := absurd h List.not_mem_nil
  no_failure _ h := absurd h List.not_mem_nil
  no_silence h := absurd (List.infix_nil.mp h) (by decide)

theorem Lasting.of_append {past more : List ControlEvent} (h : Lasting (past ++ more)) :
    Lasting past where
  no_teardown raw hraw := h.no_teardown raw (List.mem_append_left _ hraw)
  no_failure reason hmem := h.no_failure reason (List.mem_append_left _ hmem)
  no_silence hin := h.no_silence (hin.trans (List.prefix_append past more).isInfix)

/-- The session lasts until something ends it. -/
theorem lasting_concat_iff {past : List ControlEvent} {event : ControlEvent} :
    Lasting (past ++ [event]) ↔ Lasting past ∧ ¬ Ends past event := by
  constructor
  · intro h
    refine ⟨h.of_append, fun hends => ?_⟩
    cases hends with
    | teardown hteardown =>
      exact h.no_teardown _ (List.mem_append_right _ List.mem_cons_self) hteardown
    | failure reason =>
      exact h.no_failure reason (List.mem_append_right _ List.mem_cons_self)
    | silence hsilence =>
      exact h.no_silence (replicate_suffix_concat.mpr ⟨rfl, hsilence⟩).isInfix
  · rintro ⟨h, hgoes⟩
    refine ⟨fun raw hraw => ?_, fun reason hmem => ?_, fun hin => ?_⟩
    · rcases List.mem_append.mp hraw with hpast | hlast
      · exact h.no_teardown raw hpast
      · cases List.mem_singleton.mp hlast
        exact fun hteardown => hgoes (.teardown hteardown)
    · rcases List.mem_append.mp hmem with hpast | hlast
      · exact h.no_failure reason hpast
      · cases List.mem_singleton.mp hlast
        exact hgoes (.failure reason)
    · rcases List.infix_concat_iff.mp hin with hsuffix | hpast
      · obtain ⟨rfl, hsilence⟩ := replicate_suffix_concat.mp hsuffix
        exact hgoes (.silence hsilence)
      · exact h.no_silence hpast

/-- Either the session lasts, or there is a first event that ends it. -/
theorem lasting_or_ends (events : List ControlEvent) :
    Lasting events ∨
      ∃ before event after, events = before ++ event :: after ∧ Lasting before ∧
        Ends before event := by
  induction events using List.reverseRecOn with
  | nil =>
    exact Or.inl Lasting.nil
  | append_singleton past event ih =>
    rcases ih with h | ⟨before, first, after, rfl, hbefore, hends⟩
    · by_cases hends : Ends past event
      · exact Or.inr ⟨past, event, [], rfl, h, hends⟩
      · exact Or.inl (lasting_concat_iff.mpr ⟨h, hends⟩)
    · exact Or.inr ⟨before, first, after ++ [event],
        List.append_assoc _ _ _, hbefore, hends⟩

/-! ## The invariant of the loop -/

/-- The loop has answered what happened and counted the periods of silence at its end. -/
structure Serving (cseq : UInt32) (past : List ControlEvent) (l : ControlLoop) : Prop where
  lasting : Lasting past
  running : l.exit = none
  exchanged : Exchanged cseq past l.written
  cseq : l.cseq = cseq + UInt32.ofNat (past.count .silence)
  quiet : List.replicate l.unanswered.toNat .silence <:+ past
  spoken : ¬ List.replicate (l.unanswered.toNat + 1) .silence <:+ past

theorem serving_start (cseq : UInt32) : Serving cseq [] (.start cseq) where
  lasting := Lasting.nil
  running := rfl
  exchanged := ⟨⟨[], .nil, rfl⟩, rfl⟩
  cseq := (UInt32.add_zero cseq).symm
  quiet := List.suffix_refl _
  spoken h := absurd (List.suffix_nil.mp h) (List.cons_ne_nil _ _)

namespace Serving

variable {start : UInt32} {past : List ControlEvent} {l : ControlLoop} (pingEvery : Nat)

/-- The silence is short enough. -/
theorem unanswered_le (h : Serving start past l) :
    l.unanswered.toNat ≤ maxUnansweredKeepalives := by
  by_contra hlong
  exact h.lasting.no_silence
    ((replicate_suffix_replicate (Nat.lt_of_not_le hlong) _).trans h.quiet).isInfix

theorem toNat_unanswered (h : Serving start past l) :
    (l.unanswered + 1).toNat = l.unanswered.toNat + 1 := by
  have hle := h.unanswered_le
  rw [maxUnansweredKeepalives] at hle
  rw [UInt32.toNat_add]
  exact Nat.mod_eq_of_lt (by show l.unanswered.toNat + 1 < 2 ^ 32; omega)

/-- The limit is passed exactly when there was nothing for that long. -/
theorem limit_iff (h : Serving start past l) :
    (l.unanswered + 1).toNat > maxUnansweredKeepalives ↔
      List.replicate maxUnansweredKeepalives .silence <:+ past := by
  rw [h.toNat_unanswered]
  constructor
  · intro hpassed
    rw [Nat.le_antisymm (Nat.le_of_lt_succ hpassed) h.unanswered_le]
    exact h.quiet
  · intro hsilence
    by_contra hfew
    exact h.spoken ((replicate_suffix_replicate (Nat.le_of_not_lt hfew) _).trans hsilence)

theorem turn_message {raw : List Char} (h : Serving start past l)
    (hgoes : ¬ IsTeardown raw) :
    Serving start (past ++ [.message raw]) (l.turn pingEvery (.message raw)) where
  lasting := by
    refine lasting_concat_iff.mpr ⟨h.lasting, fun hends => ?_⟩
    cases hends with
    | teardown hteardown => exact hgoes hteardown
  running := if_neg fun hends => hgoes ((handleControlMessage_ends raw).mp hends)
  exchanged := h.exchanged.message (handleControlMessage_answers raw)
  cseq := by
    rw [List.count_append]
    exact h.cseq
  quiet := List.nil_suffix
  spoken hsuffix := nomatch (replicate_suffix_concat.mp hsuffix).1

/-- A turn that still pings. -/
theorem turn_silence_eq (h : Serving start past l)
    (hgoes : ¬ List.replicate maxUnansweredKeepalives ControlEvent.silence <:+ past) :
    l.turn pingEvery .silence =
      { l with
        cseq := l.cseq + 1
        unanswered := l.unanswered + 1
        written := l.written ++ [sendKeepalive (l.cseq + 1)] } :=
  if_neg fun hpassed => hgoes (h.limit_iff.mp hpassed)

theorem turn_silence (h : Serving start past l)
    (hgoes : ¬ List.replicate maxUnansweredKeepalives ControlEvent.silence <:+ past) :
    Serving start (past ++ [.silence]) (l.turn pingEvery .silence) := by
  have hcseq : l.cseq + 1 = start + UInt32.ofNat (past.count .silence + 1) := by
    rw [h.cseq, UInt32.add_assoc, UInt32.ofNat_add]
    rfl
  rw [h.turn_silence_eq pingEvery hgoes]
  constructor
  · refine lasting_concat_iff.mpr ⟨h.lasting, fun hends => ?_⟩
    cases hends with
    | silence hsilence => exact hgoes hsilence
  · exact h.running
  · rw [hcseq]
    exact h.exchanged.silence
  · rw [List.count_append, List.count_singleton_self]
    exact hcseq
  · show List.replicate (l.unanswered + 1).toNat _ <:+ _
    rw [h.toNat_unanswered]
    exact replicate_suffix_concat.mpr ⟨rfl, h.quiet⟩
  · show ¬ List.replicate ((l.unanswered + 1).toNat + 1) _ <:+ _
    rw [h.toNat_unanswered]
    exact fun hsuffix => h.spoken (replicate_suffix_concat.mp hsuffix).2

/-- **One turn.** -/
theorem turn {event : ControlEvent} (h : Serving start past l)
    (hlasting : Lasting (past ++ [event])) :
    Serving start (past ++ [event]) (l.turn pingEvery event) := by
  have hgoes := (lasting_concat_iff.mp hlasting).2
  cases event with
  | message raw => exact h.turn_message pingEvery fun hteardown => hgoes (.teardown hteardown)
  | failure reason => exact absurd (.failure reason) hgoes
  | silence => exact h.turn_silence pingEvery fun hsilence => hgoes (.silence hsilence)

/-- **The loop, as long as the session lasts.** -/
theorem serve {events : List ControlEvent} (h : Serving start past l)
    (hlasting : Lasting (past ++ events)) (rest : List ControlEvent) :
    ∃ l', Serving start (past ++ events) l' ∧
      l.serve pingEvery (events ++ rest) = l'.serve pingEvery rest := by
  induction events generalizing past l with
  | nil =>
    rw [List.append_nil]
    exact ⟨l, h, rfl⟩
  | cons event more ih =>
    have hsplit : past ++ event :: more = past ++ [event] ++ more := by
      rw [List.append_assoc, List.singleton_append]
    rw [hsplit] at hlasting ⊢
    have hturn : Serving start (past ++ [event]) (l.turn pingEvery event) :=
      h.turn pingEvery hlasting.of_append
    obtain ⟨l', hl', hserve⟩ := ih hturn hlasting
    refine ⟨l', hl', ?_⟩
    rw [List.cons_append, ControlLoop.serve, hturn.running]
    exact hserve

/-! ### The last turn -/

/-- What the loop has returned when it ended. -/
def result (pingEvery : Nat) : ControlEvent → Except MiracastError Unit
  | .message _ => .ok ()
  | .failure reason => .error (.rtsp reason)
  | .silence => .error (.rtspTimeout (pingEvery * (maxUnansweredKeepalives + 1)))

/-- What was answered when the loop ended: a teardown still is. -/
def answeredAt (past : List ControlEvent) : ControlEvent → List ControlEvent
  | .message raw => past ++ [.message raw]
  | _ => past

theorem turn_ends {event : ControlEvent} (h : Serving start past l)
    (hends : Ends past event) :
    (l.turn pingEvery event).exit = some (result pingEvery event) ∧
      Exchanged start (answeredAt past event) (l.turn pingEvery event).written := by
  cases hends with
  | teardown hteardown =>
    exact ⟨if_pos ((handleControlMessage_ends _).mpr hteardown),
      h.exchanged.message (handleControlMessage_answers _)⟩
  | failure reason =>
    exact ⟨rfl, h.exchanged⟩
  | silence hsilence =>
    have hpassed := h.limit_iff.mpr hsilence
    have hturn : l.turn pingEvery .silence =
        { l with
          unanswered := l.unanswered + 1
          exit := some (.error (.rtspTimeout (pingEvery * (l.unanswered + 1).toNat))) } :=
      if_pos hpassed
    have hcount : (l.unanswered + 1).toNat = maxUnansweredKeepalives + 1 := by
      have hle := h.unanswered_le
      rw [h.toNat_unanswered] at hpassed ⊢
      omega
    rw [hturn, hcount]
    exact ⟨rfl, h.exchanged⟩

end Serving

/-- The loop on the events of a session that lasts. -/
theorem serve_lasting (pingEvery : Nat) (start : UInt32) {events : List ControlEvent}
    (h : Lasting events) :
    Serving start events ((ControlLoop.start start).serve pingEvery events) := by
  obtain ⟨l, hl, hserve⟩ := (serving_start start).serve pingEvery h []
  rw [List.append_nil] at hserve
  rw [hserve]
  exact hl

/-- The loop on events that end the session; what comes behind does not matter. -/
theorem serve_ends (pingEvery : Nat) (start : UInt32) {before : List ControlEvent}
    {event : ControlEvent} (h : Lasting before) (hends : Ends before event)
    (after : List ControlEvent) :
    let out := (ControlLoop.start start).serve pingEvery (before ++ event :: after)
    out.exit = some (Serving.result pingEvery event) ∧
      Exchanged start (Serving.answeredAt before event) out.written := by
  obtain ⟨l, hl, hserve⟩ := (serving_start start).serve pingEvery h (event :: after)
  have hturn := hl.turn_ends pingEvery hends
  rw [ControlLoop.serve, hturn.1] at hserve
  rw [hserve]
  exact hturn

theorem not_lasting_of_ends {before : List ControlEvent} {event : ControlEvent}
    (hends : Ends before event) (after : List ControlEvent) :
    ¬ Lasting (before ++ event :: after) := by
  intro h
  rw [← List.singleton_append, ← List.append_assoc] at h
  exact (lasting_concat_iff.mp h.of_append).2 hends

theorem serve_cases (pingEvery : Nat) (start : UInt32) (events : List ControlEvent) :
    let out := (ControlLoop.start start).serve pingEvery events
    (Lasting events ∧ out.exit = none) ∨
      ∃ before event after, events = before ++ event :: after ∧ Lasting before ∧
        Ends before event ∧ out.exit = some (Serving.result pingEvery event) := by
  rcases lasting_or_ends events with h | ⟨before, event, after, rfl, h, hends⟩
  · exact Or.inl ⟨h, (serve_lasting pingEvery start h).running⟩
  · exact Or.inr ⟨before, event, after, rfl, h, hends,
      (serve_ends pingEvery start h hends after).1⟩

section Exits

variable (pingEvery : Nat) (start : UInt32) (events : List ControlEvent)

theorem exit_eq_none_iff :
    ((ControlLoop.start start).serve pingEvery events).exit = none ↔ Lasting events := by
  rcases serve_cases pingEvery start events with
    ⟨h, hexit⟩ | ⟨before, event, after, rfl, -, hends, hexit⟩
  · exact iff_of_true hexit h
  · refine iff_of_false (fun hnone => ?_) (not_lasting_of_ends hends after)
    cases hexit.symm.trans hnone

theorem exit_eq_ok_iff :
    ((ControlLoop.start start).serve pingEvery events).exit = some (.ok ()) ↔
      ∃ before raw after,
        events = before ++ .message raw :: after ∧ Lasting before ∧ IsTeardown raw := by
  constructor
  · intro hok
    rcases serve_cases pingEvery start events with
      ⟨-, hexit⟩ | ⟨before, event, after, rfl, h, hends, hexit⟩
    · cases hexit.symm.trans hok
    · cases hends with
      | teardown hteardown => exact ⟨before, _, after, rfl, h, hteardown⟩
      | failure reason => cases hexit.symm.trans hok
      | silence _ => cases hexit.symm.trans hok
  · rintro ⟨before, raw, after, rfl, h, hteardown⟩
    exact (serve_ends pingEvery start h (.teardown hteardown) after).1

theorem exit_eq_timeout_iff (d : Nat) :
    ((ControlLoop.start start).serve pingEvery events).exit =
        some (.error (.rtspTimeout d)) ↔
      d = pingEvery * (maxUnansweredKeepalives + 1) ∧ ∃ before after,
        events = before ++ .silence :: after ∧ Lasting before ∧
          List.replicate maxUnansweredKeepalives .silence <:+ before := by
  constructor
  · intro htimeout
    rcases serve_cases pingEvery start events with
      ⟨-, hexit⟩ | ⟨before, event, after, rfl, h, hends, hexit⟩
    · cases hexit.symm.trans htimeout
    · cases hends with
      | teardown _ => cases hexit.symm.trans htimeout
      | failure reason => cases hexit.symm.trans htimeout
      | silence hsilence =>
        cases hexit.symm.trans htimeout
        exact ⟨rfl, before, after, rfl, h, hsilence⟩
  · rintro ⟨rfl, before, after, rfl, h, hsilence⟩
    exact (serve_ends pingEvery start h (.silence hsilence) after).1

/-- What is answered: everything, or everything up to the event that ended the session,
which is answered itself when it is a teardown. -/
theorem exists_exchanged :
    let out := (ControlLoop.start start).serve pingEvery events
    ∃ done rest, events = done ++ rest ∧ Exchanged start done out.written ∧
      (out.exit = none → rest = []) ∧
      (out.exit = some (.ok ()) → ∃ before raw,
        done = before ++ [.message raw] ∧ Lasting before ∧ IsTeardown raw) ∧
      ∀ e, out.exit = some (.error e) →
        Lasting done ∧ ∃ event ∈ rest.head?, Ends done event ∧ ∀ raw, event ≠ .message raw := by
  rcases lasting_or_ends events with h | ⟨before, event, after, rfl, h, hends⟩
  · have hserving := serve_lasting pingEvery start h
    refine ⟨events, [], (List.append_nil _).symm, hserving.exchanged, fun _ => rfl,
      fun hok => ?_, fun e he => ?_⟩
    · cases hserving.running.symm.trans hok
    · cases hserving.running.symm.trans he
  · obtain ⟨hexit, hexchanged⟩ := serve_ends pingEvery start h hends after
    cases hends with
    | teardown hteardown =>
      refine ⟨before ++ [.message _], after, ?_, hexchanged, fun hnone => ?_,
        fun _ => ⟨before, _, rfl, h, hteardown⟩, fun e he => ?_⟩
      · rw [List.append_assoc, List.singleton_append]
      · cases hexit.symm.trans hnone
      · cases hexit.symm.trans he
    | failure reason =>
      refine ⟨before, .failure reason :: after, rfl, hexchanged, fun hnone => ?_,
        fun hok => ?_, fun _ _ => ⟨h, _, rfl, .failure reason, nofun⟩⟩
      · cases hexit.symm.trans hnone
      · cases hexit.symm.trans hok
    | silence hsilence =>
      refine ⟨before, .silence :: after, rfl, hexchanged, fun hnone => ?_,
        fun hok => ?_, fun _ _ => ⟨h, _, rfl, .silence hsilence, nofun⟩⟩
      · cases hexit.symm.trans hnone
      · cases hexit.symm.trans hok

/-- **The control channel service.**  The loop goes on as long as the session lasts,
returns `Ok` at the first teardown and a timeout when the sink is silent for too long; and
what it answered it answered once, in order, with pings of ever larger numbers. -/
theorem control_channel_served (pingEvery : Nat) (start : UInt32)
    (events : List ControlEvent) :
    let out := (ControlLoop.start start).serve pingEvery events
    (out.exit = none ↔ Lasting events) ∧
    (out.exit = some (.ok ()) ↔ ∃ before raw after,
      events = before ++ .message raw :: after ∧ Lasting before ∧ IsTeardown raw) ∧
    (∀ d, out.exit = some (.error (.rtspTimeout d)) ↔
      d = pingEvery * (maxUnansweredKeepalives + 1) ∧ ∃ before after,
        events = before ++ .silence :: after ∧ Lasting before ∧
          List.replicate maxUnansweredKeepalives .silence <:+ before) ∧
    ∃ done rest, events = done ++ rest ∧
      (∃ parts, List.Forall₂ Answers done parts ∧ out.written = parts.flatten) ∧
      (start.toNat + done.count .silence < UInt32.size →
        (pings out.written).map (fun msg => (parseRequest msg).cseq.toNat) =
          (List.range (done.count .silence)).map (start.toNat + 1 + ·)) ∧
      (out.exit = none → rest = []) ∧
      (out.exit = some (.ok ()) → ∃ before raw,
        done = before ++ [.message raw] ∧ Lasting before ∧ IsTeardown raw) ∧
      ∀ e, out.exit = some (.error e) →
        Lasting done ∧ ∃ event ∈ rest.head?, Ends done event ∧ ∀ raw, event ≠ .message raw := by
  intro out
  obtain ⟨done, rest, hsplit, hexchanged, hend⟩ := exists_exchanged pingEvery start events
  exact ⟨exit_eq_none_iff pingEvery start events, exit_eq_ok_iff pingEvery start events,
    exit_eq_timeout_iff pingEvery start events,
    done, rest, hsplit, hexchanged.answered, hexchanged.numbers, hend⟩

end Exits

end OpenPlay.Miracast
