import Mathlib.Algebra.Group.Action.Defs
import Mathlib.Algebra.Order.BigOperators.Group.List
import Mathlib.Algebra.Order.Ring.Nat
import Mathlib.Data.List.Infix

/-!
# Framing a stream

A reader that cuts messages out of a stream.  What arrives is kept in a buffer until a
framing function finds a message at its front; the read may be given up between two
arrivals, and the next one goes on with the same buffer.

* `read_conserves`: a read neither loses nor invents anything, whatever the framing
  function.
* `calls_reassemble`: when the stream is made of messages that the framing function
  delimits, reads return these messages, however the stream is cut into arrivals and
  whenever reads are given up.
-/

namespace Framing

universe u

/-! ## The reader -/

/-- What a reader waits for: more of the stream (an empty piece is its end), a failure, or
somebody who gives the read up. -/
inductive Arrival (α ε : Type u) where
  | data (chunk : List α)
  | failed (e : ε)
  | elapsed

/-- What a read returns; `waiting` when it does not return. -/
inductive Outcome (α ε : Type u) where
  | message (m : List α)
  | tooLarge
  | closed
  | failed (e : ε)
  | elapsed
  | waiting

/-- A stream: what was read and not used, and what is to arrive. -/
structure Stream (α ε : Type u) where
  buffer : List α
  arrivals : List (Arrival α ε)

variable {α ε : Type u}

/-- The data of an arrival. -/
def Arrival.chunk : Arrival α ε → List α
  | data chunk => chunk
  | _ => []

def Arrival.isElapsed : Arrival α ε → Bool
  | elapsed => true
  | _ => false

/-- More of the stream, or somebody who gives up: nothing is wrong with the stream. -/
def Arrival.IsOrderly : Arrival α ε → Prop
  | data chunk => chunk ≠ []
  | failed _ => False
  | elapsed => True

/-- The message of a read. -/
def Outcome.message? : Outcome α ε → Option (List α)
  | message m => some m
  | _ => none

/-- A read that ended with a message, or was given up, or goes on. -/
def Outcome.IsOrderly : Outcome α ε → Prop
  | message _ => True
  | elapsed => True
  | waiting => True
  | _ => False

namespace Stream

/-- All that the stream still holds. -/
def content (s : Stream α ε) : List α := s.buffer ++ s.arrivals.flatMap Arrival.chunk

/-- How often a read of the stream will be given up. -/
def elapses (s : Stream α ε) : Nat := s.arrivals.countP Arrival.isElapsed

end Stream

section Reads

variable (frame : List α → Option Nat) (limit : Nat)

/-- One read, from a buffer and what is to arrive. -/
def readFrom (buffer : List α) (arrivals : List (Arrival α ε)) :
    Outcome α ε × Stream α ε :=
  match frame buffer with
  | some len => (.message (buffer.take len), ⟨buffer.drop len, arrivals⟩)
  | none =>
      if buffer.length > limit then
        (.tooLarge, ⟨buffer, arrivals⟩)
      else
        match arrivals with
        | [] => (.waiting, ⟨buffer, []⟩)
        | .data chunk :: rest =>
            if chunk = [] then (.closed, ⟨buffer, rest⟩) else readFrom (buffer ++ chunk) rest
        | .failed e :: rest => (.failed e, ⟨buffer, rest⟩)
        | .elapsed :: rest => (.elapsed, ⟨buffer, rest⟩)

def read (s : Stream α ε) : Outcome α ε × Stream α ε := readFrom frame limit s.buffer s.arrivals

/-- Some reads, one after the other. -/
def calls : Nat → Stream α ε → List (Outcome α ε) × Stream α ε
  | 0, s => ([], s)
  | n + 1, s =>
      let (outcome, s') := read frame limit s
      let (outcomes, last) := calls n s'
      (outcome :: outcomes, last)

/-- The messages of some reads. -/
def messages (outcomes : List (Outcome α ε)) : List (List α) :=
  outcomes.filterMap Outcome.message?

/-- The buffer with which a read ends. -/
def settledFrom (buffer : List α) (arrivals : List (Arrival α ε)) : List α :=
  match frame buffer with
  | some _ => buffer
  | none =>
      if buffer.length > limit then buffer
      else
        match arrivals with
        | .data chunk :: rest =>
            if chunk = [] then buffer else settledFrom (buffer ++ chunk) rest
        | _ => buffer

def settled (s : Stream α ε) : List α := settledFrom frame limit s.buffer s.arrivals

end Reads

/-! ## Nothing is lost -/

section Conservation

variable {frame : List α → Option Nat} {limit : Nat}

/-- The part of the stream that a read took. -/
def Outcome.taken (outcome : Outcome α ε) : List α := outcome.message?.getD []

/-- **What a read returns, and what it leaves, is what there was.** -/
theorem readFrom_conserves (buffer : List α) (arrivals : List (Arrival α ε)) :
    (readFrom frame limit buffer arrivals).1.taken ++
        (readFrom frame limit buffer arrivals).2.content =
      buffer ++ arrivals.flatMap Arrival.chunk := by
  fun_induction readFrom frame limit buffer arrivals with
  | case1 arrivals buffer len _ =>
    show buffer.take len ++ (buffer.drop len ++ _) = _
    rw [← List.append_assoc, List.take_append_drop]
  | case2 | case3 | case4 | case6 | case7 => rfl
  | case5 buffer _ _ chunk rest _ ih =>
    rw [ih, List.append_assoc]
    rfl

/-- A message is cut off the front of the buffer with which its read ends. -/
theorem readFrom_message {m : List α} (buffer : List α) (arrivals : List (Arrival α ε))
    (h : (readFrom frame limit buffer arrivals).1 = .message m) :
    ∃ len, frame (settledFrom frame limit buffer arrivals) = some len ∧
      m = (settledFrom frame limit buffer arrivals).take len := by
  fun_induction readFrom frame limit buffer arrivals with
  | case1 arrivals buffer len hframe =>
    cases h
    rw [settledFrom.eq_def, hframe]
    exact ⟨len, hframe, rfl⟩
  | case2 | case3 | case4 | case6 | case7 => cases h
  | case5 buffer hframe hsmall chunk rest hchunk ih =>
    rw [settledFrom.eq_def, hframe]
    simp only [if_neg hsmall, if_neg hchunk]
    exact ih h

theorem calls_succ (n : Nat) (s : Stream α ε) :
    calls frame limit (n + 1) s =
      ((read frame limit s).1 :: (calls frame limit n (read frame limit s).2).1,
        (calls frame limit n (read frame limit s).2).2) :=
  rfl

theorem messages_cons (outcome : Outcome α ε) (outcomes : List (Outcome α ε)) :
    messages (outcome :: outcomes) = outcome.message?.toList ++ messages outcomes := by
  rw [messages, List.filterMap_cons]
  cases outcome.message? <;> rfl

/-- A message is the outcome of one of the reads. -/
theorem exists_read_of_mem_messages {n : Nat} {s : Stream α ε} {m : List α}
    (h : m ∈ messages (calls frame limit n s).1) :
    ∃ i < n, (read frame limit (calls frame limit i s).2).1 = .message m := by
  induction n generalizing s with
  | zero => exact absurd h List.not_mem_nil
  | succ n ih =>
    rw [calls_succ, messages_cons, List.mem_append, Option.mem_toList] at h
    rcases h with hfirst | hmore
    · refine ⟨0, Nat.succ_pos n, ?_⟩
      show (read frame limit s).1 = .message m
      generalize (read frame limit s).1 = outcome at hfirst ⊢
      cases outcome <;> cases hfirst
      rfl
    · obtain ⟨i, hi, hread⟩ := ih hmore
      exact ⟨i + 1, Nat.succ_lt_succ hi, hread⟩

/-- **What reads return, and what they leave, is what there was.** -/
theorem calls_conserve (n : Nat) (s : Stream α ε) :
    (messages (calls frame limit n s).1).flatten ++ (calls frame limit n s).2.content =
      s.content := by
  induction n generalizing s with
  | zero => rfl
  | succ n ih =>
    have hread : (read frame limit s).1.taken ++ (read frame limit s).2.content = s.content :=
      readFrom_conserves s.buffer s.arrivals
    have htaken : (read frame limit s).1.message?.toList.flatten = (read frame limit s).1.taken := by
      rw [Outcome.taken]
      cases (read frame limit s).1.message? with
      | none => rfl
      | some m => exact List.append_nil m
    rw [calls_succ, messages_cons, List.flatten_append, htaken, List.append_assoc, ih, hread]

/-- Messages of some length each: there are only so many. -/
theorem calls_progress {least n : Nat} {s : Stream α ε}
    (h : ∀ m ∈ messages (calls frame limit n s).1, least ≤ m.length) :
    least * (messages (calls frame limit n s).1).length ≤ s.content.length := by
  have hlengths := List.card_nsmul_le_sum ((messages (calls frame limit n s).1).map List.length)
    least (List.forall_mem_map.mpr h)
  have hconserve := congrArg List.length (@calls_conserve α ε frame limit n s)
  rw [List.length_append, List.length_flatten] at hconserve
  rw [List.length_map, smul_eq_mul, Nat.mul_comm] at hlengths
  omega

end Conservation

/-! ## Messages that are delimited -/

section Reassembly

variable {frame : List α → Option Nat} {limit : Nat}

/-- The framing function finds the message in front of whatever follows, and not before it
is complete. -/
structure Delimits (frame : List α → Option Nat) (m : List α) : Prop where
  complete : ∀ more, frame (m ++ more) = some m.length
  incomplete : ∀ front missing, m = front ++ missing → missing ≠ [] → frame front = none

/-- A buffer of delimited messages either has the first one at its front, or is the
beginning of it. -/
theorem Delimits.front_cases {m buffer rest tail : List α} (h : Delimits frame m)
    (hcontent : buffer ++ rest = m ++ tail) :
    (∃ more, buffer = m ++ more ∧ tail = more ++ rest ∧ frame buffer = some m.length) ∨
      ∃ missing, m = buffer ++ missing ∧ missing ≠ [] ∧ frame buffer = none := by
  rcases List.append_eq_append_iff.mp hcontent with
    ⟨missing, hm, hrest⟩ | ⟨more, hbuffer, htail⟩
  · by_cases hmissing : missing = []
    · rw [hmissing, List.append_nil] at hm
      refine Or.inl ⟨[], ?_, ?_, ?_⟩
      · rw [List.append_nil, hm]
      · rw [hrest, hmissing]
        rfl
      · rw [← hm, ← List.append_nil m]
        exact (h.complete []).trans (by rw [List.append_nil])
    · exact Or.inr ⟨missing, hm, hmissing, h.incomplete buffer missing hm hmissing⟩
  · refine Or.inl ⟨more, hbuffer, htail, ?_⟩
    rw [hbuffer]
    exact h.complete more

/-- What is left of a stream of messages. -/
structure Carries (s : Stream α ε) (msgs : List (List α)) : Prop where
  content : s.content = msgs.flatten
  orderly : ∀ arrival ∈ s.arrivals, arrival.IsOrderly

/-- What one read makes of the messages that are left. -/
inductive Takes : Outcome α ε → List (List α) → List (List α) → Prop where
  | message (m : List α) (msgs : List (List α)) : Takes (.message m) (m :: msgs) msgs
  | elapsed (msgs : List (List α)) : Takes .elapsed msgs msgs
  | waiting : Takes .waiting [] []

variable {msgs : List (List α)}

theorem Takes.messages {outcome : Outcome α ε} {msgs' : List (List α)}
    (h : Takes outcome msgs msgs') : msgs = outcome.message?.toList ++ msgs' := by
  cases h <;> rfl

theorem Takes.isOrderly {outcome : Outcome α ε} {msgs' : List (List α)}
    (h : Takes outcome msgs msgs') : outcome.IsOrderly := by
  cases h <;> trivial

/-- The work that is left: a read takes a message or is given up. -/
def Stream.work (s : Stream α ε) (msgs : List (List α)) : Nat := msgs.length + s.elapses

theorem content_cons (buffer chunk : List α) (rest : List (Arrival α ε)) :
    Stream.content ⟨buffer, .data chunk :: rest⟩ = Stream.content ⟨buffer ++ chunk, rest⟩ :=
  (List.append_assoc _ _ _).symm

/-- A read that found nothing: no messages are left, or the buffer is the beginning of the
next one. -/
theorem Carries.of_unframed {s : Stream α ε} (h : Carries s msgs)
    (hmsgs : ∀ m ∈ msgs, Delimits frame m ∧ m.length ≤ limit) (hframe : frame s.buffer = none) :
    (msgs = [] ∧ s.buffer = [] ∧ s.arrivals.flatMap Arrival.chunk = []) ∨
      ∃ m more missing, msgs = m :: more ∧ m = s.buffer ++ missing ∧ missing ≠ [] := by
  rcases msgs with _ | ⟨m, more⟩
  · exact Or.inl ⟨rfl, List.append_eq_nil_iff.mp h.content⟩
  · rcases (hmsgs m List.mem_cons_self).1.front_cases h.content with
      ⟨_, -, -, hframed⟩ | ⟨missing, hm, hmissing, -⟩
    · cases hframe.symm.trans hframed
    · exact Or.inr ⟨m, more, missing, rfl, hm, hmissing⟩

/-- **One read of a stream of messages** takes the next one, or is given up, or waits
behind the last. -/
theorem readFrom_reassembles (hempty : frame [] = none)
    (hmsgs : ∀ m ∈ msgs, Delimits frame m ∧ m.length ≤ limit) (buffer : List α)
    (arrivals : List (Arrival α ε)) (h : Carries ⟨buffer, arrivals⟩ msgs) :
    ∃ msgs', Takes (readFrom frame limit buffer arrivals).1 msgs msgs' ∧
      Carries (readFrom frame limit buffer arrivals).2 msgs' ∧
      (msgs = [] ∨ (readFrom frame limit buffer arrivals).2.work msgs' <
        Stream.work ⟨buffer, arrivals⟩ msgs) := by
  fun_induction readFrom frame limit buffer arrivals with
  | case1 arrivals buffer len hframe =>
    rcases msgs with _ | ⟨m, msgs⟩
    · have hbuffer : buffer = [] := (List.append_eq_nil_iff.mp h.content).1
      rw [hbuffer] at hframe
      cases hempty.symm.trans hframe
    · rcases (hmsgs m List.mem_cons_self).1.front_cases h.content with
        ⟨more, hbuffer, hrest, hframed⟩ | ⟨_, _, _, hnone⟩
      · cases hframe.symm.trans hframed
        replace hbuffer : buffer = m ++ more := hbuffer
        rw [hbuffer, List.take_left, List.drop_left]
        refine ⟨msgs, .message m msgs, ⟨hrest.symm, h.orderly⟩, Or.inr ?_⟩
        exact Nat.add_lt_add_right (Nat.lt_succ_self msgs.length) _
      · cases hframe.symm.trans hnone
  | case2 arrivals buffer hframe hlarge =>
    rcases h.of_unframed hmsgs hframe with ⟨-, hbuffer, -⟩ | ⟨m, more, missing, rfl, hm, -⟩
    · rw [show buffer = [] from hbuffer] at hlarge
      exact absurd hlarge (Nat.not_lt_zero limit)
    · have hfits := (hmsgs m List.mem_cons_self).2
      rw [hm, List.length_append] at hfits
      exact absurd hlarge (Nat.not_lt.mpr (Nat.le_of_add_right_le hfits))
  | case3 buffer hframe hsmall =>
    rcases h.of_unframed hmsgs hframe with ⟨rfl, -⟩ | ⟨m, more, missing, rfl, hm, hmissing⟩
    · exact ⟨[], .waiting, h, Or.inl rfl⟩
    · have hlength := congrArg List.length h.content
      have hmissing_pos := List.length_pos_iff.mpr hmissing
      rw [hm, List.flatten_cons, List.length_append, List.length_append] at hlength
      simp only [Stream.content, List.flatMap_nil, List.append_nil] at hlength
      omega
  | case4 buffer hframe hsmall rest =>
    exact absurd rfl (h.orderly _ List.mem_cons_self)
  | case5 buffer hframe hsmall chunk rest hchunk ih =>
    refine ih ⟨?_, fun arrival harrival => h.orderly arrival (List.mem_cons_of_mem _ harrival)⟩
    rw [← content_cons]
    exact h.content
  | case6 buffer hframe hsmall e rest =>
    exact (h.orderly _ List.mem_cons_self).elim
  | case7 buffer hframe hsmall rest =>
    refine ⟨msgs, .elapsed msgs, ⟨h.content, fun arrival harrival =>
      h.orderly arrival (List.mem_cons_of_mem _ harrival)⟩, Or.inr ?_⟩
    show msgs.length + rest.countP _ < msgs.length + List.countP _ (.elapsed :: rest)
    rw [List.countP_cons_of_pos rfl]
    omega

/-- **Reads of a stream of messages** return these messages, in order, and all of them when
there are enough reads. -/
theorem calls_reassemble (hempty : frame [] = none) {s : Stream α ε}
    (hmsgs : ∀ m ∈ msgs, Delimits frame m ∧ m.length ≤ limit) (h : Carries s msgs) (n : Nat) :
    ∃ left, msgs = messages (calls frame limit n s).1 ++ left ∧
      Carries (calls frame limit n s).2 left ∧
      (∀ outcome ∈ (calls frame limit n s).1, outcome.IsOrderly) ∧
      (s.work msgs ≤ n → left = []) := by
  induction n generalizing s msgs with
  | zero =>
    refine ⟨msgs, rfl, h, fun _ hmem => absurd hmem List.not_mem_nil, fun hwork => ?_⟩
    exact List.eq_nil_of_length_eq_zero
      (Nat.le_zero.mp ((Nat.le_add_right _ _).trans hwork))
  | succ n ih =>
    obtain ⟨msgs', htakes, hcarries, hwork⟩ :=
      readFrom_reassembles hempty hmsgs s.buffer s.arrivals h
    have hsplit := htakes.messages
    have hmsgs' : ∀ m ∈ msgs', Delimits frame m ∧ m.length ≤ limit := by
      intro m hm
      rw [hsplit] at hmsgs
      exact hmsgs m (List.mem_append_right _ hm)
    obtain ⟨left, hleft, hlast, horderly, hdone⟩ := ih hmsgs' hcarries
    have hwhole : msgs = messages (calls frame limit (n + 1) s).1 ++ left := by
      rw [calls_succ, messages_cons, List.append_assoc]
      exact hleft ▸ hsplit
    refine ⟨left, hwhole, hlast, List.forall_mem_cons.mpr ⟨htakes.isOrderly, horderly⟩,
      fun hn => ?_⟩
    rcases hwork with rfl | hless
    · exact (List.append_eq_nil_iff.mp hwhole.symm).2
    · exact hdone (Nat.le_of_lt_succ (hless.trans_le hn))

end Reassembly

end Framing
