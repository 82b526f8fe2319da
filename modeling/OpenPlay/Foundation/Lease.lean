import Mathlib.Data.List.Basic

/-!
# Leases over a FIFO channel

A grantor gives a resource to a client and takes it back, and tells the client so
over a first-in-first-out channel.  The client uses the resource from the moment
it reads a grant until it reads a revocation.

Client and grantor are never in step: what the client believes lags behind what
the grantor decided.  `Agrees` is what does hold at any moment.  A client that
uses the resource is covered, in that the grantor still holds the lease for it or
a revocation is on its way, and every grant still on its way is covered by what
follows it in the channel.

The two ends keep the invariant separately.  The grantor has to send a revocation
whenever it gives a lease up (`Agrees.send`); the client has to stop when it reads
one (`Agrees.read`, `Agrees.grant`).
-/

namespace Lease

universe u

variable {M : Type u} {grants revokes : M → Prop} {inUse held : Prop}
variable {queue : List M} {m : M}

/-- The lease is held, or its revocation is in the queue. -/
def Covered (revokes : M → Prop) (held : Prop) (queue : List M) : Prop :=
  held ∨ ∃ m ∈ queue, revokes m

/-- The client's use of the resource is covered, and so is every grant in the
queue, by what follows it. -/
structure Agrees (grants revokes : M → Prop) (inUse held : Prop) (queue : List M) :
    Prop where
  use : inUse → Covered revokes held queue
  queued : ∀ front m back, queue = front ++ m :: back → grants m →
    Covered revokes held back

theorem Covered.append {held' : Prop} {new : List M} (h : Covered revokes held queue)
    (released : held → held' ∨ ∃ m ∈ new, revokes m) :
    Covered revokes held' (queue ++ new) := by
  rcases h with held | ⟨m, mem, hm⟩
  · rcases released held with held' | ⟨m, mem, hm⟩
    · exact Or.inl held'
    · exact Or.inr ⟨m, List.mem_append_right _ mem, hm⟩
  · exact Or.inr ⟨m, List.mem_append_left _ mem, hm⟩

theorem Covered.tail (h : Covered revokes held (m :: queue)) (quiet : ¬ revokes m) :
    Covered revokes held queue := by
  rcases h with held | ⟨x, mem, hx⟩
  · exact Or.inl held
  · rcases List.mem_cons.mp mem with rfl | mem
    · exact absurd hx quiet
    · exact Or.inr ⟨x, mem, hx⟩

namespace Agrees

/-- Nothing granted, nothing used. -/
theorem idle (unused : ¬ inUse) : Agrees grants revokes inUse held [] where
  use used := absurd used unused
  queued front m back h := by simp at h

/-- **The grantor sends.**  It may grant only what it holds afterwards, and it has
to announce the end of a lease it gives up. -/
theorem send {held' : Prop} {new : List M}
    (h : Agrees grants revokes inUse held queue)
    (granted : ∀ m ∈ new, grants m → held')
    (released : held → held' ∨ ∃ m ∈ new, revokes m) :
    Agrees grants revokes inUse held' (queue ++ new) where
  use used := (h.use used).append released
  queued front m back split hm := by
    rcases List.append_eq_append_iff.mp split with ⟨mid, rfl, rest⟩ | ⟨mid, rfl, rest⟩
    · -- The grant is one of the new messages.
      refine Or.inl (granted m ?_ hm)
      rw [rest]
      simp
    · cases mid with
      | nil =>
          refine Or.inl (granted m ?_ hm)
          have rest' : m :: back = new := by simpa using rest
          rw [← rest']
          exact List.mem_cons_self
      | cons x mid =>
          obtain ⟨rfl, rfl⟩ := List.cons.inj rest
          exact (h.queued front m mid rfl hm).append released

/-- **The client reads** a message.  It goes on using the resource only if the
message is no revocation. -/
theorem read {inUse' : Prop} (h : Agrees grants revokes inUse held (m :: queue))
    (used : inUse' → inUse ∧ ¬ revokes m) :
    Agrees grants revokes inUse' held queue where
  use h' := (h.use (used h').1).tail (used h').2
  queued front x back split hx := by
    refine h.queued (m :: front) x back ?_ hx
    rw [split, List.cons_append]

/-- **The client reads a grant**, and may use the resource from now on. -/
theorem grant {inUse' : Prop} (h : Agrees grants revokes inUse held (m :: queue))
    (hm : grants m) : Agrees grants revokes inUse' held queue where
  use _ := h.queued [] m queue rfl hm
  queued front x back split hx := by
    refine h.queued (m :: front) x back ?_ hx
    rw [split, List.cons_append]

/-- The client may always stop. -/
theorem weaken {inUse' : Prop} (h : Agrees grants revokes inUse held queue)
    (used : inUse' → inUse) : Agrees grants revokes inUse' held queue where
  use h' := h.use (used h')
  queued := h.queued

end Agrees

end Lease
