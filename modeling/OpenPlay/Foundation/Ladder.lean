import Mathlib.Data.List.Basic

/-!
# Ladders

A list whose entries get worse from each to all behind it.  The first entry that is allowed
is then the best of those that are.
-/

namespace Ladder

universe u

variable {α : Type u}

/-- One of the allowed entries, and none of them is better. -/
structure IsBest (Better : α → α → Prop) (allowed : α → Prop) (a : α) : Prop where
  isAllowed : allowed a
  best : ∀ b, allowed b → ¬ Better b a

/-- **The first allowed rung is the best one.** -/
theorem isBest_iff_find? {Better : α → α → Prop} {rungs : List α} {allowed : α → Bool}
    (falls : rungs.Pairwise Better) (asymm : ∀ a b, Better a b → ¬ Better b a) {a : α} :
    IsBest Better (fun b => b ∈ rungs ∧ allowed b = true) a ↔ rungs.find? allowed = some a := by
  rw [List.find?_eq_some_iff_append]
  constructor
  · rintro ⟨⟨mem, ok⟩, best⟩
    obtain ⟨above, below, rfl⟩ := List.append_of_mem mem
    refine ⟨ok, above, below, rfl, fun b hb => ?_⟩
    have better : Better b a := (List.pairwise_append.mp falls).2.2 b hb a List.mem_cons_self
    rw [Bool.not_eq_true', ← Bool.not_eq_true]
    intro ok'
    exact best b ⟨List.mem_append_left _ hb, ok'⟩ better
  · rintro ⟨ok, above, below, rfl, none⟩
    refine ⟨⟨List.mem_append_right _ List.mem_cons_self, ok⟩, ?_⟩
    rintro b ⟨mem, allowed⟩ better
    rcases List.mem_append.mp mem with hb | hb
    · have refused := none b hb
      rw [allowed] at refused
      cases refused
    · rcases List.mem_cons.mp hb with rfl | hb
      · exact asymm b b better better
      · have worse := (List.pairwise_append.mp falls).2.1
        exact asymm b a better ((List.pairwise_cons.mp worse).1 b hb)

end Ladder
