import Mathlib.Data.List.Basic

/-!
# Records written in turns

Writers put records on one stream.  A writer takes a turn for one record, which it may write
in any number of pieces, and it may fail or be dropped half-way.

What the stream holds is one of three things: all the records for which a turn was taken, all
but the rest of the last one, or, once something was cut short, nothing after that.

* `IsWhole.take`, `IsOpen.write`, `IsOpen.finish`, `IsOpen.cut`, `IsCut.take`: what may happen
* `Splits`: whole records and at most the beginning of the next one, which is how a reader
  finds the stream in each of the three cases
-/

namespace Turns

universe u v

variable {R : Type u} {B : Type v} (encode : R → List B)

/-- Every record is there. -/
def IsWhole (taken : List R) (sent : List B) : Prop := sent = taken.flatMap encode

/-- Of the last record, `rest` is still to be written. -/
def IsOpen (taken : List R) (sent rest : List B) : Prop :=
  ∃ whole r part, taken = whole ++ [r] ∧ sent = whole.flatMap encode ++ part ∧
    encode r = part ++ rest

/-- A record was cut short, and of the later ones there is nothing. -/
def IsCut (taken : List R) (sent : List B) : Prop :=
  ∃ whole r later part, taken = whole ++ r :: later ∧ sent = whole.flatMap encode ++ part ∧
    part <+: encode r

/-- Whole records, and at most the beginning of the next one. -/
structure Splits (taken : List R) (sent : List B) (whole missing : List R) (part : List B) :
    Prop where
  taken : taken = whole ++ missing
  sent : sent = whole.flatMap encode ++ part
  proper : (missing = [] ∧ part = []) ∨ ∃ r later, missing = r :: later ∧
    part <+: encode r ∧ part.length < (encode r).length

variable {encode} {taken : List R} {sent rest front back : List B}

theorem isWhole_nil : IsWhole encode [] [] := rfl

theorem IsWhole.take (h : IsWhole encode taken sent) (r : R) :
    IsOpen encode (taken ++ [r]) sent (encode r) :=
  ⟨taken, r, [], rfl, by rw [List.append_nil]; exact h, rfl⟩

theorem IsOpen.write (h : IsOpen encode taken sent (front ++ back)) :
    IsOpen encode taken (sent ++ front) back := by
  obtain ⟨whole, r, part, htaken, hsent, hpart⟩ := h
  refine ⟨whole, r, part ++ front, htaken, ?_, ?_⟩
  · rw [hsent, List.append_assoc]
  · rw [hpart, List.append_assoc]

theorem IsOpen.finish (h : IsOpen encode taken sent []) : IsWhole encode taken sent := by
  obtain ⟨whole, r, part, rfl, rfl, hpart⟩ := h
  rw [List.append_nil] at hpart
  simp [IsWhole, hpart]

theorem IsOpen.cut (h : IsOpen encode taken sent (front ++ back)) :
    IsCut encode taken (sent ++ front) := by
  obtain ⟨whole, r, part, htaken, hsent, hpart⟩ := h.write
  exact ⟨whole, r, [], part, htaken, hsent, back, hpart.symm⟩

theorem IsCut.take (h : IsCut encode taken sent) (r : R) :
    IsCut encode (taken ++ [r]) sent := by
  obtain ⟨whole, cut, later, part, rfl, hsent, hpart⟩ := h
  exact ⟨whole, cut, later ++ [r], part, by simp, hsent, hpart⟩

/-! ## What a reader finds -/

theorem IsWhole.splits (h : IsWhole encode taken sent) : Splits encode taken sent taken [] [] where
  taken := (List.append_nil taken).symm
  sent := by rw [List.append_nil]; exact h
  proper := Or.inl ⟨rfl, rfl⟩

/-- Only the last record can be incomplete. -/
theorem IsOpen.splits (h : IsOpen encode taken sent rest) :
    ∃ whole missing part, Splits encode taken sent whole missing part ∧ missing.length ≤ 1 := by
  by_cases done : rest = []
  · subst done
    exact ⟨taken, [], [], h.finish.splits, Nat.zero_le 1⟩
  · obtain ⟨whole, r, part, htaken, hsent, hpart⟩ := h
    refine ⟨whole, [r], part, ⟨htaken, hsent, Or.inr ⟨r, [], rfl, ?_, ?_⟩⟩, Nat.le_refl 1⟩
    · exact ⟨rest, hpart.symm⟩
    · have some := List.length_pos_iff.mpr done
      rw [hpart, List.length_append]
      omega

theorem IsCut.splits (nonempty : ∀ r, encode r ≠ []) (h : IsCut encode taken sent) :
    ∃ whole missing part, Splits encode taken sent whole missing part := by
  obtain ⟨whole, r, later, part, rfl, rfl, back, hpart⟩ := h
  by_cases done : back = []
  · -- the failure came after the last piece: the record is whole
    rw [done, List.append_nil] at hpart
    refine ⟨whole ++ [r], later, [], by simp, by simp [hpart], ?_⟩
    cases later with
    | nil => exact Or.inl ⟨rfl, rfl⟩
    | cons next later =>
        exact Or.inr ⟨next, later, rfl, List.nil_prefix, List.length_pos_iff.mpr (nonempty next)⟩
  · refine ⟨whole, r :: later, part, rfl, rfl, Or.inr ⟨r, later, rfl, ⟨back, hpart⟩, ?_⟩⟩
    have some := List.length_pos_iff.mpr done
    rw [← hpart, List.length_append]
    omega

end Turns
