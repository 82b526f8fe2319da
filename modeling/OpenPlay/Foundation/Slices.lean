import Mathlib.Algebra.Order.BigOperators.Group.List
import Mathlib.Data.List.Infix

/-!
# Slices of a buffer

A slice by its two ends, which may be out of range, and the rows of a buffer: pieces of
one size, a stride apart.

* `foldlM_append`: a loop that appends slices, none of which is out of range.
* `take_drop_flatten_rows`: an item of a row stands in the joined rows where it would
  stand without padding.
* `flatten_rows_self`: rows without padding are the buffer itself.
-/

namespace Slices

universe u v

variable {α : Type u} {β : Type v}

/-- The items from `start` up to `stop`, if these are in range. -/
def slice (data : List α) (start stop : Nat) : Option (List α) :=
  if start ≤ stop ∧ stop ≤ data.length then some ((data.drop start).take (stop - start))
  else none

/-- A slice that begins within range. -/
theorem slice_of_le {data : List α} {start size : Nat} (h : start + size ≤ data.length) :
    slice data start (start + size) = some ((data.drop start).take size) := by
  rw [slice, if_pos ⟨Nat.le_add_right _ _, h⟩, Nat.add_sub_cancel_left]

/-- A loop that appends what it gets for each item. -/
theorem foldlM_append {get : β → Option (List α)} {piece : β → List α} {items : List β}
    (h : ∀ x ∈ items, get x = some (piece x)) (acc : List α) :
    items.foldlM (fun acc x => (get x).map (acc ++ ·)) acc =
      some (acc ++ (items.map piece).flatten) := by
  induction items generalizing acc with
  | nil => simp
  | cons x rest ih =>
    rw [List.foldlM_cons, h x List.mem_cons_self]
    show rest.foldlM _ (acc ++ piece x) = _
    rw [ih (fun y hy => h y (List.mem_cons_of_mem _ hy)), List.map_cons, List.flatten_cons,
      List.append_assoc]

/-! ## Rows -/

/-- The first `n` rows of a buffer. -/
def rows (stride size : Nat) (data : List α) (n : Nat) : List (List α) :=
  (List.range n).map fun y => (data.drop (y * stride)).take size

variable {stride size n : Nat} {data : List α}

theorem rows_succ (stride size : Nat) (data : List α) (n : Nat) :
    rows stride size data (n + 1) = data.take size :: rows stride size (data.drop stride) n := by
  unfold rows
  rw [List.range_succ_eq_map, List.map_cons, List.map_map, Nat.zero_mul, List.drop_zero]
  congr 1
  apply List.map_congr_left
  intro y _
  show (data.drop ((y + 1) * stride)).take size = _
  rw [List.drop_drop, Nat.succ_mul, Nat.add_comm]

/-- The buffer holds its first `n` rows, the last one without its padding. -/
def Holds (stride size : Nat) (data : List α) (n : Nat) : Prop :=
  ∀ y < n, y * stride + size ≤ data.length

theorem Holds.tail (h : Holds stride size data (n + 1)) : Holds stride size (data.drop stride) n := by
  intro y hy
  have hrow := h (y + 1) (Nat.succ_lt_succ hy)
  rw [List.length_drop]
  rw [Nat.succ_mul] at hrow
  omega

theorem Holds.head (h : Holds stride size data (n + 1)) : (data.take size).length = size := by
  have hrow := h 0 (Nat.succ_pos n)
  rw [List.length_take]
  omega

theorem length_flatten_rows (h : Holds stride size data n) :
    (rows stride size data n).flatten.length = n * size := by
  induction n generalizing data with
  | zero => simp [rows]
  | succ n ih =>
    rw [rows_succ, List.flatten_cons, List.length_append, h.head, ih h.tail, Nat.succ_mul,
      Nat.add_comm]

/-- **An item of a row** in the joined rows. -/
theorem take_drop_flatten_rows (h : Holds stride size data n) {y o m : Nat} (hy : y < n)
    (hm : o + m ≤ size) :
    ((rows stride size data n).flatten.drop (y * size + o)).take m =
      (data.drop (y * stride + o)).take m := by
  induction n generalizing data y with
  | zero => exact absurd hy (Nat.not_lt_zero y)
  | succ n ih =>
    have hhead := h.head
    rw [rows_succ, List.flatten_cons]
    cases y with
    | zero =>
      rw [Nat.zero_mul, Nat.zero_mul, Nat.zero_add,
        List.drop_append_of_le_length (by omega),
        List.take_append_of_le_length (by rw [List.length_drop]; omega), List.drop_take,
        List.take_take]
      congr 1
      omega
    | succ y =>
      have hskip : (y + 1) * size + o = (data.take size).length + (y * size + o) := by
        rw [hhead, Nat.succ_mul]
        omega
      rw [hskip, List.drop_length_add_append, ih h.tail (Nat.lt_of_succ_lt_succ hy),
        List.drop_drop, Nat.succ_mul]
      congr 2
      omega

/-- **Rows without padding** are the buffer itself. -/
theorem flatten_rows_self (size : Nat) (data : List α) (n : Nat) :
    (rows size size data n).flatten = data.take (n * size) := by
  induction n generalizing data with
  | zero => simp [rows]
  | succ n ih =>
    rw [rows_succ, List.flatten_cons, ih, Nat.succ_mul, Nat.add_comm, List.take_add]

end Slices
