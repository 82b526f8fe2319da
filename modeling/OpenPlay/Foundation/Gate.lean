import Mathlib.Data.List.Basic

/-!
# A channel that is read through a gate

Somebody writes messages on a channel that keeps their order.  The reader discards
a message that does not fit, and it can use the items it finds only from the moment
that a message has **opened** the gate; an item that comes before is lost.

Who wants to know what becomes of the items must look at the order in which the
messages were written: an item will be used if it fits and is written behind a
message that opens the gate, and if not it will not, however the writing and the
reading are interleaved.  `Account` is the invariant that says so.  `kept` are the
items that were written behind an opening, `said` all that were written, `used`
those that the reader has used.

## Main definitions

* `Gate` — which messages open the gate, carry an item, and fit
* `Gate.surviving` — the items on a channel that the reader will use
* `Gate.Account` — what was kept is what is used and what will be

## Main results

* `Account.push`, `Account.drop`, `Account.take` — the three things that happen
* `Account.none_lost` — if all that was said was kept, what is not used is on its way
-/

universe u v

/-- How a reader looks at the messages of a channel. -/
structure Gate (α : Type u) (β : Type v) where
  opens : α → Bool
  item : α → Option β
  fits : α → Bool

namespace Gate

variable {α : Type u} {β : Type v} (gate : Gate α β)

/-- The message fits and opens the gate. -/
def lets (m : α) : Bool := gate.fits m && gate.opens m

/-- What the reader uses of a message. -/
def pass (isOpen : Bool) (m : α) : List β :=
  if isOpen && gate.fits m then (gate.item m).toList else []

/-- All the items on a channel. -/
def items (queue : List α) : List β := queue.filterMap gate.item

/-- The gate, after a channel has been read. -/
def after (isOpen : Bool) (queue : List α) : Bool := isOpen || queue.any gate.lets

/-- The items on a channel that the reader will use. -/
def surviving : Bool → List α → List β
  | _, [] => []
  | isOpen, m :: rest => gate.pass isOpen m ++ surviving (isOpen || gate.lets m) rest

variable {gate} {isOpen : Bool} {m : α} {queue front back : List α}

theorem lets_eq_false (unfit : gate.fits m = false) : gate.lets m = false := by
  rw [lets, unfit, Bool.false_and]

theorem pass_eq_nil (unfit : gate.fits m = false) : gate.pass isOpen m = [] := by
  rw [pass, unfit, Bool.and_false, if_neg Bool.false_ne_true]

theorem pass_sublist (gate : Gate α β) (isOpen : Bool) (m : α) :
    (gate.pass isOpen m).Sublist (gate.item m).toList := by
  unfold pass
  split
  · exact List.Sublist.refl _
  · exact List.nil_sublist _

@[simp] theorem items_cons (m : α) (rest : List α) :
    gate.items (m :: rest) = (gate.item m).toList ++ gate.items rest := by
  unfold items
  cases h : gate.item m with
  | none => rw [List.filterMap_cons_none h, Option.toList_none, List.nil_append]
  | some item => rw [List.filterMap_cons_some h, Option.toList_some, List.singleton_append]

@[simp] theorem items_append (front back : List α) :
    gate.items (front ++ back) = gate.items front ++ gate.items back :=
  List.filterMap_append

theorem after_append :
    gate.after isOpen (front ++ back) = gate.after (gate.after isOpen front) back := by
  rw [after, after, after, List.any_append, Bool.or_assoc]

theorem after_cons : gate.after isOpen (m :: queue) = gate.after (isOpen || gate.lets m) queue := by
  rw [after, after, List.any_cons, Bool.or_assoc]

theorem surviving_append :
    gate.surviving isOpen (front ++ back) =
      gate.surviving isOpen front ++ gate.surviving (gate.after isOpen front) back := by
  induction front generalizing isOpen with
  | nil => rw [after, List.any_nil, Bool.or_false]; rfl
  | cons m front ih =>
      show gate.pass isOpen m ++ gate.surviving _ (front ++ back) = _
      rw [ih, ← List.append_assoc, after_cons]
      rfl

theorem surviving_sublist (gate : Gate α β) (isOpen : Bool) (queue : List α) :
    (gate.surviving isOpen queue).Sublist (gate.items queue) := by
  induction queue generalizing isOpen with
  | nil => exact List.Sublist.refl _
  | cons m queue ih =>
      rw [items_cons]
      exact (gate.pass_sublist isOpen m).append (ih _)

/-- A message that does not fit makes no difference. -/
theorem surviving_erase (unfit : gate.fits m = false) :
    gate.surviving isOpen (front ++ m :: back) = gate.surviving isOpen (front ++ back) := by
  rw [surviving_append, surviving_append]
  congr 1
  show gate.pass _ m ++ gate.surviving _ back = _
  rw [pass_eq_nil unfit, lets_eq_false unfit, Bool.or_false, List.nil_append]

/-- Messages that do not open the gate make no difference to it. -/
theorem after_plain (plain : ∀ m ∈ back, gate.opens m = false) :
    gate.after isOpen (front ++ back) = gate.after isOpen front := by
  have none_opens : back.any gate.lets = false := by
    rw [List.any_eq_false]
    intro m mem
    rw [lets, plain m mem, Bool.and_false]
    exact Bool.false_ne_true
  rw [after_append, after, none_opens, Bool.or_false]

theorem after_erase (unfit : gate.fits m = false) :
    gate.after isOpen (front ++ m :: back) = gate.after isOpen (front ++ back) := by
  rw [after_append, after_append, after_cons, lets_eq_false unfit, Bool.or_false]

/-! ## The account -/

/-- What was kept is what the reader has used, and what it will use; and it uses
nothing that was not said, in another order, or twice. -/
structure Account (gate : Gate α β) (kept said used : List β) (isOpen : Bool)
    (queue : List α) : Prop where
  kept_eq : kept = used ++ gate.surviving isOpen queue
  said_of : (used ++ gate.items queue).Sublist said

namespace Account

variable {kept said used : List β}

/-- Nothing has been said. -/
theorem start (nothing : gate.items queue = []) :
    gate.Account [] [] [] isOpen queue where
  kept_eq := by
    have none_left : gate.surviving isOpen queue = [] :=
      List.sublist_nil.mp (nothing ▸ gate.surviving_sublist isOpen queue)
    rw [none_left, List.append_nil]
  said_of := by
    rw [nothing]
    exact List.Sublist.refl _

/-- A message is written.  It is kept if by then the gate will be open. -/
theorem push (h : gate.Account kept said used isOpen queue) (m : α) :
    gate.Account (kept ++ gate.pass (gate.after isOpen queue) m)
      (said ++ (gate.item m).toList) used isOpen (queue ++ [m]) where
  kept_eq := by
    have last : gate.surviving (gate.after isOpen queue) [m] =
        gate.pass (gate.after isOpen queue) m := List.append_nil _
    rw [surviving_append, last, ← List.append_assoc, ← h.kept_eq]
  said_of := by
    have last : gate.items [m] = (gate.item m).toList := by
      rw [items_cons]
      exact List.append_nil _
    rw [items_append, last, ← List.append_assoc]
    exact h.said_of.append (List.Sublist.refl _)

/-- Messages that carry nothing are written. -/
theorem push_plain (h : gate.Account kept said used isOpen queue) {messages : List α}
    (plain : ∀ m ∈ messages, gate.item m = none) :
    gate.Account kept said used isOpen (queue ++ messages) := by
  induction messages generalizing queue with
  | nil => rwa [List.append_nil]
  | cons m messages ih =>
      have carries := plain m List.mem_cons_self
      have pushed := h.push m
      have nothing : gate.pass (gate.after isOpen queue) m = [] := by
        have part := gate.pass_sublist (gate.after isOpen queue) m
        rw [carries, Option.toList_none] at part
        exact List.sublist_nil.mp part
      rw [nothing, carries, Option.toList_none, List.append_nil, List.append_nil] at pushed
      have rest := ih pushed fun m' mem => plain m' (List.mem_cons_of_mem _ mem)
      rwa [List.append_assoc] at rest

/-- A message that does not fit is discarded. -/
theorem drop (h : gate.Account kept said used isOpen (front ++ m :: back))
    (unfit : gate.fits m = false) :
    gate.Account kept said used isOpen (front ++ back) where
  kept_eq := by rw [h.kept_eq, surviving_erase unfit]
  said_of := by
    refine List.Sublist.trans ?_ h.said_of
    rw [items_append, items_append, items_cons]
    exact ((List.sublist_append_right _ _).append_left _).append_left _

/-- The reader takes the next message. -/
theorem take (h : gate.Account kept said used isOpen (m :: queue)) :
    gate.Account kept said (used ++ gate.pass isOpen m) (isOpen || gate.lets m)
      queue where
  kept_eq := by
    rw [h.kept_eq, List.append_assoc]
    rfl
  said_of := by
    refine List.Sublist.trans ?_ h.said_of
    rw [items_cons, List.append_assoc]
    exact ((gate.pass_sublist isOpen m).append (List.Sublist.refl _)).append_left _

/-- **Nothing is lost of what was written in order.** -/
theorem none_lost (h : gate.Account kept said used isOpen queue) (all : kept = said) :
    said = used ++ gate.items queue := by
  have survive := gate.surviving_sublist isOpen queue
  have total := congrArg List.length (h.kept_eq.symm.trans all)
  rw [List.length_append] at total
  refine (h.said_of.eq_of_length ?_).symm
  have fewer := survive.length_le
  have bound := h.said_of.length_le
  rw [List.length_append] at bound ⊢
  omega

/-- Once everything has been read, what was kept has been used. -/
theorem kept_of_read (h : gate.Account kept said used isOpen queue)
    (read : gate.items queue = []) : kept = used := by
  have none_left : gate.surviving isOpen queue = [] :=
    List.sublist_nil.mp (read ▸ gate.surviving_sublist isOpen queue)
  rw [h.kept_eq, none_left, List.append_nil]

end Account

end Gate
