import OpenPlay.Sender.ReceiverList

/-!
# Entries and where they come from

`add_receiver` leaves what is listed under a key as it is, and `remove_receiver` takes the
name of a service for a key.  So what is listed under a key is the first addition under it
since a Lost event of just that name: `entry`, which looks at the events alone.

* `lookup_eq_entry`: the map is given by `entry`
* `addedBy_eq_entry`: so is the service that brought what is listed
-/

namespace OpenPlay.Sender

open Transition

/-- The service whose Found event put in what is listed under a key, as seen on the map. -/
def addedBy : List ListMove → Key → Option Key
  | [], _ => none
  | move :: past, k =>
      if k ∉ move.source.receivers ∧ k ∈ move.target.receivers then
        move.action.addition.bind Addition.service
      else addedBy past k

/-- The first addition under a key since the key was lost. -/
def entry : List ListMove → Key → Option Addition
  | [], _ => none
  | move :: past, k =>
      if move.action.lost = some k then none
      else (entry past k).or (move.action.addition.filter fun a => a.receiver.key = k)

section Entry

variable {past : List ListMove} {move : ListMove} {x : ReceiverList} {k : Key} {a : Addition}

theorem entry_of_added (past : List ListMove) (added : move.action.addition = some a)
    (lost : move.action.lost = none) (k : Key) :
    entry (move :: past) k = (entry past k).or (if a.receiver.key = k then some a else none) := by
  simp [entry, added, lost, Option.filter]

theorem entry_of_lost (past : List ListMove) {name : Key} (added : move.action.addition = none)
    (lost : move.action.lost = some name) (k : Key) :
    entry (move :: past) k = if k = name then none else entry past k := by
  simp [entry, added, lost, eq_comm]

theorem entry_of_kept (past : List ListMove) (added : move.action.addition = none)
    (lost : move.action.lost = none) (k : Key) : entry (move :: past) k = entry past k := by
  simp [entry, added, lost]

/-- **The map is given by the events**: under each key the first addition since the key was
lost. -/
theorem lookup_eq_entry (run : receiverList.Run past x) (k : Key) :
    x.receivers.lookup k = (entry past k).map Addition.receiver := by
  induction run with
  | start initial =>
      rw [show _ = ReceiverList.empty from initial]
      rfl
  | @move past move before made ih =>
      cases listDoes_of_makes made with
      | @adds a added lost target =>
          rw [target, ReceiverList.lookup_add, entry_of_added past added lost, ih]
          by_cases same : a.receiver.key = k
          · -- the key of the new one: free, or taken by what is listed
            subst same
            have listed : a.receiver.key ∈ move.source.receivers ↔
                (entry past a.receiver.key).isSome := by
              rw [← AList.lookup_isSome, ih, Option.isSome_map]
            cases found : entry past a.receiver.key <;> simp [listed, found]
          · simp [same, Ne.symm same]
      | removes added lost target =>
          rw [target, ReceiverList.lookup_remove, entry_of_lost past added lost, ih]
          split_ifs <;> rfl
      | keeps added lost target =>
          rw [target, ih, entry_of_kept past added lost]

theorem mem_iff_entry (run : receiverList.Run past x) :
    k ∈ x.receivers ↔ ∃ a, entry past k = some a := by
  rw [← AList.lookup_isSome, lookup_eq_entry run, Option.isSome_map, Option.isSome_iff_exists]

/-- What stands under a key was added under it. -/
theorem key_of_entry (found : entry past k = some a) : a.receiver.key = k := by
  induction past with
  | nil => cases found
  | cons move past ih =>
      rw [entry] at found
      split_ifs at found
      rcases Option.or_eq_some_iff.mp found with earlier | ⟨-, now⟩
      · exact ih earlier
      · exact of_decide_eq_true (Option.filter_eq_some_iff.mp now).2

/-- What stands under a key was added by a move of the history. -/
theorem added_of_entry (found : entry past k = some a) :
    ∃ move ∈ past, move.action.addition = some a := by
  induction past with
  | nil => cases found
  | cons move past ih =>
      rw [entry] at found
      split_ifs at found
      rcases Option.or_eq_some_iff.mp found with earlier | ⟨-, now⟩
      · obtain ⟨earlierMove, mem, added⟩ := ih earlier
        exact ⟨earlierMove, List.mem_cons_of_mem _ mem, added⟩
      · exact ⟨move, List.mem_cons_self, (Option.filter_eq_some_iff.mp now).1⟩

/-- **Where an entry comes from** is seen on the events too. -/
theorem addedBy_eq_entry (run : receiverList.Run past x) (found : entry past k = some a) :
    addedBy past k = a.service := by
  induction run generalizing k a with
  | start initial => cases found
  | @move past move before made ih =>
      have mem : k ∈ move.target.receivers := (mem_iff_entry (.move before made)).mpr ⟨a, found⟩
      have earlier : k ∈ move.source.receivers ↔ ∃ a, entry past k = some a :=
        mem_iff_entry before
      cases known : entry past k with
      | some b =>
          have same : b = a := by
            rw [entry, known] at found
            split_ifs at found
            exact Option.some.inj found
          rw [addedBy, if_neg fun fresh => fresh.1 (earlier.mpr ⟨b, known⟩), ih known, same]
      | none =>
          have fresh : k ∉ move.source.receivers := by simp [earlier, known]
          rw [entry, known] at found
          split_ifs at found
          rw [addedBy, if_pos ⟨fresh, mem⟩, (Option.filter_eq_some_iff.mp found).1]
          rfl

end Entry

end OpenPlay.Sender
