import Mathlib.Data.List.Infix
import Mathlib.Logic.Function.Iterate

/-!
# Dialogues

A program that says and hears things in turn, and may give up.  What it hears comes
from a script of arbitrary length and content; behind its end there is silence.

A *course* lists what such a program says and hears when all goes well, and for each
thing heard whether it is acceptable.  A program `Follows` a course when it says
and hears just that, up to and including the first thing that is not acceptable, and
succeeds exactly when there is no such thing.  The rules `follows_pure`,
`follows_say` and `follows_hear` put the course of a program together from those of
its parts.
-/

namespace Dialogue

universe u v w

/-! ## Courses -/

section Courses

variable {Said : Type u} {Heard : Type v}

inductive Event (Said : Type u) (Heard : Type v) where
  | said (m : Said)
  | heard (r : Heard)
deriving DecidableEq, Repr

/-- One step of a course. -/
inductive Step (Said : Type u) (Heard : Type v) where
  | say (m : Said)
  | hear (r : Heard) (acceptable : Bool)

namespace Step

def event : Step Said Heard → Event Said Heard
  | say m => .said m
  | hear r _ => .heard r

/-- Whether a dialogue goes on behind the step. -/
def goesOn : Step Said Heard → Bool
  | say _ => true
  | hear _ acceptable => acceptable

/-- What is heard in the step, and whether it is acceptable. -/
def hearing : Step Said Heard → Option (Heard × Bool)
  | say _ => none
  | hear r acceptable => some (r, acceptable)

end Step

/-- What is said and heard of a course: all up to the first thing that is not
acceptable, and that thing. -/
def played : List (Step Said Heard) → List (Event Said Heard)
  | [] => []
  | step :: rest => step.event :: if step.goesOn then played rest else []

/-- What is said in a log. -/
def sayings (log : List (Event Said Heard)) : List Said :=
  log.filterMap fun
    | .said m => some m
    | .heard _ => none

/-- What is heard in a log. -/
def hearings (log : List (Event Said Heard)) : List Heard :=
  log.filterMap fun
    | .said _ => none
    | .heard r => some r

theorem hearings_map_event (course : List (Step Said Heard)) :
    hearings (course.map Step.event) = (course.filterMap Step.hearing).map Prod.fst := by
  rw [hearings, List.filterMap_map, List.map_filterMap]
  congr 1
  funext step
  cases step <;> rfl

theorem played_say (m : Said) (rest : List (Step Said Heard)) :
    played (.say m :: rest) = .said m :: played rest :=
  rfl

theorem played_hear_true (r : Heard) (rest : List (Step Said Heard)) :
    played (.hear r true :: rest) = .heard r :: played rest :=
  rfl

theorem played_hear_false (r : Heard) (rest : List (Step Said Heard)) :
    played (.hear r false :: rest) = [.heard r] :=
  rfl

/-- What is played is the beginning of the course. -/
theorem played_isPrefix (course : List (Step Said Heard)) :
    played course <+: course.map Step.event := by
  induction course with
  | nil =>
    exact List.nil_prefix
  | cons step rest ih =>
    rw [played, List.map_cons, List.cons_prefix_cons]
    refine ⟨rfl, ?_⟩
    by_cases h : step.goesOn = true
    · rw [if_pos h]
      exact ih
    · rw [if_neg h]
      exact List.nil_prefix

/-- A course without anything unacceptable is played to its end. -/
theorem played_eq_map {course : List (Step Said Heard)}
    (h : ∀ step ∈ course, step.goesOn = true) : played course = course.map Step.event := by
  induction course with
  | nil =>
    rfl
  | cons step rest ih =>
    rw [played, if_pos (h step List.mem_cons_self), List.map_cons,
      ih fun step hstep => h step (List.mem_cons_of_mem _ hstep)]

/-- **What comes before a saying is acceptable.**  An event behind others is played
only when the course goes on at each step before it. -/
theorem goesOn_of_played {course : List (Step Said Heard)}
    {before after : List (Event Said Heard)} {e : Event Said Heard}
    (h : played course = before ++ e :: after) :
    ∃ front step rest, course = front ++ step :: rest ∧ front.map Step.event = before ∧
      step.event = e ∧ ∀ step ∈ front, step.goesOn = true := by
  induction course generalizing before with
  | nil =>
    exact absurd h.symm (List.append_ne_nil_of_right_ne_nil _ (List.cons_ne_nil _ _))
  | cons step rest ih =>
    rw [played] at h
    rcases before with _ | ⟨first, before⟩
    · rw [List.nil_append, List.cons.injEq] at h
      exact ⟨[], step, rest, rfl, rfl, h.1, fun _ hmem => absurd hmem List.not_mem_nil⟩
    · rw [List.cons_append, List.cons.injEq] at h
      obtain ⟨hfirst, hrest⟩ := h
      by_cases hgo : step.goesOn = true
      · rw [if_pos hgo] at hrest
        obtain ⟨front, next, more, rfl, rfl, hnext, hfront⟩ := ih hrest
        refine ⟨step :: front, next, more, rfl, ?_, hnext, ?_⟩
        · rw [List.map_cons, hfirst]
        · intro other hother
          rcases List.mem_cons.mp hother with rfl | hother
          · exact hgo
          · exact hfront other hother
      · rw [if_neg hgo] at hrest
        exact absurd hrest.symm
          (List.append_ne_nil_of_right_ne_nil _ (List.cons_ne_nil _ _))

/-- **What is heard before anything else is acceptable.**  For a course whose hearings
are numbered. -/
theorem acceptable_of_played {course : List (Step Said Heard)} {n : Nat}
    {h : Nat → Heard} {acceptable : Nat → Bool}
    (numbered : course.filterMap Step.hearing =
      (List.range n).map fun i => (h i, acceptable i))
    {before after : List (Event Said Heard)} {e : Event Said Heard}
    (hplayed : played course = before ++ e :: after) {i : Nat}
    (hi : i < (hearings before).length) : acceptable i = true := by
  obtain ⟨front, step, rest, rfl, rfl, -, hfront⟩ := goesOn_of_played hplayed
  rw [hearings_map_event, List.length_map] at hi
  have hitem : (front.filterMap Step.hearing)[i]? = some (h i, acceptable i) := by
    have hcourse := congrArg (fun l => l[i]?) numbered
    simp only [List.filterMap_append, List.getElem?_append_left hi] at hcourse
    rw [hcourse, List.getElem?_map, List.getElem?_range]
    · rfl
    · have hlen := congrArg List.length numbered
      rw [List.filterMap_append, List.length_append, List.length_map, List.length_range]
        at hlen
      omega
  obtain ⟨step', hmem, hstep'⟩ := List.mem_filterMap.mp (List.mem_of_getElem? hitem)
  have hgo := hfront step' hmem
  cases step' with
  | say m =>
    cases hstep'
  | hear r ok =>
    rw [Step.hearing, Option.some.injEq, Prod.mk.injEq] at hstep'
    rw [← hstep'.2]
    exact hgo

/-- A numbered course goes on to its end when all its hearings are acceptable. -/
theorem goesOn_iff_acceptable {course : List (Step Said Heard)} {n : Nat}
    {h : Nat → Heard} {acceptable : Nat → Bool}
    (numbered : course.filterMap Step.hearing =
      (List.range n).map fun i => (h i, acceptable i)) :
    (∀ step ∈ course, step.goesOn = true) ↔ ∀ i < n, acceptable i = true := by
  have hhearings : (∀ step ∈ course, step.goesOn = true) ↔
      ∀ x ∈ course.filterMap Step.hearing, x.2 = true := by
    constructor
    · intro hgo x hx
      obtain ⟨step, hmem, hstep⟩ := List.mem_filterMap.mp hx
      cases step with
      | say m => cases hstep
      | hear r ok =>
        cases hstep
        exact hgo _ hmem
    · intro hall step hmem
      cases step with
      | say m => rfl
      | hear r ok => exact hall (r, ok) (List.mem_filterMap.mpr ⟨_, hmem, rfl⟩)
  rw [hhearings, numbered, List.forall_mem_map]
  exact forall_congr' fun i => by rw [List.mem_range]

/-- What is said is the beginning of what there is to say. -/
theorem sayings_played (course : List (Step Said Heard)) :
    sayings (played course) <+: sayings (course.map Step.event) :=
  (played_isPrefix course).filterMap _

end Courses

/-! ## Programs -/

section Programs

variable {Own Said Heard Err : Type u}

/-- A party to a dialogue: its own state, what it will hear, and what it has said and
heard so far. -/
structure Party (Own Said Heard : Type u) where
  own : Own
  incoming : List Heard
  log : List (Event Said Heard)

abbrev Program (Own Said Heard Err : Type u) :=
  ExceptT Err (StateM (Party Own Said Heard))

variable {α β : Type u}

/-- What the script has at a position, silence behind its end. -/
def heard (silence : Heard) (incoming : List Heard) (i : Nat) : Heard :=
  incoming[i]?.getD silence

theorem heard_tail (silence : Heard) (incoming : List Heard) (i : Nat) :
    heard silence incoming.tail i = heard silence incoming (i + 1) := by
  rw [heard, List.getElem?_tail, heard]

/-- What comes next once some of the script was heard. -/
theorem heard_iterate_tail (silence : Heard) (incoming : List Heard) (n : Nat) :
    heard silence (List.tail^[n] incoming) 0 = heard silence incoming n := by
  induction n generalizing incoming with
  | zero =>
    rfl
  | succ n ih =>
    rw [Function.iterate_succ_apply, ih, heard_tail]

/-- Says one thing. -/
def say (m : Said) : Program Own Said Heard Err PUnit :=
  modify fun p => { p with log := p.log ++ [.said m] }

/-- Hears the next thing of the script. -/
def hear (silence : Heard) : Program Own Said Heard Err Heard := do
  let p ← get
  let r := heard silence p.incoming 0
  set { p with incoming := p.incoming.tail, log := p.log ++ [Event.heard r] }
  return r

/-- Replaces the own state and returns the new one. -/
def next (step : Own → Own) : Program Own Said Heard Err Own := do
  let p ← get
  set { p with own := step p.own }
  return step p.own

/-- What a program makes of a party. -/
def outcome (program : Program Own Said Heard Err α) (p : Party Own Said Heard) :
    Except Err α × Party Own Said Heard :=
  program.run.run p

theorem outcome_bind (program : Program Own Said Heard Err α)
    (more : α → Program Own Said Heard Err β) (p : Party Own Said Heard) :
    outcome (program >>= more) p =
      match outcome program p with
      | (.ok a, p') => outcome (more a) p'
      | (.error e, p') => (.error e, p') := by
  show (ExceptT.bind program more) p = _
  unfold ExceptT.bind ExceptT.mk outcome
  simp only [Bind.bind, StateT.bind]
  rcases h : program p with ⟨_ | _, p'⟩
  · simp only [ExceptT.run, StateT.run, h]
    rfl
  · simp only [ExceptT.run, StateT.run, h]
    rfl

/-- The program says and hears what the course has up to the first thing that is
not acceptable, succeeds when there is none, and only then; and what it then returns
satisfies `post`. -/
structure Follows (program : Program Own Said Heard Err α) (p : Party Own Said Heard)
    (course : List (Step Said Heard)) (post : α → Prop) : Prop where
  log : (outcome program p).2.log = p.log ++ played course
  ok : (∃ a, (outcome program p).1 = .ok a) ↔ ∀ step ∈ course, step.goesOn = true
  post : ∀ a, (outcome program p).1 = .ok a → post a

variable {p : Party Own Said Heard} {course : List (Step Said Heard)} {post : β → Prop}

theorem follows_pure {b : β} (h : post b) :
    Follows (pure b : Program Own Said Heard Err β) p [] post where
  log := (List.append_nil _).symm
  ok := ⟨fun _ _ hstep => absurd hstep List.not_mem_nil, fun _ => ⟨b, rfl⟩⟩
  post := by
    intro a ha
    cases ha
    exact h

theorem follows_say {m : Said} {more : PUnit → Program Own Said Heard Err β}
    (h : Follows (more ⟨⟩) { p with log := p.log ++ [.said m] } course post) :
    Follows (say m >>= more) p (.say m :: course) post := by
  have hrun : outcome (say m >>= more) p =
      outcome (more ⟨⟩) { p with log := p.log ++ [.said m] } := by
    rw [outcome_bind]
    rfl
  constructor
  · rw [hrun, h.log, played_say, List.append_assoc]
    rfl
  · rw [hrun, h.ok, List.forall_mem_cons]
    exact ⟨fun hall => ⟨rfl, hall⟩, fun hall => hall.2⟩
  · rw [hrun]
    exact h.post

theorem follows_next {step : Own → Own} {more : Own → Program Own Said Heard Err β}
    (h : Follows (more (step p.own)) { p with own := step p.own } course post) :
    Follows (next step >>= more) p course post := by
  have hrun : outcome (next step >>= more) p =
      outcome (more (step p.own)) { p with own := step p.own } := by
    rw [outcome_bind]
    rfl
  exact ⟨by rw [hrun]; exact h.log, by rw [hrun]; exact h.ok, by rw [hrun]; exact h.post⟩

/-- What is heard is acceptable, and the rest follows the rest of the course; or it is
not, and the program gives up there. -/
theorem follows_hear {silence : Heard} {acceptable : Bool}
    {more : Heard → Program Own Said Heard Err β}
    (haccept : acceptable = true →
      Follows (more (heard silence p.incoming 0))
        ⟨p.own, p.incoming.tail, p.log ++ [.heard (heard silence p.incoming 0)]⟩ course post)
    (hreject : acceptable = false → ∃ e, ∀ q,
      outcome (more (heard silence p.incoming 0)) q = (.error e, q)) :
    Follows (hear silence >>= more) p
      (.hear (heard silence p.incoming 0) acceptable :: course) post := by
  have hrun : outcome (hear silence >>= more) p =
      outcome (more (heard silence p.incoming 0))
        ⟨p.own, p.incoming.tail, p.log ++ [.heard (heard silence p.incoming 0)]⟩ := by
    rw [outcome_bind]
    rfl
  cases acceptable with
  | true =>
    have hrest := haccept rfl
    constructor
    · rw [hrun, hrest.log, played_hear_true, List.append_assoc]
      rfl
    · rw [hrun, hrest.ok, List.forall_mem_cons]
      exact ⟨fun hall => ⟨rfl, hall⟩, fun hall => hall.2⟩
    · rw [hrun]
      exact hrest.post
  | false =>
    obtain ⟨e, he⟩ := hreject rfl
    rw [he] at hrun
    constructor
    · rw [hrun, played_hear_false]
    · rw [hrun]
      constructor
      · rintro ⟨_, ha⟩
        cases ha
      · intro hall
        cases hall _ List.mem_cons_self
    · rw [hrun]
      intro a ha
      cases ha

end Programs

end Dialogue
