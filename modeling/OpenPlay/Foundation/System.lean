import Mathlib.Data.List.Basic

/-!
# Transition systems with outputs

A program that reacts to one event at a time is a partial function from a state
and an action to the next state and what the step puts out.  All the choice a
scheduler, a network or a user has is in the action, so a system is executable
and a run is determined by its first state and its actions.

A run carries its whole **history**, most recent move first.  Safety properties
that look back ("an earlier step of the run was ...") are then statements about
a list, and every position of a run is the head of a shorter run
(`Run.of_append`), so a property proved of the last move of every run holds at
every position.

## Main definitions

* `System` — initial states and an executable step
* `System.Run` — a run, with its history
* `Since` — the past-time operator "`P` happened, and no `Q` after it"
* `collect` — what the moves of a history come to, in their order
* `Projection` — a map onto another system under which every move is a move of
  the image or leaves the image alone

## Main results

* `Run.invariant`, `Run.invariant_of_forall` — the induction over runs, plain
  and for runs all of whose moves meet a condition; `Run.invariant_past` for
  invariants that look back
* `Run.forall_states_iff` — the same with the converse: the condition is exact
* `Run.forall_positions_iff` — the same for invariants and conditions on histories
* `Run.of_execute`, `Run.of_actions` — a computed execution is a run
* `Projection.run` — runs project to runs
-/

namespace Transition

universe u v w u' v' w'

/-- A system: its initial states, and what an action does to a state.  `none`
means that the action cannot be taken in that state. -/
structure System (State : Type u) (Action : Type v) (Output : Type w) where
  init : State → Prop
  step : State → Action → Option (State × Output)

/-- One move of a run, with everything an observer could ask about it. -/
structure Move (State : Type u) (Action : Type v) (Output : Type w) where
  source : State
  action : Action
  output : Output
  target : State

namespace System

variable {State : Type u} {Action : Type v} {Output : Type w}

/-- The system can make this move. -/
def Makes (sys : System State Action Output) (move : Move State Action Output) :
    Prop :=
  sys.step move.source move.action = some (move.target, move.output)

/-- The runs of a system: a history, most recent move first, and the state it
leads to. -/
inductive Run (sys : System State Action Output) :
    List (Move State Action Output) → State → Prop
  | start {s : State} (initial : sys.init s) : Run sys [] s
  | move {past : List (Move State Action Output)}
      {move : Move State Action Output} (run : Run sys past move.source)
      (made : sys.Makes move) : Run sys (move :: past) move.target

/-- A state some run leads to. -/
def Reachable (sys : System State Action Output) (s : State) : Prop :=
  ∃ past, sys.Run past s

/-- Take a list of actions one after the other, adding each move to the
history; `none` as soon as one of them cannot be taken. -/
def execute (sys : System State Action Output) :
    List Action → List (Move State Action Output) → State →
      Option (List (Move State Action Output) × State)
  | [], past, s => some (past, s)
  | action :: rest, past, s =>
      (sys.step s action).bind fun next =>
        execute sys rest (⟨s, action, next.2, next.1⟩ :: past) next.1

theorem execute_cons {sys : System State Action Output} {s : State} {action : Action}
    {next : State × Output} (stepped : sys.step s action = some next)
    (rest : List Action) (past : List (Move State Action Output)) :
    sys.execute (action :: rest) past s =
      sys.execute rest (⟨s, action, next.2, next.1⟩ :: past) next.1 := by
  rw [execute, stepped]
  rfl

/-- The history a list of actions leaves behind. -/
def history (sys : System State Action Output) (actions : List Action) (s : State) :
    List (Move State Action Output) :=
  ((sys.execute actions [] s).map Prod.fst).getD []

/-- The state a list of actions leads to. -/
def final (sys : System State Action Output) (actions : List Action) (s : State) :
    State :=
  ((sys.execute actions [] s).map Prod.snd).getD s

/-- What a computed execution adds are moves with its actions. -/
theorem mem_of_mem_execute {sys : System State Action Output} {actions : List Action}
    {past : List (Move State Action Output)} {s : State}
    {result : List (Move State Action Output) × State}
    (computed : sys.execute actions past s = some result) {move : Move State Action Output}
    (mem : move ∈ result.1) : move ∈ past ∨ move.action ∈ actions := by
  induction actions generalizing past s with
  | nil =>
      cases computed
      exact Or.inl mem
  | cons action rest ih =>
      rw [execute, Option.bind_eq_some_iff] at computed
      obtain ⟨next, -, computed⟩ := computed
      rcases ih computed with earlier | later
      · rcases List.mem_cons.mp earlier with rfl | earlier
        · exact Or.inr List.mem_cons_self
        · exact Or.inl earlier
      · exact Or.inr (List.mem_cons_of_mem _ later)

theorem action_mem_of_mem_history {sys : System State Action Output} {actions : List Action}
    {s : State} {move : Move State Action Output} (mem : move ∈ sys.history actions s) :
    move.action ∈ actions := by
  cases computed : sys.execute actions [] s with
  | none =>
      rw [history, computed] at mem
      cases mem
  | some result =>
      rw [history, computed] at mem
      exact (mem_of_mem_execute computed mem).resolve_left List.not_mem_nil

/-- The states a run passes through, the last one first. -/
def states (past : List (Move State Action Output)) (s : State) : List State :=
  s :: past.map Move.source

/-- The histories of a run, each with the state it leads to, the last one first. -/
def positions : List (Move State Action Output) → State →
    List (List (Move State Action Output) × State)
  | [], s => [([], s)]
  | move :: past, s => (move :: past, s) :: positions past move.source

theorem self_mem_positions (past : List (Move State Action Output)) (s : State) :
    (past, s) ∈ positions past s := by
  cases past with
  | nil => exact List.mem_singleton_self _
  | cons move past => exact List.mem_cons_self

namespace Run

variable {sys : System State Action Output}
variable {past recent : List (Move State Action Output)} {s : State}
variable {move : Move State Action Output}

/-- The most recent move of a run was made by the system, from a state that the
rest of the history leads to. -/
theorem last (run : sys.Run (move :: past) s) :
    sys.Run past move.source ∧ sys.Makes move ∧ s = move.target := by
  cases run with
  | move before made => exact ⟨before, made, rfl⟩

/-- A run can be cut off at any point. -/
theorem of_append (run : sys.Run (recent ++ past) s) :
    ∃ s', sys.Run past s' := by
  induction recent generalizing s with
  | nil => exact ⟨s, run⟩
  | cons _ _ ih => exact ih run.last.1

/-- Every position of a run: the state before the move is reached by the moves
before it. -/
theorem at_position (run : sys.Run (recent ++ move :: past) s) :
    sys.Run past move.source ∧ sys.Makes move := by
  obtain ⟨s', cut⟩ := run.of_append
  exact ⟨cut.last.1, cut.last.2.1⟩

theorem of_mem (run : sys.Run past s) (mem : move ∈ past) :
    (∃ earlier, sys.Run earlier move.source ∧ ∀ m ∈ earlier, m ∈ past) ∧
      sys.Makes move := by
  obtain ⟨recent, earlier, rfl⟩ := List.append_of_mem mem
  refine ⟨⟨earlier, run.at_position.1, ?_⟩, run.at_position.2⟩
  intro m hm
  exact List.mem_append_right _ (List.mem_cons_of_mem _ hm)

/-- **The invariant rule for what a history has come to**, for runs that meet a
condition. -/
theorem invariant_past_of_forall {I : List (Move State Action Output) → State → Prop}
    {Ok : Move State Action Output → Prop}
    (initial : ∀ s, sys.init s → I [] s)
    (keeps : ∀ past move, sys.Run past move.source → sys.Makes move → Ok move →
      I past move.source → I (move :: past) move.target)
    (run : sys.Run past s) (ok : ∀ move ∈ past, Ok move) : I past s := by
  induction run with
  | start h => exact initial _ h
  | move before made ih =>
      have earlier := ih fun m hm => ok m (List.mem_cons_of_mem _ hm)
      exact keeps _ _ before made (ok _ List.mem_cons_self) earlier

/-- **The invariant rule for what a history has come to.** -/
theorem invariant_past {I : List (Move State Action Output) → State → Prop}
    (initial : ∀ s, sys.init s → I [] s)
    (keeps : ∀ past move, sys.Run past move.source → sys.Makes move →
      I past move.source → I (move :: past) move.target)
    (run : sys.Run past s) : I past s := by
  have keepsOk : ∀ past move, sys.Run past move.source → sys.Makes move → True →
      I past move.source → I (move :: past) move.target :=
    fun past move before made _ => keeps past move before made
  exact run.invariant_past_of_forall initial keepsOk fun _ _ => trivial

/-- **The invariant rule, for runs that meet a condition.**  If `I` holds
initially and every move that meets `Ok` keeps it, `I` holds at the end of every
run all of whose moves meet `Ok`. -/
theorem invariant_of_forall {I : State → Prop}
    {Ok : Move State Action Output → Prop}
    (initial : ∀ s, sys.init s → I s)
    (keeps : ∀ move, sys.Makes move → Ok move → I move.source → I move.target)
    (run : sys.Run past s) (ok : ∀ move ∈ past, Ok move) : I s := by
  have keepsPast : ∀ past move, sys.Run past move.source → sys.Makes move → Ok move →
      I move.source → I move.target := fun _ move _ made => keeps move made
  exact run.invariant_past_of_forall initial keepsPast ok

/-- **The invariant rule.** -/
theorem invariant {I : State → Prop} (initial : ∀ s, sys.init s → I s)
    (keeps : ∀ move, sys.Makes move → I move.source → I move.target)
    (run : sys.Run past s) : I s := by
  have keepsOk : ∀ move, sys.Makes move → True → I move.source → I move.target :=
    fun move made _ => keeps move made
  exact run.invariant_of_forall initial keepsOk fun _ _ => trivial

/-- A state a run passes through is the end of a run that this one continues. -/
theorem of_mem_states {x : State} (run : sys.Run past s) (mem : x ∈ states past s) :
    ∃ recent earlier, past = recent ++ earlier ∧ sys.Run earlier x := by
  induction run with
  | start h =>
      rw [states, List.map_nil, List.mem_singleton] at mem
      subst mem
      exact ⟨[], [], rfl, .start h⟩
  | @move past move before made ih =>
      rcases List.mem_cons.mp mem with rfl | mem
      · exact ⟨[], move :: past, rfl, .move before made⟩
      · obtain ⟨recent, earlier, rfl, cut⟩ := ih mem
        exact ⟨move :: recent, earlier, rfl, cut⟩

/-- The state a run has begun in, where there is but one to begin in. -/
theorem first_mem_states {first : State} (only : ∀ s, sys.init s → s = first)
    (run : sys.Run past s) : first ∈ states past s := by
  induction run with
  | start h =>
      rw [only _ h]
      exact List.mem_cons_self
  | move _ _ ih => exact List.mem_cons_of_mem _ ih

/-- Both ends of a move of a run are states the run passes through. -/
theorem ends_mem_states (run : sys.Run past s) (mem : move ∈ past) :
    move.source ∈ states past s ∧ move.target ∈ states past s := by
  refine ⟨List.mem_cons_of_mem _ (List.mem_map_of_mem mem), ?_⟩
  induction run with
  | start _ => cases mem
  | @move past last before made ih =>
      rcases List.mem_cons.mp mem with rfl | mem
      · exact List.mem_cons_self
      · exact List.mem_cons_of_mem _ (ih mem)

/-- `forall_states_iff` for the runs whose moves are all `Fair`. -/
theorem forall_states_iff_of_fair {I : State → Prop}
    {Fair Ok : Move State Action Output → Prop}
    (initial : ∀ s, sys.init s → I s)
    (keeps : ∀ move, sys.Makes move → sys.Reachable move.source → Fair move →
      Ok move → I move.source → I move.target)
    (needs : ∀ move, sys.Makes move → sys.Reachable move.source → I move.target →
      Ok move)
    (run : sys.Run past s) (fair : ∀ move ∈ past, Fair move) :
    (∀ x ∈ states past s, I x) ↔ ∀ move ∈ past, Ok move := by
  constructor
  · intro h move mem
    obtain ⟨⟨earlier, before, -⟩, made⟩ := run.of_mem mem
    exact needs move made ⟨earlier, before⟩ (h _ (run.ends_mem_states mem).2)
  · intro ok x mem
    obtain ⟨recent, earlier, rfl, cut⟩ := run.of_mem_states mem
    have good : ∀ move ∈ earlier, Fair move ∧ Ok move := fun m hm =>
      ⟨fair m (List.mem_append_right _ hm), ok m (List.mem_append_right _ hm)⟩
    clear mem run ok fair
    induction cut with
    | start h => exact initial _ h
    | @move past move before made ih =>
        obtain ⟨fair, ok⟩ := good move List.mem_cons_self
        have h := ih fun m hm => good m (List.mem_cons_of_mem _ hm)
        exact keeps move made ⟨past, before⟩ fair ok h

/-- **When an invariant holds all along a run.**  If the moves that meet `Ok`
keep `I`, and a move that does not meet it breaks `I`, then a run keeps `I` in
every state it passes through exactly when all its moves meet `Ok`. -/
theorem forall_states_iff {I : State → Prop} {Ok : Move State Action Output → Prop}
    (initial : ∀ s, sys.init s → I s)
    (keeps : ∀ move, sys.Makes move → sys.Reachable move.source → Ok move →
      I move.source → I move.target)
    (needs : ∀ move, sys.Makes move → sys.Reachable move.source → I move.target →
      Ok move)
    (run : sys.Run past s) : (∀ x ∈ states past s, I x) ↔ ∀ move ∈ past, Ok move := by
  have keepsFair : ∀ move, sys.Makes move → sys.Reachable move.source → True →
      Ok move → I move.source → I move.target :=
    fun move made reachable _ => keeps move made reachable
  exact run.forall_states_iff_of_fair initial keepsFair needs fun _ _ => trivial

/-- **The same for what a history has come to.**  `forall_states_iff` where the invariant
and the condition may look back at the moves before. -/
theorem forall_positions_iff {I : List (Move State Action Output) → State → Prop}
    {Ok : List (Move State Action Output) → Move State Action Output → Prop}
    (initial : ∀ s, sys.init s → I [] s)
    (keeps : ∀ past move, sys.Run past move.source → sys.Makes move → Ok past move →
      I past move.source → I (move :: past) move.target)
    (needs : ∀ past move, sys.Run past move.source → sys.Makes move →
      I past move.source → I (move :: past) move.target → Ok past move)
    (run : sys.Run past s) :
    (∀ p ∈ positions past s, I p.1 p.2) ↔
      ∀ move older, move :: older <:+ past → Ok older move := by
  induction run with
  | start h =>
      constructor
      · intro _ move older suffix
        cases List.suffix_nil.mp suffix
      · intro _ p mem
        rw [List.mem_singleton.mp mem]
        exact initial _ h
  | @move past move before made ih =>
      constructor
      · intro all last older suffix
        have earlier := ih.mp fun p mem => all p (List.mem_cons_of_mem _ mem)
        rcases List.suffix_cons_iff.mp suffix with same | suffix
        · cases same
          exact needs past move before made (all _ (List.mem_cons_of_mem _ (self_mem_positions _ _)))
            (all _ (self_mem_positions _ _))
        · exact earlier last older suffix
      · intro ok p mem
        have earlier := ih.mpr fun m older suffix =>
          ok m older (suffix.trans (List.suffix_cons _ _))
        rcases List.mem_cons.mp mem with rfl | mem
        · exact keeps past move before made (ok move past List.suffix_rfl)
            (earlier _ (self_mem_positions _ _))
        · exact earlier p mem

/-- A computed execution continues a run to a run. -/
theorem of_execute {actions : List Action} (run : sys.Run past s)
    {result : List (Move State Action Output) × State}
    (computed : sys.execute actions past s = some result) :
    sys.Run result.1 result.2 := by
  induction actions generalizing past s with
  | nil =>
      cases computed
      exact run
  | cons action rest ih =>
      rw [execute, Option.bind_eq_some_iff] at computed
      obtain ⟨next, stepped, computed⟩ := computed
      have run' : sys.Run (⟨s, action, next.2, next.1⟩ :: past) next.1 :=
        .move run stepped
      exact ih run' computed

/-- Actions that can all be taken, one after the other from an initial state,
make up a run. -/
theorem of_actions (actions : List Action) (initial : sys.init s)
    (enabled : (sys.execute actions [] s).isSome) :
    sys.Run (sys.history actions s) (sys.final actions s) := by
  obtain ⟨result, computed⟩ := Option.isSome_iff_exists.mp enabled
  simpa [history, final, computed] using (Run.start initial).of_execute computed

end Run

end System

/-! ## Looking back -/

/-- **Since.**  Some entry of the history satisfies `P`, and nothing more recent
than it satisfies `Q`. -/
def Since {α : Type u} (P Q : α → Prop) (past : List α) : Prop :=
  ∃ recent x older, past = recent ++ x :: older ∧ P x ∧ ∀ y ∈ recent, ¬ Q y

namespace Since

variable {α : Type u} {P P' Q : α → Prop} {past : List α} {x : α}

theorem now (h : P x) : Since P Q (x :: past) :=
  ⟨[], x, past, rfl, h, by simp⟩

theorem later (h : Since P Q past) (quiet : ¬ Q x) : Since P Q (x :: past) := by
  obtain ⟨recent, y, older, rfl, hP, hQ⟩ := h
  refine ⟨x :: recent, y, older, rfl, hP, ?_⟩
  intro z hz
  rcases List.mem_cons.mp hz with rfl | hz
  · exact quiet
  · exact hQ z hz

theorem cons_iff : Since P Q (x :: past) ↔ P x ∨ ¬ Q x ∧ Since P Q past := by
  constructor
  · rintro ⟨recent, y, older, split, hP, hQ⟩
    cases recent with
    | nil =>
        cases split
        exact Or.inl hP
    | cons z recent =>
        cases split
        refine Or.inr ⟨hQ x (by simp), recent, y, older, rfl, hP, ?_⟩
        intro w mem
        exact hQ w (List.mem_cons_of_mem _ mem)
  · rintro (h | ⟨quiet, h⟩)
    · exact now h
    · exact h.later quiet

/-- If `Q` happened at `x`, then `P` happened after `x`. -/
theorem between {recent older : List α} (h : Since P Q (recent ++ x :: older))
    (hx : Q x) (disjoint : ¬ P x) : ∃ y ∈ recent, P y := by
  obtain ⟨recent', y, older', split, hP, hQ⟩ := h
  rcases List.append_eq_append_iff.mp split with ⟨mid, rfl, rest⟩ | ⟨mid, rfl, rest⟩
  · cases mid with
    | nil =>
        cases rest
        exact absurd hP disjoint
    | cons z mid =>
        cases rest
        exact absurd hx (hQ x (by simp))
  · cases mid with
    | nil =>
        cases rest
        exact absurd hP disjoint
    | cons z mid =>
        cases rest
        exact ⟨y, by simp, hP⟩

end Since

/-! ## Adding up a history -/

/-- What the entries of a history come to, the oldest first. -/
def collect {α : Type u} {β : Type v} (f : α → List β) : List α → List β
  | [] => []
  | x :: past => collect f past ++ f x

section Collect

variable {α : Type u} {β : Type v} {f g : α → List β} {past : List α}

@[simp] theorem collect_nil (f : α → List β) : collect f [] = [] := rfl

@[simp] theorem collect_cons (f : α → List β) (x : α) (past : List α) :
    collect f (x :: past) = collect f past ++ f x := rfl

theorem collect_sublist (part : ∀ x, (f x).Sublist (g x)) (past : List α) :
    (collect f past).Sublist (collect g past) := by
  induction past with
  | nil => exact List.Sublist.refl _
  | cons x past ih => exact ih.append (part x)

/-- Where each entry gives a part, the parts add up to the whole exactly if every
entry gave all of it. -/
theorem collect_eq_iff (part : ∀ x, (f x).Sublist (g x)) (past : List α) :
    collect f past = collect g past ↔ ∀ x ∈ past, f x = g x := by
  induction past with
  | nil => simp
  | cons x past ih =>
      have fewer := (collect_sublist part past).length_le
      have fewer' := (part x).length_le
      constructor
      · intro whole
        have lengths := congrArg List.length whole
        rw [collect_cons, collect_cons, List.length_append, List.length_append] at lengths
        have earlier : collect f past = collect g past :=
          (collect_sublist part past).eq_of_length (by omega)
        have last : f x = g x := (part x).eq_of_length (by omega)
        intro y mem
        rcases List.mem_cons.mp mem with rfl | mem
        · exact last
        · exact ih.mp earlier y mem
      · intro all
        rw [collect_cons, collect_cons, all x List.mem_cons_self,
          ih.mpr fun y mem => all y (List.mem_cons_of_mem _ mem)]

end Collect

/-! ## Projections -/

/-- A map of one system onto another.  Each move of the first shows up as a move
of the second (`seen`), or leaves what is seen of the state alone. -/
structure Projection {State : Type u} {Action : Type v} {Output : Type w}
    {State' : Type u'} {Action' : Type v'} {Output' : Type w'}
    (sys : System State Action Output) (sys' : System State' Action' Output') where
  view : State → State'
  seen : Move State Action Output → Option (Move State' Action' Output')
  init_view : ∀ s, sys.init s → sys'.init (view s)
  seen_some : ∀ move move', sys.Makes move → seen move = some move' →
    move'.source = view move.source ∧ move'.target = view move.target ∧
      sys'.Makes move'
  seen_none : ∀ move, sys.Makes move → seen move = none →
    view move.target = view move.source

namespace Projection

variable {State : Type u} {Action : Type v} {Output : Type w}
variable {State' : Type u'} {Action' : Type v'} {Output' : Type w'}
variable {sys : System State Action Output} {sys' : System State' Action' Output'}

/-- **Runs project to runs.** -/
theorem run (p : Projection sys sys') {past : List (Move State Action Output)}
    {s : State} (run : sys.Run past s) :
    sys'.Run (past.filterMap p.seen) (p.view s) := by
  induction run with
  | start h => exact .start (p.init_view _ h)
  | @move past move before made ih =>
      cases hseen : p.seen move with
      | none =>
          rw [List.filterMap_cons_none hseen, p.seen_none move made hseen]
          exact ih
      | some move' =>
          obtain ⟨hsource, htarget, made'⟩ := p.seen_some move move' made hseen
          rw [List.filterMap_cons_some hseen, ← htarget]
          exact .move (hsource ▸ ih) made'

end Projection

end Transition
