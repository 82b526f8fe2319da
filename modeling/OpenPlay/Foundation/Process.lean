import OpenPlay.Foundation.System

/-!
# Processes

A program that makes the calls of an operating system one after the other, while others are
at work on the same state between any two of its calls.  A call may fail, and the program may
be killed before any of them.

`Careful` is the rule for such a program.  It relies on the others to move from one state only
to certain other ones (`between`), and is sure of its own part: that it makes a call only when
it may (`may`), and returns only what it should (`post`).  It is a condition on the program alone,
with one rule for a call, for a calculation and for a result.  `careful_of_run` brings it to
runs: whoever interrupts it, a process in a run is careful at every moment, as long as the
others keep to what it relies on.

`Alone` is what a program comes to by itself, to compare it with a coarser description.
-/

namespace Process

open Transition

/-- A program that makes `Call`s, each with its own kind of answer, and fails with `Err`. -/
inductive Program (Call : Type) (Answer : Call → Type) (Err α : Type) where
  | done (result : Except Err α)
  | call (c : Call) (next : Option (Answer c) → Program Call Answer Err α)

variable {Call : Type} {Answer : Call → Type} {Err α β : Type}

namespace Program

def bind : Program Call Answer Err α → (α → Program Call Answer Err β) →
    Program Call Answer Err β
  | done (.ok a), more => more a
  | done (.error e), _ => done (.error e)
  | call c next, more => call c fun answer => (next answer).bind more

instance : Monad (Program Call Answer Err) where
  pure a := done (.ok a)
  bind := bind

/-- A calculation that may fail. -/
instance : MonadLift (Except Err) (Program Call Answer Err) where
  monadLift := done

/-- Makes a call, and fails with `e` if it fails. -/
def attempt (c : Call) (e : Err) : Program Call Answer Err (Answer c) :=
  call c fun answer => done (answer.elim (.error e) .ok)

/-- Makes a call that is allowed to fail. -/
def try' (c : Call) : Program Call Answer Err (Option (Answer c)) :=
  call c fun answer => done (.ok answer)

end Program

open Program

/-! ## Careful programs -/

section Careful

variable {State Choice : Type} (perform : Choice → (c : Call) → State → Option (Answer c) × State)
variable (between : State → State → Prop) (may : Call → State → Prop)

/-- Whatever the others do and whatever the calls come to: every call is one that may be made,
and what is returned is as it should be. -/
def Careful (post : α → State → Prop) : Program Call Answer Err α → State → Prop
  | .done (.ok a), s => post a s
  | .done (.error _), _ => True
  | .call c next, s => ∀ s', between s s' → may c s' ∧
      ∀ choice, Careful post (next (perform choice c s').1) (perform choice c s').2

variable {perform between may} {s : State} {post : α → State → Prop}
variable {program : Program Call Answer Err α}

theorem careful_pure {a : α} (holds : post a s) :
    Careful perform between may post (pure a : Program Call Answer Err α) s :=
  holds

theorem careful_error {e : Err} :
    Careful perform between may post (liftM (Except.error e : Except Err α) :
      Program Call Answer Err α) s :=
  trivial

/-- Nothing happens in a calculation. -/
theorem careful_lift {x : Except Err α} (holds : ∀ a, x = .ok a → post a s) :
    Careful perform between may post (liftM x : Program Call Answer Err α) s := by
  cases x with
  | ok a => exact holds a rfl
  | error e => trivial

/-- A call that fails is the last. -/
theorem careful_attempt {c : Call} {e : Err} {post : Answer c → State → Prop}
    (rule : ∀ s', between s s' → may c s' ∧ ∀ choice a,
      (perform choice c s').1 = some a → post a (perform choice c s').2) :
    Careful perform between may post (attempt c e : Program Call Answer Err (Answer c)) s := by
  intro s' moved
  obtain ⟨allowed, rest⟩ := rule s' moved
  refine ⟨allowed, fun choice => ?_⟩
  cases answer : (perform choice c s').1 with
  | none => trivial
  | some a => exact rest choice a answer

theorem careful_try {c : Call} {post : Option (Answer c) → State → Prop}
    (rule : ∀ s', between s s' → may c s' ∧ ∀ choice,
      post (perform choice c s').1 (perform choice c s').2) :
    Careful perform between may post (try' c : Program Call Answer Err (Option (Answer c))) s :=
  rule

/-- One program after the other. -/
theorem careful_bind (middle : α → State → Prop) {post : β → State → Prop}
    {more : α → Program Call Answer Err β} (first : Careful perform between may middle program s)
    (later : ∀ a s, middle a s → Careful perform between may post (more a) s) :
    Careful perform between may post (program >>= more) s := by
  induction program generalizing s with
  | done result =>
    cases result with
    | ok a => exact later a s first
    | error e => trivial
  | call c next ih =>
    intro s' moved
    obtain ⟨allowed, rest⟩ := first s' moved
    exact ⟨allowed, fun choice => ih _ (rest choice)⟩

/-- A careful program stays so while others are at work, if it has not returned. -/
theorem Careful.stable {c : Call} {next : Option (Answer c) → Program Call Answer Err α}
    (trans : ∀ s s' s'', between s s' → between s' s'' → between s s'')
    (careful : Careful perform between may post (.call c next) s) {s' : State}
    (moved : between s s') : Careful perform between may post (.call c next) s' :=
  fun s'' later => careful s'' (trans _ _ _ moved later)

end Careful

/-! ## Programs that are alone -/

section Alone

variable {State Choice : Type}

/-- What a program comes to with nobody else at work, if its calls come to what they may
(`comes`): it returns, or is killed. -/
inductive Alone (perform : Choice → (c : Call) → State → Option (Answer c) × State)
    (comes : Call → Choice → Prop) :
    Program Call Answer Err α → State → Option (Except Err α) → State → Prop
  | returned (result : Except Err α) (s : State) :
      Alone perform comes (.done result) s (some result) s
  | killed {c : Call} {next : Option (Answer c) → Program Call Answer Err α} (s : State) :
      Alone perform comes (.call c next) s none s
  | call {c : Call} {next : Option (Answer c) → Program Call Answer Err α} (choice : Choice)
      {s s' : State} {result : Option (Except Err α)} (may : comes c choice)
      (rest : Alone perform comes (next (perform choice c s).1) (perform choice c s).2 result s') :
      Alone perform comes (.call c next) s result s'

variable {perform : Choice → (c : Call) → State → Option (Answer c) × State}
variable {comes : Call → Choice → Prop} {s s' : State} {result : Option (Except Err β)}

theorem alone_pure {b : β}
    (alone : Alone perform comes (pure b : Program Call Answer Err β) s result s') :
    result = some (.ok b) ∧ s' = s := by
  cases alone
  exact ⟨rfl, rfl⟩

theorem alone_lift {x : Except Err β}
    (alone : Alone perform comes (liftM x : Program Call Answer Err β) s result s') :
    result = some x ∧ s' = s := by
  cases alone
  exact ⟨rfl, rfl⟩

/-- A call, or nothing at all. -/
theorem alone_attempt {c : Call} {e : Err} {result : Option (Except Err (Answer c))}
    (alone : Alone perform comes (attempt c e) s result s') :
    result = none ∧ s' = s ∨ ∃ choice, comes c choice ∧ s' = (perform choice c s).2 ∧
      result = some ((perform choice c s).1.elim (.error e) .ok) := by
  cases alone with
  | killed => exact Or.inl ⟨rfl, rfl⟩
  | call choice may rest =>
    cases rest
    exact Or.inr ⟨choice, may, rfl, rfl⟩

theorem alone_try {c : Call} {result : Option (Except Err (Option (Answer c)))}
    (alone : Alone perform comes (try' c) s result s') :
    result = none ∧ s' = s ∨ ∃ choice, comes c choice ∧ s' = (perform choice c s).2 ∧
      result = some (.ok (perform choice c s).1) := by
  cases alone with
  | killed => exact Or.inl ⟨rfl, rfl⟩
  | call choice may rest =>
    cases rest
    exact Or.inr ⟨choice, may, rfl, rfl⟩

/-- The first program is cut short or fails, or the second one follows. -/
theorem alone_bind {program : Program Call Answer Err α}
    {more : α → Program Call Answer Err β}
    (alone : Alone perform comes (program >>= more) s result s') :
    Alone perform comes program s none s' ∧ result = none ∨
      (∃ e, Alone perform comes program s (some (.error e)) s' ∧ result = some (.error e)) ∨
      ∃ a s₁, Alone perform comes program s (some (.ok a)) s₁ ∧
        Alone perform comes (more a) s₁ result s' := by
  induction program generalizing s with
  | done first =>
    cases first with
    | error e =>
      cases alone
      exact Or.inr (Or.inl ⟨e, .returned _ _, rfl⟩)
    | ok a => exact Or.inr (Or.inr ⟨a, s, .returned _ _, alone⟩)
  | call c next ih =>
    cases alone with
    | killed => exact Or.inl ⟨.killed _, rfl⟩
    | call choice may rest =>
      rcases ih _ rest with ⟨cut, none⟩ | ⟨e, failed, is⟩ | ⟨a, s₁, first, later⟩
      · exact Or.inl ⟨.call choice may cut, none⟩
      · exact Or.inr (Or.inl ⟨e, .call choice may failed, is⟩)
      · exact Or.inr (Or.inr ⟨a, s₁, .call choice may first, later⟩)

end Alone

/-! ## Processes among others -/

/-- A state, and what is left of the program that runs. -/
structure Machine (State Call : Type) (Answer : Call → Type) (Err α : Type) where
  state : State
  running : Option (Program Call Answer Err α)

inductive Action (Launch Choice Other : Type)
  | launch (l : Launch)
  /-- The next call of the program. -/
  | call (choice : Choice)
  | kill
  | other (o : Other)

/-- A program that has returned does not run any more. -/
def settle : Program Call Answer Err α →
    Option (Program Call Answer Err α) × Option (Except Err α)
  | .done result => (none, some result)
  | .call c next => (some (.call c next), none)

section Runs

variable {State Choice Launch Other : Type}
variable (perform : Choice → (c : Call) → State → Option (Answer c) × State)
variable (program : Launch → Program Call Answer Err α) (others : Other → State → Option State)

/-- One process at a time, among others.  A move puts out what the program returns. -/
def processes (first : State → Prop) :
    System (Machine State Call Answer Err α) (Action Launch Choice Other)
      (Option (Except Err α)) where
  init m := first m.state ∧ m.running = none
  step m
    | .launch l =>
        match m.running with
        | none => some (⟨m.state, (settle (program l)).1⟩, (settle (program l)).2)
        | some _ => none
    | .call choice =>
        match m.running with
        | some (.call c next) =>
            let after := perform choice c m.state
            some (⟨after.2, (settle (next after.1)).1⟩, (settle (next after.1)).2)
        | _ => none
    | .kill => m.running.map fun _ => (⟨m.state, none⟩, none)
    | .other o => (others o m.state).map fun s => (⟨s, m.running⟩, none)

/-- A move of such a system. -/
abbrev ProcessMove (Call : Type) (Answer : Call → Type) (Err α State Launch Choice Other : Type) :=
  Move (Machine State Call Answer Err α) (Action Launch Choice Other) (Option (Except Err α))

/-- The call that a move makes. -/
def ProcessMove.Calls (move : ProcessMove Call Answer Err α State Launch Choice Other)
    (choice : Choice) (c : Call) : Prop :=
  move.action = .call choice ∧ ∃ next, move.source.running = some (.call c next)

/-- What the others have done since the last launch. -/
def meanwhile : List (ProcessMove Call Answer Err α State Launch Choice Other) → List Other
  | [] => []
  | move :: past =>
      match move.action with
      | .launch _ => []
      | .other o => o :: meanwhile past
      | _ => meanwhile past

variable {perform program others} {first : State → Prop}
variable {between : State → State → Prop} {may : Call → State → Prop}
variable {post : α → State → Prop}
variable {past : List (ProcessMove Call Answer Err α State Launch Choice Other)}
variable {m : Machine State Call Answer Err α}

/-- What a move does to the state. -/
theorem state_cases {move : ProcessMove Call Answer Err α State Launch Choice Other}
    (made : (processes perform program others first).Makes move) :
    ((∃ l, move.action = .launch l) ∨ move.action = .kill) ∧
        move.target.state = move.source.state ∨
      (∃ choice c, move.Calls choice c ∧
        move.target.state = (perform choice c move.source.state).2) ∨
      ∃ o, move.action = .other o ∧ others o move.source.state = some move.target.state := by
  obtain ⟨m, action, output, m'⟩ := move
  cases action with
  | launch l =>
    simp only [System.Makes, processes] at made
    split at made
    · cases made
      exact Or.inl ⟨Or.inl ⟨l, rfl⟩, rfl⟩
    · cases made
  | call choice =>
    simp only [System.Makes, processes] at made
    split at made
    · rename_i c next was
      cases made
      exact Or.inr (Or.inl ⟨choice, c, ⟨rfl, next, was⟩, rfl⟩)
    · cases made
  | kill =>
    simp only [System.Makes, processes, Option.map_eq_some_iff] at made
    obtain ⟨_, -, made⟩ := made
    cases made
    exact Or.inl ⟨Or.inr rfl, rfl⟩
  | other o =>
    simp only [System.Makes, processes, Option.map_eq_some_iff] at made
    obtain ⟨s', moved, made⟩ := made
    cases made
    exact Or.inr (Or.inr ⟨o, rfl, moved⟩)

/-- A move makes one call. -/
theorem ProcessMove.Calls.unique
    {move : ProcessMove Call Answer Err α State Launch Choice Other} {choice choice' : Choice}
    {c c' : Call} (calls : move.Calls choice c) (calls' : move.Calls choice' c') :
    choice = choice' ∧ c = c' := by
  obtain ⟨action, next, was⟩ := calls
  obtain ⟨action', next', was'⟩ := calls'
  cases action.symm.trans action'
  cases was.symm.trans was'
  exact ⟨rfl, rfl⟩

/-- What is left of a program has a call to make. -/
theorem exists_call_of_settle {p left : Program Call Answer Err α}
    (is : (settle p).1 = some left) : p = left ∧ ∃ c next, left = .call c next := by
  cases p with
  | done result => cases is
  | call c next =>
    cases is
    exact ⟨rfl, c, next, rfl⟩

/-- **A process in a run is careful**, as long as the others do what it relies on. -/
theorem careful_of_run (calm : Other → Prop) (refl : ∀ s, between s s)
    (trans : ∀ s s' s'', between s s' → between s' s'' → between s s'')
    (launches : ∀ l s, Careful perform between may post (program l) s)
    (relies : ∀ o s s', calm o → others o s = some s' → between s s')
    (run : (processes perform program others first).Run past m)
    (calmly : ∀ o ∈ meanwhile past, calm o) {left : Program Call Answer Err α}
    (running : m.running = some left) :
    Careful perform between may post left m.state ∧ ∃ c next, left = .call c next := by
  induction run generalizing left with
  | start initial =>
    rw [initial.2] at running
    cases running
  | @move past move before made ih =>
    obtain ⟨m, action, output, m'⟩ := move
    cases action with
    | launch l =>
      simp only [System.Makes, processes] at made
      split at made
      · cases made
        obtain ⟨same, isCall⟩ := exists_call_of_settle running
        exact ⟨same ▸ launches l _, isCall⟩
      · cases made
    | call choice =>
      simp only [System.Makes, processes] at made
      split at made
      · rename_i c next was
        cases made
        obtain ⟨same, isCall⟩ := exists_call_of_settle running
        exact ⟨same ▸ ((ih calmly was).1 _ (refl _)).2 choice, isCall⟩
      · cases made
    | kill =>
      simp only [System.Makes, processes, Option.map_eq_some_iff] at made
      obtain ⟨_, -, made⟩ := made
      cases made
      cases running
    | other o =>
      simp only [System.Makes, processes, Option.map_eq_some_iff] at made
      obtain ⟨s', moved, made⟩ := made
      cases made
      obtain ⟨careful, c, next, rfl⟩ :=
        ih (fun o' mem => calmly o' (List.mem_cons_of_mem _ mem)) running
      exact ⟨careful.stable trans (relies o _ _ (calmly o List.mem_cons_self) moved), c, next, rfl⟩

/-- A call in a run is one that may be made. -/
theorem may_of_run (calm : Other → Prop) (refl : ∀ s, between s s)
    (trans : ∀ s s' s'', between s s' → between s' s'' → between s s'')
    (launches : ∀ l s, Careful perform between may post (program l) s)
    (relies : ∀ o s s', calm o → others o s = some s' → between s s')
    (run : (processes perform program others first).Run past m)
    (calmly : ∀ o ∈ meanwhile past, calm o) {c : Call}
    {next : Option (Answer c) → Program Call Answer Err α}
    (running : m.running = some (.call c next)) : may c m.state :=
  ((careful_of_run calm refl trans launches relies run calmly running).1 _ (refl _)).1

/-- What a run returns is as it should be. -/
theorem post_of_run (calm : Other → Prop) (refl : ∀ s, between s s)
    (trans : ∀ s s' s'', between s s' → between s' s'' → between s s'')
    (launches : ∀ l s, Careful perform between may post (program l) s)
    (relies : ∀ o s s', calm o → others o s = some s' → between s s')
    {move : ProcessMove Call Answer Err α State Launch Choice Other}
    (run : (processes perform program others first).Run past move.source)
    (made : (processes perform program others first).Makes move)
    (calmly : ∀ o ∈ meanwhile past, calm o) {a : α}
    (returned : move.output = some (.ok a)) : post a move.target.state := by
  have settled {p : Program Call Answer Err α} {s : State}
      (careful : Careful perform between may post p s) (is : (settle p).2 = some (.ok a)) :
      post a s := by
    cases p with
    | done result =>
      cases is
      exact careful
    | call c next => cases is
  obtain ⟨m, action, output, m'⟩ := move
  cases action with
  | launch l =>
    simp only [System.Makes, processes] at made
    split at made
    · cases made
      exact settled (launches l _) returned
    · cases made
  | call choice =>
    simp only [System.Makes, processes] at made
    split at made
    · rename_i c next was
      cases made
      have careful := (careful_of_run calm refl trans launches relies run calmly was).1
      exact settled ((careful _ (refl _)).2 choice) returned
    · cases made
  | kill =>
    simp only [System.Makes, processes, Option.map_eq_some_iff] at made
    obtain ⟨_, -, made⟩ := made
    cases made
    cases returned
  | other o =>
    simp only [System.Makes, processes, Option.map_eq_some_iff] at made
    obtain ⟨s', moved, made⟩ := made
    cases made
    cases returned

end Runs

end Process
