import Mathlib.Data.List.Basic

/-!
# Exchanges

A program that asks questions, waits for each answer before it goes on, and may give
up.  A question that gets no answer ends it as well.

Two things can be said of such a program.  `Trace` lists the ways in which it can be
answered, with no word on who answers: a statement about all traces is one about any
peer, however it comes by its answers.  `run` lets it talk to a peer with a state of its
own.  The two agree (`trace_run`), and each has one rule for a question, for a
calculation and for a result; `Ends` is a run without its log.

A program `Heeds` its answers when there are some that it refuses, and gives up on.  Peers
that answer alike are not told apart by a program that gives up without an answer
(`run_alike`).
-/

namespace Exchange

universe u

/-- A program that asks `Query`s, is answered by `Answer`s, and fails with `Err`. -/
inductive Program (Query Answer Err : Type u) (α : Type u) where
  | done (result : Except Err α)
  | ask (q : Query) (next : Except Err Answer → Program Query Answer Err α)

variable {Query Answer Err α β : Type u}

namespace Program

def bind : Program Query Answer Err α → (α → Program Query Answer Err β) →
    Program Query Answer Err β
  | done (.ok a), more => more a
  | done (.error e), _ => done (.error e)
  | ask q next, more => ask q fun answer => (next answer).bind more

instance : Monad (Program Query Answer Err) where
  pure a := done (.ok a)
  bind := bind

/-- A calculation that may fail. -/
instance : MonadLift (Except Err) (Program Query Answer Err) where
  monadLift := done

/-- Asks, and gives up without an answer. -/
def query (q : Query) : Program Query Answer Err Answer :=
  ask q done

end Program

open Program

/-- A calculation in two parts that succeeds. -/
theorem exists_of_bind_eq_ok {x : Except Err α} {more : α → Except Err β} {b : β}
    (ok : x >>= more = .ok b) : ∃ a, x = .ok a ∧ more a = .ok b := by
  cases x with
  | error e => cases ok
  | ok a => exact ⟨a, rfl, ok⟩

/-! ## Traces -/

/-- What was asked, how it was answered, and what the program came to. -/
inductive Trace : Program Query Answer Err α → List (Query × Except Err Answer) →
    Except Err α → Prop
  | done (result : Except Err α) : Trace (.done result) [] result
  | ask {q : Query} {next : Except Err Answer → Program Query Answer Err α}
      {answer : Except Err Answer} {log : List (Query × Except Err Answer)}
      {result : Except Err α} (rest : Trace (next answer) log result) :
      Trace (.ask q next) ((q, answer) :: log) result

section Rules

variable {log : List (Query × Except Err Answer)} {result : Except Err β}
variable {more : α → Program Query Answer Err β}

@[simp] theorem trace_done {r : Except Err β} :
    Trace (.done r : Program Query Answer Err β) log result ↔ log = [] ∧ result = r := by
  constructor
  · rintro ⟨⟩
    exact ⟨rfl, rfl⟩
  · rintro ⟨rfl, rfl⟩
    exact .done _

@[simp] theorem trace_pure {b : β} :
    Trace (pure b : Program Query Answer Err β) log result ↔ log = [] ∧ result = .ok b :=
  trace_done

/-- A question is the first entry of the log. -/
theorem trace_query {q : Query} {more : Answer → Program Query Answer Err β} :
    Trace (query q >>= more) log result ↔
      (∃ e, log = [(q, .error e)] ∧ result = .error e) ∨
        ∃ answer rest, log = (q, .ok answer) :: rest ∧ Trace (more answer) rest result := by
  constructor
  · intro trace
    cases trace with
    | @ask _ _ answer rest _ trace =>
      cases answer with
      | error e =>
        cases trace
        exact Or.inl ⟨e, rfl, rfl⟩
      | ok answer => exact Or.inr ⟨answer, rest, rfl, trace⟩
  · rintro (⟨e, rfl, rfl⟩ | ⟨answer, rest, rfl, trace⟩)
    · exact .ask (.done (.error e))
    · have rest : Trace ((done (.ok answer) : Program Query Answer Err Answer).bind more) rest
          result := trace
      exact .ask rest

/-- A calculation asks nothing. -/
theorem trace_lift {x : Except Err α} :
    Trace ((liftM x : Program Query Answer Err α) >>= more) log result ↔
      (∃ e, x = .error e ∧ log = [] ∧ result = .error e) ∨
        ∃ a, x = .ok a ∧ Trace (more a) log result := by
  cases x with
  | error e =>
    constructor
    · rintro ⟨⟩
      exact Or.inl ⟨e, rfl, rfl, rfl⟩
    · rintro (⟨_, ⟨⟩, rfl, rfl⟩ | ⟨_, ⟨⟩, -⟩)
      exact .done _
  | ok a =>
    constructor
    · exact fun trace => Or.inr ⟨a, rfl, trace⟩
    · rintro (⟨_, ⟨⟩, -⟩ | ⟨_, ⟨⟩, trace⟩)
      exact trace

/-- The trace of a program in two parts. -/
theorem trace_bind {program : Program Query Answer Err α} :
    Trace (program >>= more) log result ↔
      (∃ e, Trace program log (.error e) ∧ result = .error e) ∨
        ∃ a front rest, Trace program front (.ok a) ∧ log = front ++ rest ∧
          Trace (more a) rest result := by
  induction program generalizing log with
  | done r =>
    cases r with
    | error e =>
      constructor
      · rintro ⟨⟩
        exact Or.inl ⟨e, .done _, rfl⟩
      · rintro (⟨_, ⟨⟩, rfl⟩ | ⟨_, _, _, ⟨⟩, -⟩)
        exact .done _
    | ok a =>
      constructor
      · exact fun trace => Or.inr ⟨a, [], log, .done _, rfl, trace⟩
      · rintro (⟨_, ⟨⟩, -⟩ | ⟨_, _, _, ⟨⟩, rfl, trace⟩)
        exact trace
  | ask q next ih =>
    constructor
    · intro trace
      cases trace with
      | ask trace =>
        rcases (ih _).mp trace with ⟨e, failed, rfl⟩ | ⟨a, front, rest, passed, rfl, later⟩
        · exact Or.inl ⟨e, .ask failed, rfl⟩
        · exact Or.inr ⟨a, _ :: front, rest, .ask passed, rfl, later⟩
    · rintro (⟨e, failed, rfl⟩ | ⟨a, front, rest, passed, rfl, later⟩)
      · cases failed with
        | ask failed => exact .ask ((ih _).mpr (Or.inl ⟨e, failed, rfl⟩))
      · cases passed with
        | ask passed => exact .ask ((ih _).mpr (Or.inr ⟨a, _, rest, passed, rfl, later⟩))

end Rules

/-! ## Programs that heed their answers -/

section Heeding

variable {refuses : Answer → Option Err}

/-- An answer that is refused ends the program at once, with the error it is refused for. -/
def Heeds (refuses : Answer → Option Err) : Program Query Answer Err α → Prop
  | .done _ => True
  | .ask _ next => (∀ answer, Heeds refuses (next answer)) ∧
      ∀ a e, refuses a = some e → next (.ok a) = .done (.error e)

theorem heeds_pure (a : α) : Heeds refuses (pure a : Program Query Answer Err α) :=
  trivial

theorem heeds_lift {x : Except Err α} {more : α → Program Query Answer Err β}
    (later : ∀ a, x = .ok a → Heeds refuses (more a)) :
    Heeds refuses ((liftM x : Program Query Answer Err α) >>= more) := by
  cases x with
  | error e => trivial
  | ok a => exact later a rfl

theorem heeds_query {q : Query} {more : Answer → Program Query Answer Err β}
    (later : ∀ a, Heeds refuses (more a))
    (ends : ∀ a e, refuses a = some e → more a = .done (.error e)) :
    Heeds refuses (query q >>= more) := by
  refine ⟨fun answer => ?_, ends⟩
  cases answer with
  | error e => trivial
  | ok a => exact later a

theorem heeds_bind {program : Program Query Answer Err α}
    {more : α → Program Query Answer Err β} (first : Heeds refuses program)
    (later : ∀ a, Heeds refuses (more a)) : Heeds refuses (program >>= more) := by
  induction program with
  | done result =>
    cases result with
    | error e => trivial
    | ok a => exact later a
  | ask q next ih =>
    refine ⟨fun answer => ih answer (first.1 answer), fun a e refused => ?_⟩
    show (next (.ok a)).bind more = _
    rw [first.2 a e refused]
    rfl

/-- **A refused answer is the last**, and the program fails with its error. -/
theorem Heeds.last {program : Program Query Answer Err α} (heeds : Heeds refuses program)
    {log : List (Query × Except Err Answer)} {result : Except Err α}
    (trace : Trace program log result) {q : Query} {a : Answer} {e : Err}
    (mem : (q, .ok a) ∈ log) (refused : refuses a = some e) :
    result = .error e ∧ log.getLast? = some (q, .ok a) := by
  induction trace with
  | done result => cases mem
  | @ask q' next answer log result rest ih =>
    rcases List.mem_cons.mp mem with same | later
    · cases same
      rw [heeds.2 a e refused] at rest
      cases rest
      exact ⟨rfl, rfl⟩
    · obtain ⟨failed, last⟩ := ih (heeds.1 answer) later
      refine ⟨failed, ?_⟩
      rw [List.getLast?_cons, last]
      rfl

end Heeding

/-! ## Peers -/

section Runs

variable {State : Type u} (peer : State → Query → Except Err Answer × State)

/-- What a run comes to. -/
structure Outcome (Query Answer Err State α : Type u) where
  result : Except Err α
  log : List (Query × Except Err Answer)
  peer : State

/-- A question and its answer in front of a log. -/
def Outcome.after (entry : Query × Except Err Answer)
    (o : Outcome Query Answer Err State α) : Outcome Query Answer Err State α :=
  { o with log := entry :: o.log }

/-- A log in front of the log. -/
def Outcome.behind (front : List (Query × Except Err Answer))
    (o : Outcome Query Answer Err State α) : Outcome Query Answer Err State α :=
  { o with log := front ++ o.log }

def run : Program Query Answer Err α → State → Outcome Query Answer Err State α
  | .done result, s => ⟨result, [], s⟩
  | .ask q next, s =>
      (run (next (peer s q).1) (peer s q).2).after (q, (peer s q).1)

/-- What happens with some peer is a trace. -/
theorem trace_run (program : Program Query Answer Err α) (s : State) :
    Trace program (run peer program s).log (run peer program s).result := by
  induction program generalizing s with
  | done result => exact .done result
  | ask q next ih => exact .ask (ih _ _)

@[simp] theorem run_pure (a : α) (s : State) :
    run peer (pure a : Program Query Answer Err α) s = ⟨.ok a, [], s⟩ :=
  rfl

/-- What is asked goes to the peer. -/
theorem run_query {q : Query} {more : Answer → Program Query Answer Err β} {s s' : State}
    {answer : Answer} (answers : peer s q = (.ok answer, s')) :
    run peer (query q >>= more) s =
      (run peer (more answer) s').after (q, .ok answer) := by
  show (run peer ((Program.done (peer s q).1).bind more) (peer s q).2).after (q, (peer s q).1) = _
  rw [answers]
  rfl

theorem run_query_error {q : Query} {more : Answer → Program Query Answer Err β} {s s' : State}
    {e : Err} (answers : peer s q = (.error e, s')) :
    run peer (query q >>= more) s = ⟨.error e, [(q, .error e)], s'⟩ := by
  show (run peer ((Program.done (peer s q).1).bind more) (peer s q).2).after (q, (peer s q).1) = _
  rw [answers]
  rfl

/-- A program in two parts is run one part after the other. -/
theorem run_bind (program : Program Query Answer Err α)
    (more : α → Program Query Answer Err β) (s : State) :
    run peer (program >>= more) s =
      match (run peer program s).result with
      | .ok a => (run peer (more a) (run peer program s).peer).behind (run peer program s).log
      | .error e => ⟨.error e, (run peer program s).log, (run peer program s).peer⟩ := by
  induction program generalizing s with
  | done result => cases result <;> rfl
  | ask q next ih =>
    show (run peer ((next (peer s q).1) >>= more) (peer s q).2).after _ = _
    rw [ih, run]
    dsimp only [Outcome.after]
    split <;> rfl

theorem run_lift {x : Except Err α} {a : α} (is : x = .ok a)
    {more : α → Program Query Answer Err β} (s : State) :
    run peer ((liftM x : Program Query Answer Err α) >>= more) s = run peer (more a) s := by
  rw [is]
  rfl

theorem run_lift_error {x : Except Err α} {e : Err} (is : x = .error e)
    {more : α → Program Query Answer Err β} (s : State) :
    run peer ((liftM x : Program Query Answer Err α) >>= more) s = ⟨.error e, [], s⟩ := by
  rw [is]
  rfl

/-- With this peer the program comes to `result`, and leaves the peer at `s'`. -/
def Ends (program : Program Query Answer Err α) (s : State) (result : Except Err α)
    (s' : State) : Prop :=
  (run peer program s).result = result ∧ (run peer program s).peer = s'

section Ends

variable {peer} {s s' s'' : State} {result : Except Err β}

theorem ends_done (r : Except Err β) (s : State) :
    Ends peer (.done r : Program Query Answer Err β) s r s :=
  ⟨rfl, rfl⟩

theorem ends_pure (b : β) (s : State) :
    Ends peer (pure b : Program Query Answer Err β) s (.ok b) s :=
  ⟨rfl, rfl⟩

theorem ends_query {q : Query} {more : Answer → Program Query Answer Err β} {answer : Answer}
    (answers : peer s q = (.ok answer, s')) (later : Ends peer (more answer) s' result s'') :
    Ends peer (query q >>= more) s result s'' := by
  rw [Ends, run_query peer answers]
  exact later

theorem ends_bind {program : Program Query Answer Err α} {a : α}
    {more : α → Program Query Answer Err β} (first : Ends peer program s (.ok a) s')
    (later : Ends peer (more a) s' result s'') : Ends peer (program >>= more) s result s'' := by
  obtain ⟨ok, rfl⟩ := first
  rw [Ends, run_bind, ok]
  exact later

end Ends

end Runs

/-! ## Two peers -/

section Peers

variable {ok : Query → Prop}

/-- The program asks only such questions, and gives up on one that gets no answer. -/
def Direct (ok : Query → Prop) : Program Query Answer Err α → Prop
  | .done _ => True
  | .ask q next =>
      ok q ∧ (∀ e, next (.error e) = .done (.error e)) ∧ ∀ a, Direct ok (next (.ok a))

theorem direct_pure (a : α) : Direct ok (pure a : Program Query Answer Err α) :=
  trivial

theorem direct_query {q : Query} (asked : ok q) {more : Answer → Program Query Answer Err β}
    (later : ∀ a, Direct ok (more a)) : Direct ok (query q >>= more) :=
  ⟨asked, fun _ => rfl, later⟩

theorem direct_lift {x : Except Err α} {more : α → Program Query Answer Err β}
    (later : ∀ a, Direct ok (more a)) :
    Direct ok ((liftM x : Program Query Answer Err α) >>= more) := by
  cases x with
  | error e => trivial
  | ok a => exact later a

theorem direct_bind {program : Program Query Answer Err α}
    {more : α → Program Query Answer Err β} (first : Direct ok program)
    (later : ∀ a, Direct ok (more a)) : Direct ok (program >>= more) := by
  induction program with
  | done result =>
    cases result with
    | error e => trivial
    | ok a => exact later a
  | ask q next ih =>
    refine ⟨first.1, fun e => ?_, fun a => ih _ (first.2.2 a)⟩
    show (next (.error e)).bind more = _
    rw [first.2.1 e]
    rfl

/-- What a direct program asks. -/
theorem Direct.asked {program : Program Query Answer Err α} (direct : Direct ok program)
    {log : List (Query × Except Err Answer)} {result : Except Err α}
    (trace : Trace program log result) {entry : Query × Except Err Answer} (mem : entry ∈ log) :
    ok entry.1 := by
  induction trace with
  | done result => cases mem
  | @ask q next answer log result rest ih =>
    rcases List.mem_cons.mp mem with rfl | mem
    · exact direct.1
    · have still : Direct ok (next answer) := by
        cases answer with
        | ok a => exact direct.2.2 a
        | error e =>
          rw [direct.2.1]
          trivial
      exact ih still mem

/-- Every question of the run is of this kind, in the state of the peer that it meets. -/
def Along {State : Type u} (peer : State → Query → Except Err Answer × State)
    (kind : State → Query → Prop) : Program Query Answer Err α → State → Prop
  | .done _, _ => True
  | .ask q next, s => kind s q ∧ Along peer kind (next (peer s q).1) (peer s q).2

/-- The same result, or errors that are not told apart. -/
inductive Alike (same : Err → Err → Prop) : Except Err α → Except Err α → Prop
  | ok (a : α) : Alike same (.ok a) (.ok a)
  | error {e e' : Err} (h : same e e') : Alike same (.error e) (.error e')

/-- What was asked. -/
def Outcome.asked {State : Type u} (o : Outcome Query Answer Err State α) : List Query :=
  o.log.map Prod.fst

variable {State State' : Type u} {same : Err → Err → Prop}
variable {peer : State → Query → Except Err Answer × State}
variable {peer' : State' → Query → Except Err Answer × State'}
variable {related : State → State' → Prop} {kind : State → Query → Prop}

/-- **Peers that answer alike are not told apart** by a direct program. -/
theorem run_alike (refl : ∀ e, same e e)
    (step : ∀ s s' q, related s s' → ok q → kind s q →
      Alike same (peer s q).1 (peer' s' q).1 ∧ related (peer s q).2 (peer' s' q).2)
    {program : Program Query Answer Err α} (direct : Direct ok program) {s : State} {s' : State'}
    (along : Along peer kind program s) (start : related s s') :
    Alike same (run peer program s).result (run peer' program s').result ∧
      (run peer program s).asked = (run peer' program s').asked ∧
      related (run peer program s).peer (run peer' program s').peer := by
  induction program generalizing s s' with
  | done result =>
    refine ⟨?_, rfl, start⟩
    cases result with
    | error e => exact .error (refl e)
    | ok a => exact .ok a
  | ask q next ih =>
    obtain ⟨alike, still⟩ := step s s' q start direct.1 along.1
    have later := along.2
    rw [run, run]
    revert alike still later
    generalize peer s q = answered, peer' s' q = answered'
    obtain ⟨answer, t⟩ := answered
    obtain ⟨answer', t'⟩ := answered'
    intro alike still later
    cases alike with
    | error h =>
      -- both programs are over
      dsimp only
      rw [direct.2.1, direct.2.1]
      exact ⟨.error h, rfl, still⟩
    | ok a =>
      obtain ⟨results, asked, ended⟩ := ih (.ok a) (direct.2.2 a) later still
      exact ⟨results, congrArg (q :: ·) asked, ended⟩

end Peers

/-! ## Questions that are put by programs -/

section Through

variable {Query' Answer' Err' : Type u}

/-- Each question is put by a program of its own; the result is a value there. -/
def Program.through (put : Query → Program Query' Answer' Err' (Except Err Answer)) :
    Program Query Answer Err α → Program Query' Answer' Err' (Except Err α)
  | .done result => pure result
  | .ask q next => put q >>= fun answer => (next answer).through put

/-- The result as a value, which is an error if the program fails. -/
def Program.attempt (program : Program Query Answer Err α) :
    Program Query Answer Err (Except Err α) :=
  program.through fun q => .ask q pure

variable {put : Query → Program Query' Answer' Err' (Except Err Answer)}

theorem through_query {q : Query} {more : Answer → Program Query Answer Err β} :
    (query q >>= more).through put = put q >>= fun
      | .ok a => (more a).through put
      | .error e => pure (.error e) := by
  show (put q >>= fun answer => ((Program.done answer).bind more).through put) = _
  congr 1
  funext answer
  cases answer <;> rfl

theorem through_lift {x : Except Err α} {more : α → Program Query Answer Err β} :
    ((liftM x : Program Query Answer Err α) >>= more).through put =
      match x with
      | .ok a => (more a).through put
      | .error e => pure (.error e) := by
  cases x <;> rfl

/-- An attempt is answered as the program is, and always comes to its result. -/
theorem trace_attempt {program : Program Query Answer Err α}
    {log : List (Query × Except Err Answer)} {result : Except Err (Except Err α)} :
    Trace program.attempt log result ↔ ∃ r, result = .ok r ∧ Trace program log r := by
  induction program generalizing log with
  | done r =>
    constructor
    · rintro ⟨⟩
      exact ⟨r, rfl, .done r⟩
    · rintro ⟨r', rfl, ⟨⟩⟩
      exact .done _
  | ask q next ih =>
    constructor
    · intro trace
      cases trace with
      | ask trace =>
        obtain ⟨r, rfl, rest⟩ := (ih _).mp trace
        exact ⟨r, rfl, .ask rest⟩
    · rintro ⟨r, rfl, trace⟩
      cases trace with
      | ask trace => exact .ask ((ih _).mpr ⟨r, rfl, trace⟩)

variable {State State' : Type u} {peer : State → Query' → Except Err' Answer' × State}
variable {peer' : State' → Query → Except Err Answer × State'}
variable {related : State → State' → Prop} {kind : State' → Query → Prop}

theorem run_attempt (program : Program Query Answer Err α) (s : State') :
    run peer' program.attempt s =
      { run peer' program s with result := .ok (run peer' program s).result } := by
  induction program generalizing s with
  | done r => rfl
  | ask q next ih =>
    show (run peer' (next (peer' s q).1).attempt (peer' s q).2).after _ = _
    rw [ih]
    rfl

/-- **A program that puts its questions by programs** comes to what it comes to when they are
answered at once. -/
theorem run_through
    (step : ∀ s s' q, related s s' → kind s' q →
      (run peer (put q) s).result = .ok (peer' s' q).1 ∧
        related (run peer (put q) s).peer (peer' s' q).2)
    {program : Program Query Answer Err α} {s : State} {s' : State'}
    (along : Along peer' kind program s') (start : related s s') :
    (run peer (program.through put) s).result = .ok (run peer' program s').result ∧
      related (run peer (program.through put) s).peer (run peer' program s').peer := by
  induction program generalizing s s' with
  | done result => exact ⟨rfl, start⟩
  | ask q next ih =>
    obtain ⟨answered, still⟩ := step s s' q start along.1
    obtain ⟨result, ended⟩ := ih _ along.2 still
    rw [Program.through, run_bind, answered]
    exact ⟨result, ended⟩

/-- The questions of a log, each with the log of the program that has put it.  A program that
stops is the last, and its question counts as one without an answer. -/
inductive Puts (put : Query → Program Query' Answer' Err' (Except Err Answer)) :
    List (Query × Except Err Answer) → List (Query' × Except Err' Answer') → Prop
  | nil : Puts put [] []
  | cons {q : Query} {answer : Except Err Answer} {front rest : List (Query' × Except Err' Answer')}
      {log : List (Query × Except Err Answer)} (putting : Trace (put q) front (.ok answer))
      (later : Puts put log rest) : Puts put ((q, answer) :: log) (front ++ rest)
  | stopped {q : Query} {e : Err} {stop : Err'} {log : List (Query' × Except Err' Answer')}
      (stopping : Trace (put q) log (.error stop)) : Puts put [(q, .error e)] log

/-- A trace of a direct program that puts its questions by programs is one of the program,
`e` being the reason of a question that was not put to its end. -/
theorem trace_through {ok : Query → Prop} (e : Err) {program : Program Query Answer Err α}
    (direct : Direct ok program) {log : List (Query' × Except Err' Answer')}
    {result : Except Err' (Except Err α)} (trace : Trace (program.through put) log result) :
    ∃ asked r, Trace program asked r ∧ Puts put asked log ∧ ∀ r', result = .ok r' → r' = r := by
  induction program generalizing log with
  | done r =>
    obtain ⟨rfl, rfl⟩ := trace_pure.mp trace
    refine ⟨[], r, .done r, .nil, fun r' same => ?_⟩
    cases same
    rfl
  | ask q next ih =>
    obtain ⟨-, givesUp, later⟩ := direct
    rcases trace_bind.mp trace with ⟨stop, stopping, rfl⟩ |
      ⟨answer, front, rest, putting, rfl, rest'⟩
    · refine ⟨[(q, .error e)], .error e, .ask ?_, .stopped stopping, fun r' => nofun⟩
      rw [givesUp]
      exact .done _
    · have still : Direct ok (next answer) := by
        cases answer with
        | ok a => exact later a
        | error e =>
          rw [givesUp]
          trivial
      obtain ⟨asked, r, traced, puts, same⟩ := ih answer still rest'
      exact ⟨(q, answer) :: asked, r, .ask traced, .cons putting puts, same⟩

end Through

end Exchange
