import NovaIIM.Runs

/-!
Programs as state machines, alone and in a pool.

A `Machine` names what is left of a program by a phase, and relates phases by
steps. A pool of such programs is then simulated by a list of phases: each move
of the pool is a move of the phases (`Machine.simulates`), so what the moves of
the phases preserve holds in every state of every run of the pool
(`Machine.invariant`).
-/
namespace NovaIIM

/-- Phases and steps for the programs of the calls `ι`. -/
structure Machine (σ ε ι : Type) where
  program : ι → Prog σ ε Unit
  Phase : ι → Type
  entered : (call : ι) → Phase call
  code : {call : ι} → Phase call → Prog σ ε Unit
  Step : {call : ι} → σ → Phase call → Phase call → σ → List ε → Prop
  code_entered : ∀ call, code (entered call) = program call
  first : ∀ {call : ι} {phase : Phase call} {s s' : σ} {rest : Prog σ ε Unit} {events : List ε},
    (code phase).first s = some (rest, s', events) → ∃ next, code next = rest ∧ Step s phase next s' events

namespace Machine
variable {σ ε ι κ η : Type} (M : Machine σ ε ι) (environment : η → σ → σ)

/-- A shared state with the phases of its threads and the events so far. -/
structure State where
  shared : σ
  handlers : List (Σ call, M.Phase call) := []
  trace : List (ι × ε) := []

variable {M}

/-- The pool that the phases stand for. -/
def State.pool (s : M.State) : Pool σ ε ι where
  shared := s.shared
  threads := s.handlers.map fun h => ⟨h.1, M.code h.2⟩
  trace := s.trace

/-- What a move of the pool does to the phases. -/
inductive Moves (s : M.State) : Move ι η → M.State → Prop where
  | start (call : ι) :
      Moves s (.start call) { s with handlers := s.handlers ++ [⟨call, M.entered call⟩] }
  | advance (thread : Nat) (call : ι) (phase next : M.Phase call) (shared : σ) (events : List ε)
      (here : s.handlers[thread]? = some ⟨call, phase⟩) (step : M.Step s.shared phase next shared events) :
      Moves s (.advance thread)
        { shared := shared
          handlers := s.handlers.set thread ⟨call, next⟩
          trace := s.trace ++ events.map (call, ·) }
  | idle (thread : Nat) : Moves s (.advance thread) s
  | environment (change : η) : Moves s (.environment change) { s with shared := environment change s.shared }

variable {environment}

/-- Each move of the pool is one of the phases. -/
theorem simulates (s : M.State) (move : Move ι η) :
    ∃ s', Moves environment s move s' ∧ s'.pool = Pool.step M.program environment s.pool move := by
  cases move with
  | start call => exact ⟨_, .start call, by simp [State.pool, Pool.step, M.code_entered]⟩
  | environment change => exact ⟨_, .environment change, rfl⟩
  | advance thread =>
    obtain idle | ⟨call, update, emit, next, here⟩ := s.pool.advance_cases thread
    · exact ⟨s, .idle thread, idle.symm⟩
    · have acts := Pool.advance_act here
      simp only [State.pool, List.getElem?_map, Option.map_eq_some_iff, Thread.mk.injEq] at here
      obtain ⟨⟨call', phase⟩, there, rfl, code⟩ := here
      have moves : (M.code phase).first s.shared = some (next s.shared, update s.shared, emit s.shared) := by
        rw [code]
        rfl
      obtain ⟨phase', rest, step⟩ := M.first moves
      refine ⟨_, .advance thread call' phase phase' _ _ there step, ?_⟩
      rw [Pool.step, acts]
      simp [State.pool, List.map_set, rest]

/-- What every move of the phases preserves holds after every run of the pool. -/
theorem invariant {holds : M.State → Prop} {meets : Pool σ ε ι → Move ι η → Prop}
    (preserved : ∀ s move s', meets s.pool move → Moves environment s move s' → holds s → holds s')
    {s : M.State} (initially : holds s) {moves : List (Move ι η)}
    (along : Along (Pool.step M.program environment) meets s.pool moves) :
    ∃ s', s'.pool = after (Pool.step M.program environment) s.pool moves ∧ holds s' := by
  induction moves generalizing s with
  | nil => exact ⟨s, rfl, initially⟩
  | cons move rest ih =>
    obtain ⟨s', moved, same⟩ := @simulates _ _ _ _ M environment s move
    rw [along_cons, ← same] at along
    rw [after_cons, ← same]
    exact ih (preserved s move s' along.1 moved initially) along.2

/-- Two kinds of programs in one pool. -/
def sum (M : Machine σ ε ι) (N : Machine σ ε κ) : Machine σ ε (ι ⊕ κ) where
  program := Sum.elim M.program N.program
  Phase := Sum.elim M.Phase N.Phase
  entered
    | .inl call => M.entered call
    | .inr call => N.entered call
  code {call} phase := match call, phase with
    | .inl _, phase => M.code phase
    | .inr _, phase => N.code phase
  Step {call} s phase next s' events := match call, phase, next with
    | .inl _, phase, next => M.Step s phase next s' events
    | .inr _, phase, next => N.Step s phase next s' events
  code_entered call := by
    cases call with
    | inl call => exact M.code_entered call
    | inr call => exact N.code_entered call
  first {call} _ _ _ _ _ moves := by
    cases call with
    | inl call => exact M.first moves
    | inr call => exact N.first moves

end Machine
end NovaIIM
