import Mathlib.Data.List.Induction
import NovaIIM.Program

/-!
Runs: sequences of calls, and programs that take turns.

A serial system is a function that takes a state and a call to the next state.
`after` is the state that a sequence of calls leads to, `Along` says that each
call of the sequence is made in a state with a given property, and
`after_invariant` is the induction on runs.

A `Pool` is a shared state with threads that run programs on it. Its moves start
a thread, let one thread take its next action or change the environment, so a
run of the pool is again a sequence of moves and the same rules apply.
-/
namespace NovaIIM

section Serial
variable {σ ι : Type} {step : σ → ι → σ}

/-- The state after a sequence of calls. -/
def after (step : σ → ι → σ) (s : σ) (calls : List ι) : σ := calls.foldl step s

/-- Each call of the sequence is made in a state that meets a condition. -/
def Along (step : σ → ι → σ) (meets : σ → ι → Prop) : σ → List ι → Prop
  | _, [] => True
  | s, call :: rest => meets s call ∧ Along step meets (step s call) rest

/-- How many calls of a run hit. -/
def countAlong (step : σ → ι → σ) (hits : σ → ι → Bool) : σ → List ι → Nat
  | _, [] => 0
  | s, call :: rest => (hits s call).toNat + countAlong step hits (step s call) rest

@[simp] theorem after_nil (s : σ) : after step s [] = s := rfl

@[simp] theorem after_cons (s : σ) (call : ι) (rest : List ι) :
    after step s (call :: rest) = after step (step s call) rest := rfl

theorem after_append (s : σ) (first second : List ι) :
    after step s (first ++ second) = after step (after step s first) second :=
  List.foldl_append

theorem after_snoc (s : σ) (calls : List ι) (call : ι) :
    after step s (calls ++ [call]) = step (after step s calls) call := by
  simp [after_append]

variable {meets : σ → ι → Prop}

@[simp] theorem along_nil (s : σ) : Along step meets s [] := trivial

@[simp] theorem along_cons {s : σ} {call : ι} {rest : List ι} :
    Along step meets s (call :: rest) ↔ meets s call ∧ Along step meets (step s call) rest := Iff.rfl

instance decidableAlong [∀ s call, Decidable (meets s call)] :
    ∀ (s : σ) (calls : List ι), Decidable (Along step meets s calls)
  | _, [] => isTrue trivial
  | s, call :: rest =>
    have := decidableAlong (step s call) rest
    inferInstanceAs (Decidable (_ ∧ _))

theorem along_append {s : σ} {first second : List ι} :
    Along step meets s (first ++ second) ↔
      Along step meets s first ∧ Along step meets (after step s first) second := by
  induction first generalizing s with
  | nil => simp
  | cons call rest ih => simp [ih, and_assoc]

theorem along_and {other : σ → ι → Prop} {s : σ} {calls : List ι} :
    Along step (fun s call => meets s call ∧ other s call) s calls ↔
      Along step meets s calls ∧ Along step other s calls := by
  induction calls generalizing s with
  | nil => simp
  | cons call rest ih => simp [ih, and_and_and_comm]

theorem along_congr {other : σ → ι → Prop} (same : ∀ s call, meets s call ↔ other s call) {s : σ}
    {calls : List ι} : Along step meets s calls ↔ Along step other s calls := by
  induction calls generalizing s with
  | nil => exact Iff.rfl
  | cons call rest ih => rw [along_cons, along_cons, same, ih]

/-- Two conditions that agree wherever one of them has been met so far. -/
theorem along_iff_of_kept {other : σ → ι → Prop} {fits : σ → Prop}
    (same : ∀ s call, fits s → (meets s call ↔ other s call))
    (kept : ∀ s call, fits s → meets s call → fits (step s call)) {s : σ} (fit : fits s) {calls : List ι} :
    Along step meets s calls ↔ Along step other s calls := by
  induction calls generalizing s with
  | nil => exact Iff.rfl
  | cons call rest ih =>
    rw [along_cons, along_cons, same s call fit]
    refine and_congr_right fun met => ih (kept s call fit ?_)
    exact (same s call fit).mpr met

theorem along_mono {other : σ → ι → Prop} (weaken : ∀ s call, meets s call → other s call) {s : σ}
    {calls : List ι} (along : Along step meets s calls) : Along step other s calls := by
  induction calls generalizing s with
  | nil => trivial
  | cons call rest ih => exact ⟨weaken s call along.1, ih along.2⟩

theorem along_of_forall (always : ∀ s call, meets s call) (s : σ) (calls : List ι) :
    Along step meets s calls := by
  induction calls generalizing s with
  | nil => trivial
  | cons call rest ih => exact ⟨always s call, ih _⟩

section Translated
variable {κ : Type} {step' : σ → κ → σ} {lower : σ → ι → κ}

/-- The calls of another system that the calls of a run amount to. -/
def translate (step : σ → ι → σ) (lower : σ → ι → κ) : σ → List ι → List κ
  | _, [] => []
  | s, call :: rest => lower s call :: translate step lower (step s call) rest

/-- A run goes through the states of the run that it translates to. -/
theorem after_translate (same : ∀ s call, step s call = step' s (lower s call)) (s : σ) (calls : List ι) :
    after step' s (translate step lower s calls) = after step s calls := by
  induction calls generalizing s with
  | nil => rfl
  | cons call rest ih => rw [translate, after_cons, after_cons, ← same, ih]

theorem along_translate (same : ∀ s call, step s call = step' s (lower s call)) {meets : σ → κ → Prop} {s : σ} {calls : List ι} :
    Along step' meets s (translate step lower s calls) ↔ Along step (fun s call => meets s (lower s call)) s calls := by
  induction calls generalizing s with
  | nil => exact Iff.rfl
  | cons call rest ih => rw [translate, along_cons, along_cons, ← same, ih]

end Translated

/-- What every call made under the condition preserves holds after the run. -/
theorem after_invariant {holds : σ → Prop}
    (preserved : ∀ s call, meets s call → holds s → holds (step s call))
    {s : σ} (initially : holds s) {calls : List ι} (along : Along step meets s calls) :
    holds (after step s calls) := by
  induction calls generalizing s with
  | nil => exact initially
  | cons call rest ih => exact ih (preserved s call along.1 initially) along.2

/-- The induction on runs without a condition on the calls. -/
theorem after_invariant_always {holds : σ → Prop} (preserved : ∀ s call, holds s → holds (step s call))
    {s : σ} (initially : holds s) (calls : List ι) : holds (after step s calls) :=
  @after_invariant _ _ step (fun _ _ => True) holds (fun s call _ => preserved s call) s initially calls
    (along_of_forall (fun _ _ => trivial) s calls)

/-- Where a call keeps a property exactly under a condition, all states along a run have the
    property exactly if all calls of the run meet the condition. -/
theorem prefixes_iff_along {fits holds : σ → Prop} {calls : List ι}
    (kept : ∀ s, ∀ call ∈ calls, fits s → fits (step s call))
    (exactly : ∀ s, ∀ call ∈ calls, fits s → holds s → (holds (step s call) ↔ meets s call))
    {s : σ} (fit : fits s) (initially : holds s) :
    (∀ before, before <+: calls → holds (after step s before)) ↔ Along step meets s calls := by
  induction calls generalizing s with
  | nil =>
    refine iff_of_true (fun before short => ?_) trivial
    rw [List.prefix_nil.mp short]
    exact initially
  | cons call rest ih =>
    have head : call ∈ call :: rest := List.mem_cons_self
    rw [along_cons, ← exactly s call head fit initially]
    constructor
    · intro always
      have next := always [call] ⟨rest, rfl⟩
      refine ⟨next, (ih (fun s call inside => kept s call (List.mem_cons_of_mem _ inside))
        (fun s call inside => exactly s call (List.mem_cons_of_mem _ inside)) (kept s call head fit) next).mp ?_⟩
      exact fun before short => always (call :: before) (List.cons_prefix_cons.mpr ⟨rfl, short⟩)
    · rintro ⟨next, along⟩ before short
      cases before with
      | nil => exact initially
      | cons first more =>
        obtain ⟨rfl, inside⟩ := List.cons_prefix_cons.mp short
        exact (ih (fun s call inside => kept s call (List.mem_cons_of_mem _ inside))
          (fun s call inside => exactly s call (List.mem_cons_of_mem _ inside)) (kept s first head fit) next).mpr along more inside

/-- What holds after a run and not before it was brought about by one of its calls, and held from then on. -/
theorem arises {holds : σ → Prop} {s : σ} {calls : List ι} (notYet : ¬holds s) (now : holds (after step s calls)) :
    ∃ sofar call rest, calls = sofar ++ call :: rest ∧ ¬holds (after step s sofar) ∧
      ∀ more, more <+: rest → holds (after step (step (after step s sofar) call) more) := by
  induction calls using List.reverseRecOn with
  | nil => exact absurd now notYet
  | append_singleton calls last ih =>
    by_cases before : holds (after step s calls)
    · obtain ⟨sofar, call, rest, rfl, not, since⟩ := ih before
      refine ⟨sofar, call, rest ++ [last], by simp, not, fun more short => ?_⟩
      obtain whole | shorter := List.prefix_concat_iff.mp short
      · rw [whole, ← after_cons, ← after_append]
        simpa using now
      · exact since more shorter
    · rw [after_snoc] at now
      refine ⟨calls, last, [], rfl, before, fun more short => ?_⟩
      rwa [List.prefix_nil.mp short]

end Serial

/-! ### Threads -/

/-- A thread: the call it serves and what is left of its program. -/
structure Thread (σ ε ι : Type) where
  call : ι
  rest : Prog σ ε Unit

/-- Threads over a shared state, with the events they have emitted so far. -/
structure Pool (σ ε ι : Type) where
  shared : σ
  threads : List (Thread σ ε ι) := []
  trace : List (ι × ε) := []

/-- A thread starts, the thread at a position takes its next action, or the environment changes. -/
inductive Move (ι η : Type) where
  | start (call : ι)
  | advance (thread : Nat)
  | environment (change : η)

namespace Pool
variable {σ ε ι η : Type} (program : ι → Prog σ ε Unit) (environment : η → σ → σ)

/-- One action of the thread at a position. -/
def advance (p : Pool σ ε ι) (thread : Nat) : Pool σ ε ι :=
  match p.threads[thread]? with
  | some ⟨call, .act update emit next⟩ =>
    { shared := update p.shared
      threads := p.threads.set thread ⟨call, next p.shared⟩
      trace := p.trace ++ (emit p.shared).map (call, ·) }
  | _ => p

/-- One move of the pool. -/
def step (p : Pool σ ε ι) : Move ι η → Pool σ ε ι
  | .start call => { p with threads := p.threads ++ [⟨call, program call⟩] }
  | .advance thread => p.advance thread
  | .environment change => { p with shared := environment change p.shared }

variable {program environment}

theorem advance_act {p : Pool σ ε ι} {thread : Nat} {call : ι} {update : σ → σ} {emit : σ → List ε}
    {next : σ → Prog σ ε Unit} (here : p.threads[thread]? = some ⟨call, .act update emit next⟩) :
    p.advance thread =
      { shared := update p.shared
        threads := p.threads.set thread ⟨call, next p.shared⟩
        trace := p.trace ++ (emit p.shared).map (call, ·) } := by
  simp [advance, here]

/-- A thread that has returned, or no thread at all, does nothing. -/
theorem advance_cases (p : Pool σ ε ι) (thread : Nat) :
    p.advance thread = p ∨ ∃ call update emit next,
      p.threads[thread]? = some ⟨call, .act update emit next⟩ := by
  unfold advance
  split
  · exact Or.inr ⟨_, _, _, _, ‹_›⟩
  · exact Or.inl rfl

end Pool
end NovaIIM
