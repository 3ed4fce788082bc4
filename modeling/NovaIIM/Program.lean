import Mathlib.Logic.Relation

/-!
Programs as trees of atomic actions over a shared state.

A program returns, or takes one atomic action and goes on with what it saw. An
action changes the state, emits events and hands the state it found to the rest
of the program. Run without interruption a program is a function (`run`);
scheduled against others it advances one action at a time (`Prog.act`), so the
same definition serves serial and interleaved runs. `atomic` makes one action of
a whole program.

Facts about a program come from its actions: `Every` holds when all actions of
the tree satisfy a condition, `Ensures` is the weakest precondition of a run.
-/
namespace NovaIIM

/-- A program over the states `σ` that emits events `ε` and returns a value in `α`. -/
inductive Prog (σ ε α : Type) where
  | ret (value : α)
  | act (update : σ → σ) (emit : σ → List ε) (next : σ → Prog σ ε α)

/-- What a run returns, the state it leaves and the events it emits. -/
structure Outcome (σ ε α : Type) where
  value : α
  state : σ
  events : List ε

namespace Prog
variable {σ ε α β γ : Type}

def bind : Prog σ ε α → (α → Prog σ ε β) → Prog σ ε β
  | ret value, f => f value
  | act update emit next, f => act update emit fun s => (next s).bind f

instance : Monad (Prog σ ε) where
  pure := ret
  bind := bind

/-- The run of a program that nothing interrupts. -/
def run : Prog σ ε α → σ → Outcome σ ε α
  | ret value, s => ⟨value, s, []⟩
  | act update emit next, s =>
    let rest := (next s).run (update s)
    ⟨rest.value, rest.state, emit s ++ rest.events⟩

/-- One action that answers from the state it found. -/
def step (update : σ → σ) (emit : σ → List ε) (answer : σ → α) : Prog σ ε α :=
  act update emit fun s => ret (answer s)

/-- Read a part of the state. -/
def observe (answer : σ → α) : Prog σ ε α := step id (fun _ => []) answer

/-- Change the state. -/
def change (update : σ → σ) : Prog σ ε Unit := step update (fun _ => []) fun _ => ()

/-- Emit events that depend on the state. -/
def emits (emit : σ → List ε) : Prog σ ε Unit := step id emit fun _ => ()

/-- A program as a single action. -/
def atomic (p : Prog σ ε α) : Prog σ ε α :=
  step (fun s => (p.run s).state) (fun s => (p.run s).events) fun s => (p.run s).value

/-- One program for each element of a list, in order. -/
def forEach (items : List β) (body : β → Prog σ ε Unit) : Prog σ ε Unit :=
  match items with
  | [] => ret ()
  | item :: rest => (body item).bind fun _ => forEach rest body

/-- The program with its events under other names. -/
def relabel (name : ε → β) : Prog σ ε α → Prog σ β α
  | ret value => ret value
  | act update emit next => act update (fun s => (emit s).map name) fun s => (next s).relabel name

@[simp] theorem pure_eq (value : α) : (pure value : Prog σ ε α) = ret value := rfl

@[simp] theorem ret_bind (value : α) (f : α → Prog σ ε β) : ret value >>= f = f value := rfl

@[simp] theorem bind_ret_left (value : α) (f : α → Prog σ ε β) : (ret value).bind f = f value := rfl

@[simp] theorem act_bind (update : σ → σ) (emit : σ → List ε) (next : σ → Prog σ ε α)
    (f : α → Prog σ ε β) :
    act update emit next >>= f = act update emit fun s => next s >>= f := rfl

private theorem bind_ret_self (p : Prog σ ε α) : p >>= ret = p := by
  induction p with
  | ret value => rfl
  | act update emit next ih =>
    simp only [act_bind]
    congr 1
    funext s
    exact ih s

theorem bind_assoc (p : Prog σ ε α) (f : α → Prog σ ε β) (g : β → Prog σ ε γ) :
    p >>= f >>= g = p >>= fun a => f a >>= g := by
  induction p with
  | ret value => rfl
  | act update emit next ih =>
    simp only [act_bind]
    congr 1
    funext s
    exact ih s

instance : LawfulMonad (Prog σ ε) :=
  LawfulMonad.mk' _ (fun p => bind_ret_self p) (fun _ _ => rfl) bind_assoc

/-! ### Runs -/

@[simp] theorem run_ret (value : α) (s : σ) : (ret value : Prog σ ε α).run s = ⟨value, s, []⟩ := rfl

@[simp] theorem run_step (update : σ → σ) (emit : σ → List ε) (answer : σ → α) (s : σ) :
    (step update emit answer).run s = ⟨answer s, update s, emit s⟩ := by
  simp [step, run]

@[simp] theorem run_atomic (p : Prog σ ε α) (s : σ) : (atomic p).run s = p.run s := by
  simp [atomic]

@[simp] theorem run_bind (p : Prog σ ε α) (f : α → Prog σ ε β) (s : σ) :
    (p >>= f).run s =
      ⟨((f (p.run s).value).run (p.run s).state).value,
        ((f (p.run s).value).run (p.run s).state).state,
        (p.run s).events ++ ((f (p.run s).value).run (p.run s).state).events⟩ := by
  induction p generalizing s with
  | ret value => rfl
  | act update emit next ih => simp [run, ih]

@[simp] theorem run_relabel (name : ε → β) (p : Prog σ ε α) (s : σ) :
    (p.relabel name).run s = ⟨(p.run s).value, (p.run s).state, (p.run s).events.map name⟩ := by
  induction p generalizing s with
  | ret value => rfl
  | act update emit next ih => simp [relabel, run, ih]

@[simp] theorem run_observe (answer : σ → α) (s : σ) :
    (observe answer : Prog σ ε α).run s = ⟨answer s, s, []⟩ := by
  simp [observe]

@[simp] theorem run_change (update : σ → σ) (s : σ) :
    (change update : Prog σ ε Unit).run s = ⟨(), update s, []⟩ := by
  simp [change]

@[simp] theorem run_emits (emit : σ → List ε) (s : σ) :
    (emits emit : Prog σ ε Unit).run s = ⟨(), s, emit s⟩ := by
  simp [emits]

@[simp] theorem forEach_nil (body : β → Prog σ ε Unit) : forEach [] body = ret () := rfl

@[simp] theorem forEach_cons (item : β) (rest : List β) (body : β → Prog σ ε Unit) :
    forEach (item :: rest) body = body item >>= fun _ => forEach rest body := rfl

/-- A loop whose rounds leave the state as it is emits what they emit, in order. -/
theorem run_forEach {items : List β} {body : β → Prog σ ε Unit} {emit : β → List ε} {s : σ}
    (each : ∀ item ∈ items, (body item).run s = ⟨(), s, emit item⟩) :
    (forEach items body).run s = ⟨(), s, items.flatMap emit⟩ := by
  induction items with
  | nil => rfl
  | cons item rest ih =>
    have later := ih fun other inside => each other (List.mem_cons_of_mem _ inside)
    rw [forEach_cons, run_bind, each item List.mem_cons_self, later]
    rfl

/-! ### Conditions on every action -/

/-- All actions of the tree satisfy a condition on their update and their events. -/
def Every (allowed : (σ → σ) → (σ → List ε) → Prop) : Prog σ ε α → Prop
  | ret _ => True
  | act update emit next => allowed update emit ∧ ∀ s, (next s).Every allowed

variable {allowed : (σ → σ) → (σ → List ε) → Prop}

@[simp] theorem every_ret (value : α) : (ret value : Prog σ ε α).Every allowed := trivial

theorem every_step {update : σ → σ} {emit : σ → List ε} {answer : σ → α}
    (fits : allowed update emit) : (step update emit answer).Every allowed :=
  ⟨fits, fun _ => trivial⟩

theorem every_bind {p : Prog σ ε α} {f : α → Prog σ ε β}
    (first : p.Every allowed) (rest : ∀ a, (f a).Every allowed) : (p >>= f).Every allowed := by
  induction p with
  | ret value => exact rest value
  | act update emit next ih => exact ⟨first.1, fun s => ih s (first.2 s)⟩

theorem every_forEach {items : List β} {body : β → Prog σ ε Unit}
    (each : ∀ item ∈ items, (body item).Every allowed) : (forEach items body).Every allowed := by
  induction items with
  | nil => trivial
  | cons item rest ih =>
    exact every_bind (each item (by simp)) fun _ => ih fun other inside => each other (by simp [inside])

/-- A preorder that every action respects relates the two ends of a run. -/
theorem every_run {p : Prog σ ε α} (related : σ → σ → Prop) [Std.Refl related] [IsTrans σ related]
    (respects : ∀ update emit, allowed update emit → ∀ s, related s (update s))
    (all : p.Every allowed) (s : σ) : related s (p.run s).state := by
  induction p generalizing s with
  | ret value => exact Std.Refl.refl s
  | act update emit next ih =>
    exact IsTrans.trans _ _ _ (respects update emit all.1 s) (ih s (all.2 s) (update s))

/-- What holds of the events of every action holds of the events of a run. -/
theorem every_events {p : Prog σ ε α} (good : ε → Prop)
    (emitted : ∀ update emit, allowed update emit → ∀ s, ∀ event ∈ emit s, good event)
    (all : p.Every allowed) (s : σ) : ∀ event ∈ (p.run s).events, good event := by
  induction p generalizing s with
  | ret value => simp
  | act update emit next ih =>
    intro event inside
    simp only [run, List.mem_append] at inside
    obtain now | later := inside
    · exact emitted update emit all.1 s event now
    · exact ih s (all.2 s) (update s) event later

/-! ### One action at a time -/

/-- The first action of a program, taken in a state: what is left to do, the state
    it leaves and the events it emits. -/
def first : Prog σ ε α → σ → Option (Prog σ ε α × σ × List ε)
  | ret _, _ => none
  | act update emit next, s => some (next s, update s, emit s)

@[simp] theorem first_ret (value : α) (s : σ) : (ret value : Prog σ ε α).first s = none := rfl

@[simp] theorem first_step (update : σ → σ) (emit : σ → List ε) (answer : σ → α)
    (f : α → Prog σ ε β) (s : σ) :
    (step update emit answer >>= f).first s = some (f (answer s), update s, emit s) := rfl

@[simp] theorem first_atomic (p : Prog σ ε α) (f : α → Prog σ ε β) (s : σ) :
    (atomic p >>= f).first s = some (f (p.run s).value, (p.run s).state, (p.run s).events) := rfl

theorem every_first {p rest : Prog σ ε α} {s s' : σ} {events : List ε} (all : p.Every allowed)
    (moves : p.first s = some (rest, s', events)) :
    rest.Every allowed ∧ ∃ update emit, allowed update emit ∧ s' = update s ∧ events = emit s := by
  cases p with
  | ret value => simp at moves
  | act update emit next =>
    simp only [first, Option.some.injEq, Prod.mk.injEq] at moves
    obtain ⟨rfl, rfl, rfl⟩ := moves
    exact ⟨all.2 s, update, emit, all.1, rfl, rfl⟩

/-- What every action carries along, from program to rest, from state to state and
    with the events so far, holds at the end of a run. -/
theorem run_invariant {holds : Prog σ ε α → σ → List ε → Prop}
    (carried : ∀ p s rest s' sofar events, holds p s sofar → p.first s = some (rest, s', events) →
      holds rest s' (sofar ++ events))
    {p : Prog σ ε α} {s : σ} {sofar : List ε} (start : holds p s sofar) :
    holds (ret (p.run s).value) (p.run s).state (sofar ++ (p.run s).events) := by
  induction p generalizing s sofar with
  | ret value => simpa using start
  | act update emit next ih =>
    have rest := ih s (carried _ s _ _ _ _ start rfl)
    simpa [run] using rest

/-! ### Weakest preconditions -/

/-- The run of `p` from `s` has the property `post`. -/
def Ensures (p : Prog σ ε α) (s : σ) (post : Outcome σ ε α → Prop) : Prop := post (p.run s)

theorem ensures_ret {value : α} {s : σ} {post : Outcome σ ε α → Prop} (holds : post ⟨value, s, []⟩) :
    (ret value : Prog σ ε α).Ensures s post := holds

theorem ensures_atomic {p : Prog σ ε α} {s : σ} {post : Outcome σ ε α → Prop} (holds : p.Ensures s post) :
    (atomic p).Ensures s post := by
  simpa [Ensures] using holds

theorem ensures_bind {p : Prog σ ε α} {f : α → Prog σ ε β} {s : σ} {post : Outcome σ ε β → Prop}
    (holds : p.Ensures s fun o => (f o.value).Ensures o.state fun o' =>
      post ⟨o'.value, o'.state, o.events ++ o'.events⟩) : (p >>= f).Ensures s post := by
  simpa [Ensures] using holds

theorem ensures_ite {c : Prop} [Decidable c] {p q : Prog σ ε α} {s : σ} {post : Outcome σ ε α → Prop}
    (yes : c → p.Ensures s post) (no : ¬c → q.Ensures s post) : (if c then p else q).Ensures s post := by
  split
  · exact yes ‹_›
  · exact no ‹_›

theorem ensures_mono {p : Prog σ ε α} {s : σ} {weak strong : Outcome σ ε α → Prop}
    (holds : p.Ensures s strong) (weaken : ∀ o, strong o → weak o) : p.Ensures s weak :=
  weaken _ holds

end Prog
end NovaIIM
