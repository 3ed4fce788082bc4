import Mathlib.Data.List.Forall2
import NovaIIM.Store

/-!
Two runs side by side.

`Leads pre post V R p q` relates the run of `p` from a state to the run of `q` from a state
that `pre` relates to it: the values are related by `V`, the events one by one by `R`, and
the states by `post`. `Twins` is the case of one relation that says how far two states are
the same. The rules follow the two programs statement by statement.

For stores, `Twin` compares the tables through a mask. It also says what the first run
keeps to: a condition on a part of its tables and of the ones it can go back to, and the
value of a view of its memory.
-/
namespace NovaIIM

section Twins
variable {σ ε α α' β β' ι : Type}

/-- From states that `pre` relates the two programs run alike, to states that `post` relates. -/
def Leads (pre post : σ → σ → Prop) (V : α → α' → Prop) (R : ε → ε → Prop) (p : Prog σ ε α) (q : Prog σ ε α') : Prop :=
  ∀ s s', pre s s' → V (p.run s).value (q.run s').value ∧ post (p.run s).state (q.run s').state ∧
    List.Forall₂ R (p.run s).events (q.run s').events

/-- From states that are the same the two programs run alike, to states that are the same. -/
abbrev Twins (same : σ → σ → Prop) (V : α → α' → Prop) (R : ε → ε → Prop) (p : Prog σ ε α) (q : Prog σ ε α') : Prop :=
  Leads same same V R p q

variable {pre mid post same : σ → σ → Prop} {V : α → α' → Prop} {W : β → β' → Prop} {R : ε → ε → Prop}
  {p : Prog σ ε α} {q : Prog σ ε α'}

theorem leads_bind {f : α → Prog σ ε β} {g : α' → Prog σ ε β'} (first : Leads pre mid V R p q)
    (rest : ∀ a b, V a b → Leads mid post W R (f a) (g b)) : Leads pre post W R (p >>= f) (q >>= g) := by
  intro s s' start
  obtain ⟨value, middle, events⟩ := first s s' start
  obtain ⟨value', done, events'⟩ := rest _ _ value _ _ middle
  rw [Prog.run_bind, Prog.run_bind]
  exact ⟨value', done, List.rel_append events events'⟩

theorem leads_mono {post' : σ → σ → Prop} {V' : α → α' → Prop} {R' : ε → ε → Prop} (leads : Leads pre post V R p q)
    (states : ∀ s s', post s s' → post' s s') (values : ∀ a b, V a b → V' a b) (events : ∀ e e', R e e' → R' e e') :
    Leads pre post' V' R' p q := by
  intro s s' start
  obtain ⟨value, done, related⟩ := leads s s' start
  exact ⟨values _ _ value, states _ _ done, related.imp fun {e e'} => events e e'⟩

theorem leads_ite {c : Prop} [Decidable c] {p' : Prog σ ε α} {q' : Prog σ ε α'} (yes : c → Leads pre post V R p q)
    (no : ¬c → Leads pre post V R p' q') : Leads pre post V R (if c then p else p') (if c then q else q') := by
  by_cases holds : c
  · rw [if_pos holds, if_pos holds]
    exact yes holds
  · rw [if_neg holds, if_neg holds]
    exact no holds

theorem twins_ret {value : α} {value' : α'} (related : V value value') : Twins same V R (.ret value) (.ret value') :=
  fun _ _ start => ⟨related, start, .nil⟩

theorem twins_bind {f : α → Prog σ ε β} {g : α' → Prog σ ε β'} (first : Twins same V R p q)
    (rest : ∀ a b, V a b → Twins same W R (f a) (g b)) : Twins same W R (p >>= f) (q >>= g) := leads_bind first rest

theorem twins_atomic (whole : Twins same V R p q) : Twins same V R (.atomic p) (.atomic q) := by
  intro s s' start
  rw [Prog.run_atomic, Prog.run_atomic]
  exact whole s s' start

theorem twins_ite {c : Prop} [Decidable c] {p' : Prog σ ε α} {q' : Prog σ ε α'} (yes : c → Twins same V R p q)
    (no : ¬c → Twins same V R p' q') : Twins same V R (if c then p else p') (if c then q else q') := leads_ite yes no

theorem twins_forEach {items : List ι} {body body' : ι → Prog σ ε Unit}
    (each : ∀ item ∈ items, Twins same (fun _ _ => True) R (body item) (body' item)) :
    Twins same (fun _ _ => True) R (.forEach items body) (.forEach items body') := by
  induction items with
  | nil => exact twins_ret trivial
  | cons item rest ih =>
    exact twins_bind (each item (by simp)) fun _ _ _ => ih fun other inside => each other (by simp [inside])

theorem twins_mono {V' : α → α' → Prop} {R' : ε → ε → Prop} (twins : Twins same V R p q)
    (values : ∀ a b, V a b → V' a b) (events : ∀ e e', R e e' → R' e e') : Twins same V' R' p q :=
  leads_mono twins (fun _ _ done => done) values events

theorem twins_emits {events events' : List ε} (related : List.Forall₂ R events events') :
    Twins same (fun _ _ => True) R (.emits fun _ => events) (.emits fun _ => events') := by
  intro s s' start
  rw [Prog.run_emits, Prog.run_emits]
  exact ⟨trivial, start, related⟩

end Twins

namespace Store
variable {τ κ ε α α' β ρ μ : Type}

/-- The store with a function on its tables, also on the ones to go back to. -/
def mapTables (f : τ → τ) (s : Store τ κ) : Store τ κ :=
  { s with tables := f s.tables, saved := s.saved.map f }

/-- The same behind a mask; the first keeps to a condition on a part of its tables, and a
    view of its memory has a given value. -/
structure Twin (mask : τ → τ) (part : τ → ρ) (fits : ρ → Prop) (view : κ → μ) (seen : μ) (s s' : Store τ κ) : Prop where
  alike : s.mapTables mask = s'.mapTables mask
  kept : fits (part s.tables)
  saved : ∀ t ∈ s.saved, fits (part t)
  view : view s.mem = seen

section Twin
variable {mask : τ → τ} {part : τ → ρ} {fits : ρ → Prop} {view : κ → μ} {seen : μ} {s s' : Store τ κ}

theorem Twin.tables (same : Twin mask part fits view seen s s') : mask s.tables = mask s'.tables := by
  have := congrArg Store.tables same.alike
  exact this

theorem Twin.mem (same : Twin mask part fits view seen s s') : s.mem = s'.mem := by
  have := congrArg Store.mem same.alike
  exact this

theorem Twin.faults (same : Twin mask part fits view seen s s') : s.faults = s'.faults := by
  have := congrArg Store.faults same.alike
  exact this

theorem Twin.back (same : Twin mask part fits view seen s s') : s.saved.map mask = s'.saved.map mask := by
  have := congrArg Store.saved same.alike
  exact this

theorem Twin.fails (same : Twin mask part fits view seen s s') : s.fails = s'.fails := by
  unfold Store.fails
  rw [same.faults]

theorem twin_of (tables : mask s.tables = mask s'.tables) (back : s.saved.map mask = s'.saved.map mask)
    (faults : s.faults = s'.faults) (mem : s.mem = s'.mem) (keeps : fits (part s.tables))
    (saved : ∀ t ∈ s.saved, fits (part t)) (sees : view s.mem = seen) : Twin mask part fits view seen s s' := by
  refine ⟨?_, keeps, saved, sees⟩
  unfold mapTables
  rw [tables, back, faults, mem]

theorem Twin.spend (same : Twin mask part fits view seen s s') : Twin mask part fits view seen s.spend s'.spend :=
  twin_of same.tables same.back (congrArg List.tail same.faults) same.mem same.kept same.saved same.view

theorem Twin.weaken {fits' : ρ → Prop} (same : Twin mask part fits view seen s s') (weaker : ∀ r, fits r → fits' r) :
    Twin mask part fits' view seen s s' :=
  ⟨same.alike, weaker _ same.kept, fun t back => weaker _ (same.saved t back), same.view⟩

theorem Twin.wrote {fits' : ρ → Prop} {t t' : τ} (same : Twin mask part fits view seen s s') (tables : mask t = mask t')
    (keeps : fits' (part t)) (weaker : ∀ r, fits r → fits' r) :
    Twin mask part fits' view seen (s.wrote t) (s'.wrote t') :=
  twin_of tables same.back (congrArg List.tail same.faults) same.mem keeps (fun t back => weaker _ (same.saved t back))
    same.view

end Twin

section Rules
variable {mask : τ → τ} {part : τ → ρ} {fits : ρ → Prop} {view : κ → μ} {seen : μ}
  {V : α → α' → Prop} {R : ε → ε → Prop}

theorem leads_statement {fits' : ρ → Prop} {failed : α} {failed' : α'} {answer : τ → α} {answer' : τ → α'}
    {effect effect' : τ → τ} (misses : V failed failed')
    (reads : ∀ t t', mask t = mask t' → fits (part t) → V (answer t) (answer' t'))
    (writes : ∀ t t', mask t = mask t' → fits (part t) → mask (effect t) = mask (effect' t'))
    (keeps : ∀ t, fits (part t) → fits' (part (effect t))) (weaker : ∀ r, fits r → fits' r) :
    Leads (Twin (κ := κ) mask part fits view seen) (Twin mask part fits' view seen) V R (statement failed answer effect)
      (statement failed' answer' effect') := by
  intro s s' same
  rw [run_statement, run_statement, ← same.fails]
  by_cases fault : s.fails = true
  · rw [if_pos fault, if_pos fault]
    exact ⟨misses, same.spend.weaken weaker, .nil⟩
  · rw [if_neg fault, if_neg fault]
    exact ⟨reads _ _ same.tables same.kept, same.wrote (writes _ _ same.tables same.kept) (keeps _ same.kept) weaker, .nil⟩

theorem twins_statement {failed : α} {failed' : α'} {answer : τ → α} {answer' : τ → α'} {effect effect' : τ → τ}
    (misses : V failed failed')
    (reads : ∀ t t', mask t = mask t' → fits (part t) → V (answer t) (answer' t'))
    (writes : ∀ t t', mask t = mask t' → mask (effect t) = mask (effect' t'))
    (keeps : ∀ t, fits (part t) → fits (part (effect t))) :
    Twins (Twin (κ := κ) mask part fits view seen) V R (statement failed answer effect)
      (statement failed' answer' effect') :=
  leads_statement misses reads (fun t t' alike _ => writes t t' alike) keeps fun _ fit => fit

theorem twins_query {failed : α} {failed' : α'} {answer : τ → α} {answer' : τ → α'} (misses : V failed failed')
    (reads : ∀ t t', mask t = mask t' → fits (part t) → V (answer t) (answer' t')) :
    Twins (Twin (κ := κ) mask part fits view seen) V R (query failed answer) (query failed' answer') :=
  twins_statement misses reads (fun _ _ alike => alike) fun _ keeps => keeps

theorem twins_execute {effect effect' : τ → τ} (writes : ∀ t t', mask t = mask t' → mask (effect t) = mask (effect' t'))
    (keeps : ∀ t, fits (part t) → fits (part (effect t))) :
    Twins (Twin (κ := κ) mask part fits view seen) Eq R (execute effect) (execute effect') :=
  twins_statement rfl (fun _ _ _ _ => rfl) writes keeps

theorem twins_memory (look : κ → α) (update : κ → κ) {events : List ε} (related : List.Forall₂ R events events)
    (keeps : ∀ m, view (update m) = view m) :
    Twins (Twin mask part fits view seen) Eq R
      (.step (fun s => { s with mem := update s.mem }) (fun _ => events) fun s => look s.mem)
      (.step (fun s => { s with mem := update s.mem }) (fun _ => events) fun s => look s.mem) := by
  intro s s' same
  rw [Prog.run_step, Prog.run_step]
  exact ⟨congrArg look same.mem,
    twin_of same.tables same.back same.faults (congrArg update same.mem) same.kept same.saved
      ((keeps s.mem).trans same.view), related⟩

/-- What is read of the memory, with what the view says of it. -/
theorem twins_peek (look : κ → α) :
    Twins (Twin mask part fits view seen) (fun a b => a = b ∧ ∃ m, view m = seen ∧ look m = a) R
      (peek look : Prog (Store τ κ) ε α) (peek look) := by
  intro s s' same
  rw [run_peek, run_peek]
  exact ⟨⟨congrArg look same.mem, s.mem, same.view, rfl⟩, same, .nil⟩

theorem twins_begin : Twins (Twin (κ := κ) mask part fits view seen) Eq R beginTransaction beginTransaction := by
  intro s s' same
  have saved : s.saved.isSome = s'.saved.isSome := by
    simpa using congrArg Option.isSome same.back
  rw [run_begin, run_begin, ← same.fails, ← saved]
  by_cases refused : s.fails = true ∨ s.saved.isSome = true
  · rw [if_pos refused, if_pos refused]
    exact ⟨rfl, same.spend, .nil⟩
  · rw [if_neg refused, if_neg refused]
    refine ⟨rfl, twin_of same.tables ?_ (congrArg List.tail same.faults) same.mem same.kept ?_ same.view, .nil⟩
    · exact congrArg some same.tables
    · intro t kept
      cases kept
      exact same.kept

theorem twins_commit : Twins (Twin (κ := κ) mask part fits view seen) Eq R commit commit := by
  intro s s' same
  have saved : s.saved.isNone = s'.saved.isNone := by
    simpa using congrArg Option.isNone same.back
  rw [run_commit, run_commit, ← same.fails, ← saved]
  by_cases refused : s.fails = true ∨ s.saved.isNone = true
  · rw [if_pos refused, if_pos refused]
    exact ⟨rfl, same.spend, .nil⟩
  · rw [if_neg refused, if_neg refused]
    exact ⟨rfl, twin_of same.tables rfl (congrArg List.tail same.faults) same.mem same.kept
      (fun _ none => nomatch none) same.view, .nil⟩

theorem twins_rollback : Twins (Twin (κ := κ) mask part fits view seen) Eq R rollback rollback := by
  intro s s' same
  rw [run_rollback, run_rollback, ← same.fails]
  by_cases fault : s.fails = true
  · rw [if_pos fault, if_pos fault]
    exact ⟨rfl, same.spend, .nil⟩
  · rw [if_neg fault, if_neg fault]
    have back := same.back
    refine ⟨rfl, twin_of ?_ rfl (congrArg List.tail same.faults) same.mem ?_ (fun _ none => nomatch none) same.view, .nil⟩
    · cases start : s.saved <;> cases start' : s'.saved <;> simp_all [same.tables]
    · cases start : s.saved with
      | none => simpa [start] using same.kept
      | some t => simpa [start] using same.saved t start

end Rules
end Store
end NovaIIM
