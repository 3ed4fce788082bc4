import NovaIIM.Program

/-!
A database connection inside a process.

`Store τ κ` is the contents `τ` of the tables with the rest `κ` of the process
state. A statement (`statement`, `query`) is one action: it takes the next entry
of `faults`, and a statement whose entry is `true` fails, reports failure and
changes nothing. A transaction keeps the tables as they were at its start in
`saved`; BEGIN fails inside an open transaction, COMMIT and ROLLBACK outside of
one. A failed ROLLBACK leaves the transaction open.

`Does E p s` says that the run of `p` from `s` takes the tables by the relation
`E`, through any failures, and `InTransaction W start p s` bounds the part of a
program behind a BEGIN by the steps of `W` that were executed before it
committed, rolled back or failed to do either. Their rules follow the program
one statement at a time.
-/
namespace NovaIIM
open Relation (ReflTransGen)

/-- The tables `τ`, the open transaction if any, the failures to come and the
    memory `κ` of the process. -/
structure Store (τ κ : Type) where
  tables : τ
  saved : Option τ := none
  faults : List Bool := []
  mem : κ

namespace Store
variable {τ κ ε α β : Type}

/-- The next statement fails. -/
def fails (s : Store τ κ) : Bool := s.faults.headD false

/-- A statement takes one entry of the failures to come. -/
def spend (s : Store τ κ) : Store τ κ := { s with faults := s.faults.tail }

/-- A statement that is executed also leaves its tables. -/
def wrote (s : Store τ κ) (t : τ) : Store τ κ := { s with tables := t, faults := s.faults.tail }

/-- BEGIN keeps the tables. -/
def opened (s : Store τ κ) : Store τ κ := { s with saved := some s.tables, faults := s.faults.tail }

/-- COMMIT forgets the tables that BEGIN kept. -/
def committed (s : Store τ κ) : Store τ κ := { s with saved := none, faults := s.faults.tail }

/-- ROLLBACK brings them back. -/
def undone (s : Store τ κ) : Store τ κ :=
  { s with tables := s.saved.getD s.tables, saved := none, faults := s.faults.tail }

@[simp] theorem spend_tables (s : Store τ κ) : s.spend.tables = s.tables := rfl
@[simp] theorem spend_saved (s : Store τ κ) : s.spend.saved = s.saved := rfl
@[simp] theorem spend_mem (s : Store τ κ) : s.spend.mem = s.mem := rfl
@[simp] theorem spend_faults (s : Store τ κ) : s.spend.faults = s.faults.tail := rfl

@[simp] theorem wrote_tables (s : Store τ κ) (t : τ) : (s.wrote t).tables = t := rfl
@[simp] theorem wrote_saved (s : Store τ κ) (t : τ) : (s.wrote t).saved = s.saved := rfl
@[simp] theorem wrote_mem (s : Store τ κ) (t : τ) : (s.wrote t).mem = s.mem := rfl
@[simp] theorem wrote_faults (s : Store τ κ) (t : τ) : (s.wrote t).faults = s.faults.tail := rfl

@[simp] theorem opened_tables (s : Store τ κ) : s.opened.tables = s.tables := rfl
@[simp] theorem opened_saved (s : Store τ κ) : s.opened.saved = some s.tables := rfl
@[simp] theorem opened_mem (s : Store τ κ) : s.opened.mem = s.mem := rfl
@[simp] theorem opened_faults (s : Store τ κ) : s.opened.faults = s.faults.tail := rfl

@[simp] theorem committed_tables (s : Store τ κ) : s.committed.tables = s.tables := rfl
@[simp] theorem committed_saved (s : Store τ κ) : s.committed.saved = none := rfl
@[simp] theorem committed_mem (s : Store τ κ) : s.committed.mem = s.mem := rfl
@[simp] theorem committed_faults (s : Store τ κ) : s.committed.faults = s.faults.tail := rfl

@[simp] theorem undone_tables (s : Store τ κ) : s.undone.tables = s.saved.getD s.tables := rfl
@[simp] theorem undone_saved (s : Store τ κ) : s.undone.saved = none := rfl
@[simp] theorem undone_mem (s : Store τ κ) : s.undone.mem = s.mem := rfl
@[simp] theorem undone_faults (s : Store τ κ) : s.undone.faults = s.faults.tail := rfl

/-- The statement of that number of those to come fails. -/
def StatementFails (faults : List Bool) (n : Nat) : Prop := (faults.drop n).headD false = true

instance (faults : List Bool) (n : Nat) : Decidable (StatementFails faults n) :=
  inferInstanceAs (Decidable (_ = true))

/-- None of the next statements fails. -/
def Clear : Nat → List Bool → Prop
  | 0, _ => True
  | n + 1, faults => faults.headD false = false ∧ Clear n faults.tail

theorem clear_add {m n : Nat} {faults : List Bool} :
    Clear (m + n) faults ↔ Clear m faults ∧ Clear n (faults.drop m) := by
  induction m generalizing faults with
  | zero => simp [Clear]
  | succ m ih => rw [Nat.succ_add, Clear, Clear, ih, and_assoc, List.drop_tail]

/-- Nothing but the failures to come changed. -/
structure Same (s s' : Store τ κ) : Prop where
  tables : s'.tables = s.tables
  saved : s'.saved = s.saved
  mem : s'.mem = s.mem

theorem Same.refl (s : Store τ κ) : Same s s := ⟨rfl, rfl, rfl⟩

theorem Same.trans {a b c : Store τ κ} (first : Same a b) (second : Same b c) : Same a c :=
  ⟨second.tables.trans first.tables, second.saved.trans first.saved, second.mem.trans first.mem⟩

/-! ### Statements -/

/-- One SQL statement. -/
def statement (failed : α) (answer : τ → α) (effect : τ → τ) : Prog (Store τ κ) ε α :=
  .step (fun s => if s.fails then s.spend else s.wrote (effect s.tables))
    (fun _ => []) fun s => if s.fails then failed else answer s.tables

/-- A statement that only reads; a failed one answers like an empty result. -/
def query (failed : α) (answer : τ → α) : Prog (Store τ κ) ε α := statement failed answer id

/-- A statement that reports whether it was executed. -/
def execute (effect : τ → τ) : Prog (Store τ κ) ε Bool := statement false (fun _ => true) effect

def beginTransaction : Prog (Store τ κ) ε Bool :=
  .step (fun s => if s.fails || s.saved.isSome then s.spend else s.opened)
    (fun _ => []) fun s => !(s.fails || s.saved.isSome)

def commit : Prog (Store τ κ) ε Bool :=
  .step (fun s => if s.fails || s.saved.isNone then s.spend else s.committed)
    (fun _ => []) fun s => !(s.fails || s.saved.isNone)

def rollback : Prog (Store τ κ) ε Unit :=
  .step (fun s => if s.fails then s.spend else s.undone) (fun _ => []) fun _ => ()

/-- Change the memory of the process. -/
def modify (update : κ → κ) : Prog (Store τ κ) ε Unit :=
  .change fun s => { s with mem := update s.mem }

/-- Read the memory of the process. -/
def peek (answer : κ → α) : Prog (Store τ κ) ε α := .observe fun s => answer s.mem

@[simp] theorem run_statement (failed : α) (answer : τ → α) (effect : τ → τ) (s : Store τ κ) :
    (statement failed answer effect : Prog (Store τ κ) ε α).run s =
      if s.fails then ⟨failed, s.spend, []⟩
      else ⟨answer s.tables, s.wrote (effect s.tables), []⟩ := by
  by_cases fault : s.fails <;> simp [statement, fault]

@[simp] theorem run_query (failed : α) (answer : τ → α) (s : Store τ κ) :
    (query failed answer : Prog (Store τ κ) ε α).run s =
      ⟨if s.fails then failed else answer s.tables, s.spend, []⟩ := by
  by_cases fault : s.fails <;> simp [query, fault, spend, wrote]

theorem run_begin (s : Store τ κ) :
    (beginTransaction : Prog (Store τ κ) ε Bool).run s =
      if s.fails ∨ s.saved.isSome then ⟨false, s.spend, []⟩
      else ⟨true, s.opened, []⟩ := by
  cases fault : s.fails <;> cases saved : s.saved <;> simp [beginTransaction, fault, saved]

theorem run_commit (s : Store τ κ) :
    (commit : Prog (Store τ κ) ε Bool).run s =
      if s.fails ∨ s.saved.isNone then ⟨false, s.spend, []⟩
      else ⟨true, s.committed, []⟩ := by
  cases fault : s.fails <;> cases saved : s.saved <;> simp [commit, fault, saved]

theorem run_rollback (s : Store τ κ) :
    (rollback : Prog (Store τ κ) ε Unit).run s =
      if s.fails then ⟨(), s.spend, []⟩
      else ⟨(), s.undone, []⟩ := by
  by_cases fault : s.fails <;> simp [rollback, fault]

@[simp] theorem run_peek (answer : κ → α) (s : Store τ κ) :
    (peek answer : Prog (Store τ κ) ε α).run s = ⟨answer s.mem, s, []⟩ := by
  simp [peek]

@[simp] theorem run_modify (update : κ → κ) (s : Store τ κ) :
    (modify update : Prog (Store τ κ) ε Unit).run s = ⟨(), { s with mem := update s.mem }, []⟩ := by
  simp [modify]

theorem first_statement (failed : α) (answer : τ → α) (effect : τ → τ) (f : α → Prog (Store τ κ) ε β)
    (s : Store τ κ) :
    (statement failed answer effect >>= f).first s =
      if s.fails then some (f failed, s.spend, [])
      else some (f (answer s.tables), s.wrote (effect s.tables), []) := by
  by_cases fault : s.fails <;> simp [statement, fault]

theorem first_query (failed : α) (answer : τ → α) (f : α → Prog (Store τ κ) ε β) (s : Store τ κ) :
    (query failed answer >>= f).first s =
      some (f (if s.fails then failed else answer s.tables), s.spend, []) := by
  by_cases fault : s.fails <;> simp [query, first_statement, fault, spend, wrote]

/-! ### Programs that leave the data alone -/

/-- A program that changes neither tables, transaction nor memory. -/
def Silent (p : Prog (Store τ κ) ε α) : Prop := ∀ s, Same s (p.run s).state

theorem silent_ret (value : α) : Silent (.ret value : Prog (Store τ κ) ε α) := fun s => Same.refl s

theorem silent_bind {p : Prog (Store τ κ) ε α} {f : α → Prog (Store τ κ) ε β}
    (first : Silent p) (rest : ∀ a, Silent (f a)) : Silent (p >>= f) := by
  intro s
  simpa using (first s).trans (rest _ _)

theorem silent_ite {c : Prop} [Decidable c] {p q : Prog (Store τ κ) ε α} (yes : Silent p)
    (no : Silent q) : Silent (if c then p else q) := by
  split
  · exact yes
  · exact no

theorem silent_query (failed : α) (answer : τ → α) :
    Silent (query failed answer : Prog (Store τ κ) ε α) := by
  intro s
  rw [run_query]
  exact ⟨rfl, rfl, rfl⟩

theorem silent_emits (emit : Store τ κ → List ε) : Silent (.emits emit) := by
  intro s
  simpa using Same.refl s

theorem silent_peek (answer : κ → α) : Silent (peek answer : Prog (Store τ κ) ε α) := by
  intro s
  simpa using Same.refl s

theorem silent_atomic {p : Prog (Store τ κ) ε α} (silent : Silent p) : Silent (.atomic p) := by
  intro s
  simpa using silent s

theorem silent_forEach {items : List β} {body : β → Prog (Store τ κ) ε Unit}
    (each : ∀ item, Silent (body item)) : Silent (.forEach items body) := by
  induction items with
  | nil => exact silent_ret ()
  | cons item rest ih => exact silent_bind (each item) fun _ => ih

/-! ### Weakest preconditions of statements -/

section Ensures
variable {s : Store τ κ} {post : Outcome (Store τ κ) ε β → Prop} {failed : α} {answer : τ → α}
  {effect : τ → τ} {f : α → Prog (Store τ κ) ε β} {g : Bool → Prog (Store τ κ) ε β}

theorem ensures_statement {p : Prog (Store τ κ) ε α}
    (acts : p.run s = (statement failed answer effect : Prog (Store τ κ) ε α).run s)
    (miss : s.fails = true → (f failed).Ensures s.spend post)
    (hit : s.fails = false → (f (answer s.tables)).Ensures (s.wrote (effect s.tables)) post) :
    (p >>= f).Ensures s post := by
  cases fault : s.fails with
  | true => simpa [Prog.Ensures, acts, fault] using miss fault
  | false => simpa [Prog.Ensures, acts, fault] using hit fault

theorem ensures_execute {p : Prog (Store τ κ) ε Bool}
    (acts : p.run s = (execute effect : Prog (Store τ κ) ε Bool).run s)
    (miss : s.fails = true → (g false).Ensures s.spend post)
    (hit : s.fails = false → (g true).Ensures (s.wrote (effect s.tables)) post) :
    (p >>= g).Ensures s post := ensures_statement acts miss hit

/-- An insertion that a constraint may turn away. -/
theorem ensures_insert {p : Prog (Store τ κ) ε Bool} {taken : τ → Bool}
    (acts : p.run s = (statement false (fun t => !taken t) effect : Prog (Store τ κ) ε Bool).run s)
    (miss : s.fails = true → (g false).Ensures s.spend post)
    (clash : taken s.tables = true → (g false).Ensures (s.wrote (effect s.tables)) post)
    (hit : taken s.tables = false → (g true).Ensures (s.wrote (effect s.tables)) post) :
    (p >>= g).Ensures s post := by
  refine ensures_statement acts miss fun _ => ?_
  cases free : taken s.tables with
  | true => exact clash free
  | false => exact hit free

theorem ensures_query (miss : s.fails = true → (f failed).Ensures s.spend post)
    (hit : s.fails = false → (f (answer s.tables)).Ensures s.spend post) :
    (query failed answer >>= f).Ensures s post := by
  cases fault : s.fails with
  | true => simpa [Prog.Ensures, fault] using miss fault
  | false => simpa [Prog.Ensures, fault] using hit fault

/-- Whatever the query answers. -/
theorem ensures_any (rest : ∀ a, (f a).Ensures s.spend post) : (query failed answer >>= f).Ensures s post :=
  ensures_query (fun _ => rest _) fun _ => rest _

/-- What the query answers, whether it fails or not. -/
theorem ensures_answer (rest : (f (if s.fails then failed else answer s.tables)).Ensures s.spend post) :
    (query failed answer >>= f).Ensures s post := by
  refine ensures_query (fun fault => ?_) fun fault => ?_
  · rwa [if_pos fault] at rest
  · rwa [if_neg (by simp [fault])] at rest

theorem ensures_found {answer : τ → Option α} {f : Option α → Prog (Store τ κ) ε β}
    (miss : s.fails = true ∨ answer s.tables = none → (f none).Ensures s.spend post)
    (hit : ∀ a, s.fails = false → answer s.tables = some a → (f (some a)).Ensures s.spend post) :
    (query none answer >>= f).Ensures s post := by
  refine ensures_query (fun fault => miss (.inl fault)) fun works => ?_
  cases found : answer s.tables with
  | none => exact miss (.inr found)
  | some a => exact hit a works found

theorem ensures_lookup {answer : τ → Option α} {f : Option α → Prog (Store τ κ) ε β}
    (miss : (f none).Ensures s.spend post)
    (hit : ∀ a, answer s.tables = some a → (f (some a)).Ensures s.spend post) :
    (query none answer >>= f).Ensures s post := ensures_found (fun _ => miss) fun a _ => hit a

theorem ensures_peek {look : κ → α} (rest : (f (look s.mem)).Ensures s post) :
    (peek look >>= f).Ensures s post := by
  simpa [Prog.Ensures] using rest

theorem ensures_begin
    (refused : s.fails = true ∨ s.saved ≠ none → (g false).Ensures s.spend post)
    (begun : s.fails = false → s.saved = none → (g true).Ensures s.opened post) :
    (beginTransaction >>= g).Ensures s post := by
  simp only [Prog.Ensures, Prog.run_bind, run_begin]
  cases fault : s.fails <;> cases saved : s.saved <;> simp_all [Prog.Ensures]

theorem ensures_commit (refused : s.fails = true ∨ s.saved = none → (g false).Ensures s.spend post)
    (done : s.fails = false → (g true).Ensures s.committed post) :
    (commit >>= g).Ensures s post := by
  simp only [Prog.Ensures, Prog.run_bind, run_commit]
  cases fault : s.fails <;> cases saved : s.saved <;> simp_all [Prog.Ensures]

theorem ensures_rollback {f : Unit → Prog (Store τ κ) ε β} (failed : (f ()).Ensures s.spend post)
    (done : (f ()).Ensures s.undone post) : (rollback >>= f).Ensures s post := by
  by_cases fault : s.fails
  · simpa [Prog.Ensures, run_rollback, fault] using failed
  · simpa [Prog.Ensures, run_rollback, fault] using done

/-! Without failures to come every statement is executed. -/

theorem fails_sound (sound : s.faults = []) : s.fails = false := by simp [fails, sound]

theorem spend_sound (sound : s.faults = []) : s.spend.faults = [] := by simp [sound]

theorem sound_statement {p : Prog (Store τ κ) ε α} (sound : s.faults = [])
    (acts : p.run s = (statement failed answer effect : Prog (Store τ κ) ε α).run s)
    (hit : (f (answer s.tables)).Ensures (s.wrote (effect s.tables)) post) : (p >>= f).Ensures s post :=
  ensures_statement acts (fun fault => by simp [fails_sound sound] at fault) fun _ => hit

theorem sound_query (sound : s.faults = []) (hit : (f (answer s.tables)).Ensures s.spend post) :
    (query failed answer >>= f).Ensures s post :=
  ensures_query (fun fault => by simp [fails_sound sound] at fault) fun _ => hit

theorem sound_begin (sound : s.faults = []) (closed : s.saved = none) (begun : (g true).Ensures s.opened post) :
    (beginTransaction >>= g).Ensures s post := by
  simpa [Prog.Ensures, run_begin, fails_sound sound, closed] using begun

theorem sound_commit (sound : s.faults = []) (opened : s.saved ≠ none) (done : (g true).Ensures s.committed post) :
    (commit >>= g).Ensures s post := by
  simpa [Prog.Ensures, run_commit, fails_sound sound, opened] using done

end Ensures

/-! ### Queries without failures -/

/-- Without failures to come the run answers as described, and changes and emits nothing. -/
def Finds (answers : τ → α → Prop) (p : Prog (Store τ κ) ε α) : Prop :=
  ∀ s : Store τ κ, s.faults = [] → p.Ensures s fun o =>
    answers s.tables o.value ∧ Same s o.state ∧ o.state.faults = [] ∧ o.events = []

section Finds
variable {answers : τ → α → Prop} {p : Prog (Store τ κ) ε α} {answer : τ → α} {failed : α}

theorem finds_ret {value : α} (right : ∀ t, answers t value) : Finds answers (.ret value : Prog (Store τ κ) ε α) :=
  fun s sound => ⟨right s.tables, .refl s, sound, rfl⟩

theorem finds_query : Finds (fun t a => a = answer t) (query failed answer : Prog (Store τ κ) ε α) := by
  intro s sound
  simp only [Prog.Ensures, run_query, fails_sound sound, spend_faults, sound]
  exact ⟨rfl, ⟨rfl, rfl, rfl⟩, rfl, trivial⟩

theorem finds_mono {weaker : τ → α → Prop} (finds : Finds answers p) (weaken : ∀ t a, answers t a → weaker t a) :
    Finds weaker p :=
  fun s sound => Prog.ensures_mono (finds s sound) fun _ now => ⟨weaken _ _ now.1, now.2⟩

/-- A query that is left out when there is nothing to ask. -/
theorem finds_unless {nothing : Bool} {none : α} (empty : nothing = true → ∀ t, answers t none)
    (finds : Finds answers p) : Finds answers (if nothing then pure none else p) := by
  cases nothing
  · exact finds
  · exact finds_ret (empty rfl)

theorem finds_bind {more : τ → β → Prop} {f : α → Prog (Store τ κ) ε β} (finds : Finds answers p)
    (rest : ∀ a, Finds (fun t b => answers t a → more t b) (f a)) : Finds more (p >>= f) := by
  intro s sound
  obtain ⟨found, same, sound', events⟩ := finds s sound
  obtain ⟨found', same', sound'', events'⟩ := rest _ _ sound'
  rw [same.tables] at found'
  simp only [Prog.Ensures, Prog.run_bind, events, List.nil_append]
  exact ⟨found' found, same.trans same', sound'', events'⟩

/-- A run goes on from what was found. -/
theorem sound_finds {s : Store τ κ} {post : Outcome (Store τ κ) ε β → Prop} {f : α → Prog (Store τ κ) ε β}
    (sound : s.faults = []) (finds : Finds answers p)
    (rest : ∀ a s', answers s.tables a → Same s s' → s'.faults = [] → (f a).Ensures s' post) :
    (p >>= f).Ensures s post := by
  obtain ⟨found, same, sound', events⟩ := finds s sound
  have next := rest _ _ found same sound'
  simpa [Prog.Ensures, events] using next

end Finds

/-! ### What a program does to the tables -/

/-- The run from `s` takes the tables by `E` and keeps the memory. -/
def Does (E : τ → τ → Prop) (p : Prog (Store τ κ) ε α) (s : Store τ κ) : Prop :=
  E s.tables (p.run s).state.tables ∧ (p.run s).state.mem = s.mem

/-- The same behind a BEGIN that found the tables `start`: from tables that `W`
    reaches from `start` the run ends in such tables, whether it commits or not. -/
def InTransaction (W : τ → τ → Prop) (start : τ) (p : Prog (Store τ κ) ε α) (s : Store τ κ) : Prop :=
  s.saved = some start → ReflTransGen W start s.tables →
    ReflTransGen W start (p.run s).state.tables ∧ (p.run s).state.mem = s.mem

section Does
variable {E : τ → τ → Prop} {s : Store τ κ} {failed : α} {answer : τ → α} {effect : τ → τ}
  {p : Prog (Store τ κ) ε α} {f : α → Prog (Store τ κ) ε β}

theorem does_silent (silent : Silent p) (unchanged : E s.tables s.tables) : Does E p s := by
  obtain ⟨tables, -, mem⟩ := silent s
  exact ⟨by rwa [tables], mem⟩

theorem does_atomic (done : Does E p s) : Does E (.atomic p) s := by
  simpa [Does] using done

/-- The last part of a program that is not silent. -/
theorem does_then (done : Does E p s) (silent : ∀ a, Silent (f a)) : Does E (p >>= f) s := by
  obtain ⟨tables, -, mem⟩ := silent (p.run s).value (p.run s).state
  simpa [Does, tables, mem] using done

theorem does_peek {look : κ → α} (rest : Does E (f (look s.mem)) s) : Does E (peek look >>= f) s := by
  simpa [Does] using rest

/-- A query answers from the tables or like an empty result. -/
theorem does_query (miss : Does E (f failed) s.spend) (hit : Does E (f (answer s.tables)) s.spend) :
    Does E (query failed answer >>= f) s := by
  by_cases fault : s.fails
  · simpa [Does, fault] using miss
  · simpa [Does, fault] using hit

theorem does_query_any (rest : ∀ a, Does E (f a) s.spend) : Does E (query failed answer >>= f) s :=
  does_query (rest _) (rest _)

/-- A query for a row answers with it or like an empty result. -/
theorem does_lookup {answer : τ → Option α} {f : Option α → Prog (Store τ κ) ε β}
    (miss : Does E (f none) s.spend)
    (hit : ∀ a, answer s.tables = some a → Does E (f (some a)) s.spend) :
    Does E (query none answer >>= f) s := by
  refine does_query miss ?_
  cases found : answer s.tables with
  | none => exact miss
  | some a => exact hit a found

theorem does_ite {c : Prop} [Decidable c] {q : Prog (Store τ κ) ε α} (yes : c → Does E p s)
    (no : ¬c → Does E q s) : Does E (if c then p else q) s := by
  split
  · exact yes ‹_›
  · exact no ‹_›

/-- The last statement of a handler, before replies and pushes. -/
theorem does_statement (acts : p.run s = (statement failed answer effect : Prog (Store τ κ) ε α).run s)
    (unchanged : E s.tables s.tables) (changed : E s.tables (effect s.tables))
    (silent : ∀ a, Silent (f a)) : Does E (p >>= f) s := by
  by_cases fault : s.fails
  · obtain ⟨tables, -, mem⟩ := silent failed s.spend
    simpa [Does, acts, fault, mem, tables] using unchanged
  · obtain ⟨tables, -, mem⟩ := silent (answer s.tables) (s.wrote (effect s.tables))
    simpa [Does, acts, fault, mem, tables] using changed

theorem does_write (unchanged : E s.tables s.tables) (changed : E s.tables (effect s.tables)) :
    Does E (execute effect : Prog (Store τ κ) ε Bool) s := by
  by_cases fault : s.fails
  · simpa [Does, execute, fault] using unchanged
  · simpa [Does, execute, fault] using changed

theorem does_execute {p : Prog (Store τ κ) ε Bool} {g : Bool → Prog (Store τ κ) ε β}
    (acts : p.run s = (execute effect : Prog (Store τ κ) ε Bool).run s) (unchanged : E s.tables s.tables)
    (changed : E s.tables (effect s.tables)) (silent : ∀ a, Silent (g a)) : Does E (p >>= g) s :=
  does_statement acts unchanged changed silent

end Does

section InTransaction
variable {E W : τ → τ → Prop} {start : τ} {s : Store τ κ} {failed : α} {answer : τ → α} {effect : τ → τ}
  {p : Prog (Store τ κ) ε α} {f : α → Prog (Store τ κ) ε β} {g : Bool → Prog (Store τ κ) ε β}

theorem does_begin (unchanged : E s.tables s.tables) (failed : Silent (g false))
    (begun : InTransaction W s.tables (g true) s.opened)
    (reached : ∀ t, ReflTransGen W s.tables t → E s.tables t) : Does E (beginTransaction >>= g) s := by
  by_cases fault : s.fails = true ∨ s.saved.isSome = true
  · obtain ⟨tables, -, mem⟩ := failed s.spend
    simpa [Does, run_begin, fault, mem, tables] using unchanged
  · obtain ⟨moved, kept⟩ := begun rfl .refl
    simpa [Does, run_begin, fault] using And.intro (reached _ moved) kept

theorem inTransaction_statement
    (acts : p.run s = (statement failed answer effect : Prog (Store τ κ) ε α).run s)
    (allowed : W s.tables (effect s.tables))
    (miss : InTransaction W start (f failed) s.spend)
    (hit : InTransaction W start (f (answer s.tables)) (s.wrote (effect s.tables))) :
    InTransaction W start (p >>= f) s := by
  intro saved moved
  by_cases fault : s.fails
  · simpa [acts, fault] using miss saved moved
  · simpa [acts, fault] using hit saved (moved.tail allowed)

theorem inTransaction_execute {p : Prog (Store τ κ) ε Bool} {g : Bool → Prog (Store τ κ) ε β}
    (acts : p.run s = (execute effect : Prog (Store τ κ) ε Bool).run s) (allowed : W s.tables (effect s.tables))
    (miss : InTransaction W start (g false) s.spend)
    (hit : InTransaction W start (g true) (s.wrote (effect s.tables))) :
    InTransaction W start (p >>= g) s := inTransaction_statement acts allowed miss hit

theorem inTransaction_query (miss : InTransaction W start (f failed) s.spend)
    (hit : InTransaction W start (f (answer s.tables)) s.spend) :
    InTransaction W start (query failed answer >>= f) s := by
  intro saved moved
  by_cases fault : s.fails
  · simpa [fault] using miss saved moved
  · simpa [fault] using hit saved moved

theorem inTransaction_query_any (rest : ∀ a, InTransaction W start (f a) s.spend) :
    InTransaction W start (query failed answer >>= f) s :=
  inTransaction_query (rest _) (rest _)

theorem inTransaction_lookup {answer : τ → Option α} {f : Option α → Prog (Store τ κ) ε β}
    (miss : InTransaction W start (f none) s.spend)
    (hit : ∀ a, answer s.tables = some a → InTransaction W start (f (some a)) s.spend) :
    InTransaction W start (query none answer >>= f) s := by
  refine inTransaction_query miss ?_
  cases found : answer s.tables with
  | none => exact miss
  | some a => exact hit a found

theorem inTransaction_ite {c : Prop} [Decidable c] {p q : Prog (Store τ κ) ε α}
    (yes : c → InTransaction W start p s) (no : ¬c → InTransaction W start q s) :
    InTransaction W start (if c then p else q) s := by
  split
  · exact yes ‹_›
  · exact no ‹_›

theorem inTransaction_peek {look : κ → α} (rest : InTransaction W start (f (look s.mem)) s) :
    InTransaction W start (peek look >>= f) s := by
  simpa [InTransaction] using rest

/-- A part of the program that leaves the transaction and the memory as they are. -/
theorem inTransaction_part (moved : ReflTransGen W s.tables (p.run s).state.tables)
    (saved : (p.run s).state.saved = s.saved) (mem : (p.run s).state.mem = s.mem)
    (rest : InTransaction W start (f (p.run s).value) (p.run s).state) : InTransaction W start (p >>= f) s := by
  intro opened reached
  obtain ⟨moved', kept⟩ := rest (saved.trans opened) (reached.trans moved)
  rw [Prog.run_bind]
  exact ⟨moved', kept.trans mem⟩

/-- The way out of a transaction: anything silent, then the rollback. -/
theorem inTransaction_abort (silent : Silent p) :
    InTransaction W start (p >>= fun _ => (rollback : Prog (Store τ κ) ε Unit)) s := by
  intro saved moved
  obtain ⟨tables, saved', mem⟩ := silent s
  by_cases fault : (p.run s).state.fails
  · simpa [run_rollback, fault, tables, mem] using moved
  · simp [run_rollback, fault, saved', saved, mem, ReflTransGen.refl]

theorem inTransaction_commit (failed : InTransaction W start (g false) s.spend)
    (committed : Silent (g true)) : InTransaction W start (commit >>= g) s := by
  intro saved moved
  by_cases fault : s.fails
  · simpa [run_commit, fault] using failed saved moved
  · obtain ⟨tables, -, mem⟩ := committed s.committed
    simpa [run_commit, fault, saved, tables, mem] using moved

end InTransaction

end Store
end NovaIIM
