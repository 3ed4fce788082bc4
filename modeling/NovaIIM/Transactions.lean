import NovaIIM.Store

/-!
Transactions that are all or nothing.

What a transaction is meant to write is a list of writes, any of which a
constraint may turn away (`Write`, `applyAll`). `Settles refused done start ws p s`
is about the part `p` of a program behind a BEGIN that found the tables `start`,
when the writes `ws` have been executed: once `p` has closed the transaction, it
was `refused` and the tables are `start` again, or it is `done`. A transaction
whose ROLLBACK fails stays open. The rules follow the program one statement at a
time and collect the writes.
-/
namespace NovaIIM.Store
variable {τ κ ε α β : Type}

/-- A write on the tables, `none` where a constraint turns it away. -/
abbrev Write (τ : Type) := τ → Option τ

/-- A write that nothing turns away. -/
def plain (effect : τ → τ) : Write τ := fun t => some (effect t)

/-- A write that a constraint may turn away. -/
def guarded (taken : τ → Bool) (effect : τ → τ) : Write τ := fun t => if taken t then none else some (effect t)

/-- All writes, one after the other. -/
def applyAll : List (Write τ) → Write τ
  | [], t => some t
  | write :: rest, t => (write t).bind (applyAll rest)

@[simp] theorem applyAll_nil (t : τ) : applyAll [] t = some t := rfl

@[simp] theorem applyAll_cons (write : Write τ) (rest : List (Write τ)) (t : τ) :
    applyAll (write :: rest) t = (write t).bind (applyAll rest) := rfl

@[simp] theorem plain_apply (effect : τ → τ) (t : τ) : plain effect t = some (effect t) := rfl

theorem guarded_free {taken : τ → Bool} {effect : τ → τ} {t : τ} (free : taken t = false) :
    guarded taken effect t = some (effect t) := by
  rw [guarded, free]
  rfl

/-- What the writes led to, behind the first of them. -/
theorem applyAll_plain {effect : τ → τ} {rest : List (Write τ)} {t t' : τ} :
    applyAll (plain effect :: rest) t = some t' ↔ applyAll rest (effect t) = some t' := Iff.rfl

theorem applyAll_guarded {taken : τ → Bool} {effect : τ → τ} {rest : List (Write τ)} {t t' : τ} :
    applyAll (guarded taken effect :: rest) t = some t' ↔
      taken t = false ∧ applyAll rest (effect t) = some t' := by
  rw [applyAll_cons, guarded]
  cases taken t <;> simp

theorem applyAll_append (first second : List (Write τ)) (t : τ) :
    applyAll (first ++ second) t = (applyAll first t).bind (applyAll second) := by
  induction first generalizing t with
  | nil => rfl
  | cons write rest ih =>
    rw [List.cons_append, applyAll_cons, applyAll_cons, Option.bind_assoc]
    congr 1
    funext t'
    exact ih t'

theorem applyAll_snoc {ws : List (Write τ)} {write : Write τ} {t t' : τ} (before : applyAll ws t = some t') :
    applyAll (ws ++ [write]) t = write t' := by
  rw [applyAll_append, before, Option.bind_some, applyAll_cons]
  cases write t' <;> rfl

/-- A run that has closed its transaction was refused and has left the tables as
    they were at its start, or it is done. -/
def Settled (refused : List ε → Prop) (done : List ε → τ → Prop) (start : τ)
    (o : Outcome (Store τ κ) ε β) : Prop :=
  o.state.saved = none → refused o.events ∧ o.state.tables = start ∨ done o.events o.state.tables

theorem Settled.imp {refused refused' : List ε → Prop} {done done' : List ε → τ → Prop} {start : τ}
    {o : Outcome (Store τ κ) ε β} (settled : Settled refused done start o) (weaker : ∀ events, refused events → refused' events)
    (weaker' : ∀ events t, done events t → done' events t) : Settled refused' done' start o := by
  intro closed
  rcases settled closed with ⟨reply, same⟩ | reached
  · exact .inl ⟨weaker _ reply, same⟩
  · exact .inr (weaker' _ _ reached)

/-- The same for what is left of a transaction that has made the writes `ws`. -/
def Settles (refused : List ε → Prop) (done : List ε → τ → Prop) (start : τ) (ws : List (Write τ))
    (p : Prog (Store τ κ) ε β) (s : Store τ κ) : Prop :=
  s.saved = some start → applyAll ws start = some s.tables → p.Ensures s (Settled refused done start)

section Outside
variable {refused : List ε → Prop} {done : List ε → τ → Prop} {start : τ} {s : Store τ κ}
  {p : Prog (Store τ κ) ε β} {g : Bool → Prog (Store τ κ) ε β}

/-- A program that is turned away before its BEGIN. -/
theorem settled_refused (silent : Silent p) (same : s.tables = start) (reply : refused (p.run s).events) :
    p.Ensures s (Settled refused done start) := by
  intro _
  left
  exact ⟨reply, (silent s).tables.trans same⟩

/-- A program that goes on without a transaction of its own. -/
theorem settled_done (silent : Silent p) (reply : done (p.run s).events s.tables) :
    p.Ensures s (Settled refused done start) := by
  intro _
  right
  rwa [(silent s).tables]

theorem settled_begin (same : s.tables = start)
    (failed : s.fails = true ∨ s.saved ≠ none → (g false).Ensures s.spend (Settled refused done start))
    (begun : s.fails = false → Settles refused done start [] (g true) s.opened) :
    (beginTransaction >>= g).Ensures s (Settled refused done start) := by
  refine ensures_begin failed fun works _ => begun works ?_ ?_
  · exact congrArg some same
  · exact congrArg some same.symm

/-- A BEGIN that is refused ends the program; an open transaction would have stayed open. -/
theorem settled_begin_or (same : s.tables = start) (silent : Silent (g false))
    (failed : s.fails = true → refused ((g false).run s.spend).events)
    (begun : s.fails = false → Settles refused done start [] (g true) s.opened) :
    (beginTransaction >>= g).Ensures s (Settled refused done start) := by
  refine ensures_begin (fun why closed => ?_) fun works _ => begun works ?_ ?_
  · have saved : s.saved = none := (silent s.spend).saved.symm.trans closed
    exact .inl ⟨failed (why.resolve_right fun other => other saved), (silent s.spend).tables.trans same⟩
  · exact congrArg some same
  · exact congrArg some same.symm

end Outside

section Settles
variable {refused : List ε → Prop} {done : List ε → τ → Prop} {start : τ} {ws : List (Write τ)} {s : Store τ κ}
  {failed : α} {answer : τ → α} {effect : τ → τ} {p : Prog (Store τ κ) ε α} {f : α → Prog (Store τ κ) ε β}
  {g : Bool → Prog (Store τ κ) ε β}

theorem settles_statement (acts : p.run s = (statement failed answer effect : Prog (Store τ κ) ε α).run s)
    (miss : s.fails = true → Settles refused done start ws (f failed) s.spend)
    (hit : s.fails = false →
      Settles refused done start (ws ++ [plain effect]) (f (answer s.tables)) (s.wrote (effect s.tables))) :
    Settles refused done start ws (p >>= f) s := by
  intro opened progress
  refine ensures_statement acts (fun fault => miss fault opened progress) fun works => hit works opened ?_
  rw [applyAll_snoc progress, plain_apply, wrote_tables]

theorem settles_execute {p : Prog (Store τ κ) ε Bool}
    (acts : p.run s = (execute effect : Prog (Store τ κ) ε Bool).run s)
    (miss : s.fails = true → Settles refused done start ws (g false) s.spend)
    (hit : s.fails = false → Settles refused done start (ws ++ [plain effect]) (g true) (s.wrote (effect s.tables))) :
    Settles refused done start ws (p >>= g) s := settles_statement acts miss hit

/-- An insertion reports whether a constraint turned it away. -/
theorem settles_insert {p : Prog (Store τ κ) ε Bool} {taken : τ → Bool}
    (acts : p.run s = (statement false (fun t => !taken t) effect : Prog (Store τ κ) ε Bool).run s)
    (miss : s.fails = true → Settles refused done start ws (g false) s.spend)
    (clash : ∀ ws', Settles refused done start ws' (g false) (s.wrote (effect s.tables)))
    (hit : Settles refused done start (ws ++ [guarded taken effect]) (g true) (s.wrote (effect s.tables))) :
    Settles refused done start ws (p >>= g) s := by
  intro opened progress
  refine ensures_insert acts (fun fault => miss fault opened progress) (fun _ => ?_) fun free => hit opened ?_
  · refine clash (ws ++ [plain effect]) opened ?_
    rw [applyAll_snoc progress, plain_apply, wrote_tables]
  · rw [applyAll_snoc progress, guarded_free free, wrote_tables]

theorem settles_query (miss : s.fails = true → Settles refused done start ws (f failed) s.spend)
    (hit : s.fails = false → Settles refused done start ws (f (answer s.tables)) s.spend) :
    Settles refused done start ws (query failed answer >>= f) s := by
  intro opened progress
  exact ensures_query (fun fault => miss fault opened progress) fun works => hit works opened progress

/-- What the query answers, whether it fails or not. -/
theorem settles_answer (rest : Settles refused done start ws (f (if s.fails then failed else answer s.tables)) s.spend) :
    Settles refused done start ws (query failed answer >>= f) s :=
  fun opened progress => ensures_answer (rest opened progress)

theorem settles_lookup {answer : τ → Option α} {f : Option α → Prog (Store τ κ) ε β}
    (miss : s.fails = true ∨ answer s.tables = none → Settles refused done start ws (f none) s.spend)
    (hit : ∀ a, s.fails = false → answer s.tables = some a → Settles refused done start ws (f (some a)) s.spend) :
    Settles refused done start ws (query none answer >>= f) s := by
  intro opened progress
  refine ensures_query (fun fault => miss (.inl fault) opened progress) fun works => ?_
  cases found : answer s.tables with
  | none => exact miss (.inr found) opened progress
  | some a => exact hit a works found opened progress

/-- A part of the program that is not to be interrupted. -/
theorem settles_atomic (rest : Settles refused done start ws (p >>= f) s) :
    Settles refused done start ws (.atomic p >>= f) s := by
  intro opened progress
  have same : (Prog.atomic p >>= f).run s = (p >>= f).run s := by rw [Prog.run_bind, Prog.run_bind, Prog.run_atomic]
  unfold Prog.Ensures
  rw [same]
  exact rest opened progress

/-- A part of the program that writes in a way of its own. -/
theorem settles_part {effect : τ → τ} {value : α} {s' : Store τ κ} (acts : p.run s = ⟨value, s', []⟩)
    (saved : s'.saved = s.saved) (tables : s'.tables = effect s.tables)
    (rest : Settles refused done start (ws ++ [plain effect]) (f value) s') :
    Settles refused done start ws (p >>= f) s := by
  intro opened progress
  have ends := rest (saved.trans opened) (by rw [applyAll_snoc progress, plain_apply, tables])
  unfold Prog.Ensures at ends ⊢
  rwa [Prog.run_bind, acts]

theorem settles_peek {look : κ → α} (rest : Settles refused done start ws (f (look s.mem)) s) :
    Settles refused done start ws (peek look >>= f) s :=
  fun opened progress => ensures_peek (rest opened progress)

theorem settles_ite {c : Prop} [Decidable c] {p q : Prog (Store τ κ) ε β}
    (yes : c → Settles refused done start ws p s) (no : ¬c → Settles refused done start ws q s) :
    Settles refused done start ws (if c then p else q) s := by
  split
  · exact yes ‹_›
  · exact no ‹_›

/-- The way out of the transaction: a ROLLBACK that succeeds brings the tables back. -/
theorem settles_abort {p : Prog (Store τ κ) ε β} (silent : Silent p) (reply : refused (p.run s).events) :
    Settles refused done start ws (p >>= fun _ => (rollback : Prog (Store τ κ) ε Unit)) s := by
  intro opened progress closed
  obtain ⟨-, saved, -⟩ := silent s
  simp only [Prog.run_bind, run_rollback] at closed ⊢
  by_cases fault : (p.run s).state.fails = true
  · rw [if_pos fault, spend_saved, saved, opened] at closed
    cases closed
  · rw [if_neg fault, undone_tables, saved, opened, List.append_nil]
    exact .inl ⟨reply, rfl⟩

theorem settles_commit (miss : s.fails = true → Settles refused done start ws (g false) s.spend) (silent : Silent (g true))
    (reply : s.fails = false → applyAll ws start = some s.tables → done ((g true).run s.committed).events s.tables) :
    Settles refused done start ws (commit >>= g) s := by
  intro opened progress
  refine ensures_commit (fun fault => ?_) fun works _ => .inr ?_
  · refine miss (fault.resolve_right ?_) opened progress
    rw [opened]
    exact Option.some_ne_none _
  · rw [(silent s.committed).tables]
    exact reply works progress

end Settles

/-! ### Programs without transaction statements -/

/-- Without failures to come, the program leaves the open transaction as it is. -/
def Outside (p : Prog (Store τ κ) ε α) : Prop :=
  ∀ s, s.faults = [] → (p.run s).state.saved = s.saved ∧ (p.run s).state.faults = []

section Outside
variable {p q : Prog (Store τ κ) ε α} {f : α → Prog (Store τ κ) ε β}

theorem outside_ret (value : α) : Outside (.ret value : Prog (Store τ κ) ε α) := fun _ sound => ⟨rfl, sound⟩

theorem outside_bind (first : Outside p) (rest : ∀ a, Outside (f a)) : Outside (p >>= f) := by
  intro s sound
  obtain ⟨saved, sound'⟩ := first s sound
  obtain ⟨saved', done⟩ := rest (p.run s).value (p.run s).state sound'
  rw [Prog.run_bind]
  exact ⟨saved'.trans saved, done⟩

theorem outside_atomic (whole : Outside p) : Outside (.atomic p) := by
  intro s sound
  rw [Prog.run_atomic]
  exact whole s sound

theorem outside_ite {c : Prop} [Decidable c] (yes : Outside p) (no : Outside q) : Outside (if c then p else q) := by
  split
  · exact yes
  · exact no

theorem outside_statement (failed : α) (answer : τ → α) (effect : τ → τ) :
    Outside (statement failed answer effect : Prog (Store τ κ) ε α) := by
  intro s sound
  rw [run_statement, if_neg (by simp [fails_sound sound])]
  exact ⟨rfl, by simp [sound]⟩

theorem outside_query (failed : α) (answer : τ → α) : Outside (query failed answer : Prog (Store τ κ) ε α) :=
  outside_statement failed answer id

theorem outside_execute (effect : τ → τ) : Outside (execute effect : Prog (Store τ κ) ε Bool) :=
  outside_statement false (fun _ => true) effect

theorem outside_memory (update : κ → κ) (events : Store τ κ → List ε) (look : Store τ κ → α) :
    Outside (.step (fun s => { s with mem := update s.mem }) events look) := fun _ sound => ⟨rfl, sound⟩

theorem outside_modify (update : κ → κ) : Outside (modify update : Prog (Store τ κ) ε Unit) := outside_memory update _ _

theorem outside_peek (look : κ → α) : Outside (peek look : Prog (Store τ κ) ε α) := fun s sound => by
  rw [run_peek]
  exact ⟨rfl, sound⟩

theorem outside_emits (emit : Store τ κ → List ε) : Outside (.emits emit : Prog (Store τ κ) ε Unit) := fun s sound => by
  rw [Prog.run_emits]
  exact ⟨rfl, sound⟩

theorem outside_forEach {ι : Type} {items : List ι} {body : ι → Prog (Store τ κ) ε Unit} (each : ∀ item, Outside (body item)) :
    Outside (.forEach items body) := by
  induction items with
  | nil => exact outside_ret ()
  | cons item rest ih => exact outside_bind (each item) fun _ => ih

end Outside

/-! ### Transactions are closed -/

/-- Without failures to come, the program ends with no transaction open. It starts inside of
    one or not. -/
def Closes (opened : Bool) (p : Prog (Store τ κ) ε α) : Prop :=
  ∀ s, s.faults = [] → s.saved.isSome = opened → (p.run s).state.saved = none

section Closes
variable {opened : Bool} {p : Prog (Store τ κ) ε α} {f : α → Prog (Store τ κ) ε β} {g : Bool → Prog (Store τ κ) ε β}

theorem closes_silent (silent : Silent p) : Closes false p := by
  intro s _ outside
  rw [(silent s).saved]
  exact Option.isSome_eq_false_iff.mp outside |> Option.isNone_iff_eq_none.mp

theorem closes_outside (outside : Outside p) : Closes false p := by
  intro s sound closed
  rw [(outside s sound).1]
  exact Option.isNone_iff_eq_none.mp (Option.isSome_eq_false_iff.mp closed)

/-- Behind a program that leaves the transaction alone. -/
theorem closes_behind (outside : Outside p) (rest : ∀ a, Closes opened (f a)) : Closes opened (p >>= f) := by
  intro s sound inside
  obtain ⟨saved, sound'⟩ := outside s sound
  rw [Prog.run_bind]
  exact rest _ _ sound' (by rw [saved, inside])

theorem closes_statement
    (acts : ∀ s, ∃ failed answer effect, p.run s = (statement failed answer effect : Prog (Store τ κ) ε α).run s)
    (rest : ∀ a, Closes opened (f a)) : Closes opened (p >>= f) := by
  intro s sound inside
  obtain ⟨failed, answer, effect, run⟩ := acts s
  rw [Prog.run_bind, run, run_statement, if_neg (by simp [fails_sound sound])]
  exact rest _ _ (by simp [sound]) inside

theorem closes_execute {effect : τ → τ} (rest : ∀ done, Closes opened (g done)) :
    Closes opened ((execute effect : Prog (Store τ κ) ε Bool) >>= g) :=
  closes_statement (fun _ => ⟨_, _, _, rfl⟩) rest

theorem closes_query {failed : α} {answer : τ → α} (rest : ∀ a, Closes opened (f a)) :
    Closes opened ((query failed answer : Prog (Store τ κ) ε α) >>= f) :=
  closes_statement (fun _ => ⟨_, _, _, rfl⟩) rest

theorem closes_peek {look : κ → α} (rest : ∀ a, Closes opened (f a)) :
    Closes opened ((peek look : Prog (Store τ κ) ε α) >>= f) := by
  intro s sound inside
  rw [Prog.run_bind, run_peek]
  exact rest _ s sound inside

theorem closes_ite {c : Prop} [Decidable c] {p q : Prog (Store τ κ) ε α} (yes : Closes opened p)
    (no : Closes opened q) : Closes opened (if c then p else q) := by
  split
  · exact yes
  · exact no

theorem closes_begin (begun : Closes true (g true)) :
    Closes false (beginTransaction >>= g) := by
  intro s sound outside
  rw [Prog.run_bind, run_begin, if_neg (by simp [fails_sound sound, outside])]
  exact begun _ (by simp [sound]) rfl

theorem closes_commit (committed : Silent (g true)) : Closes true (commit >>= g) := by
  intro s sound inside
  rw [Prog.run_bind, run_commit, if_neg (by simp [fails_sound sound, Option.isSome_iff_ne_none.mp inside])]
  exact (committed _).saved

/-- The way out of the transaction, behind a reply that executes no statement. -/
theorem closes_abort {p : Prog (Store τ κ) ε β} (reply : ∀ s, (p.run s).state = s) :
    Closes opened (p >>= fun _ => (rollback : Prog (Store τ κ) ε Unit)) := by
  intro s sound _
  rw [Prog.run_bind, reply, run_rollback, if_neg (by simp [fails_sound sound])]
  rfl

end Closes
end NovaIIM.Store
