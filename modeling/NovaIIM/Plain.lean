import NovaIIM.Transactions
import NovaIIM.Twins

/-!
Programs that do not look at some part of the tables.

A `mask` changes the tables in a part that a program is not to depend on, `part` is
what the program is not to write, and `view` is what it leaves alone of the memory.
`Plain trans mask part view p` says how `p` is built: from statements that answer the same
behind a mask and leave the part alone, from actions on the rest of the memory and, if
`trans` holds, from the transaction statements. Such a program runs behind a mask as it runs
without (`Plain.twins`), and no action of it changes the view (`Plain.keepsView`).
-/
namespace NovaIIM.Store
variable {τ κ ε ι ρ μ : Type}

/-- A program built of actions that neither see through the masks nor write the part
    nor change the view. -/
inductive Plain (trans : Prop) (mask : ι → τ → τ) (part : τ → ρ) (view : κ → μ) : {α : Type} → Prog (Store τ κ) ε α → Prop where
  | ret {α : Type} (value : α) : Plain trans mask part view (.ret value)
  | bind {α β : Type} {p : Prog (Store τ κ) ε α} {f : α → Prog (Store τ κ) ε β} (first : Plain trans mask part view p)
      (rest : ∀ a, Plain trans mask part view (f a)) : Plain trans mask part view (p >>= f)
  | atomic {α : Type} {p : Prog (Store τ κ) ε α} (whole : Plain trans mask part view p) : Plain trans mask part view (.atomic p)
  | statement {α : Type} {failed : α} {answer : τ → α} {effect : τ → τ} (blind : ∀ i t, answer (mask i t) = answer t)
      (commutes : ∀ i t, effect (mask i t) = mask i (effect t)) (apart : ∀ t, part (effect t) = part t) :
      Plain trans mask part view (statement failed answer effect)
  | beginTransaction (allowed : trans) : Plain trans mask part view beginTransaction
  | commit (allowed : trans) : Plain trans mask part view commit
  | rollback (allowed : trans) : Plain trans mask part view rollback
  | memory {α : Type} (look : κ → α) (update : κ → κ) (events : List ε) (keeps : ∀ m, view (update m) = view m) :
      Plain trans mask part view (.step (fun s => { s with mem := update s.mem }) (fun _ => events) fun s => look s.mem)

section Plain
variable {trans : Prop} {mask : ι → τ → τ} {part : τ → ρ} {view : κ → μ} {α β : Type} {p : Prog (Store τ κ) ε α}

theorem plain_query {failed : α} {answer : τ → α} (blind : ∀ i t, answer (mask i t) = answer t) :
    Plain trans mask part view (query failed answer : Prog (Store τ κ) ε α) := .statement blind (fun _ _ => rfl) fun _ => rfl

theorem plain_execute {effect : τ → τ} (commutes : ∀ i t, effect (mask i t) = mask i (effect t))
    (apart : ∀ t, part (effect t) = part t) : Plain trans mask part view (execute effect : Prog (Store τ κ) ε Bool) :=
  .statement (fun _ _ => rfl) commutes apart

theorem plain_peek (look : κ → α) : Plain trans mask part view (peek look : Prog (Store τ κ) ε α) :=
  .memory look id [] fun _ => rfl

theorem plain_emits (events : List ε) : Plain trans mask part view (.emits fun _ => events : Prog (Store τ κ) ε Unit) :=
  .memory (fun _ => ()) id events fun _ => rfl

theorem plain_modify {update : κ → κ} (keeps : ∀ m, view (update m) = view m) :
    Plain trans mask part view (modify update : Prog (Store τ κ) ε Unit) := .memory (fun _ => ()) update [] keeps

theorem plain_ite {c : Prop} [Decidable c] {p q : Prog (Store τ κ) ε α} (yes : Plain trans mask part view p)
    (no : Plain trans mask part view q) : Plain trans mask part view (if c then p else q) := by
  split
  · exact yes
  · exact no

theorem plain_forEach {items : List β} {body : β → Prog (Store τ κ) ε Unit} (each : ∀ item, Plain trans mask part view (body item)) :
    Plain trans mask part view (.forEach items body) := by
  induction items with
  | nil => exact .ret ()
  | cons item rest ih => exact .bind (each item) fun _ => ih

/-- A step that may fail, with what is done then. -/
theorem plain_check {q : Prog (Store τ κ) ε Bool} {stop rest : Prog (Store τ κ) ε α} (first : Plain trans mask part view q)
    (stops : Plain trans mask part view stop) (goes : Plain trans mask part view rest) :
    Plain trans mask part view (do if !(← q) then stop else rest) :=
  .bind first fun _ => plain_ite stops goes

/-- A step that may find nothing, with what is done then. -/
theorem plain_lookup {q : Prog (Store τ κ) ε (Option β)} {rest : Option β → Prog (Store τ κ) ε α}
    (first : Plain trans mask part view q) (without : Plain trans mask part view (rest none))
    (there : ∀ b, Plain trans mask part view (rest (some b))) : Plain trans mask part view (q >>= rest) := by
  refine .bind first fun result => ?_
  cases result with
  | none => exact without
  | some b => exact there b

/-- Behind a mask the program runs as it does without. -/
theorem Plain.twins {fits : ρ → Prop} {seen : μ} {R : ε → ε → Prop} (reflexive : ∀ e, R e e)
    (plain : Plain trans mask part view p) (i : ι) : Twins (Twin (mask i) part fits view seen) Eq R p p := by
  induction plain with
  | ret value => exact twins_ret rfl
  | bind first rest ihFirst ihRest =>
    refine twins_bind ihFirst fun a b same => ?_
    rw [same]
    exact ihRest b
  | atomic whole ih => exact twins_atomic ih
  | statement blind commutes apart =>
    refine twins_statement rfl (fun t t' alike _ => ?_) (fun t t' alike => ?_) fun t keeps => ?_
    · rw [← blind i t, alike, blind i t']
    · rw [← commutes, alike, commutes]
    · rwa [apart]
  | beginTransaction allowed => exact twins_begin
  | commit allowed => exact twins_commit
  | rollback allowed => exact twins_rollback
  | memory look update events keeps =>
    exact twins_memory look update (List.forall₂_same.mpr fun e _ => reflexive e) keeps

/-- What is not written and what is left alone can be made less. -/
theorem Plain.weaken {ρ' μ' : Type} {trans' : Prop} (plain : Plain trans mask part view p) (f : ρ → ρ') (g : μ → μ')
    (allows : trans → trans') : Plain trans' mask (fun t => f (part t)) (fun m => g (view m)) p := by
  induction plain with
  | ret value => exact .ret value
  | bind first rest ihFirst ihRest => exact .bind ihFirst ihRest
  | atomic whole ih => exact .atomic ih
  | statement blind commutes apart => exact .statement blind commutes fun t => congrArg f (apart t)
  | beginTransaction allowed => exact .beginTransaction (allows allowed)
  | commit allowed => exact .commit (allows allowed)
  | rollback allowed => exact .rollback (allows allowed)
  | memory look update events keeps => exact .memory look update events fun m => congrArg g (keeps m)

/-- No action changes the view. -/
theorem Plain.keepsView (plain : Plain trans mask part view p) :
    p.Every fun update _ => ∀ s, view (update s).mem = view s.mem := by
  induction plain with
  | ret value => trivial
  | bind first rest ihFirst ihRest => exact Prog.every_bind ihFirst ihRest
  | @atomic α p whole ih =>
    have refl : Std.Refl fun a b : Store τ κ => view b.mem = view a.mem := ⟨fun _ => rfl⟩
    have trans : IsTrans (Store τ κ) fun a b => view b.mem = view a.mem := ⟨fun _ _ _ first second => second.trans first⟩
    exact Prog.every_step fun s => Prog.every_run (fun a b => view b.mem = view a.mem) (fun _ _ keeps => keeps) ih s
  | statement blind commutes apart =>
    refine Prog.every_step fun s => ?_
    split <;> rfl
  | beginTransaction allowed =>
    refine Prog.every_step fun s => ?_
    split <;> rfl
  | commit allowed =>
    refine Prog.every_step fun s => ?_
    split <;> rfl
  | rollback allowed =>
    refine Prog.every_step fun s => ?_
    split <;> rfl
  | memory look update events keeps => exact Prog.every_step fun s => keeps s.mem

theorem Plain.run_view (plain : Plain trans mask part view p) (s : Store τ κ) : view (p.run s).state.mem = view s.mem := by
  have refl : Std.Refl fun a b : Store τ κ => view b.mem = view a.mem := ⟨fun _ => rfl⟩
  have trans : IsTrans (Store τ κ) fun a b => view b.mem = view a.mem := ⟨fun _ _ _ first second => second.trans first⟩
  exact Prog.every_run (fun a b => view b.mem = view a.mem) (fun _ _ keeps => keeps) plain.keepsView s

/-- Outside of a transaction the part stays as it is. -/
theorem Plain.run_part (plain : Plain trans mask part view p) (i : ι) {s : Store τ κ} (closed : s.saved = none) :
    part (p.run s).state.tables = part s.tables := by
  have same : Twin (mask i) part (· = part s.tables) view (view s.mem) s s :=
    ⟨rfl, rfl, by simp [closed], rfl⟩
  exact (plain.twins (R := Eq) (fun _ => rfl) i s s same).2.1.kept

/-- Without transaction statements the part and the tables to go back to stay as they are, in a
    transaction and outside of one. -/
theorem Plain.keepsPart (plain : Plain False mask part view p) (s : Store τ κ) :
    part (p.run s).state.tables = part s.tables ∧ (p.run s).state.saved = s.saved := by
  induction plain generalizing s with
  | ret value => exact ⟨rfl, rfl⟩
  | bind first rest ihFirst ihRest =>
    obtain ⟨kept, saved⟩ := ihFirst s
    obtain ⟨kept', saved'⟩ := ihRest _ (Prog.run _ s).state
    rw [Prog.run_bind]
    exact ⟨kept'.trans kept, saved'.trans saved⟩
  | atomic whole ih =>
    rw [Prog.run_atomic]
    exact ih s
  | statement blind commutes apart =>
    rw [run_statement]
    split
    · exact ⟨rfl, rfl⟩
    · exact ⟨apart s.tables, rfl⟩
  | beginTransaction allowed | commit allowed | rollback allowed => exact allowed.elim
  | memory look update events keeps => exact ⟨rfl, rfl⟩

/-- Without transaction statements the open transaction stays as it is. -/
theorem Plain.outside (plain : Plain False mask part view p) : Outside p := by
  induction plain with
  | ret value => exact outside_ret value
  | bind first rest ihFirst ihRest => exact outside_bind ihFirst ihRest
  | atomic whole ih => exact outside_atomic ih
  | statement blind commutes apart => exact outside_statement _ _ _
  | beginTransaction allowed | commit allowed | rollback allowed => exact allowed.elim
  | memory look update events keeps => exact outside_memory _ _ _

end Plain
end NovaIIM.Store
