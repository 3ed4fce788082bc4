import NovaIIM.Store

/-!
One statement of a program fails.

Under `failingAt n` the statement of number `n` fails and no other. `Carries` says what a
program makes of the tables, and how much of the failures to come it leaves behind; a
loop of statements leaves out one round.
-/
namespace NovaIIM.Store
open Prog
variable {τ κ ε α β : Type} {s : Store τ κ}

/-- Of the statements to come only that of number `n` fails. -/
def failingAt (n : Nat) : List Bool := List.replicate n false ++ [true]

@[simp] theorem failingAt_zero : failingAt 0 = [true] := rfl

@[simp] theorem failingAt_succ (n : Nat) : failingAt (n + 1) = false :: failingAt n := rfl

/-- Behind the statement that fails no other does, before it the count goes down. -/
theorem drop_failingAt (n k : Nat) : (failingAt n).drop k = if k ≤ n then failingAt (n - k) else [] := by
  induction n generalizing k with
  | zero => cases k <;> simp
  | succ n ih =>
    cases k with
    | zero => simp
    | succ k => simp [ih]

/-- The same rest of the process with other tables and other failures to come. -/
def resume (s : Store τ κ) (tables : τ) (faults : List Bool) : Store τ κ :=
  { s with tables := tables, faults := faults }

@[simp] theorem resume_tables (t : τ) (faults : List Bool) : (s.resume t faults).tables = t := rfl
@[simp] theorem resume_faults (t : τ) (faults : List Bool) : (s.resume t faults).faults = faults := rfl

@[simp] theorem resume_resume (t t' : τ) (faults faults' : List Bool) :
    (s.resume t faults).resume t' faults' = s.resume t' faults' := rfl

/-- A statement takes one entry; it works on the tables unless the entry fails. -/
theorem run_statement_resume (failed : α) (answer : τ → α) (effect : τ → τ) (t : τ) (faults : List Bool) :
    (statement failed answer effect : Prog (Store τ κ) ε α).run (s.resume t faults) =
      ⟨if faults.headD false then failed else answer t,
        s.resume (if faults.headD false then t else effect t) faults.tail, []⟩ := by
  rw [run_statement]
  have fault : (s.resume t faults).fails = faults.headD false := rfl
  rw [fault]
  split <;> rfl

/-- A program that goes from some tables and failures to come to others, and emits nothing. -/
def Carries (p : Prog (Store τ κ) ε α) (t : τ) (faults : List Bool) (t' : τ) (faults' : List Bool) : Prop :=
  ∀ s : Store τ κ, (p.run (s.resume t faults)).state = s.resume t' faults'

variable {p : Prog (Store τ κ) ε α} {f : α → Prog (Store τ κ) ε β} {t t' t'' : τ} {faults faults' faults'' : List Bool}

/-- The rest goes on from what is left, whatever was answered. -/
theorem Carries.bind (first : Carries p t faults t' faults')
    (rest : ∀ a, Carries (f a) t' faults' t'' faults'') : Carries (p >>= f) t faults t'' faults'' := by
  intro s
  rw [run_bind]
  exact (congrArg (fun u => ((f _).run u).state) (first s)).trans (rest _ s)

theorem carries_ret (value : α) : Carries (.ret value : Prog (Store τ κ) ε α) t faults t faults := fun _ => rfl

theorem carries_statement (failed : α) (answer : τ → α) (effect : τ → τ) :
    Carries (statement failed answer effect : Prog (Store τ κ) ε α) t faults
      (if faults.headD false then t else effect t) faults.tail := by
  intro s
  rw [run_statement_resume]

/-- A query answers from the tables, or as if it found nothing. -/
theorem carries_query {failed : α} {answer : τ → α}
    (rest : Carries (f (if faults.headD false then failed else answer t)) t faults.tail t' faults') :
    Carries (query failed answer >>= f) t faults t' faults' := by
  intro s
  rw [query, run_bind, run_statement_resume]
  simp only [id_eq, ite_self]
  exact rest s

section Loop
variable {body : β → Prog (Store τ κ) ε Unit} {effect : τ → β → τ}
  (each : ∀ item t faults, Carries (body item) t faults (if faults.headD false then t else effect t item) faults.tail)
include each

/-- A loop of statements, one for each element. -/
theorem carries_forEach_sound (items : List β) : ∀ t : τ, Carries (.forEach items body) t [] (items.foldl effect t) [] := by
  induction items with
  | nil => exact fun t => carries_ret ()
  | cons item items ih => exact fun t => (each item t []).bind fun _ => ih (effect t item)

/-- Under a single failure it leaves out one round, if it gets that far. -/
theorem carries_forEach (items : List β) : ∀ (t : τ) (n : Nat),
    Carries (.forEach items body) t (failingAt n) ((items.eraseIdx n).foldl effect t)
      ((failingAt n).drop items.length) := by
  induction items with
  | nil => exact fun t n => carries_ret ()
  | cons item items ih =>
    intro t n
    cases n with
    | zero =>
      have last : (failingAt 0).drop (item :: items).length = [] := by simp
      rw [last]
      exact (each item t [true]).bind fun _ => carries_forEach_sound each items t
    | succ n => exact (each item t (failingAt (n + 1))).bind fun _ => ih (effect t item) n

end Loop

end NovaIIM.Store
