import NovaIIM.Runs

/-!
Objects: a state, and calls that answer and change it.

Two objects that answer every call alike in related states, and are related again
behind it, give the same answers to every sequence of calls (`Simulation.same_replies`).
-/
namespace NovaIIM
variable {σ σ' ι ο : Type}

/-- The answers to a sequence of calls. -/
def repliesTo (serve : σ → ι → ο × σ) : σ → List ι → List ο
  | _, [] => []
  | s, call :: calls => (serve s call).1 :: repliesTo serve (serve s call).2 calls

/-- The state that a sequence of calls leaves. -/
def leftBy (serve : σ → ι → ο × σ) (s : σ) (calls : List ι) : σ := after (fun s call => (serve s call).2) s calls

/-- Related states answer a call alike, and what is left of them is related. -/
def Simulation (related : σ → σ' → Prop) (serve : σ → ι → ο × σ) (serve' : σ' → ι → ο × σ') : Prop :=
  ∀ s s' call, related s s' → (serve s call).1 = (serve' s' call).1 ∧ related (serve s call).2 (serve' s' call).2

variable {serve : σ → ι → ο × σ} {serve' : σ' → ι → ο × σ'} {related : σ → σ' → Prop} {s : σ} {s' : σ'}

@[simp] theorem leftBy_nil : leftBy serve s [] = s := rfl

@[simp] theorem leftBy_cons (call : ι) (calls : List ι) :
    leftBy serve s (call :: calls) = leftBy serve (serve s call).2 calls := rfl

theorem Simulation.same_replies (simulation : Simulation related serve serve') (start : related s s') (calls : List ι) :
    repliesTo serve s calls = repliesTo serve' s' calls := by
  induction calls generalizing s s' with
  | nil => rfl
  | cons call calls ih =>
    obtain ⟨answer, next⟩ := simulation s s' call start
    rw [repliesTo, repliesTo, answer, ih next]

theorem Simulation.related_left (simulation : Simulation related serve serve') (start : related s s') (calls : List ι) :
    related (leftBy serve s calls) (leftBy serve' s' calls) := by
  induction calls generalizing s s' with
  | nil => exact start
  | cons call calls ih => exact ih (simulation s s' call start).2

end NovaIIM
