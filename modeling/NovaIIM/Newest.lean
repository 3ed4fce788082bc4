import Mathlib.Data.Finset.Max
import Mathlib.Data.Int.Interval

/-!
The greatest numbers of a finite set, and windows below an upper bound.

A reader that wants the `k` greatest numbers may look at the `k` places below a
bound instead. The two agree exactly if the window is full, or nothing lies
under it (`window_newest`).
-/
namespace NovaIIM

/-- One of the `k` greatest elements: fewer than `k` are greater. -/
def Newest (k : Nat) (S : Finset Int) (s : Int) : Prop :=
  s ∈ S ∧ (S.filter fun other => s < other).card < k

/-- The window of `k` places below a bound has no gap, or nothing lies under it. -/
def WindowFull (k : Nat) (S : Finset Int) (top : Int) : Prop :=
  ∀ s ∈ S, s ≤ top - k → ∀ place, top - k < place → place ≤ top → place ∈ S

section Windows
variable {k : Nat} {S : Finset Int} {top : Int}

/-- Few elements are above one that lies in the window. -/
private theorem newest_of_window (within : ∀ s ∈ S, s ≤ top) {s : Int} (inside : s ∈ S) (high : top - k < s) :
    Newest k S s := by
  refine ⟨inside, ?_⟩
  have above : S.filter (fun other => s < other) ⊆ Finset.Ioc s top := by
    intro other greater
    obtain ⟨there, more⟩ := Finset.mem_filter.mp greater
    exact Finset.mem_Ioc.mpr ⟨more, within other there⟩
  have few := Finset.card_le_card above
  rw [Int.card_Ioc] at few
  have := within s inside
  omega

/-- A full window is above whatever lies under it. -/
private theorem not_newest_of_full (full : ∀ place, top - k < place → place ≤ top → place ∈ S) {s : Int}
    (low : s ≤ top - k) : ¬Newest k S s := by
  rintro ⟨-, few⟩
  have above : Finset.Ioc (top - k) top ⊆ S.filter fun other => s < other := by
    intro other within
    obtain ⟨high, under⟩ := Finset.mem_Ioc.mp within
    exact Finset.mem_filter.mpr ⟨full other high under, low.trans_lt high⟩
  have many := Finset.card_le_card above
  rw [Int.card_Ioc] at many
  omega

/-- The greatest element under a window is one of the `k` greatest, unless the window is full. -/
private theorem full_of_greatest (within : ∀ s ∈ S, s ≤ top) {s : Int} (inside : s ∈ S)
    (greatest : ∀ other ∈ S, other ≤ top - k → other ≤ s) (old : ¬Newest k S s) :
    ∀ place, top - k < place → place ≤ top → place ∈ S := by
  have many : k ≤ (S.filter fun other => s < other).card := by
    by_contra few
    exact old ⟨inside, not_le.mp few⟩
  have above : S.filter (fun other => s < other) ⊆ Finset.Ioc (top - k) top := by
    intro other greater
    obtain ⟨there, more⟩ := Finset.mem_filter.mp greater
    have high : top - k < other := by
      by_contra under
      exact absurd (greatest other there (not_lt.mp under)) (not_le.mpr more)
    exact Finset.mem_Ioc.mpr ⟨high, within other there⟩
  have same : S.filter (fun other => s < other) = Finset.Ioc (top - k) top := by
    refine Finset.eq_of_subset_of_card_le above ?_
    rw [Int.card_Ioc]
    omega
  intro place high under
  have inside' : place ∈ S.filter fun other => s < other := same ▸ Finset.mem_Ioc.mpr ⟨high, under⟩
  exact (Finset.mem_filter.mp inside').1

/-- The window shows the `k` greatest elements exactly if it is full or nothing lies under it. -/
theorem window_newest (within : ∀ s ∈ S, s ≤ top) :
    (∀ s ∈ S, top - k < s ↔ Newest k S s) ↔ WindowFull k S top := by
  constructor
  · intro same s inside low
    let under := S.filter fun other => other ≤ top - k
    have some_ : under.Nonempty := ⟨s, Finset.mem_filter.mpr ⟨inside, low⟩⟩
    obtain ⟨there, low'⟩ := Finset.mem_filter.mp (under.max'_mem some_)
    refine full_of_greatest within there (fun other known less => ?_) ?_
    · exact under.le_max' other (Finset.mem_filter.mpr ⟨known, less⟩)
    · intro newest
      exact absurd ((same _ there).mpr newest) (not_lt.mpr low')
  · intro full s inside
    constructor
    · exact newest_of_window within inside
    · intro newest
      by_contra under
      have low := not_lt.mp under
      exact not_newest_of_full (full s inside low) low newest

end Windows
end NovaIIM
