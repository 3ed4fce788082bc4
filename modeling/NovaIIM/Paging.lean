import Mathlib.Data.List.Sort
import Mathlib.Order.Lattice

/-!
Reading a growing collection in pages.

The items of a collection have places in a linear order, and a reader sees
reports of them (`Feed`). A page behind a place holds reports of the items that
follow it, without a gap (`Segment`); the page a sorted query with a limit
answers is in addition ascending and as long as it can be (`IsPage`). A reader
goes on from the greatest key it has received. It then has received every item
up to its cursor (`Covers`): a page preserves that, and so does every change of
the collection that brings no item at or before the cursor.
-/
namespace NovaIIM

/-- Items `α` with their places, and reports `β` of them. -/
structure Feed (α β κ : Type) where
  place : α → κ
  key : β → κ
  Reports : α → β → Prop
  key_eq : ∀ {a b}, Reports a b → key b = place a

/-- How far a reader has got. -/
structure Reader (β κ : Type) where
  cursor : κ
  received : List β := []
  more : Bool := true

namespace Feed
variable {α β κ : Type} [LinearOrder κ] (F : Feed α β κ)

/-- The reports leave out no item between a place and their last one. -/
structure Segment (stored : α → Prop) (after : κ) (page : List β) : Prop where
  behind : ∀ b ∈ page, after < F.key b
  gapless : ∀ a, stored a → after < F.place a →
    (∃ b ∈ page, F.Reports a b) ∨ ∀ b ∈ page, F.key b < F.place a

/-- The first items behind a place, at most `limit` of them. -/
structure IsPage (stored : α → Prop) (after : κ) (limit : Nat) (page : List β) : Prop
    extends F.Segment stored after page where
  ascending : page.Pairwise fun a b => F.key a < F.key b
  genuine : ∀ b ∈ page, ∃ a, stored a ∧ F.Reports a b
  /-- only the limit ends a page -/
  full : page.length < limit → ∀ a, stored a → after < F.place a → ∃ b ∈ page, F.Reports a b

/-- Everything behind `start` and up to the cursor has been received. -/
structure Covers (stored : α → Prop) (start : κ) (r : Reader β κ) : Prop where
  began : start ≤ r.cursor
  behind : ∀ b ∈ r.received, start < F.key b ∧ F.key b ≤ r.cursor
  complete : ∀ a, stored a → start < F.place a → F.place a ≤ r.cursor → ∃ b ∈ r.received, F.Reports a b

/-- The reader takes a page in, and goes on behind the greatest key so far. -/
def absorb (r : Reader β κ) (page : List β) (more : Bool) : Reader β κ where
  cursor := page.foldl (fun c b => max c (F.key b)) r.cursor
  received := r.received ++ page
  more := more

/-- The items behind a place in ascending order. -/
def ordered (after : κ) (items : List α) : List α :=
  (items.filter fun a => after < F.place a).insertionSort fun a b => F.place a ≤ F.place b

/-- The reports that a query with a limit answers with. -/
def query (report : α → β) (after : κ) (limit : Nat) (items : List α) : List β :=
  ((F.ordered after items).take limit).map report

variable {F}

/-! ### The cursor -/

private theorem le_cursor (page : List β) (c : κ) : c ≤ page.foldl (fun c b => max c (F.key b)) c := by
  induction page generalizing c with
  | nil => exact le_rfl
  | cons b rest ih => exact (le_max_left _ _).trans (ih _)

private theorem key_le_cursor {page : List β} (c : κ) {b : β} (inside : b ∈ page) :
    F.key b ≤ page.foldl (fun c b => max c (F.key b)) c := by
  induction page generalizing c with
  | nil => simp at inside
  | cons first rest ih =>
    obtain rfl | later := List.mem_cons.mp inside
    · exact (le_max_right _ _).trans (le_cursor rest _)
    · exact ih _ later

/-- The cursor stays, or is the key of a report. -/
private theorem cursor_cases (page : List β) (c : κ) :
    page.foldl (fun c b => max c (F.key b)) c = c ∨
      ∃ b ∈ page, F.key b = page.foldl (fun c b => max c (F.key b)) c := by
  induction page generalizing c with
  | nil => exact .inl rfl
  | cons b rest ih =>
    obtain same | ⟨b', inside, key⟩ := ih (max c (F.key b))
    · obtain up | stays := le_total c (F.key b)
      · exact .inr ⟨b, List.mem_cons_self, by rw [List.foldl_cons, same, max_eq_right up]⟩
      · exact .inl (by rw [List.foldl_cons, same, max_eq_left stays])
    · exact .inr ⟨b', List.mem_cons_of_mem _ inside, key⟩

theorem cursor_le_absorb (r : Reader β κ) (page : List β) (more : Bool) :
    r.cursor ≤ (F.absorb r page more).cursor := le_cursor page r.cursor

theorem cursor_absorb (r : Reader β κ) (page : List β) (more : Bool) :
    (F.absorb r page more).cursor = r.cursor ∨ ∃ b ∈ page, F.key b = (F.absorb r page more).cursor :=
  cursor_cases page r.cursor

/-! ### The invariant -/

section Covers
variable {stored stored' : α → Prop} {start after : κ} {r : Reader β κ} {page : List β} {limit : Nat}

theorem covers_start (start : κ) : F.Covers stored start { cursor := start } :=
  ⟨le_rfl, by simp, fun _ _ behind upTo => absurd behind (not_lt.mpr upTo)⟩

/-- A page from no further than the cursor is taken in. -/
theorem Covers.absorb (covers : F.Covers stored start r) (from_ : start ≤ after) (upTo : after ≤ r.cursor)
    (segment : F.Segment stored after page) (more : Bool) : F.Covers stored start (F.absorb r page more) := by
  refine ⟨covers.began.trans (le_cursor page _), fun b inside => ?_, fun a there behind le => ?_⟩
  · obtain before | new := List.mem_append.mp inside
    · obtain ⟨low, high⟩ := covers.behind b before
      exact ⟨low, high.trans (le_cursor page _)⟩
    · exact ⟨from_.trans_lt (segment.behind b new), key_le_cursor _ new⟩
  obtain old | new := le_or_gt (F.place a) r.cursor
  · obtain ⟨b, inside, reports⟩ := covers.complete a there behind old
    exact ⟨b, List.mem_append_left _ inside, reports⟩
  · obtain ⟨b, inside, reports⟩ | above := segment.gapless a there (upTo.trans_lt new)
    · exact ⟨b, List.mem_append_right _ inside, reports⟩
    -- an item behind the whole page is behind the new cursor as well
    obtain same | ⟨b, inside, key⟩ := cursor_cases page r.cursor
    · exact absurd new (not_lt.mpr (le.trans same.le))
    · exact absurd (above b inside) (not_lt.mpr (le.trans key.ge))

/-- A change that brings no item at or before the cursor. -/
theorem Covers.change (covers : F.Covers stored start r)
    (known : ∀ a', stored' a' → start < F.place a' → F.place a' ≤ r.cursor →
      ∃ a, stored a ∧ F.place a = F.place a' ∧ ∀ b, F.Reports a b → F.Reports a' b) :
    F.Covers stored' start r := by
  refine ⟨covers.began, covers.behind, fun a' there behind upTo => ?_⟩
  obtain ⟨a, before, same, reports⟩ := known a' there behind upTo
  obtain ⟨b, inside, reported⟩ := covers.complete a before (same ▸ behind) (same ▸ upTo)
  exact ⟨b, inside, reports b reported⟩

/-- Pages behind the cursor keep the reports in ascending order. -/
theorem ascending_absorb (covers : F.Covers stored start r)
    (ascending : r.received.Pairwise fun a b => F.key a < F.key b)
    (isPage : F.IsPage stored r.cursor limit page) (more : Bool) :
    (F.absorb r page more).received.Pairwise fun a b => F.key a < F.key b :=
  List.pairwise_append.mpr ⟨ascending, isPage.ascending, fun a before b new =>
    (covers.behind a before).2.trans_lt (isPage.behind b new)⟩

/-- After a page that the limit did not end, nothing is left behind the cursor. -/
theorem nothing_left (isPage : F.IsPage stored after limit page) (upTo : after ≤ r.cursor)
    (short : page.length < limit) (more : Bool) :
    ∀ a, stored a → F.place a ≤ (F.absorb r page more).cursor := by
  intro a there
  obtain old | new := le_or_gt (F.place a) r.cursor
  · exact old.trans (le_cursor page _)
  · obtain ⟨b, inside, reports⟩ := isPage.full short a there (upTo.trans_lt new)
    exact (F.key_eq reports).ge.trans (key_le_cursor _ inside)

end Covers

/-! ### The query -/

theorem mem_ordered {after : κ} {items : List α} {a : α} :
    a ∈ F.ordered after items ↔ a ∈ items ∧ after < F.place a := by
  simp [ordered]

theorem ordered_ascending {items : List α} (apart : items.Pairwise fun a b => F.place a ≠ F.place b) (after : κ) :
    (F.ordered after items).Pairwise fun a b => F.place a < F.place b := by
  have total : Std.Total fun a b : α => F.place a ≤ F.place b := ⟨fun a b => le_total _ _⟩
  have trans : IsTrans α fun a b => F.place a ≤ F.place b := ⟨fun a b c => le_trans⟩
  have symm : ∀ {a b : α}, F.place a ≠ F.place b → F.place b ≠ F.place a := Ne.symm
  have different := ((List.perm_insertionSort (fun a b : α => F.place a ≤ F.place b) _).pairwise_iff symm).mpr
    (apart.filter fun a => after < F.place a)
  exact (List.pairwise_insertionSort _ _).imp₂ (fun _ _ le ne => lt_of_le_of_ne le ne) different

/-- On items of different places the query answers with a page. -/
theorem isPage_query {report : α → β} (faithful : ∀ a, F.Reports a (report a)) {items : List α}
    (apart : items.Pairwise fun a b => F.place a ≠ F.place b) (after : κ) (limit : Nat) :
    F.IsPage (· ∈ items) after limit (F.query report after limit items) := by
  have key : ∀ a, F.key (report a) = F.place a := fun a => F.key_eq (faithful a)
  have ascending := ordered_ascending apart after
  refine ⟨⟨fun b inside => ?_, fun a there later => ?_⟩, ?_, fun b inside => ?_, fun short a there later => ?_⟩
  · obtain ⟨a, taken, rfl⟩ := List.mem_map.mp inside
    exact key a ▸ (mem_ordered.mp (List.mem_of_mem_take taken)).2
  · have found : a ∈ F.ordered after items := mem_ordered.mpr ⟨there, later⟩
    rw [← List.take_append_drop limit (F.ordered after items)] at found ascending
    obtain taken | left := List.mem_append.mp found
    · exact .inl ⟨report a, List.mem_map_of_mem taken, faithful a⟩
    · refine .inr fun b inside => ?_
      obtain ⟨first, taken, rfl⟩ := List.mem_map.mp inside
      exact key first ▸ (List.pairwise_append.mp ascending).2.2 first taken a left
  · exact ascending.take.map _ fun a b less => (key a).trans_lt (less.trans_eq (key b).symm)
  · obtain ⟨a, taken, rfl⟩ := List.mem_map.mp inside
    exact ⟨a, (mem_ordered.mp (List.mem_of_mem_take taken)).1, faithful a⟩
  · rw [query, List.length_map, List.length_take] at short
    refine ⟨report a, List.mem_map_of_mem ?_, faithful a⟩
    rw [List.take_of_length_le (by omega)]
    exact mem_ordered.mpr ⟨there, later⟩

/-- A page whose limit is used up before a place does not reach the place. -/
theorem query_below {report : α → β} (faithful : ∀ a, F.Reports a (report a)) {items : List α}
    (apart : items.Pairwise fun a b => F.place a ≠ F.place b) {after bound : κ} {limit : Nat}
    (full : limit ≤ (items.filter fun a => after < F.place a ∧ F.place a < bound).length) :
    ∀ b ∈ F.query report after limit items, F.key b < bound := by
  intro b inside
  rcases List.mem_map.mp inside with ⟨a, taken, rfl⟩
  rw [F.key_eq (faithful a)]
  by_contra beyond
  have ascending := ordered_ascending apart after
  rw [← List.take_append_drop limit (F.ordered after items)] at ascending
  -- whatever the page leaves out is behind `a`, so all that is before the bound is in the page
  have left : ∀ x ∈ (F.ordered after items).drop limit, ¬F.place x < bound := by
    intro x dropped before
    have behind := (List.pairwise_append.mp ascending).2.2 a taken x dropped
    exact beyond (behind.trans before)
  have count : (items.filter fun a => after < F.place a ∧ F.place a < bound).length =
      (((F.ordered after items).take limit).filter fun a => F.place a < bound).length := by
    have all : (items.filter fun a => after < F.place a ∧ F.place a < bound).Perm
        ((F.ordered after items).filter fun a => F.place a < bound) := by
      have sorted := ((List.perm_insertionSort (fun a b : α => F.place a ≤ F.place b)
        (items.filter fun a => after < F.place a)).filter fun a => F.place a < bound).symm
      simpa [ordered, List.filter_filter, Bool.and_comm] using sorted
    have none : ((F.ordered after items).drop limit).filter (fun a => F.place a < bound) = [] :=
      List.filter_eq_nil_iff.mpr (by simpa using left)
    have parts : (F.ordered after items).filter (fun a => F.place a < bound) =
        ((F.ordered after items).take limit).filter (fun a => F.place a < bound) ++
          ((F.ordered after items).drop limit).filter fun a => F.place a < bound := by
      rw [← List.filter_append, List.take_append_drop]
    rw [all.length_eq, parts, none, List.append_nil]
  have shorter : (((F.ordered after items).take limit).filter fun a => F.place a < bound).length <
      ((F.ordered after items).take limit).length :=
    List.length_filter_lt_length_iff_exists.mpr ⟨a, taken, by simpa using beyond⟩
  have := List.length_take_le limit (F.ordered after items)
  omega

end Feed
end NovaIIM
