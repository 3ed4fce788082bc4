import NovaIIM.Rows
import NovaIIM.Runs

/-!
Tables of requests that are decided.

A row of such a table is about something that no update changes, and it is pending until it is
decided. `Decides` says what one step of a system may do to the table: ask, which adds a row,
and decide, which takes a pending row out of the pending ones. Along a run every row was asked
for, every decision was made while the row was pending, and a decided row stays as it is.
-/
namespace NovaIIM

variable {ρ β : Type} [Row ρ]

/-- One step on a table of requests: what is new was asked for, and what has changed was pending
    and was decided. -/
structure Decides (pending : ρ → Prop) (about : ρ → β) (asks decides : ρ → Prop) (t t' : Table ρ) : Prop where
  kept : ∀ r ∈ t.rows, ∃ r' ∈ t'.rows, Row.id r' = Row.id r ∧ about r' = about r ∧
    (r' = r ∨ pending r ∧ ¬pending r' ∧ decides r)
  new : ∀ r' ∈ t'.rows, (∃ r ∈ t.rows, Row.id r = Row.id r') ∨ pending r' ∧ asks r'

section Steps
variable {pending : ρ → Prop} {about : ρ → β} {asks decides : ρ → Prop} {t t' : Table ρ}

theorem decides_same (t : Table ρ) : Decides pending about asks decides t t :=
  ⟨fun r inside => ⟨r, inside, rfl, rfl, .inl rfl⟩, fun r inside => .inl ⟨r, inside, rfl⟩⟩

theorem decides_insert {r : ρ} (open_ : pending (t.fresh r)) (asked : asks (t.fresh r)) :
    Decides pending about asks decides t (t.insert r) := by
  refine ⟨fun old there => ⟨old, Table.mem_insert.mpr (.inl there), rfl, rfl, .inl rfl⟩, fun r' inside => ?_⟩
  rcases Table.mem_insert.mp inside with there | ⟨-, rfl⟩
  · exact .inl ⟨r', there, rfl⟩
  · exact .inr ⟨open_, asked⟩

/-- An update of one pending row. -/
theorem decides_update {selected : ρ → Bool} {change : RowUpdate ρ} {r : ρ} (known : r ∈ t.rows) (open_ : pending r)
    (only : ∀ a ∈ t.rows, selected a = true → a = r) (same : about (change.apply r) = about r)
    (closes : ¬pending (change.apply r)) (decided : decides r) :
    Decides pending about asks decides t (t.update selected change) := by
  constructor
  · intro a there
    refine ⟨_, Table.mem_update.mpr ⟨a, there, rfl⟩, ?_⟩
    by_cases chosen : selected a = true
    · obtain rfl := only a there chosen
      rw [if_pos chosen]
      exact ⟨change.same_id _, same, .inr ⟨open_, closes, decided⟩⟩
    · rw [if_neg chosen]
      exact ⟨rfl, rfl, .inl rfl⟩
  · intro a inside
    obtain ⟨old, there, rfl⟩ := Table.mem_update.mp inside
    refine .inl ⟨old, there, ?_⟩
    split
    · exact (change.same_id old).symm
    · rfl

end Steps

section Runs
variable {σ ι : Type} {step : σ → ι → σ} {meets : σ → ι → Prop} {pending : ρ → Prop} {about : ρ → β} {part : σ → Table ρ}
  {asks decides : σ → ι → ρ → Prop} {s : σ} {calls : List ι}

/-- Every call of a run under the condition asks and decides as said. -/
abbrev Deciding (step : σ → ι → σ) (meets : σ → ι → Prop) (pending : ρ → Prop) (about : ρ → β) (part : σ → Table ρ)
    (asks decides : σ → ι → ρ → Prop) : Prop :=
  ∀ s call, meets s call → Decides pending about (asks s call) (decides s call) (part s) (part (step s call))

/-- A row stays, with what it is about; one that is decided stays as it is. -/
theorem row_stays (deciding : Deciding step meets pending about part asks decides) (along : Along step meets s calls)
    {r : ρ} (inside : r ∈ (part s).rows) :
    ∃ r' ∈ (part (after step s calls)).rows, Row.id r' = Row.id r ∧ about r' = about r ∧ (pending r ∨ r' = r) := by
  induction calls generalizing s r with
  | nil => exact ⟨r, inside, rfl, rfl, .inr rfl⟩
  | cons call rest ih =>
    obtain ⟨next, there, id, same, moved⟩ := (deciding s call along.1).kept r inside
    obtain ⟨last, found, id', same', moved'⟩ := ih along.2 there
    refine ⟨last, found, id'.trans id, same'.trans same, ?_⟩
    rcases moved with rfl | ⟨open_, -, -⟩
    · exact moved'
    · exact .inl open_

/-- A row was there at the start of a run, or some call of it asked for the row. -/
def AskedFor (step : σ → ι → σ) (about : ρ → β) (part : σ → Table ρ) (asks : σ → ι → ρ → Prop) (s : σ) (calls : List ι)
    (r : ρ) : Prop :=
  (∃ old ∈ (part s).rows, Row.id old = Row.id r ∧ about old = about r) ∨
    ∃ sofar call rest, calls = sofar ++ call :: rest ∧ ∃ first, Row.id first = Row.id r ∧ about first = about r ∧
      asks (after step s sofar) call first

/-- A row was there at the start of a run, or some call of it decided the row while it was pending, and the row has
    stayed as it was decided. -/
def DecidedIn (step : σ → ι → σ) (pending : ρ → Prop) (about : ρ → β) (part : σ → Table ρ) (decides : σ → ι → ρ → Prop)
    (s : σ) (calls : List ι) (r : ρ) : Prop :=
  r ∈ (part s).rows ∨ ∃ sofar call rest, calls = sofar ++ call :: rest ∧
    (∃ old ∈ (part (after step s sofar)).rows, Row.id old = Row.id r ∧ about old = about r ∧ pending old ∧
      decides (after step s sofar) call old) ∧
    ∀ more, more <+: rest → r ∈ (part (after step s (sofar ++ call :: more))).rows

/-- A row of the end was there at the start or was asked for. -/
theorem row_asked (deciding : Deciding step meets pending about part asks decides) (along : Along step meets s calls)
    {r : ρ} (inside : r ∈ (part (after step s calls)).rows) :
    AskedFor step about part asks s calls r := by
  by_cases old : ∃ old ∈ (part s).rows, Row.id old = Row.id r
  · obtain ⟨old, there, same⟩ := old
    obtain ⟨last, found, id, kept, -⟩ := row_stays deciding along there
    obtain rfl : last = r := Table.eq_of_id found inside (id.trans same)
    exact .inl ⟨old, there, same, kept.symm⟩
  · obtain ⟨sofar, call, rest, rfl, before, since⟩ := @arises _ _ step (fun v => ∃ r' ∈ (part v).rows, Row.id r' = Row.id r)
      s calls old ⟨r, inside, rfl⟩
    obtain ⟨-, now, later⟩ := along_append.mp along
    obtain ⟨first, there, same⟩ := since [] List.nil_prefix
    rw [after_nil] at there
    refine .inr ⟨sofar, call, rest, rfl, first, same, ?_, ?_⟩
    · obtain ⟨last, found, id, kept, -⟩ := row_stays deciding later there
      rw [after_append, after_cons] at inside
      obtain rfl : last = r := Table.eq_of_id found inside (id.trans same)
      exact kept.symm
    · rcases (deciding _ call now).new first there with ⟨older, here, id⟩ | ⟨-, asked⟩
      · exact absurd ⟨older, here, id.trans same⟩ before
      · exact asked

/-- A row that is decided in the end was so at the start, or was decided on the way. -/
theorem row_decided (deciding : Deciding step meets pending about part asks decides) (along : Along step meets s calls)
    {r : ρ} (inside : r ∈ (part (after step s calls)).rows) (closed : ¬pending r) :
    DecidedIn step pending about part decides s calls r := by
  by_cases old : r ∈ (part s).rows
  · exact .inl old
  obtain ⟨sofar, call, rest, rfl, before, since⟩ := @arises _ _ step (fun v => r ∈ (part v).rows) s calls old inside
  obtain ⟨-, now, -⟩ := along_append.mp along
  have there := since [] List.nil_prefix
  rw [after_nil] at there
  refine .inr ⟨sofar, call, rest, rfl, ?_, fun more short => ?_⟩
  · rcases (deciding _ call now).new r there with ⟨older, here, id⟩ | ⟨open_, -⟩
    · obtain ⟨next, found, id', same, moved⟩ := (deciding _ call now).kept older here
      obtain rfl : next = r := Table.eq_of_id found there (id'.trans id)
      rcases moved with rfl | ⟨open_, -, decided⟩
      · exact absurd here before
      · exact ⟨older, here, id, same.symm, open_, decided⟩
    · exact absurd open_ closed
  · rw [after_append, after_cons]
    exact since more short

end Runs
end NovaIIM
