import Mathlib.Data.List.Basic
import Mathlib.Algebra.Group.Nat.Defs
import Mathlib.Algebra.Ring.Int.Defs
import NovaIIM.Types

/-!
JSON documents as `nlohmann::json` has them. The keys of an object are in their order.
-/
namespace NovaIIM

/-- A parsed document. A number is an integer or a double. -/
inductive Json where
  | null
  | bool (b : Bool)
  | integer (n : Int)
  | float (value : Rat)
  | string (s : Bytes)
  | array (items : List Json)
  | object (fields : List (Bytes × Json))

namespace Json

/-- The field of a key; other values than objects have none. -/
def field (key : Bytes) : Json → Option Json
  | object fields => (fields.find? fun f => f.1 = key).map Prod.snd
  | _ => none

/-- `value(key, default)`; a field that is no string raises an exception. -/
def value (key default_ : Bytes) (body : Json) : Option Bytes :=
  match body.field key with
  | none => some default_
  | some (string s) => some s
  | some _ => none

def string? : Json → Option Bytes
  | string s => some s
  | _ => none

def integer? : Json → Option Int
  | integer n => some n
  | _ => none

/-- The numbers of an `int64_t`. -/
def IsInt64 (n : Int) : Prop := -2 ^ 63 ≤ n ∧ n < 2 ^ 63

instance (n : Int) : Decidable (IsInt64 n) := inferInstanceAs (Decidable (_ ∧ _))

/-- `get<int64_t>()` of an integer. An unsigned one from `2 ^ 63` on wraps. -/
def int64? (j : Json) : Option Int := j.integer?.map fun n => n.bmod (2 ^ 64)

theorem isInt64_bmod (n : Int) : IsInt64 (n.bmod (2 ^ 64)) := by
  have below := @Int.bmod_lt n (2 ^ 64) (by decide)
  have above := @Int.le_bmod n (2 ^ 64) (by decide)
  unfold IsInt64
  omega

/-- A number that fits is stored as it is. -/
theorem bmod_of_isInt64 {n : Int} (fits : IsInt64 n) : n.bmod (2 ^ 64) = n := by
  obtain ⟨above, below⟩ := fits
  exact Int.bmod_eq_of_le (by omega) (by omega)

theorem filterMap_int64? {items : List Json} (fit : ∀ n ∈ items.filterMap integer?, IsInt64 n) :
    items.filterMap int64? = items.filterMap integer? := by
  refine List.filterMap_congr fun j inside => ?_
  rw [int64?]
  cases asked : j.integer? with
  | none => rfl
  | some n => exact congrArg some (bmod_of_isInt64 (fit n (List.mem_filterMap.mpr ⟨j, inside, asked⟩)))

def array? : Json → Option (List Json)
  | array items => some items
  | _ => none

/-- The strings of a field that is an array. -/
def strings? (key : Bytes) (body : Json) : Option (List Bytes) :=
  (body.field key).bind fun f => f.array?.map fun items => items.filterMap string?

end Json

end NovaIIM
