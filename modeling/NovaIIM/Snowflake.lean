import Mathlib.Data.Nat.Bitwise
import Mathlib.Data.List.Infix
import Mathlib.Algebra.Group.Nat.Defs
import Mathlib.Algebra.Ring.Int.Defs

/-!
The id generator (`core/snowflake.h`).

An id holds the milliseconds since `kEpoch` (41 bits), the node (10 bits) and a
sequence number (12 bits). A call reads the clock at least once and again while it
waits, so it takes its readings from the front of a list, and does not return when
the list ends first.
-/
namespace NovaIIM

def kNodeBits : Nat := 10
def kSequenceBits : Nat := 12
def kMaxNodeId : Nat := 1 <<< kNodeBits - 1
def kMaxSequence : Nat := 1 <<< kSequenceBits - 1
/-- 2024-01-01 00:00:00 UTC in milliseconds. -/
def kEpoch : Int := 1704067200000

/-- The generator of a node, with the time and the sequence number of its last id. -/
structure Snowflake where
  nodeId : Nat
  lastMs : Int := 0
  sequence : Nat := 0
  nodeId_le : nodeId ≤ kMaxNodeId
  sequence_le : sequence ≤ kMaxSequence := by decide
deriving DecidableEq, Repr

namespace Snowflake

/-- The constructor. -/
def new (nodeId : Int) : Except String Snowflake :=
  if inside : nodeId < 0 ∨ kMaxNodeId < nodeId then
    .error ("Snowflake node_id must be in [0, " ++ toString kMaxNodeId ++ "], got " ++ toString nodeId)
  else .ok { nodeId := nodeId.toNat, nodeId_le := by omega }

/-- The fields put together. -/
def assemble (now : Int) (nodeId sequence : Nat) : BitVec 64 :=
  BitVec.ofInt 64 (now - kEpoch) <<< (kNodeBits + kSequenceBits) ||| BitVec.ofNat 64 nodeId <<< kSequenceBits |||
    BitVec.ofNat 64 sequence

/-- `Snowflake::WaitNextMillis`: the first reading after a time, and the readings behind it. -/
def waitNextMillis (current : Int) : List Int → Option (Int × List Int)
  | [] => none
  | now :: readings => if now ≤ current then waitNextMillis current readings else some (now, readings)

/-- The generator after an id of this time and number. -/
def stamped (g : Snowflake) (now : Int) (sequence : Nat) (fits : sequence ≤ kMaxSequence) : Snowflake :=
  { g with lastMs := now, sequence := sequence, sequence_le := fits }

/-- The id of the last time and number. -/
def lastId (g : Snowflake) : BitVec 64 := assemble g.lastMs g.nodeId g.sequence

/-- The time and the number of the next id, and the readings that are left. -/
def advance (g : Snowflake) : List Int → Option (Snowflake × List Int)
  | [] => none
  | now :: readings =>
    -- a clock that moved backward has to catch up first
    let caughtUp := if now < g.lastMs then waitNextMillis g.lastMs readings else some (now, readings)
    caughtUp.bind fun (now, readings) =>
      if now = g.lastMs then
        if (g.sequence + 1) &&& kMaxSequence = 0 then
          (waitNextMillis now readings).map fun (now, readings) => (g.stamped now 0 (Nat.zero_le _), readings)
        else some (g.stamped now ((g.sequence + 1) &&& kMaxSequence) Nat.and_le_right, readings)
      else some (g.stamped now 0 (Nat.zero_le _), readings)

/-- `Snowflake::NextId`. -/
def nextId (g : Snowflake) (readings : List Int) : Option (BitVec 64 × Snowflake × List Int) :=
  (g.advance readings).map fun (g, readings) => (g.lastId, g, readings)

/-- The ids of a number of calls, each with the generator as the call left it. -/
def generate : Nat → Snowflake → List Int → List (BitVec 64 × Snowflake)
  | 0, _, _ => []
  | calls + 1, g, readings =>
    match g.nextId readings with
    | none => []
    | some (id, g, readings) => (id, g) :: generate calls g readings

/-- The time, the node and the sequence number that an id holds. -/
def decode (id : BitVec 64) : Int × Nat × Nat :=
  ((id >>> (kNodeBits + kSequenceBits)).toNat + kEpoch, ((id >>> kSequenceBits) &&& BitVec.ofNat 64 kMaxNodeId).toNat,
    (id &&& BitVec.ofNat 64 kMaxSequence).toNat)

/-- A time whose milliseconds since the epoch fit their field. -/
def InField (now : Int) : Prop := kEpoch < now ∧ now < kEpoch + 2 ^ 41

/-- A later time, or a later number of the same time. -/
def Before (g g' : Snowflake) : Prop := g.lastMs < g'.lastMs ∨ g.lastMs = g'.lastMs ∧ g.sequence < g'.sequence

variable {g g' : Snowflake} {now current : Int} {nodeId sequence calls : Nat} {readings rest : List Int}
  {id : BitVec 64}

/-! ### The fields -/

/-- The fields do not overlap, whatever the clock says. -/
theorem toNat_assemble (node_le : nodeId ≤ kMaxNodeId) (sequence_le : sequence ≤ kMaxSequence) :
    (assemble now nodeId sequence).toNat =
      (BitVec.ofInt 64 (now - kEpoch)).toNat % 2 ^ 42 * 2 ^ 22 + (nodeId * 2 ^ 12 + sequence) := by
  have node_lt : nodeId < 2 ^ 10 := Nat.lt_of_le_of_lt node_le (by decide)
  have sequence_lt : sequence < 2 ^ 12 := Nat.lt_of_le_of_lt sequence_le (by decide)
  have low : nodeId <<< 12 ||| sequence = nodeId * 2 ^ 12 + sequence := by
    rw [← Nat.shiftLeft_add_eq_or_of_lt sequence_lt, Nat.shiftLeft_eq]
  have low_lt : nodeId * 2 ^ 12 + sequence < 2 ^ 22 := by omega
  have shifted : nodeId <<< 12 % 2 ^ 64 = nodeId <<< 12 := by
    rw [Nat.shiftLeft_eq]
    omega
  have cut : ∀ t : Nat, t <<< 22 % 2 ^ 64 = (t % 2 ^ 42) <<< 22 := fun t => by
    rw [Nat.shiftLeft_eq, Nat.shiftLeft_eq]
    omega
  have node_fits : nodeId % 2 ^ 64 = nodeId := by omega
  have sequence_fits : sequence % 2 ^ 64 = sequence := by omega
  simp only [assemble, kNodeBits, kSequenceBits, BitVec.toNat_or, BitVec.toNat_shiftLeft, BitVec.toNat_ofNat,
    Nat.reduceAdd, node_fits, sequence_fits, shifted, cut]
  rw [Nat.or_assoc, low, ← Nat.shiftLeft_add_eq_or_of_lt low_lt, Nat.shiftLeft_eq]

/-- Inside its field the time is kept as it is. -/
theorem toNat_ofInt (inside : InField now) :
    ((BitVec.ofInt 64 (now - kEpoch)).toNat : Int) = now - kEpoch := by
  obtain ⟨after, before⟩ := inside
  rw [BitVec.toNat_ofInt]
  omega

theorem toNat_lastId (inside : InField g.lastMs) :
    (g.lastId.toNat : Int) = (g.lastMs - kEpoch) * 2 ^ 22 + (g.nodeId * 2 ^ 12 + g.sequence : Nat) := by
  have time := toNat_ofInt inside
  obtain ⟨after, before⟩ := inside
  rw [lastId, toNat_assemble g.nodeId_le g.sequence_le]
  omega

/-- The node can be read off every id. -/
theorem node_assemble (node_le : nodeId ≤ kMaxNodeId) (sequence_le : sequence ≤ kMaxSequence) :
    (assemble now nodeId sequence).toNat / 2 ^ 12 % 2 ^ 10 = nodeId := by
  have node_lt : nodeId < 2 ^ 10 := Nat.lt_of_le_of_lt node_le (by decide)
  have sequence_lt : sequence < 2 ^ 12 := Nat.lt_of_le_of_lt sequence_le (by decide)
  rw [toNat_assemble node_le sequence_le]
  omega

theorem positive_lastId (inside : InField g.lastMs) : 0 < g.lastId.toInt := by
  have value := toNat_lastId inside
  have node_le : g.nodeId ≤ 1023 := g.nodeId_le
  have sequence_le : g.sequence ≤ 4095 := g.sequence_le
  obtain ⟨after, before⟩ := inside
  rw [BitVec.toInt_eq_toNat_of_lt (by omega)]
  omega

/-- An id decodes to what it was made of. -/
theorem decode_lastId (inside : InField g.lastMs) : decode g.lastId = (g.lastMs, g.nodeId, g.sequence) := by
  have value := toNat_lastId inside
  have node_le : g.nodeId ≤ 1023 := g.nodeId_le
  have sequence_le : g.sequence ≤ 4095 := g.sequence_le
  obtain ⟨after, before⟩ := inside
  have mask : ∀ n k : Nat, n &&& (1 <<< k - 1) = n % 2 ^ k := fun n k => by
    rw [Nat.one_shiftLeft, Nat.and_two_pow_sub_one_eq_mod]
  have node_mask : kMaxNodeId % 2 ^ 64 = 1 <<< 10 - 1 := by decide
  have sequence_mask : kMaxSequence % 2 ^ 64 = 1 <<< 12 - 1 := by decide
  simp only [decode, kNodeBits, kSequenceBits, BitVec.toNat_ushiftRight, BitVec.toNat_and, BitVec.toNat_ofNat,
    node_mask, sequence_mask, mask, Nat.shiftRight_eq_div_pow, Prod.mk.injEq, Nat.reduceAdd]
  refine ⟨?_, ?_, ?_⟩ <;> omega

/-- Ids of one node come in the order of their times and numbers. -/
theorem lastId_lt (inside : InField g.lastMs) (inside' : InField g'.lastMs) (same : g'.nodeId = g.nodeId)
    (before : Before g g') : g.lastId.toInt < g'.lastId.toInt := by
  have value := toNat_lastId inside
  have value' := toNat_lastId inside'
  have node_le : g.nodeId ≤ 1023 := g.nodeId_le
  have sequence_le : g.sequence ≤ 4095 := g.sequence_le
  have sequence_le' : g'.sequence ≤ 4095 := g'.sequence_le
  obtain ⟨-, upper⟩ := inside
  obtain ⟨-, upper'⟩ := inside'
  rw [BitVec.toInt_eq_toNat_of_lt (by omega), BitVec.toInt_eq_toNat_of_lt (by omega)]
  obtain later | ⟨together, later⟩ := before <;> omega

/-! ### One call -/

/-- A wait ends with the first reading that is late enough. -/
theorem waitNextMillis_spec (found : waitNextMillis current readings = some (now, rest)) :
    current < now ∧ now ∈ readings ∧ rest ⊆ readings := by
  induction readings with
  | nil => cases found
  | cons first readings ih =>
    rw [waitNextMillis] at found
    split at found
    · obtain ⟨later, inside, behind⟩ := ih found
      exact ⟨later, .tail _ inside, List.Subset.trans behind (List.subset_cons_self ..)⟩
    · obtain ⟨rfl, rfl⟩ := found
      exact ⟨by omega, .head _, List.subset_cons_self ..⟩

theorem waitNextMillis_isSome : (waitNextMillis current readings).isSome ↔ ∃ now ∈ readings, current < now := by
  induction readings with
  | nil => simp [waitNextMillis]
  | cons first readings ih =>
    rw [waitNextMillis]
    split
    · rw [ih, List.exists_mem_cons_iff]
      constructor
      · exact .inr
      · rintro (late | found)
        · omega
        · exact found
    · exact iff_of_true rfl ⟨first, .head _, by omega⟩

/-- A call keeps the node, and its time is a reading that comes behind the last id or is
    the time of the last id with the next number. -/
theorem advance_spec (done : g.advance readings = some (g', rest)) :
    g'.nodeId = g.nodeId ∧ Before g g' ∧ g'.lastMs ∈ readings ∧ rest ⊆ readings := by
  cases readings with
  | nil => cases done
  | cons first readings =>
    rw [advance, Option.bind_eq_some_iff] at done
    obtain ⟨⟨now, left⟩, caughtUp, done⟩ := done
    have read : g.lastMs ≤ now ∧ now ∈ first :: readings ∧ left ⊆ first :: readings := by
      split at caughtUp
      · obtain ⟨later, inside, behind⟩ := waitNextMillis_spec caughtUp
        exact ⟨by omega, .tail _ inside, List.Subset.trans behind (List.subset_cons_self ..)⟩
      · obtain ⟨rfl, rfl⟩ := caughtUp
        exact ⟨by omega, .head _, List.subset_cons_self ..⟩
    obtain ⟨reached, inside, behind⟩ := read
    dsimp only at done
    split at done
    case isTrue same =>
      split at done
      · obtain ⟨⟨now', left'⟩, waited, done⟩ := Option.map_eq_some_iff.mp done
        obtain ⟨rfl, rfl⟩ := done
        obtain ⟨later, inside', behind'⟩ := waitNextMillis_spec waited
        exact ⟨rfl, .inl (same ▸ later), behind inside', List.Subset.trans behind' behind⟩
      case isFalse more =>
        obtain ⟨rfl, rfl⟩ := done
        have masked : (g.sequence + 1) &&& kMaxSequence = (g.sequence + 1) % 2 ^ 12 :=
          Nat.and_two_pow_sub_one_eq_mod (g.sequence + 1) 12
        have sequence_le : g.sequence ≤ 4095 := g.sequence_le
        refine ⟨rfl, .inr ⟨same.symm, ?_⟩, inside, behind⟩
        show g.sequence < (g.sequence + 1) &&& kMaxSequence
        omega
    case isFalse other =>
      obtain ⟨rfl, rfl⟩ := done
      exact ⟨rfl, .inl (by show g.lastMs < now; omega), inside, behind⟩

/-- A call returns once the clock has passed the time of the last id. -/
theorem nextId_isSome (passed : ∃ now ∈ readings, g.lastMs < now) : (g.nextId readings).isSome := by
  obtain _ | ⟨first, readings⟩ := readings
  · simp at passed
  rw [nextId, Option.isSome_map, advance]
  split
  case isTrue behind =>
    have waited : (waitNextMillis g.lastMs readings).isSome := by
      rw [waitNextMillis_isSome]
      obtain ⟨now, inside, late⟩ := passed
      obtain rfl | inside := List.mem_cons.mp inside
      · omega
      · exact ⟨now, inside, late⟩
    obtain ⟨⟨now, left⟩, found⟩ := Option.isSome_iff_exists.mp waited
    have later := (waitNextMillis_spec found).1
    have other : now ≠ g.lastMs := by omega
    simp only [found, Option.bind_some, other, if_false, Option.isSome_some]
  case isFalse =>
    simp only [Option.bind_some]
    split
    case isTrue same =>
      split
      · rw [Option.isSome_map, waitNextMillis_isSome]
        obtain ⟨now, inside, late⟩ := passed
        obtain rfl | inside := List.mem_cons.mp inside
        · omega
        · exact ⟨now, inside, same ▸ late⟩
      · rfl
    case isFalse => rfl

theorem nextId_spec (done : g.nextId readings = some (id, g', rest)) :
    id = g'.lastId ∧ g'.nodeId = g.nodeId ∧ Before g g' ∧ g'.lastMs ∈ readings ∧ rest ⊆ readings := by
  obtain ⟨⟨after, left⟩, advanced, same⟩ := Option.map_eq_some_iff.mp done
  obtain ⟨rfl, rfl, rfl⟩ := same
  exact ⟨rfl, advance_spec advanced⟩

/-! ### Runs -/

theorem Before.trans {g'' : Snowflake} (first : Before g g') (second : Before g' g'') : Before g g'' := by
  unfold Before at *
  omega

/-- Every id of a run is the last id of its generator, which comes behind the one at the start. -/
theorem of_mem_generate (made : (id, g') ∈ generate calls g readings) :
    id = g'.lastId ∧ g'.nodeId = g.nodeId ∧ Before g g' ∧ g'.lastMs ∈ readings := by
  induction calls generalizing g readings with
  | zero => cases made
  | succ calls ih =>
    rw [generate] at made
    split at made
    · cases made
    · next first g₁ rest returned =>
      obtain ⟨issued, node, before, inside, behind⟩ := nextId_spec returned
      obtain same | made := List.mem_cons.mp made
      · obtain ⟨rfl, rfl⟩ := same
        exact ⟨issued, node, before, inside⟩
      · obtain ⟨issued', node', before', inside'⟩ := ih made
        exact ⟨issued', node'.trans node, before.trans before', behind inside'⟩

theorem generate_sorted : (generate calls g readings).Pairwise fun first second => Before first.2 second.2 := by
  induction calls generalizing g readings with
  | zero => exact .nil
  | succ calls ih =>
    rw [generate]
    split
    · exact .nil
    · exact .cons (fun _ made => (of_mem_generate made).2.2.1) ih

theorem nodeId_new {nodeId : Int} (made : new nodeId = .ok g) : (g.nodeId : Int) = nodeId := by
  rw [new] at made
  split at made
  · cases made
  · next inside =>
    cases made
    show (nodeId.toNat : Int) = nodeId
    omega

/-- The ids of a generator increase, are positive and decode to the time, the node and the number
    they were made of, as long as the clock stays inside its field; and two nodes never make the
    same id, whatever their clocks say. -/
theorem ids_ordered_and_apart {nodeId : Int} (made : new nodeId = .ok g) :
    (∀ readings, (∀ now ∈ readings, InField now) → ∀ calls,
      ((generate calls g readings).Pairwise fun first second => first.1.toInt < second.1.toInt) ∧
        ∀ issued ∈ generate calls g readings, 0 < issued.1.toInt ∧
          (decode issued.1 = (issued.2.lastMs, g.nodeId, issued.2.sequence)) ∧
          issued.2.lastMs ∈ readings ∧ issued.2.sequence ≤ kMaxSequence) ∧
      ∀ other g', new other = .ok g' → other ≠ nodeId → ∀ calls readings calls' readings',
        ∀ issued ∈ generate calls g readings, ∀ issued' ∈ generate calls' g' readings', issued.1 ≠ issued'.1 := by
  refine ⟨fun readings inside calls => ⟨?_, fun issued drawn => ?_⟩, ?_⟩
  · refine generate_sorted.imp_of_mem fun {first second} drawn drawn' before => ?_
    obtain ⟨id, -, -, read⟩ := of_mem_generate drawn
    obtain ⟨id', -, -, read'⟩ := of_mem_generate drawn'
    have same : second.2.nodeId = first.2.nodeId :=
      (of_mem_generate drawn').2.1.trans (of_mem_generate drawn).2.1.symm
    rw [id, id']
    exact lastId_lt (inside _ read) (inside _ read') same before
  · obtain ⟨id, node, -, read⟩ := of_mem_generate drawn
    rw [id, ← node]
    exact ⟨positive_lastId (inside _ read), decode_lastId (inside _ read), read, issued.2.sequence_le⟩
  · intro other g' made' apart calls readings calls' readings' issued drawn issued' drawn' same
    obtain ⟨id, node, -, -⟩ := of_mem_generate drawn
    obtain ⟨id', node', -, -⟩ := of_mem_generate drawn'
    have field := @node_assemble issued.2.lastMs _ _ issued.2.nodeId_le issued.2.sequence_le
    have field' := @node_assemble issued'.2.lastMs _ _ issued'.2.nodeId_le issued'.2.sequence_le
    have equal : issued.2.nodeId = issued'.2.nodeId := by
      rw [← field, ← field']
      show issued.2.lastId.toNat / _ % _ = issued'.2.lastId.toNat / _ % _
      rw [← id, ← id', same]
    have here := nodeId_new made
    have there := nodeId_new made'
    omega

/-- Two ids of one millisecond and one after the clock has gone back, and a second node beside them. -/
theorem ids_ordered_and_apart_pair :
    (((generate 3 ⟨0, 0, 0, by decide, by decide⟩ [kEpoch + 5, kEpoch + 5, kEpoch + 2, kEpoch + 6]).map
        fun issued => decode issued.1) = [(kEpoch + 5, 0, 0), (kEpoch + 5, 0, 1), (kEpoch + 6, 0, 0)] ∧
      ((generate 3 ⟨0, 0, 0, by decide, by decide⟩ [kEpoch + 5, kEpoch + 5, kEpoch + 2, kEpoch + 6]).Pairwise
        fun first second => first.1.toInt < second.1.toInt)) ∧
      ∀ issued ∈ generate 3 ⟨0, 0, 0, by decide, by decide⟩ [kEpoch + 5, kEpoch + 5, kEpoch + 2, kEpoch + 6],
        ∀ issued' ∈ generate 1 ⟨1, 0, 0, by decide, by decide⟩ [kEpoch + 5], issued.1 ≠ issued'.1 := by
  have made : new 0 = .ok ⟨0, 0, 0, by decide, by decide⟩ := rfl
  have made' : new 1 = .ok ⟨1, 0, 0, by decide, by decide⟩ := rfl
  refine ⟨⟨by decide, ?_⟩, ?_⟩
  · exact ((ids_ordered_and_apart made).1 _ (by unfold InField; decide) 3).1
  · exact (ids_ordered_and_apart made).2 1 _ made' (by decide) 3 _ 1 _

end Snowflake
end NovaIIM
