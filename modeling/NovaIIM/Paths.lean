import Mathlib.Data.List.Infix

/-!
POSIX paths as bytes, and what they mean without a look at the file system.

A path is split at its slashes (`components`). Normalising drops the empty parts and
the single dots, and lets two dots take back the part in front of them; at the top
of an absolute path they mean nothing, and of a relative one they stay. A path that
is put together from a directory and a name without two dots as a part normalises to
the normal form of the directory with the parts of the name behind it
(`normalize_join`).
-/
namespace NovaIIM.Paths

/-- What stands between two slashes. -/
abbrev Part := List UInt8

def components (path : List UInt8) : List Part := path.splitOn 47

def dot : Part := [46]

def dotDot : Part := [46, 46]

/-- A path in normal form. -/
structure Normal where
  absolute : Bool
  parts : List Part
deriving DecidableEq, Repr

/-- The normal form so far and one more part. -/
def enter (absolute : Bool) (parts : List Part) (part : Part) : List Part :=
  if part = [] ∨ part = dot then parts
  else if part = dotDot then
    if parts = [] then if absolute then [] else [dotDot]
    else if parts.getLast? = some dotDot then parts ++ [dotDot]
    else parts.dropLast
  else parts ++ [part]

/-- Lexical normalisation. -/
def normalize (path : List UInt8) : Normal :=
  let absolute := path.head? == some 47
  ⟨absolute, (components path).foldl (enter absolute) []⟩

/-- The path leads from the root down these parts. -/
structure Leads (root path : Normal) (down : List Part) : Prop where
  absolute : path.absolute = root.absolute
  parts : path.parts = root.parts ++ down
  inside : dotDot ∉ down

/-- The path is the root or a path below it. -/
def Within (root path : Normal) : Prop := ∃ down, Leads root path down

/-- The path is a path below the root. -/
def Below (root path : Normal) : Prop := ∃ down, down ≠ [] ∧ Leads root path down

/-! ### Components -/

theorem components_plain {part : List UInt8} (plain : 47 ∉ part) : components part = [part] :=
  List.splitOn_eq_singleton_of_beq_eq_false fun _ inside => beq_false_of_ne fun same => plain (same ▸ inside)

theorem components_slash (first rest : List UInt8) :
    components (first ++ 47 :: rest) = components first ++ components rest :=
  List.splitOnP_append_cons first rest (beq_self_eq_true _)

theorem components_cons {c : UInt8} (plain : c ≠ 47) (path : List UInt8) :
    components (c :: path) = (components path).modifyHead (c :: ·) := by
  rw [components, List.splitOn_cons_eq_if_modifyHead, if_neg (by simpa using plain)]
  rfl

/-- The components of a path are parts of it. -/
theorem components_infix (path : List UInt8) :
    ∃ first rest, components path = first :: rest ∧ first <+: path ∧ ∀ part ∈ rest, part <:+: path := by
  induction path with
  | nil => exact ⟨[], [], rfl, List.prefix_refl _, List.forall_mem_nil _⟩
  | cons c path ih =>
    obtain ⟨first, rest, is, begins, others⟩ := ih
    by_cases slash : c = 47
    · subst slash
      refine ⟨[], first :: rest, ?_, List.nil_prefix, List.forall_mem_cons.mpr ⟨?_, ?_⟩⟩
      · rw [← is]
        exact components_slash [] path
      · exact begins.isInfix.trans (List.suffix_cons _ _).isInfix
      · exact fun part inside => (others part inside).trans (List.suffix_cons _ _).isInfix
    · refine ⟨c :: first, rest, ?_, List.cons_prefix_cons.mpr ⟨rfl, begins⟩, ?_⟩
      · rw [components_cons slash, is, List.modifyHead_cons]
      · exact fun part inside => (others part inside).trans (List.suffix_cons _ _).isInfix

theorem infix_of_component {path : List UInt8} {part : Part} (inside : part ∈ components path) : part <:+: path := by
  obtain ⟨first, rest, is, begins, others⟩ := components_infix path
  rw [is] at inside
  rcases List.mem_cons.mp inside with rfl | later
  · exact begins.isInfix
  · exact others part later

/-- What ends a path without a slash ends one of its components. -/
theorem component_ending (path : List UInt8) {ending : List UInt8} (plain : 47 ∉ ending) :
    ∃ part ∈ components (path ++ ending), ending <:+ part := by
  induction path with
  | nil => exact ⟨ending, by simp [components_plain plain], List.suffix_refl _⟩
  | cons c path ih =>
    obtain ⟨part, inside, ends⟩ := ih
    by_cases slash : c = 47
    · subst slash
      refine ⟨part, ?_, ends⟩
      show part ∈ components ([] ++ 47 :: (path ++ ending))
      rw [components_slash]
      exact List.mem_append_right _ inside
    · rw [List.cons_append, components_cons slash]
      obtain ⟨first, rest, is, -⟩ := components_infix (path ++ ending)
      rw [is] at inside ⊢
      rw [List.modifyHead_cons]
      rcases List.mem_cons.mp inside with rfl | later
      · exact ⟨c :: part, List.mem_cons_self, ends.trans (List.suffix_cons _ _)⟩
      · exact ⟨part, List.mem_cons_of_mem _ later, ends⟩

/-! ### Normal forms -/

/-- Parts without two dots are put behind what is there. -/
theorem foldl_enter (absolute : Bool) {parts : List Part} (down : dotDot ∉ parts) (start : List Part) :
    parts.foldl (enter absolute) start = start ++ parts.filter fun part => part ≠ [] && part ≠ dot := by
  induction parts generalizing start with
  | nil => simp
  | cons part parts ih =>
    obtain ⟨other, rest⟩ := not_or.mp (List.mem_cons.not.mp down)
    rw [List.foldl_cons, ih rest, enter]
    by_cases skipped : part = [] ∨ part = dot
    · rw [if_pos skipped, List.filter_cons_of_neg]
      rcases skipped with rfl | rfl <;> decide
    · obtain ⟨named, single⟩ := not_or.mp skipped
      rw [if_neg skipped, if_neg (Ne.symm other), List.filter_cons_of_pos (by simp [named, single]),
        List.append_assoc, List.singleton_append]

/-- A name without two dots leads down from the directory. -/
theorem normalize_join {root name : List UInt8} (some_ : root ≠ []) (down : dotDot ∉ components name) :
    Leads (normalize root) (normalize (root ++ 47 :: name))
      ((components name).filter fun part => part ≠ [] && part ≠ dot) := by
  have absolute : (root ++ 47 :: name).head? = root.head? := List.head?_append_of_ne_nil _ some_
  refine ⟨?_, ?_, fun inside => down (List.mem_filter.mp inside).1⟩
  · simp only [normalize, absolute]
  · simp only [normalize, absolute]
    rw [components_slash, List.foldl_append, foldl_enter _ down]

end NovaIIM.Paths
