import Mathlib.Data.List.Infix

/-!
Patterns with wildcards, as LIKE of SQL has them.

A pattern is read as a list of tokens: a sign for any text, a sign for any one
character, and characters that stand for themselves, which a sign put in front of
them makes of every character (`tokens`). `Token.run` matches the tokens with a
text and tries all places where a wildcard can end. A text with that sign in front
of its special characters stands for itself (`tokens_escaped`), and between two
wildcards it is found exactly in the texts that contain it (`like_contains`).
-/
namespace NovaIIM.Like

/-- The signs of the patterns, and what makes two characters count as the same. -/
structure Signs (α : Type) where
  many : α
  one : α
  escape : α
  fold : α → α

inductive Token (α : Type) where
  | many
  | one
  | literal (c : α)

variable {α : Type} [DecidableEq α] (signs : Signs α)

/-- A character of a pattern that nothing is in front of. -/
def token (c : α) : Token α :=
  if c = signs.many then .many else if c = signs.one then .one else .literal c

/-- The tokens of a pattern; it must not end in the escape sign. -/
def tokens : List α → Option (List (Token α))
  | [] => some []
  | [c] => if c = signs.escape then none else some [token signs c]
  | c :: d :: rest =>
    if c = signs.escape then (tokens rest).map (.literal d :: ·)
    else (tokens (d :: rest)).map (token signs c :: ·)

/-- Whether tokens match a whole text. -/
def Token.run : List (Token α) → List α → Bool
  | [], text => text.isEmpty
  | .many :: rest, text => text.tails.any fun tail => run rest tail
  | .one :: rest, _ :: text => run rest text
  | .literal c :: rest, d :: text => signs.fold c = signs.fold d && run rest text
  | _ :: _, [] => false

/-- LIKE. -/
def like (pattern text : List α) : Bool :=
  match tokens signs pattern with
  | none => false
  | some tokens => Token.run signs tokens text

/-- A character with the escape sign in front of it where it is a sign itself. -/
def escapeChar (c : α) : List α :=
  if c = signs.many ∨ c = signs.one ∨ c = signs.escape then [signs.escape, c] else [c]

def escaped (text : List α) : List α := text.flatMap (escapeChar signs)

variable {signs}

theorem tokens_cons {c : α} (plain : c ≠ signs.escape) (rest : List α) :
    tokens signs (c :: rest) = (tokens signs rest).map (token signs c :: ·) := by
  cases rest with
  | nil => simp only [tokens, if_neg plain, Option.map_some]
  | cons d rest => rw [tokens, if_neg plain]

/-- A text that is escaped stands for itself. -/
theorem tokens_escaped (text rest : List α) :
    tokens signs (escaped signs text ++ rest) = (tokens signs rest).map (text.map .literal ++ ·) := by
  induction text with
  | nil => exact (Option.map_id_apply (x := tokens signs rest)).symm
  | cons c text ih =>
    have unfolded : escaped signs (c :: text) ++ rest = escapeChar signs c ++ (escaped signs text ++ rest) := by
      rw [escaped, List.flatMap_cons, List.append_assoc, escaped]
    have first : tokens signs (escapeChar signs c ++ (escaped signs text ++ rest)) =
        (tokens signs (escaped signs text ++ rest)).map (.literal c :: ·) := by
      unfold escapeChar
      split
      · rw [List.cons_append, List.singleton_append, tokens, if_pos rfl]
      · rename_i plain
        obtain ⟨many, one, escape⟩ := not_or.mp plain |>.imp_right not_or.mp
        rw [List.singleton_append, tokens_cons escape, token, if_neg many, if_neg one]
    rw [unfolded, first, ih, Option.map_map]
    rfl

/-- Characters followed by a wildcard match the texts that begin with them. -/
theorem run_literals (text : List α) (target : List α) :
    Token.run signs (text.map .literal ++ [.many]) target = true ↔ text.map signs.fold <+: target.map signs.fold := by
  induction text generalizing target with
  | nil =>
    refine iff_of_true ?_ List.nil_prefix
    show target.tails.any (Token.run signs []) = true
    exact List.any_eq_true.mpr ⟨[], (List.mem_tails _ _).mpr (List.nil_suffix), rfl⟩
  | cons c text ih =>
    cases target with
    | nil => simp [Token.run]
    | cons d target =>
      show (decide (signs.fold c = signs.fold d) && Token.run signs (text.map .literal ++ [.many]) target) = true ↔ _
      rw [Bool.and_eq_true, decide_eq_true_iff, ih, List.map_cons, List.map_cons, List.cons_prefix_cons]

/-- Between two wildcards an escaped text is found wherever it occurs. -/
theorem like_contains (apart : signs.many ≠ signs.escape) (text target : List α) :
    like signs (signs.many :: (escaped signs text ++ [signs.many])) target = true ↔
      text.map signs.fold <:+: target.map signs.fold := by
  have last : tokens signs [signs.many] = some [.many] := by rw [tokens, if_neg apart, token, if_pos rfl]
  have whole : tokens signs (signs.many :: (escaped signs text ++ [signs.many])) =
      some (.many :: (text.map .literal ++ [.many])) := by
    rw [tokens_cons apart, tokens_escaped, last, token, if_pos rfl, Option.map_some, Option.map_some]
  rw [like, whole]
  show (target.tails.any fun tail => Token.run signs (text.map .literal ++ [.many]) tail) = true ↔ _
  rw [List.any_eq_true, List.infix_iff_prefix_suffix]
  constructor
  · rintro ⟨tail, ends, found⟩
    exact ⟨_, (run_literals text tail).mp found, ((List.mem_tails _ _).mp ends).map signs.fold⟩
  · rintro ⟨folded, begins, before, is⟩
    obtain ⟨first, tail, rfl, -, rfl⟩ := List.map_eq_append_iff.mp is.symm
    exact ⟨tail, (List.mem_tails _ _).mpr ⟨first, rfl⟩, (run_literals text tail).mpr begins⟩

end NovaIIM.Like
