import NovaIIM.Dao
import NovaIIM.Like
import NovaIIM.Utf8

/-!
The search for nicknames (`UserDaoImplT::SearchByNickname`; `ListUsers` escapes
its keyword with the same loop).

The database gets a pattern in bytes and matches it as characters. Escaping the
bytes is escaping the characters, since no byte of another character looks like a
sign (`escaped_encode`). So the pattern finds the nicknames that contain the
keyword (`likePattern_literal`), as the query of `searchByNickname` has it.
-/
namespace NovaIIM.UserDao
open Utf8

/-- The loop that escapes a keyword: `%`, `_` and the backslash get a backslash. -/
def escaped (keyword : Bytes) : Bytes :=
  keyword.flatMap fun c => if c = 37 ∨ c = 95 ∨ c = 92 then [92, c] else [c]

def likePattern (keyword : Bytes) : Bytes := 37 :: (escaped keyword ++ [37])

/-- The signs of `LIKE ? ESCAPE '\'`; the cases of ASCII letters are not told apart. -/
def signs : Like.Signs Char where
  many := '%'
  one := '_'
  escape := '\\'
  fold := Char.toLower

/-- `text LIKE pattern ESCAPE '\'`. -/
def sqlLike (pattern text : Bytes) : Bool :=
  match decode pattern, decode text with
  | some pattern, some text => Like.like signs pattern text
  | _, _ => false

/-- Valid UTF-8 without NUL. -/
def IsText (s : Bytes) : Prop := ∃ cs, '\x00' ∉ cs ∧ s = encode cs

/-- The bytes are escaped as the characters are. -/
theorem escaped_encode (cs : List Char) : escaped (encode cs) = encode (Like.escaped signs cs) := by
  refine encode_flatMap (by decide +kernel) ?_ ?_ cs
  · intro b high
    refine if_neg ?_
    rintro (rfl | rfl | rfl) <;> exact absurd high (by decide)
  · intro c other
    refine if_neg ?_
    rintro (rfl | rfl | rfl) <;> exact absurd other (by decide)

/-- The cases of the bytes are folded as those of the characters are. -/
theorem map_foldCase_encode (cs : List Char) : (encode cs).map foldCase = encode (cs.map Char.toLower) := by
  rw [List.map_eq_flatMap, List.map_eq_flatMap]
  refine encode_flatMap (by decide +kernel) ?_ ?_ cs
  · intro b high
    have upper : ¬b ≤ 90 := fun low => absurd (UInt8.le_trans high low) (by decide)
    simp [foldCase, upper]
  · intro c other
    have upper : ¬c.val ≤ 'Z'.val := fun low => absurd (UInt32.lt_of_lt_of_le other low) (by decide)
    have same : c.toLower = c := dif_neg fun range => upper range.2
    rw [same]

/-- The pattern of a text matches the texts in which it occurs. -/
theorem likePattern_encode (cs ds : List Char) : sqlLike (likePattern (encode cs)) (encode ds) = true ↔
    (encode cs).map foldCase <:+: (encode ds).map foldCase := by
  have pattern : likePattern (encode cs) = encode ('%' :: (Like.escaped signs cs ++ ['%'])) := by
    rw [likePattern, escaped_encode, encode_cons, encode_append]
    rfl
  calc sqlLike (likePattern (encode cs)) (encode ds) = true
      ↔ Like.like signs ('%' :: (Like.escaped signs cs ++ ['%'])) ds = true := by
        rw [pattern, sqlLike, decode_encode, decode_encode]
    _ ↔ cs.map Char.toLower <:+: ds.map Char.toLower := Like.like_contains (by decide) cs ds
    _ ↔ (encode cs).map foldCase <:+: (encode ds).map foldCase := by
        rw [map_foldCase_encode, map_foldCase_encode, encode_infix_iff]

/-- The pattern matches the nicknames in which the keyword occurs, whatever it consists of. -/
theorem likePattern_literal (keyword nickname : Bytes) (searched : IsText keyword) (named : IsText nickname) :
    sqlLike (likePattern keyword) nickname = true ↔ keyword.map foldCase <:+: nickname.map foldCase := by
  obtain ⟨cs, -, rfl⟩ := searched
  obtain ⟨ds, -, rfl⟩ := named
  exact likePattern_encode cs ds

theorem likePattern_literal_percent :
    IsText (ascii "5%") ∧ IsText (ascii "50") ∧
      (sqlLike (likePattern (ascii "5%")) (ascii "50") = true ↔ (ascii "5%").map foldCase <:+: (ascii "50").map foldCase) :=
  have searched : IsText (ascii "5%") := ⟨['5', '%'], by decide, by decide⟩
  have named : IsText (ascii "50") := ⟨['5', '0'], by decide, by decide⟩
  ⟨searched, named, likePattern_literal (ascii "5%") (ascii "50") searched named⟩

/-- The query of `searchByNickname` selects what LIKE does. -/
theorem searched_rows (keyword : Bytes) (searched : IsText keyword) (rows : List User)
    (named : ∀ r ∈ rows, IsText r.nickname) :
    (rows.filter fun r => decide (keyword.map foldCase <:+: r.nickname.map foldCase) && r.status ≠ .deleted) =
      rows.filter fun r => sqlLike (likePattern keyword) r.nickname && r.status ≠ .deleted := by
  refine List.filter_congr fun r row => ?_
  obtain ⟨cs, -, rfl⟩ := searched
  obtain ⟨ds, -, nickname⟩ := named r row
  rw [nickname, Bool.eq_iff_iff.mpr (decide_eq_true_iff.trans (likePattern_encode cs ds).symm)]

end NovaIIM.UserDao
