import NovaIIM.DecimalOrder
import NovaIIM.FileService
import NovaIIM.Paths

/-!
The paths of uploads (`FileService::HandleUpload`).

A number has no slash and no underscore (`decimalText_plain`), and the name is what
stands behind the last slash or backslash of the file name. So a path has three
components (`components_relPath`), and the first underscore of the last one ends the
id of the file, which tells the paths of different files apart (`relPath_id`).
-/
namespace NovaIIM.FileService
open Paths

/-- The file names that `HandleUpload` lets through. -/
structure AcceptedName (fileName : Bytes) : Prop where
  given : fileName ≠ []
  short : fileName.length ≤ 512
  named : safeName fileName ≠ []
  single : safeName fileName ≠ ascii "."
  double : safeName fileName ≠ ascii ".."

/-- The last component of a path. -/
def storedAs (fileId userId : Int) (name : Bytes) : Bytes :=
  decimalText fileId ++ 95 :: (decimalText userId ++ 95 :: name)

/-- A path `uploads/<date>/<id>_<user>_<name>` of three proper components. -/
structure WellFormed (seconds fileId userId : Int) (name path : Bytes) : Prop where
  form : path = ascii "uploads/" ++ Calendar.formatDate seconds ++ ascii "/" ++ storedAs fileId userId name
  three : components path = [ascii "uploads", Calendar.formatDate seconds, storedAs fileId userId name]
  proper : ∀ part ∈ components path, part ≠ [] ∧ part ≠ dot ∧ part ≠ dotDot
  plain : 47 ∉ storedAs fileId userId name ∧ 92 ∉ storedAs fileId userId name

/-! ### Numbers and names -/

theorem decimal_ne_nil (width : Nat) (n : Int) : Calendar.decimal width n ≠ [] := by
  intro none
  have digits := (List.append_eq_nil_iff.mp none).2
  exact Nat.toDigits_ne_nil (List.map_eq_nil_iff.mp digits)

/-- Digits and a minus sign are neither slashes nor underscores. -/
theorem decimalText_plain (n : Int) : 47 ∉ decimalText n ∧ 92 ∉ decimalText n ∧ 95 ∉ decimalText n := by
  have digit : ∀ (m : Int) (c : UInt8), c ∈ Calendar.decimal 0 m → c ≤ 57 ∧ c ≠ 47 := by
    intro m c inside
    obtain ⟨low, high⟩ := digits_decimal 0 m c inside
    refine ⟨high, ?_⟩
    rintro rfl
    exact absurd low (by decide)
  have sign : ∀ c ∈ decimalText n, c ≤ 57 ∧ c ≠ 47 := by
    intro c inside
    unfold decimalText at inside
    split at inside
    · rcases List.mem_cons.mp inside with rfl | inside
      · decide
      · exact digit _ c inside
    · exact digit _ c inside
  exact ⟨fun inside => (sign 47 inside).2 rfl, fun inside => absurd (sign 92 inside).1 (by decide),
    fun inside => absurd (sign 95 inside).1 (by decide)⟩

/-- A minus sign is no digit. -/
theorem decimal_not_minus {n : Int} {rest : Bytes} : Calendar.decimal 0 n ≠ 45 :: rest := by
  intro minus
  have digit := digits_decimal 0 n 45 (by rw [minus]; exact List.mem_cons_self)
  exact absurd digit.1 (by decide)

/-- Different numbers have different texts. -/
theorem decimalText_injective {n m : Int} (same : decimalText n = decimalText m) : n = m := by
  have value : ∀ {a b : Int}, 0 ≤ a → 0 ≤ b → Calendar.decimal 0 a = Calendar.decimal 0 b → a = b := by
    intro a b nonneg nonneg' same
    have values := congrArg digitsValue same
    rw [digitsValue_decimal, digitsValue_decimal] at values
    omega
  unfold decimalText at same
  split at same <;> split at same
  · have less := value (by omega) (by omega) (List.cons.inj same).2
    omega
  · exact absurd same.symm decimal_not_minus
  · exact absurd same decimal_not_minus
  · exact value (by omega) (by omega) same

theorem formatDate_digits (seconds : Int) : Digits (Calendar.formatDate seconds) :=
  ((digits_decimal _ _).append (digits_decimal _ _)).append (digits_decimal _ _)

theorem formatDate_ne_nil (seconds : Int) : Calendar.formatDate seconds ≠ [] :=
  fun none => decimal_ne_nil _ _ (List.append_eq_nil_iff.mp none).2

/-- The name has no slash and no backslash. -/
theorem safeName_plain (fileName : Bytes) : 47 ∉ safeName fileName ∧ 92 ∉ safeName fileName := by
  have kept : ∀ c ∈ safeName fileName, (c ≠ 47 && c ≠ 92) = true := fun c inside =>
    List.all_eq_true.mp List.all_takeWhile c (List.mem_reverse.mp inside)
  exact ⟨fun inside => absurd (kept 47 inside) (by decide), fun inside => absurd (kept 92 inside) (by decide)⟩

/-! ### Paths -/

section Paths
variable {seconds fileId userId : Int} {name : Bytes}

theorem relPath_form :
    relPath seconds fileId userId name =
      ascii "uploads/" ++ Calendar.formatDate seconds ++ ascii "/" ++ storedAs fileId userId name := by
  have underscore : ascii "_" = [95] := rfl
  simp only [relPath, storedAs, underscore, List.append_assoc, List.cons_append, List.nil_append]

theorem storedAs_plain {c : UInt8} (other : c ≠ 95) (id : c ∉ decimalText fileId) (user : c ∉ decimalText userId)
    (named : c ∉ name) : c ∉ storedAs fileId userId name := by
  simp [storedAs, other, id, user, named]

theorem components_relPath (plain : 47 ∉ name) :
    components (relPath seconds fileId userId name) =
      [ascii "uploads", Calendar.formatDate seconds, storedAs fileId userId name] := by
  have date : 47 ∉ Calendar.formatDate seconds := fun inside => absurd (formatDate_digits seconds 47 inside).1 (by decide)
  have last : 47 ∉ storedAs fileId userId name :=
    storedAs_plain (by decide) (decimalText_plain _).1 (decimalText_plain _).1 plain
  have parts : relPath seconds fileId userId name =
      ascii "uploads" ++ 47 :: (Calendar.formatDate seconds ++ 47 :: storedAs fileId userId name) := by
    have slash : ascii "/" = [47] := rfl
    have first : ascii "uploads/" = ascii "uploads" ++ [47] := rfl
    rw [relPath_form, slash, first]
    simp
  have begins : 47 ∉ ascii "uploads" := by decide
  rw [parts, components_slash, components_slash, components_plain begins, components_plain date, components_plain last]
  rfl

/-- The id is what stands in front of the first underscore. -/
theorem storedAs_id : (storedAs fileId userId name).takeWhile (· ≠ 95) = decimalText fileId := by
  have id : ∀ c ∈ decimalText fileId, decide (c ≠ 95) = true :=
    fun c inside => decide_eq_true fun underscore => (decimalText_plain fileId).2.2 (underscore ▸ inside)
  rw [storedAs, List.takeWhile_append_of_pos id, List.takeWhile_cons_of_neg (by decide), List.append_nil]

/-- The path says which file it belongs to. -/
theorem relPath_id {seconds' fileId' userId' : Int} {name' : Bytes} (plain : 47 ∉ name) (plain' : 47 ∉ name')
    (same : relPath seconds fileId userId name = relPath seconds' fileId' userId' name') : fileId = fileId' := by
  have parts := congrArg components same
  rw [components_relPath plain, components_relPath plain'] at parts
  have last : storedAs fileId userId name = storedAs fileId' userId' name' := by
    have third := congrArg (fun parts : List Part => parts.getLast?) parts
    exact Option.some.inj third
  refine decimalText_injective ?_
  rw [← @storedAs_id fileId userId name, last, storedAs_id]

end Paths

/-- The path of an accepted upload is well formed, and no two files have the same. -/
theorem uploadPaths :
    (∀ fileName, AcceptedName fileName → ∀ seconds fileId userId,
      WellFormed seconds fileId userId (safeName fileName) (relPath seconds fileId userId (safeName fileName))) ∧
      ∀ fileName fileName', AcceptedName fileName → AcceptedName fileName' →
        ∀ seconds seconds' fileId fileId' userId userId', fileId ≠ fileId' →
          relPath seconds fileId userId (safeName fileName) ≠ relPath seconds' fileId' userId' (safeName fileName') := by
  refine ⟨fun fileName _ seconds fileId userId => ?_, fun fileName fileName' _ _ _ _ _ _ _ _ apart same =>
    apart (relPath_id (safeName_plain _).1 (safeName_plain _).1 same)⟩
  obtain ⟨slash, backslash⟩ := safeName_plain fileName
  have three := @components_relPath seconds fileId userId _ slash
  refine ⟨relPath_form, three, fun part inside => ?_, ?_, ?_⟩
  · rw [three] at inside
    rcases List.mem_cons.mp inside with rfl | inside
    · decide
    rcases List.mem_cons.mp inside with rfl | inside
    · have digits := formatDate_digits seconds
      refine ⟨formatDate_ne_nil seconds, fun is => ?_, fun is => ?_⟩
      · exact absurd (digits 46 (by rw [is]; exact List.mem_cons_self)).1 (by decide)
      · exact absurd (digits 46 (by rw [is]; exact List.mem_cons_self)).1 (by decide)
    · rw [List.mem_singleton.mp inside]
      have underscore : 95 ∈ storedAs fileId userId (safeName fileName) := by simp [storedAs]
      refine ⟨fun none => ?_, fun is => ?_, fun is => ?_⟩
      · rw [none] at underscore
        exact absurd underscore (by decide)
      · rw [is] at underscore
        exact absurd underscore (by decide)
      · rw [is] at underscore
        exact absurd underscore (by decide)
  · exact storedAs_plain (by decide) (decimalText_plain _).1 (decimalText_plain _).1 slash
  · exact storedAs_plain (by decide) (decimalText_plain _).2.1 (decimalText_plain _).2.1 backslash

theorem uploadPaths_text :
    WellFormed 0 7 3 (safeName (ascii "a/b.txt")) (relPath 0 7 3 (safeName (ascii "a/b.txt"))) ∧
      relPath 0 7 3 (safeName (ascii "a/b.txt")) ≠ relPath 0 8 3 (safeName (ascii "a/b.txt")) :=
  have accepted : AcceptedName (ascii "a/b.txt") := ⟨by decide, by decide, by decide, by decide, by decide⟩
  ⟨uploadPaths.1 _ accepted 0 7 3, uploadPaths.2 _ _ accepted accepted 0 0 7 8 3 3 (by decide)⟩

end NovaIIM.FileService
