import Mathlib.Data.List.TakeWhile
import NovaIIM.FileServer
import NovaIIM.Utf8

/-!
The names of uploaded files (`IsPathSafe`, `IsExtensionAllowed` and the checks of
the routes in `file/file_server.cpp`).

An allowed extension stands behind the last dot and contains no slash
(`isExtensionAllowed_iff`), so the path of a file has one exactly if its name does
(`isExtensionAllowed_filepath`), and a name with one has a component that is neither
empty nor a dot. Names without two dots stay inside of the root (`below_root`). The
file that is opened ends at the first NUL of its name: the streaming route lets NUL
through, and what it opens then has the extension in front of the NUL
(`openedFile_allowed_iff`).
-/
namespace NovaIIM.FileServer
open Paths

/-! ### Parts of names -/

section Parts
variable {k : UInt8 → Bool} {s : Bytes}

theorem behindLast_plain : ∀ c ∈ behindLast k s, k c = false := by
  intro c inside
  have plain := List.mem_takeWhile_imp (List.mem_reverse.mp inside)
  simpa using plain

theorem behindLast_suffix : behindLast k s <:+ s := by
  have begins : (s.reverse.takeWhile fun c => !k c) <+: s.reverse := List.takeWhile_prefix _
  have ends := List.reverse_suffix.mpr begins
  rwa [List.reverse_reverse] at ends

/-- What is behind the last character of a kind begins behind one. -/
theorem behindLast_split (some_ : ∃ c ∈ s, k c = true) :
    ∃ stem c, s = stem ++ c :: behindLast k s ∧ k c = true := by
  obtain ⟨stem, is⟩ := behindLast_suffix (k := k) (s := s)
  have rest : s.reverse.dropWhile (fun c => !k c) = stem.reverse := by
    have whole := List.takeWhile_append_dropWhile (p := fun c => !k c) (l := s.reverse)
    have other : s.reverse = (s.reverse.takeWhile fun c => !k c) ++ stem.reverse := by
      conv_lhs => rw [← is]
      rw [List.reverse_append, behindLast, List.reverse_reverse]
    exact List.append_cancel_left (whole.trans other)
  cases last : stem.reverse with
  | nil =>
    obtain ⟨c, inside, is_kind⟩ := some_
    have all := List.dropWhile_eq_nil_iff.mp (rest.trans last) c (List.mem_reverse.mpr inside)
    simp [is_kind] at all
  | cons c stem' =>
    refine ⟨stem'.reverse, c, ?_, ?_⟩
    · have stem_is : stem = stem'.reverse ++ [c] := by
        rw [← List.reverse_reverse stem, last, List.reverse_cons]
      conv_lhs => rw [← is, stem_is]
      simp
    · have found := List.head?_dropWhile_not (fun c => !k c) s.reverse
      rw [rest, last] at found
      simpa using found

theorem behindLast_of_split {stem rest : Bytes} {c : UInt8} (is_kind : k c = true)
    (plain : ∀ d ∈ rest, k d = false) : behindLast k (stem ++ c :: rest) = rest := by
  have kept : ∀ d ∈ rest.reverse, (!k d) = true := by
    intro d inside
    simp [plain d (List.mem_reverse.mp inside)]
  rw [behindLast, List.reverse_append, List.reverse_cons, List.append_assoc, List.takeWhile_append_of_pos kept,
    List.singleton_append, List.takeWhile_cons_of_neg (by simp [is_kind]), List.append_nil, List.reverse_reverse]

end Parts

/-! ### Extensions -/

/-- A name with an allowed extension ends in it. -/
theorem isExtensionAllowed_iff {name : Bytes} :
    isExtensionAllowed name = true ↔
      ∃ stem extension, name = stem ++ 46 :: extension ∧ 46 ∉ extension ∧ extension.map tolower ∈ kAllowed := by
  unfold isExtensionAllowed
  constructor
  · intro allowed
    split at allowed
    · cases allowed
    · rename_i dotted
      obtain ⟨stem, c, is, dot⟩ := behindLast_split (k := (· == 46)) ⟨46, not_not.mp dotted, rfl⟩
      obtain rfl : c = 46 := eq_of_beq dot
      refine ⟨stem, _, is, fun inside => ?_, of_decide_eq_true allowed⟩
      exact absurd (behindLast_plain 46 inside) (by decide)
  · rintro ⟨stem, extension, rfl, plain, allowed⟩
    rw [if_neg (by simp), behindLast_of_split rfl fun d inside => ?_]
    · exact decide_eq_true allowed
    · exact beq_false_of_ne fun same => plain (same ▸ inside)

theorem tolower_eq {c : UInt8} :
    (tolower c = 47 → c = 47) ∧ (tolower c = 46 → c = 46) ∧ (tolower c = 0 → c = 0) ∧ tolower (tolower c) = tolower c :=
  Utf8.forall_byte (p := fun c =>
    (tolower c = 47 → c = 47) ∧ (tolower c = 46 → c = 46) ∧ (tolower c = 0 → c = 0) ∧ tolower (tolower c) = tolower c)
    (by decide +kernel) c

/-- No allowed extension is empty or contains a slash. -/
theorem extension_plain {extension : Bytes} (allowed : extension.map tolower ∈ kAllowed) :
    extension ≠ [] ∧ 47 ∉ extension := by
  have all : ∀ e ∈ kAllowed, e ≠ [] ∧ 47 ∉ e := by decide
  obtain ⟨some_, plain⟩ := all _ allowed
  refine ⟨fun none => some_ (by rw [none]; rfl), fun inside => plain ?_⟩
  exact List.mem_map.mpr ⟨47, inside, rfl⟩

/-- In front of the extension there may be anything. -/
theorem isExtensionAllowed_append {name : Bytes} (allowed : isExtensionAllowed name = true) (front : Bytes) :
    isExtensionAllowed (front ++ name) = true := by
  obtain ⟨stem, extension, rfl, plain, listed⟩ := isExtensionAllowed_iff.mp allowed
  exact isExtensionAllowed_iff.mpr ⟨front ++ stem, extension, (List.append_assoc ..).symm, plain, listed⟩

/-- The extension of a path is that of the name. -/
theorem isExtensionAllowed_join (root name : Bytes) :
    isExtensionAllowed (root ++ 47 :: name) = isExtensionAllowed name := by
  refine Bool.eq_iff_iff.mpr ⟨fun allowed => ?_, fun allowed => ?_⟩
  · obtain ⟨stem, extension, is, plain, listed⟩ := isExtensionAllowed_iff.mp allowed
    have slashless : 47 ∉ 46 :: extension := by
      rw [List.mem_cons]
      exact not_or.mpr ⟨by decide, (extension_plain listed).2⟩
    have ends : 46 :: extension <:+ root ++ 47 :: name := ⟨stem, is.symm⟩
    -- the extension is shorter than the name, since it does not reach over the slash
    rcases List.suffix_or_suffix_of_suffix ends (List.suffix_append root (47 :: name)) with inside | longer
    · rcases List.suffix_cons_iff.mp inside with same | inside
      · cases same
      · obtain ⟨front, rfl⟩ := inside
        exact isExtensionAllowed_iff.mpr ⟨front, extension, rfl, plain, listed⟩
    · exact absurd (longer.subset List.mem_cons_self) slashless
  · have longer := isExtensionAllowed_append allowed (root ++ [47])
    rwa [List.append_assoc, List.singleton_append] at longer

/-- A name is written in small letters without losing its extension. -/
theorem isExtensionAllowed_of_lower {name : Bytes} (allowed : isExtensionAllowed (name.map tolower) = true) :
    isExtensionAllowed name = true := by
  obtain ⟨stem, extension, is, plain, listed⟩ := isExtensionAllowed_iff.mp allowed
  obtain ⟨stem', rest, rfl, rfl, more⟩ := List.map_eq_append_iff.mp is
  obtain ⟨c, extension', rfl, dot, rfl⟩ := List.map_eq_cons_iff.mp more
  obtain rfl : c = 46 := tolower_eq.2.1 dot
  have idem : (extension'.map tolower).map tolower = extension'.map tolower := by
    rw [List.map_map]
    exact List.map_congr_left fun c _ => tolower_eq.2.2.2
  rw [idem] at listed
  exact isExtensionAllowed_iff.mpr ⟨stem', extension', rfl, fun inside => plain (List.mem_map.mpr ⟨46, inside, rfl⟩), listed⟩

/-! ### Staying inside of the root -/

/-- A path without two dots has no such component. -/
theorem dotDot_not_component {name : Bytes} (safe : ¬dotDot <:+: name) : dotDot ∉ components name :=
  fun inside => safe (infix_of_component inside)

/-- Two dots in a name in small letters were there before. -/
theorem dotDot_of_lower {name : Bytes} (inside : dotDot <:+: name.map tolower) : dotDot <:+: name := by
  obtain ⟨before, rest, is⟩ := inside
  obtain ⟨front, rest', rfl, first, -⟩ := List.map_eq_append_iff.mp is.symm
  obtain ⟨before', two, rfl, -, dots⟩ := List.map_eq_append_iff.mp first
  obtain ⟨a, more, rfl, dot, tail⟩ := List.map_eq_cons_iff.mp dots
  obtain ⟨b, none, rfl, dot', end_⟩ := List.map_eq_cons_iff.mp tail
  obtain rfl := List.map_eq_nil_iff.mp end_
  obtain rfl : a = 46 := tolower_eq.2.1 dot
  obtain rfl : b = 46 := tolower_eq.2.1 dot'
  exact ⟨before', rest', rfl⟩

variable {server : FileServer}

/-- A name without two dots does not lead out of the root. -/
theorem within_root {name : Bytes} (safe : ¬dotDot <:+: name) :
    Within (normalize server.rootDir) (normalize (filepath server name)) :=
  ⟨_, normalize_join server.rootDir_named (dotDot_not_component safe)⟩

/-- With an allowed extension it leads below the root. -/
theorem below_root {name : Bytes} (safe : ¬dotDot <:+: name) (allowed : isExtensionAllowed name = true) :
    Below (normalize server.rootDir) (normalize (filepath server name)) := by
  refine ⟨_, fun none => ?_, normalize_join server.rootDir_named (dotDot_not_component safe)⟩
  obtain ⟨stem, extension, rfl, -, listed⟩ := isExtensionAllowed_iff.mp allowed
  obtain ⟨some_, plain⟩ := extension_plain listed
  have slashless : 47 ∉ 46 :: extension := by
    rw [List.mem_cons]
    exact not_or.mpr ⟨by decide, plain⟩
  obtain ⟨part, inside, ends⟩ := component_ending stem slashless
  have long : 2 ≤ part.length := by
    have longer := ends.length_le
    have positive := List.length_pos_iff.mpr some_
    rw [List.length_cons] at longer
    omega
  have dropped := List.filter_eq_nil_iff.mp none part inside
  refine dropped ?_
  have named : part ≠ [] := by
    rintro rfl
    exact absurd long (by decide)
  have double : part ≠ dot := by
    rintro rfl
    exact absurd long (by decide)
  simp [named, double]

theorem isPathSafe_iff {path : Bytes} :
    isPathSafe path = true ↔
      path ≠ [] ∧ ¬dotDot <:+: path ∧ path.head? ≠ some 47 ∧ path.head? ≠ some 92 ∧ 0 ∉ path := by
  unfold isPathSafe
  split
  · rename_i empty
    exact iff_of_false Bool.false_ne_true fun all => all.1 (List.isEmpty_iff.mp empty)
  · rename_i named
    split
    · rename_i dots
      exact iff_of_false Bool.false_ne_true fun all => all.2.1 dots
    · rename_i safe
      split
      · rename_i absolute
        exact iff_of_false Bool.false_ne_true fun all => absolute.elim all.2.2.1 all.2.2.2.1
      · rename_i relative
        obtain ⟨slash, backslash⟩ := not_or.mp relative
        split
        · rename_i nul
          exact iff_of_false Bool.false_ne_true fun all => all.2.2.2.2 nul
        · rename_i plain
          exact iff_of_true rfl ⟨fun none => named (List.isEmpty_iff.mpr none), safe, slash, backslash, plain⟩

theorem multipartName_ok {filename name : Bytes} (stored : multipartName filename = .ok name) :
    isPathSafe filename = true ∧ name = (behindLast (fun c => c == 47 || c == 92) filename).map tolower ∧
      isExtensionAllowed name = true := by
  simp only [multipartName] at stored
  split at stored
  · cases stored
  · rename_i safe
    split at stored
    · cases stored
    · split at stored
      · cases stored
      · rename_i allowed
        cases stored
        exact ⟨by simpa using safe, rfl, by simpa using allowed⟩

theorem rawName_ok {filename name : Bytes} (stored : rawName filename = .ok name) :
    isPathSafe filename = true ∧ name = filename ∧ isExtensionAllowed name = true := by
  rw [rawName] at stored
  split at stored
  · cases stored
  · rename_i safe
    split at stored
    · cases stored
    · rename_i allowed
      cases stored
      exact ⟨by simpa using safe, rfl, by simpa using allowed⟩

theorem streamingName_ok {filename name : Bytes} (stored : streamingName filename = .ok name) :
    ¬dotDot <:+: filename ∧ name = filename ∧ isExtensionAllowed name = true := by
  rw [streamingName] at stored
  split at stored
  · cases stored
  · rename_i safe
    split at stored
    · cases stored
    · rename_i allowed
      cases stored
      exact ⟨(not_or.mp safe).1, rfl, by simpa using allowed⟩

/-- The name that is stored has an allowed extension and no two dots, as the name in the request has. -/
theorem storedName_ok {route : Route} {filename name : Bytes} (stored : storedName route filename = .ok name) :
    (¬dotDot <:+: name ∧ isExtensionAllowed name = true) ∧ ¬dotDot <:+: filename ∧ isExtensionAllowed filename = true := by
  cases route with
  | multipart =>
    obtain ⟨safe, rfl, allowed⟩ := multipartName_ok stored
    have safe := (isPathSafe_iff.mp safe).2.1
    obtain ⟨front, whole⟩ := behindLast_suffix (k := fun c => c == 47 || c == 92) (s := filename)
    have longer := isExtensionAllowed_append (isExtensionAllowed_of_lower allowed) front
    rw [whole] at longer
    exact ⟨⟨fun inside => safe ((dotDot_of_lower inside).trans behindLast_suffix.isInfix), allowed⟩, safe, longer⟩
  | raw =>
    obtain ⟨safe, rfl, allowed⟩ := rawName_ok stored
    have safe := (isPathSafe_iff.mp safe).2.1
    exact ⟨⟨safe, allowed⟩, safe, allowed⟩
  | streaming =>
    obtain ⟨safe, rfl, allowed⟩ := streamingName_ok stored
    exact ⟨⟨safe, allowed⟩, safe, allowed⟩

/-- What an upload route accepts leads below the root, under the name in the request and under the
    name that is stored; what the deletion accepts leads to the root or below it. -/
theorem accepted_inside (server : FileServer) :
    (∀ route filename name, storedName route filename = .ok name →
      Below (normalize server.rootDir) (normalize (filepath server filename)) ∧
        Below (normalize server.rootDir) (normalize (filepath server name))) ∧
      ∀ filename, isPathSafe filename = true → Within (normalize server.rootDir) (normalize (filepath server filename)) := by
  refine ⟨fun route filename name stored => ?_, fun filename safe => within_root (isPathSafe_iff.mp safe).2.1⟩
  obtain ⟨⟨safe, allowed⟩, safe', allowed'⟩ := storedName_ok stored
  exact ⟨below_root safe' allowed', below_root safe allowed⟩

/-! ### The file that is opened -/

theorem cString_filepath (name : Bytes) : cString (filepath server name) = server.rootDir ++ 47 :: cString name := by
  have root : ∀ c ∈ server.rootDir, decide (c ≠ 0) = true :=
    fun c inside => decide_eq_true fun zero => server.rootDir_path (zero ▸ inside)
  rw [cString, filepath, List.takeWhile_append_of_pos root, List.takeWhile_cons_of_pos (by decide)]
  rfl

theorem cString_plain {s : Bytes} (plain : 0 ∉ s) : cString s = s :=
  List.takeWhile_eq_self_iff.mpr fun _ inside => decide_eq_true fun zero => plain (zero ▸ inside)

/-- The other routes store no name with a NUL, the streaming route stores the name as it is. -/
theorem storedName_nul {route : Route} {filename name : Bytes} (stored : storedName route filename = .ok name) :
    route = .streaming ∧ name = filename ∨ route ≠ .streaming ∧ 0 ∉ name := by
  cases route with
  | multipart =>
    obtain ⟨safe, rfl, -⟩ := multipartName_ok stored
    refine .inr ⟨by decide, fun inside => ?_⟩
    obtain ⟨c, here, zero⟩ := List.mem_map.mp inside
    obtain rfl : c = 0 := tolower_eq.2.2.1 zero
    exact (isPathSafe_iff.mp safe).2.2.2.2 (behindLast_suffix.subset here)
  | raw =>
    obtain ⟨safe, rfl, -⟩ := rawName_ok stored
    exact .inr ⟨by decide, (isPathSafe_iff.mp safe).2.2.2.2⟩
  | streaming =>
    obtain ⟨-, rfl, -⟩ := streamingName_ok stored
    exact .inl ⟨rfl, rfl⟩

/-- The file that an upload opens has an allowed extension, unless it is a streaming upload of a
    name whose part in front of a NUL has none. -/
theorem openedFile_allowed_iff (server : FileServer) (route : Route) (filename path : Bytes)
    (opened : openedFile server route filename = .ok path) :
    isExtensionAllowed path = true ↔
      (route = .streaming → 0 ∈ filename → isExtensionAllowed (cString filename) = true) := by
  rw [openedFile] at opened
  cases stored : storedName route filename with
  | error e =>
    rw [stored] at opened
    cases opened
  | ok name =>
    rw [stored] at opened
    obtain ⟨⟨-, allowed⟩, -⟩ := storedName_ok stored
    have nul := storedName_nul stored
    have path_is : path = cString (filepath server name) := by
      dsimp only [bind, Except.bind] at opened
      split at opened
      · cases opened
      · cases opened
        rfl
    rw [path_is, cString_filepath, isExtensionAllowed_join]
    rcases nul with ⟨streaming, rfl⟩ | ⟨other, nul⟩
    · refine ⟨fun shown _ _ => shown, fun shown => ?_⟩
      by_cases zero : 0 ∈ name
      · exact shown streaming zero
      · rwa [cString_plain zero]
    · rw [cString_plain nul]
      exact iff_of_true allowed fun streaming => absurd streaming other

theorem openedFile_allowed_raw :
    openedFile plainServer .raw (ascii "a.txt") = .ok (ascii "files/a.txt") ∧
      (isExtensionAllowed (ascii "files/a.txt") = true ↔
        (Route.raw = .streaming → 0 ∈ ascii "a.txt" → isExtensionAllowed (cString (ascii "a.txt")) = true)) :=
  have opened : openedFile plainServer .raw (ascii "a.txt") = .ok (ascii "files/a.txt") := by rfl
  ⟨opened, openedFile_allowed_iff plainServer .raw (ascii "a.txt") (ascii "files/a.txt") opened⟩

/-- A streaming upload of `evil.sh`, a NUL and `.txt` opens `evil.sh`. -/
theorem openedFile_script :
    ¬∀ (server : FileServer) (route : Route) (filename path : Bytes), openedFile server route filename = .ok path →
      isExtensionAllowed path = true := by
  intro claim
  have opened : openedFile plainServer .streaming (ascii "evil.sh" ++ 0 :: ascii ".txt") = .ok (ascii "files/evil.sh") := by rfl
  exact absurd (claim _ _ _ _ opened) (by decide)

theorem accepted_inside_raw :
    Below (normalize plainServer.rootDir) (normalize (filepath plainServer (ascii "a.txt"))) ∧
      Within (normalize plainServer.rootDir) (normalize (filepath plainServer (ascii "."))) :=
  ⟨((accepted_inside plainServer).1 .raw (ascii "a.txt") (ascii "a.txt") (by rfl)).1,
    (accepted_inside plainServer).2 (ascii ".") (by decide)⟩

end NovaIIM.FileServer
