import NovaIIM.RbacCache

/-!
The permissions of a caller as a text.

`AuthMiddleware` hands the permissions of an admin on in one header, with commas between them
(`joinPermissions`), and `HasPermission` goes through the text from comma to comma
(`scanPermissions`). Its loop ends on every text. Where the codes are not empty and have no commas
it finds the codes of the list and nothing else (`letIn_permissions`), and the codes of a server
are such in every run (`admitted_permissions`).
-/
namespace NovaIIM
open RbacDao

/-- Codes that can be told apart in a text with commas. -/
def Separable (codes : List Bytes) : Prop := ∀ code ∈ codes, code ≠ [] ∧ 44 ∉ code

instance (codes : List Bytes) : Decidable (Separable codes) := inferInstanceAs (Decidable (∀ code ∈ codes, _))

/-! ### The joined text -/

/-- Behind the first round each code comes with a comma in front. -/
private theorem join_later (codes : List Bytes) : ∀ (index : Nat) (text : Bytes),
    (codes.zipIdx (index + 1)).foldl (fun text p => (if 0 < p.2 then text ++ [44] else text) ++ p.1) text =
      text ++ codes.flatMap fun code => 44 :: code := by
  induction codes with
  | nil => simp
  | cons code rest ih =>
    intro index text
    rw [List.zipIdx_cons, List.foldl_cons, ih, if_pos (by simp)]
    simp

@[simp] theorem joinPermissions_nil : joinPermissions [] = [] := rfl

theorem joinPermissions_cons (code : Bytes) (rest : List Bytes) :
    joinPermissions (code :: rest) = code ++ rest.flatMap fun code => 44 :: code := by
  rw [joinPermissions, List.zipIdx_cons, List.foldl_cons, join_later, if_neg (by simp), List.nil_append]

theorem joinPermissions_cons_cons (code next : Bytes) (rest : List Bytes) :
    joinPermissions (code :: next :: rest) = code ++ 44 :: joinPermissions (next :: rest) := by
  simp [joinPermissions_cons]

/-! ### The scan -/

namespace AdminServer
variable {before text later : Bytes} {c : UInt8}

theorem findFrom_absent (absent : c ∉ text) : findFrom (before ++ text) c before.length = none := by
  rw [findFrom, List.drop_left, Option.map_eq_none_iff, List.findIdx?_eq_none_iff]
  intro b inside
  have other : b ≠ c := fun same => absent (same ▸ inside)
  simp [other]

theorem findFrom_first (absent : c ∉ text) :
    findFrom (before ++ (text ++ c :: later)) c before.length = some (before.length + text.length) := by
  have found : (text ++ c :: later).findIdx? (fun b => b = c) = some text.length := by
    rw [List.findIdx?_eq_some_iff_getElem]
    refine ⟨by simp, by simp, fun i short => ?_⟩
    have other : text[i] ≠ c := fun same => absent (same ▸ List.getElem_mem short)
    simp [List.getElem_append_left short, other]
  rw [findFrom, List.drop_left, found]
  rfl

/-- A search finds nothing in front of where it starts. -/
theorem le_findFrom {s : Bytes} {pos i : Nat} (found : findFrom s c pos = some i) : pos ≤ i := by
  obtain ⟨j, -, rfl⟩ := Option.map_eq_some_iff.mp found
  exact Nat.le_add_right pos j

end AdminServer

section Scan
variable {perms perm : Bytes} {rounds start : Nat}

/-- The loop of `HasPermission` ends, on every text. -/
theorem scanPermissions_ends (enough : perms.length - start < rounds) :
    ∃ found, scanPermissions perms perm rounds start = some found := by
  induction rounds generalizing start with
  | zero => omega
  | succ rounds ih =>
    rw [scanPermissions]
    by_cases within : start < perms.length
    · rw [if_pos within]
      dsimp only
      split
      · exact ⟨true, rfl⟩
      · have later : start ≤ (AdminServer.findFrom perms 44 start).getD perms.length := by
          cases found : AdminServer.findFrom perms 44 start with
          | none => exact within.le
          | some i => exact AdminServer.le_findFrom found
        exact ih (by omega)
    · exact ⟨false, if_neg within⟩

theorem scanPermissions_past (past : perms.length ≤ start) : scanPermissions perms perm (rounds + 1) start = some false := by
  rw [scanPermissions, if_neg (by omega)]

end Scan

/-- One round of the scan, in front of a code with a comma behind it. -/
private theorem scan_round {before code later perm : Bytes} (plain : 44 ∉ code) (rounds : Nat) :
    scanPermissions (before ++ (code ++ 44 :: later)) perm (rounds + 1) before.length =
      if code = perm then some true
      else scanPermissions ((before ++ code ++ [44]) ++ later) perm rounds (before ++ code ++ [44]).length := by
  have within : before.length < (before ++ (code ++ 44 :: later)).length := by
    simp only [List.length_append, List.length_cons]
    omega
  have segment : ((before ++ (code ++ 44 :: later)).drop before.length).take
      (before.length + code.length - before.length) = code := by simp
  have text : before ++ (code ++ 44 :: later) = (before ++ code ++ [44]) ++ later := by simp
  have next : (before ++ code ++ [44]).length = before.length + code.length + 1 := by simp [Nat.add_assoc]
  rw [scanPermissions, if_pos within, AdminServer.findFrom_first plain]
  dsimp only [Option.getD_some]
  rw [segment, text, next]

/-- The last round. -/
private theorem scan_last {before code perm : Bytes} (some_ : code ≠ []) (plain : 44 ∉ code) (rounds : Nat) :
    scanPermissions (before ++ code) perm (rounds + 2) before.length = some (decide (code = perm)) := by
  have length : 0 < code.length := List.length_pos_of_ne_nil some_
  have within : before.length < (before ++ code).length := by simpa using length
  have segment : ((before ++ code).drop before.length).take ((before ++ code).length - before.length) = code := by simp
  rw [scanPermissions, if_pos within, AdminServer.findFrom_absent plain]
  dsimp only [Option.getD_none]
  rw [segment]
  by_cases same : code = perm
  · rw [if_pos same, decide_eq_true same]
  · rw [if_neg same, decide_eq_false same]
    exact scanPermissions_past (by omega)

/-- Behind what it has passed the scan finds the codes that are left. -/
theorem scan_joined {codes : List Bytes} (separable : Separable codes) {before perm : Bytes} {rounds : Nat}
    (enough : (joinPermissions codes).length < rounds) :
    scanPermissions (before ++ joinPermissions codes) perm rounds before.length = some (decide (perm ∈ codes)) := by
  induction codes generalizing before rounds with
  | nil =>
    obtain ⟨rounds, rfl⟩ := Nat.exists_eq_add_of_lt enough
    exact (scanPermissions_past (by simp)).trans (by simp)
  | cons code rest ih =>
    obtain ⟨some_, plain⟩ := separable code List.mem_cons_self
    have length : 0 < code.length := List.length_pos_of_ne_nil some_
    have others : Separable rest := fun other inside => separable other (List.mem_cons_of_mem _ inside)
    cases rest with
    | nil =>
      have text : joinPermissions [code] = code := by simp [joinPermissions_cons]
      rw [text] at enough ⊢
      obtain ⟨rounds, rfl⟩ : ∃ more, rounds = more + 2 := ⟨rounds - 2, by omega⟩
      rw [scan_last some_ plain]
      simp [eq_comm]
    | cons next more =>
      rw [joinPermissions_cons_cons] at enough ⊢
      rw [List.length_append, List.length_cons] at enough
      obtain ⟨rounds, rfl⟩ : ∃ fewer, rounds = fewer + 1 := ⟨rounds - 1, by omega⟩
      rw [scan_round plain]
      by_cases same : code = perm
      · rw [if_pos same, same]
        simp
      · rw [if_neg same, ih others (by omega)]
        simp [Ne.symm same]

theorem hasPermission_joined {codes : List Bytes} (separable : Separable codes) (adminId : Int) (perm : Bytes) :
    (Identity.mk adminId (joinPermissions codes)).hasPermission perm = decide (perm ∈ codes) := by
  have scan : scanPermissions (joinPermissions codes) perm ((joinPermissions codes).length + 1) 0 =
      some (decide (perm ∈ codes)) := @scan_joined codes separable [] perm _ (Nat.lt_succ_self _)
  unfold Identity.hasPermission
  by_cases empty : joinPermissions codes = []
  · rw [empty] at scan ⊢
    exact Option.some.inj scan
  · rw [scan, if_neg (by simpa using empty), Option.getD_some]

/-- The middleware hands on the id of the admin and the list as one text. -/
theorem letIn_next {perms : List Bytes} {adminId : Int} {status : AccountStatus} {identity : Identity}
    (passed : letIn adminId status perms = .next identity) : identity = ⟨adminId, joinPermissions perms⟩ := by
  unfold letIn at passed
  split at passed
  · cases passed
  · cases passed
    rfl

/-- What the middleware hands on grants the codes of the list, and nothing else. -/
theorem letIn_permissions {perms : List Bytes} (separable : Separable perms) {adminId : Int} {status : AccountStatus}
    {identity : Identity} (passed : letIn adminId status perms = .next identity) (perm : Bytes) :
    identity.hasPermission perm = true ↔ perm ∈ perms := by
  rw [letIn_next passed, hasPermission_joined separable, decide_eq_true_eq]

/-- A part of a code that stands at the end of two of them is not granted. -/
theorem letIn_permissions_part :
    ¬(Identity.mk 1 (ascii "user.view,msg.view")).hasPermission (ascii "view") = true := by
  have passed : letIn 1 .normal [ascii "user.view", ascii "msg.view"] = .next ⟨1, ascii "user.view,msg.view"⟩ := by decide
  intro granted
  exact absurd ((letIn_permissions (by decide) passed (ascii "view")).mp granted) (by decide)

/-! ### The codes of a server -/

/-- The permissions that the middleware takes for those of an admin: of the entry in the cache, or else of
    the tables. -/
def AdminState.permsOf (s : AdminState) (adminId : Int) : List Bytes :=
  ((RbacCache.lookup s.rbacCache adminId).filter fun e => s.steady < e.expiresAt).elim
    (getUserPermissions adminId s.tables) RbacCacheEntry.perms

/-- All codes that the server goes by can be told apart. -/
structure SeparableState (s : AdminState) : Prop where
  stored : Separable (s.tables.permissions.rows.map Permission.code)
  cached : ∀ e ∈ s.rbacCache, s.steady < e.expiresAt → Separable e.perms

theorem separable_user {t : AdminTables} (stored : Separable (t.permissions.rows.map Permission.code)) (userId : Int) :
    Separable (getUserPermissions userId t) := by
  intro code inside
  obtain ⟨p, selected, rfl⟩ := List.mem_map.mp inside
  exact stored p.code (List.mem_map_of_mem (List.mem_filter.mp selected).1)

/-- No write changes which permissions there are. -/
theorem permissions_write (write : AdminWrite) (t : AdminTables) : (write.tables t).permissions = t.permissions := by
  cases write with
  | nothing | session | purge | account | dropRole => rfl
  | revoke tokenHash =>
    simp only [AdminWrite.tables, AdminSessionDao.revokeByTokenHash]
    split <;> rfl
  | password id passwordHash =>
    simp only [AdminWrite.tables, AdminAccountDao.updatePassword]
    split <;> rfl
  | status id value =>
    simp only [AdminWrite.tables, AdminAccountDao.updateStatus]
    split <;> rfl
  | roles id roleIds => exact (replaceRoles_others id roleIds t).permissions
  | role name description perms =>
    cases perms with
    | none => rfl
    | some perms => exact (setRolePermissions_others _ perms _).permissions
  | rights id description perms =>
    cases description <;> cases perms <;>
      simp only [AdminWrite.tables, Option.elim, (setRolePermissions_others _ _ _).permissions, updateRole]

variable {c : AdminConfig} {s : AdminState}

theorem separable_entered (separable : SeparableState s) (req : HttpRequest) :
    ∀ e ∈ (authMiddleware c (s.wait req.elapsed) req).1.rbacCache, s.steady + req.elapsed < e.expiresAt →
      Separable e.perms := by
  have entered := @entries_entered
    (fun e t => Separable (t.permissions.rows.map Permission.code) → Separable e.perms)
    (fun _ adminId _ _ _ stored => separable_user stored adminId) c s
    (fun e inside live _ => separable.cached e inside live) req
  exact fun e inside live => entered e inside live separable.stored

theorem separable_step (separable : SeparableState s) (event : AdminEvent) : SeparableState (s.step c event) := by
  refine ⟨?_, ?_⟩
  · rw [AdminState.step_tables, permissions_write]
    exact separable.stored
  · cases event with
    | purge now => exact separable.cached
    | request req =>
      obtain ⟨cache, steady⟩ := AdminState.step_cache c s req
      rw [cache, steady]
      exact fun e inside live => separable_entered separable req e (AdminWrite.mem_cache inside) live

theorem separable_seeded (hash : Bytes) (limiter : RateLimiter) : SeparableState (seeded hash limiter) := by
  have codes : Separable ((Seed.tables []).permissions.rows.map Permission.code) := by decide
  exact ⟨codes, fun e inside => absurd inside List.not_mem_nil⟩

/-- An admin who is let in has the permissions that were looked up. -/
theorem authorize_permissions (separable : SeparableState s) {adminId : Int} {who : Identity}
    (passed : (authorize s adminId).2 = .next who) (perm : Bytes) :
    who.adminId = adminId ∧ (who.hasPermission perm = true ↔ perm ∈ s.permsOf adminId) := by
  have granted : ∀ {status perms}, Separable perms → letIn adminId status perms = .next who →
      who.adminId = adminId ∧ (who.hasPermission perm = true ↔ perm ∈ perms) := by
    intro status perms codes passed
    rw [letIn_next passed, hasPermission_joined codes, decide_eq_true_eq]
    exact ⟨rfl, Iff.rfl⟩
  unfold authorize at passed
  unfold AdminState.permsOf
  cases live : (RbacCache.lookup s.rbacCache adminId).filter fun e => s.steady < e.expiresAt with
  | some e =>
    rw [live] at passed
    obtain ⟨found, fresh⟩ := Option.filter_eq_some_iff.mp live
    have codes : Separable e.perms := separable.cached e (List.mem_of_find?_eq_some found) (of_decide_eq_true fresh)
    exact granted codes passed
  | none =>
    rw [live] at passed
    dsimp only at passed
    cases found : AdminAccountDao.findById adminId s.tables with
    | none =>
      rw [found] at passed
      cases passed
    | some admin =>
      rw [found] at passed
      exact granted (separable_user separable.stored adminId) passed

/-- In every run from the first rows, whoever comes through the middleware with a token is granted the
    permissions that were looked up, and no other code. -/
theorem admitted_permissions (c : AdminConfig) (hash : Bytes) (limiter : RateLimiter) (events : List AdminEvent)
    (req : HttpRequest) (closed : req.route.exempt = false) {who : Identity}
    (passed : (authMiddleware c ((after (AdminState.step c) (seeded hash limiter) events).wait req.elapsed) req).2 = .next who)
    (perm : Bytes) : who.hasPermission perm = true ↔
      perm ∈ ((after (AdminState.step c) (seeded hash limiter) events).wait req.elapsed).permsOf who.adminId := by
  have separable : SeparableState (after (AdminState.step c) (seeded hash limiter) events) :=
    @after_invariant_always _ _ (AdminState.step c) SeparableState (fun _ event now => separable_step now event) _
      (separable_seeded hash limiter) events
  generalize after (AdminState.step c) (seeded hash limiter) events = s at passed separable
  have waited : SeparableState (s.wait req.elapsed) :=
    ⟨separable.stored, fun e inside live => separable.cached e inside (Nat.lt_of_le_of_lt (Nat.le_add_right _ _) live)⟩
  unfold authMiddleware at passed
  rw [closed, if_neg (by decide)] at passed
  cases known : authenticate c (s.wait req.elapsed).tables req with
  | error e =>
    rw [known] at passed
    cases passed
  | ok adminId =>
    rw [known] at passed
    obtain ⟨named, granted⟩ := authorize_permissions waited passed perm
    rw [named]
    exact granted

end NovaIIM
