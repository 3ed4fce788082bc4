import NovaIIM.RbacCache

/-!
The life of an admin token.

A token is a function of its admin, its issue time and its expiry, so two logins in one
second return the same token, and `admin_sessions` may have several rows of its hash. The
`TokenLedger` of a run is what the admins know of their tokens: which have been returned and still
hold, and which have been logged out. The middleware goes by it (`TokenLaw`) as long as no
login returns a token again that has been logged out, and no purge takes a row that is
still needed (`Confuses`).
-/
namespace NovaIIM
open RbacDao AdminHandlers

/-- A token that a login returns, with what it was signed for. -/
structure IssuedToken where
  token : Bytes
  adminId : Int
  iat : Int
  exp : Int
deriving DecidableEq, Repr

/-- The token that a login is answered with. -/
def issued (c : AdminConfig) (s : AdminState) : AdminEvent → Option IssuedToken
  | .purge _ => none
  | .request req =>
    match req.route with
    | .login body => (loginAdmin c (s.wait req.elapsed) req body).map fun admin =>
      { token := JwtUtils.sign c admin.id req.readings.issued req.readings.expires
        adminId := admin.id
        iat := req.readings.issued
        exp := req.readings.expires + c.jwtExpires }
    | _ => none

/-- The text behind `Bearer ` that a logout is about. -/
def AdminEvent.token : AdminEvent → Bytes
  | .purge _ => []
  | .request req => req.authorization.drop 7

/-- The tokens that have been returned and still hold, and those that have been logged out. -/
structure TokenLedger where
  issued : List IssuedToken := []
  loggedOut : List Bytes := []

/-- A login adds a token, its logout takes it away; those of an account that is disabled or
    deleted go, and so do those that a purge finds expired. -/
def TokenLedger.note (c : AdminConfig) (s : AdminState) (event : AdminEvent) (l : TokenLedger) : TokenLedger :=
  match s.command c event with
  | .session _ => { l with issued := (NovaIIM.issued c s event).toList ++ l.issued }
  | .revoke _ =>
    { issued := l.issued.filter fun t => t.token ≠ event.token
      loggedOut := event.token :: l.loggedOut }
  | .status id value =>
    if value = .normal then l else { l with issued := l.issued.filter fun t => t.adminId ≠ id }
  | .purge now => { l with issued := l.issued.filter fun t => now ≤ t.exp }
  | _ => l

/-- A step of the server with the ledger beside it. -/
def ledgerStep (c : AdminConfig) (p : AdminState × TokenLedger) (event : AdminEvent) : AdminState × TokenLedger :=
  (p.1.step c event, p.2.note c p.1 event)

/-- What the ledger promises of the next request: one with a token that holds gets through as its
    admin, and one with a token that has been logged out does not. -/
structure TokenLaw (c : AdminConfig) (p : AdminState × TokenLedger) : Prop where
  accepted : ∀ t ∈ p.2.issued, ∀ req, req.route.exempt = false → req.bodySize ≤ kAdminMaxBodySize →
    bearer req.authorization = some t.token → t.iat ≤ req.readings.now → req.readings.now ≤ t.exp →
    ∃ permissions, (authMiddleware c (p.1.wait req.elapsed) req).2 = .next ⟨t.adminId, permissions⟩
  rejected : ∀ token ∈ p.2.loggedOut, ∀ req, req.route.exempt = false → bearer req.authorization = some token →
    ∃ e, (authMiddleware c (p.1.wait req.elapsed) req).2 = .reject e

/-- A purge at a reading of the clock takes a session. -/
def Purged (now : Int) (r : AdminSession) : Prop := textLess r.expiresAt (decimalText now) = true

instance (now : Int) (r : AdminSession) : Decidable (Purged now r) := inferInstanceAs (Decidable (_ = true))

/-- An event makes the sessions say something else than the ledger: a login returns a token that
    has been logged out (or reads no positive time, which is no claim of a token), or a purge
    takes all the sessions of a token that has not expired, or the first of a token that has
    been logged out without the others. -/
def Confuses (c : AdminConfig) (p : AdminState × TokenLedger) (event : AdminEvent) : Prop :=
  match event with
  | .request _ => ∃ t ∈ issued c p.1 event, t.token ∈ p.2.loggedOut ∨ t.iat ≤ 0
  | .purge now =>
    (∃ t ∈ p.2.issued, now ≤ t.exp ∧
      ∀ r ∈ p.1.tables.adminSessions.rows, r.tokenHash = c.sha256Hex t.token → Purged now r) ∨
    ∃ token ∈ p.2.loggedOut, (∃ r ∈ AdminSessionDao.find (c.sha256Hex token) p.1.tables, Purged now r) ∧
      ∃ r ∈ p.1.tables.adminSessions.rows, r.tokenHash = c.sha256Hex token ∧ ¬Purged now r

instance (c : AdminConfig) (p : AdminState × TokenLedger) : ∀ event, Decidable (Confuses c p event)
  | .request req => inferInstanceAs (Decidable (∃ t ∈ issued c p.1 (.request req), t.token ∈ p.2.loggedOut ∨ t.iat ≤ 0))
  | .purge _ => inferInstanceAs (Decidable (_ ∨ _))

/-- What the libraries promise: a token with positive claims is decoded to them, and no two texts
    have the same hash. -/
structure Lawful (c : AdminConfig) : Prop where
  decode_encode : ∀ adminId iat exp, 0 < adminId → 0 < iat → 0 < exp →
    c.decode (c.encode adminId iat exp) = some ⟨adminId, iat, exp⟩
  injective : Function.Injective c.sha256Hex

/-- A login is answered with a token exactly if it is the one that goes into the ledger. -/
theorem issued_iff_answered {c : AdminConfig} {s : AdminState} {req : HttpRequest} {body : Option Json}
    (route : req.route = .login body) {token : Bytes} {expires : Int} :
    (s.serve c req).2 = .ok (.token token expires) ↔
      ∃ i, issued c s (.request req) = some i ∧ i.token = token ∧ expires = c.jwtExpires := by
  have served : (s.serve c req).2 = (handleLogin c (s.wait req.elapsed) req body).2 := by
    simp only [AdminState.serve, authMiddleware, route, Route.exempt, if_true, AdminHandlers.handle]
  rw [served]
  simp only [issued, route]
  cases entered : loginAdmin c (s.wait req.elapsed) req body with
  | some admin =>
    obtain ⟨uid, password, given, given', found, size, allowed, verified, normal, login, signed⟩ := loginAdmin_eq entered
    obtain ⟨uidField, field, text⟩ := Option.bind_eq_some_iff.mp given
    obtain ⟨passwordField, field', text'⟩ := Option.bind_eq_some_iff.mp given'
    simp [handleLogin, field, field', text, text', found, allowed, verified, normal, login, signed, not_lt.mpr size,
      HttpReply.ok, eq_comm]
  | none =>
    refine iff_of_false (fun answered => ?_) (by simp)
    unfold handleLogin at answered
    split at answered
    · cases answered
    dsimp only at answered
    split at answered
    · cases answered
    split at answered
    · split at answered
      · split at answered
        · cases answered
        · split at answered
          · cases answered
          · split at answered
            · cases answered
            · split at answered
              · cases answered
              · split at answered
                · cases answered
                · simp_all [loginAdmin]
      · cases answered
    · cases answered

/-! ### Sessions -/

namespace AdminSessionDao

variable {t : AdminTables} {tokenHash : Bytes}

theorem isRevoked_none (missing : find tokenHash t = none) : isRevoked tokenHash t = true := by
  simp [isRevoked, missing]

theorem isRevoked_some {r : AdminSession} (found : find tokenHash t = some r) : isRevoked tokenHash t = r.revoked := by
  simp [isRevoked, found]

/-- A hash has a session, and none of its sessions is revoked. -/
theorem isRevoked_false (stored : ∃ r ∈ t.adminSessions.rows, r.tokenHash = tokenHash)
    (valid : ∀ r ∈ t.adminSessions.rows, r.tokenHash = tokenHash → r.revoked = false) :
    isRevoked tokenHash t = false := by
  cases found : find tokenHash t with
  | none =>
    obtain ⟨r, inside, same⟩ := stored
    exact absurd same (by simpa using List.find?_eq_none.mp found r inside)
  | some r =>
    rw [isRevoked_some found]
    exact valid r (List.mem_of_find?_eq_some found) (by simpa using List.find?_some found)

theorem mem_insert {row r : AdminSession} :
    r ∈ (insert row t).adminSessions.rows ↔ r ∈ t.adminSessions.rows ∨ r = t.adminSessions.fresh row := by
  have free : t.adminSessions.taken row = false := by simp [Table.taken, Row.clash]
  rw [insert, Table.mem_insert]
  simp [free]

/-- A new session stands behind those of its hash. -/
theorem isRevoked_insert {row : AdminSession} (revoked : isRevoked tokenHash t = true) (other : row.tokenHash ≠ tokenHash) :
    isRevoked tokenHash (insert row t) = true := by
  have free : t.adminSessions.taken row = false := by simp [Table.taken, Row.clash]
  have hash : (t.adminSessions.fresh row).tokenHash = row.tokenHash := rfl
  have same : find tokenHash (insert row t) = find tokenHash t := by
    rw [find, insert, Table.rows_insert_free free, List.find?_append]
    simp [find, hash, other]
  rwa [isRevoked, same]

/-- The session that a revocation marks. -/
private def marked (id : Int) (r : AdminSession) : AdminSession := if r.id = id then { r with revoked := true } else r

private theorem marked_same (id : Int) (r : AdminSession) : (marked id r).tokenHash = r.tokenHash := by
  unfold marked
  split <;> rfl

private theorem rows_revoke {session : AdminSession} (found : find tokenHash t = some session) :
    (revokeByTokenHash tokenHash t).adminSessions.rows = t.adminSessions.rows.map (marked session.id) := by
  simp only [revokeByTokenHash, found, Table.rows_update, decide_eq_true_eq]
  rfl

/-- The sessions after a revocation are those before it, some of the hash now revoked. -/
theorem mem_revoke {r : AdminSession} (inside : r ∈ (revokeByTokenHash tokenHash t).adminSessions.rows) :
    (∃ old ∈ t.adminSessions.rows, old.tokenHash = r.tokenHash ∧ old.revoked = r.revoked) ∨ r.tokenHash = tokenHash := by
  cases found : find tokenHash t with
  | none =>
    simp only [revokeByTokenHash, found] at inside
    exact .inl ⟨r, inside, rfl, rfl⟩
  | some session =>
    rw [rows_revoke found] at inside
    obtain ⟨old, there, rfl⟩ := List.mem_map.mp inside
    by_cases hit : old.id = session.id
    · have : old = session := Table.eq_of_id there (List.mem_of_find?_eq_some found) hit
      right
      rw [marked_same, this]
      simpa using List.find?_some found
    · exact .inl ⟨old, there, by simp [marked, hit]⟩

theorem exists_revoke {old : AdminSession} (inside : old ∈ t.adminSessions.rows) :
    ∃ r ∈ (revokeByTokenHash tokenHash t).adminSessions.rows, r.tokenHash = old.tokenHash := by
  cases found : find tokenHash t with
  | none =>
    simp only [revokeByTokenHash, found]
    exact ⟨old, inside, rfl⟩
  | some session =>
    rw [rows_revoke found]
    exact ⟨marked session.id old, List.mem_map_of_mem inside, marked_same _ _⟩

/-- The hash of a revocation is revoked after it, and so is what was revoked before. -/
theorem isRevoked_revoke {hash : Bytes} (revoked : hash = tokenHash ∨ isRevoked hash t = true) :
    isRevoked hash (revokeByTokenHash tokenHash t) = true := by
  cases found : find tokenHash t with
  | none =>
    simp only [revokeByTokenHash, found]
    obtain rfl | before := revoked
    · exact isRevoked_none found
    · exact before
  | some session =>
    have moved : find hash (revokeByTokenHash tokenHash t) = (find hash t).map (marked session.id) := by
      rw [find, rows_revoke found, List.find?_map]
      have same : ((fun r : AdminSession => decide (r.tokenHash = hash)) ∘ marked session.id) =
          fun r => decide (r.tokenHash = hash) := funext fun r => by simp [marked_same]
      rw [same]
      rfl
    cases first : find hash t with
    | none => exact isRevoked_none (by rw [moved, first]; rfl)
    | some r =>
      rw [isRevoked_some (moved.trans (congrArg _ first))]
      obtain rfl | before := revoked
      · have : r = session := Option.some.inj (first.symm.trans found)
        simp [marked, this]
      · rw [isRevoked_some first] at before
        unfold marked
        split
        · rfl
        · exact before

theorem mem_purge {now : Int} {r : AdminSession} :
    r ∈ (purgeExpired now t).adminSessions.rows ↔ r ∈ t.adminSessions.rows ∧ ¬Purged now r := by
  rw [purgeExpired, Table.mem_delete, Purged, Bool.not_eq_true]

/-- A purge leaves a hash revoked unless it takes the first of its sessions and leaves another. -/
theorem isRevoked_purge {now : Int} (revoked : isRevoked tokenHash t = true)
    (whole : ∀ first ∈ find tokenHash t, Purged now first →
      ∀ r ∈ t.adminSessions.rows, r.tokenHash = tokenHash → Purged now r) :
    isRevoked tokenHash (purgeExpired now t) = true := by
  have kept : find tokenHash (purgeExpired now t) =
      t.adminSessions.rows.find? fun r => !textLess r.expiresAt (decimalText now) && decide (r.tokenHash = tokenHash) := by
    simp [find, purgeExpired, List.find?_filter]
  cases first : find tokenHash t with
  | none =>
    refine isRevoked_none (kept.trans (List.find?_eq_none.mpr fun r inside => ?_))
    have := List.find?_eq_none.mp first r inside
    simp_all
  | some r =>
    by_cases purged : Purged now r
    · refine isRevoked_none (kept.trans (List.find?_eq_none.mpr fun other inside => ?_))
      by_cases same : other.tokenHash = tokenHash
      · have gone : textLess other.expiresAt (decimalText now) = true := whole r first purged other inside same
        simp [gone]
      · simp [same]
    · have still : find tokenHash (purgeExpired now t) = some r := by
        rw [kept]
        obtain ⟨hit, before, after, split, missed⟩ := List.find?_eq_some_iff_append.mp first
        refine List.find?_eq_some_iff_append.mpr ⟨?_, before, after, split, fun other inside => ?_⟩
        · rw [Purged, Bool.not_eq_true] at purged
          simp [purged, hit]
        · have := missed other inside
          simp_all
      rw [isRevoked_some still, ← isRevoked_some first]
      exact revoked

end AdminSessionDao

/-! ### The ledger and the tables -/

/-- What the tables have of a ledger. -/
structure Recorded (c : AdminConfig) (t : AdminTables) (l : TokenLedger) : Prop where
  signed : ∀ i ∈ l.issued, i.token = c.encode i.adminId i.iat i.exp ∧ 0 < i.adminId ∧ 0 < i.iat
  standing : ∀ i ∈ l.issued, (AdminAccountDao.findById i.adminId t).map Admin.status = some .normal
  stored : ∀ i ∈ l.issued, ∃ r ∈ t.adminSessions.rows, r.tokenHash = c.sha256Hex i.token
  apart : ∀ i ∈ l.issued, i.token ∉ l.loggedOut
  known : ∀ r ∈ t.adminSessions.rows, r.revoked = true → ∃ token ∈ l.loggedOut, r.tokenHash = c.sha256Hex token
  shut : ∀ token ∈ l.loggedOut, AdminSessionDao.isRevoked (c.sha256Hex token) t = true

variable {c : AdminConfig} {t : AdminTables} {l : TokenLedger}

/-- A token that holds is not revoked. -/
theorem Recorded.valid (recorded : Recorded c t l) (lawful : Lawful c) {i : IssuedToken} (inside : i ∈ l.issued) :
    AdminSessionDao.isRevoked (c.sha256Hex i.token) t = false := by
  refine AdminSessionDao.isRevoked_false (recorded.stored i inside) fun r there same => ?_
  rw [← Bool.not_eq_true]
  intro revoked
  obtain ⟨token, out, hashed⟩ := recorded.known r there revoked
  have : i.token = token := lawful.injective (same.symm.trans hashed)
  exact recorded.apart i inside (this ▸ out)

/-- Fewer tokens hold, with the same accounts and sessions. -/
theorem Recorded.filter (recorded : Recorded c t l) (selected : IssuedToken → Bool) :
    Recorded c t { l with issued := l.issued.filter selected } where
  signed := fun i inside => recorded.signed i (List.mem_filter.mp inside).1
  standing := fun i inside => recorded.standing i (List.mem_filter.mp inside).1
  stored := fun i inside => recorded.stored i (List.mem_filter.mp inside).1
  apart := fun i inside => recorded.apart i (List.mem_filter.mp inside).1
  known := recorded.known
  shut := recorded.shut

/-- The accounts of the tokens that hold keep their status, and the sessions are the same. -/
theorem Recorded.same {t' : AdminTables} (recorded : Recorded c t l) (sessions : t'.adminSessions = t.adminSessions)
    (status : ∀ i ∈ l.issued, (AdminAccountDao.findById i.adminId t').map Admin.status =
      (AdminAccountDao.findById i.adminId t).map Admin.status) : Recorded c t' l where
  signed := recorded.signed
  standing := fun i inside => (status i inside).trans (recorded.standing i inside)
  stored := by rw [sessions]; exact recorded.stored
  apart := recorded.apart
  known := by rw [sessions]; exact recorded.known
  shut := fun token out => by
    have before := recorded.shut token out
    rwa [AdminSessionDao.isRevoked, AdminSessionDao.find, sessions]

/-- A login adds a token that has not been logged out. -/
theorem Recorded.session (recorded : Recorded c t l) (lawful : Lawful c) {i : IssuedToken} {stored : Int}
    (signed : i.token = c.encode i.adminId i.iat i.exp ∧ 0 < i.adminId ∧ 0 < i.iat)
    (standing : (AdminAccountDao.findById i.adminId t).map Admin.status = some .normal) (new : i.token ∉ l.loggedOut) :
    Recorded c (AdminSessionDao.insert (sessionOf c i.adminId i.token stored) t) { l with issued := i :: l.issued } where
  signed := List.forall_mem_cons.mpr ⟨signed, recorded.signed⟩
  standing := List.forall_mem_cons.mpr ⟨standing, recorded.standing⟩
  stored := List.forall_mem_cons.mpr
    ⟨⟨_, AdminSessionDao.mem_insert.mpr (.inr rfl), rfl⟩, fun j inside => by
      obtain ⟨r, there, same⟩ := recorded.stored j inside
      exact ⟨r, AdminSessionDao.mem_insert.mpr (.inl there), same⟩⟩
  apart := List.forall_mem_cons.mpr ⟨new, recorded.apart⟩
  known := by
    intro r inside revoked
    obtain old | rfl := AdminSessionDao.mem_insert.mp inside
    · exact recorded.known r old revoked
    · cases revoked
  shut := fun token out => AdminSessionDao.isRevoked_insert (recorded.shut token out) fun same =>
    new (lawful.injective same ▸ out)

/-- A logout takes a token out of those that hold. -/
theorem Recorded.revoke (recorded : Recorded c t l) (token : Bytes) :
    Recorded c (AdminSessionDao.revokeByTokenHash (c.sha256Hex token) t)
      { issued := l.issued.filter fun i => i.token ≠ token, loggedOut := token :: l.loggedOut } where
  signed := fun i inside => recorded.signed i (List.mem_filter.mp inside).1
  standing := by
    intro i inside
    have same : (AdminSessionDao.revokeByTokenHash (c.sha256Hex token) t).admins = t.admins := by
      unfold AdminSessionDao.revokeByTokenHash
      split <;> rfl
    rw [AdminAccountDao.findById, same]
    exact recorded.standing i (List.mem_filter.mp inside).1
  stored := by
    intro i inside
    obtain ⟨r, there, hashed⟩ := recorded.stored i (List.mem_filter.mp inside).1
    obtain ⟨r', there', same⟩ := AdminSessionDao.exists_revoke there
    exact ⟨r', there', same.trans hashed⟩
  apart := by
    intro i inside out
    obtain ⟨there, other⟩ := List.mem_filter.mp inside
    obtain same | out := List.mem_cons.mp out
    · simp [same] at other
    · exact recorded.apart i there out
  known := by
    intro r inside revoked
    obtain ⟨old, there, same, also⟩ | hashed := AdminSessionDao.mem_revoke inside
    · obtain ⟨token', out, hashed⟩ := recorded.known old there (also.trans revoked)
      exact ⟨token', List.mem_cons_of_mem _ out, same.symm.trans hashed⟩
    · exact ⟨token, List.mem_cons_self, hashed⟩
  shut := by
    intro token' out
    refine AdminSessionDao.isRevoked_revoke ?_
    obtain rfl | out := List.mem_cons.mp out
    · exact .inl rfl
    · exact .inr (recorded.shut token' out)

/-- A purge takes sessions that nobody needs any more. -/
theorem Recorded.purge (recorded : Recorded c t l) {now : Int}
    (left : ∀ i ∈ l.issued, now ≤ i.exp →
      ∃ r ∈ t.adminSessions.rows, r.tokenHash = c.sha256Hex i.token ∧ ¬Purged now r)
    (whole : ∀ token ∈ l.loggedOut, ∀ first ∈ AdminSessionDao.find (c.sha256Hex token) t, Purged now first →
      ∀ r ∈ t.adminSessions.rows, r.tokenHash = c.sha256Hex token → Purged now r) :
    Recorded c (AdminSessionDao.purgeExpired now t) { l with issued := l.issued.filter fun i => now ≤ i.exp } where
  signed := fun i inside => recorded.signed i (List.mem_filter.mp inside).1
  standing := fun i inside => recorded.standing i (List.mem_filter.mp inside).1
  stored := by
    intro i inside
    obtain ⟨holds, early⟩ := List.mem_filter.mp inside
    obtain ⟨r, there, hashed, spared⟩ := left i holds (of_decide_eq_true early)
    exact ⟨r, AdminSessionDao.mem_purge.mpr ⟨there, spared⟩, hashed⟩
  apart := fun i inside => recorded.apart i (List.mem_filter.mp inside).1
  known := fun r inside => recorded.known r (AdminSessionDao.mem_purge.mp inside).1
  shut := fun token out => AdminSessionDao.isRevoked_purge (recorded.shut token out) (whole token out)

/-! ### Steps -/

/-- A write that leaves the sessions alone. -/
structure SparesSessions (write : AdminWrite) : Prop where
  session : ∀ row, write ≠ .session row
  revoke : ∀ tokenHash, write ≠ .revoke tokenHash
  purge : ∀ now, write ≠ .purge now

/-- So does every write of a manager. -/
theorem managed_spares (c : AdminConfig) (s : AdminState) (who : Identity) (route : Route) :
    SparesSessions (managed c s who route) := by
  have kinds : (∀ row, managed c s who route ≠ .session row) ∧
      (∀ tokenHash, managed c s who route ≠ .revoke tokenHash) ∧ ∀ now, managed c s who route ≠ .purge now := by
    cases route with
    | createAdmin body | updateRole _ body =>
      cases body with
      | none => simp [managed]
      | some body => simp only [managed, Option.elim]; grind
    | createRole body =>
      cases body with
      | none => simp [managed]
      | some body => simp only [managed]; grind
    | _ => simp only [managed, newStatus]; grind
  exact ⟨kinds.1, kinds.2.1, kinds.2.2⟩

/-- The writes to the sessions are those of logins and logouts. -/
theorem command_kind {s : AdminState} {who : Identity} {req : HttpRequest} :
    (∃ body admin, req.route = .login body ∧ loginAdmin c s req body = some admin ∧
      AdminHandlers.command c s who req = .session (sessionOf c admin.id
        (JwtUtils.sign c admin.id req.readings.issued req.readings.expires) req.readings.stored)) ∨
    (req.route = .logout ∧ AdminHandlers.command c s who req = .revoke (c.sha256Hex (req.authorization.drop 7))) ∨
    SparesSessions (AdminHandlers.command c s who req) := by
  unfold AdminHandlers.command
  have nothing : SparesSessions .nothing := ⟨by simp, by simp, by simp⟩
  cases route : req.route with
  | login body =>
    dsimp only
    cases found : loginAdmin c s req body with
    | none => exact .inr (.inr nothing)
    | some admin => exact .inl ⟨body, admin, rfl, found, rfl⟩
  | logout =>
    dsimp only
    split
    · exact .inr (.inr nothing)
    · exact .inr (.inl ⟨rfl, rfl⟩)
  | _ =>
    dsimp only
    split
    · exact .inr (.inr (managed_spares c s who _))
    · exact .inr (.inr nothing)

/-- A write is of a purge, or of a request that has come through the middleware. -/
theorem command_cases {s : AdminState} {event : AdminEvent} {write : AdminWrite} (writes : s.command c event = write)
    (done : write ≠ .nothing) :
    (∃ now, event = .purge now ∧ write = .purge now) ∨ ∃ req s' who, event = .request req ∧
      authMiddleware c (s.wait req.elapsed) req = (s', .next who) ∧ AdminHandlers.command c s' who req = write := by
  cases event with
  | purge now => exact .inl ⟨now, rfl, writes.symm⟩
  | request req =>
    simp only [AdminState.command] at writes
    cases passed : authMiddleware c (s.wait req.elapsed) req with
    | mk s' decision =>
      rw [passed] at writes
      cases decision with
      | reject e => exact absurd writes.symm done
      | next who => exact .inr ⟨req, s', who, rfl, passed, writes⟩

/-- A login is not looked at by the middleware. -/
theorem authMiddleware_login {s : AdminState} {req : HttpRequest} {body : Option Json} (route : req.route = .login body) :
    authMiddleware c s req = (s, .next {}) := by
  simp [authMiddleware, route, Route.exempt]

/-- Only a login writes a session, and it is one for the token that it returns. -/
theorem command_session {s : AdminState} {event : AdminEvent} {row : AdminSession} (writes : s.command c event = .session row) :
    ∃ i stored, issued c s event = some i ∧ row = sessionOf c i.adminId i.token stored ∧
      i.token = c.encode i.adminId i.iat i.exp ∧ 0 < i.adminId ∧
      (AdminAccountDao.findById i.adminId s.tables).map Admin.status = some .normal := by
  obtain ⟨now, rfl, same⟩ | ⟨req, s', who, rfl, passed, writes⟩ := command_cases writes (by simp)
  · cases same
  obtain ⟨body, admin, route, found, writes'⟩ | ⟨route, writes'⟩ | spares := @command_kind c s' who req
  · rw [authMiddleware_login route] at passed
    cases passed
    obtain ⟨uid, password, -, -, there, -, -, -, normal, -⟩ := loginAdmin_eq found
    have inside : admin ∈ s.tables.admins.rows := List.mem_of_find?_eq_some there
    have known : AdminAccountDao.findById admin.id s.tables = some admin := by
      refine Table.find_eq inside (by simp [normal]) fun other inside' same => Table.eq_of_id inside' inside ?_
      exact of_decide_eq_true (Bool.and_eq_true_iff.mp same).1
    have positive : 0 < admin.id := Int.lt_of_lt_of_le Int.zero_lt_one (s.tables.admins.bounded admin inside).1
    refine ⟨_, req.readings.stored, by simp only [issued, route, found]; rfl,
      (AdminWrite.session.inj (writes'.symm.trans writes)).symm, rfl, positive, ?_⟩
    simp [known, normal]
  · cases writes'.symm.trans writes
  · exact absurd writes (spares.session row)

/-- Only a logout revokes a session, and it is the first of its token. -/
theorem command_revoke {s : AdminState} {event : AdminEvent} {tokenHash : Bytes}
    (writes : s.command c event = .revoke tokenHash) : tokenHash = c.sha256Hex event.token := by
  obtain ⟨now, rfl, same⟩ | ⟨req, s', who, rfl, passed, writes⟩ := command_cases writes (by simp)
  · cases same
  obtain ⟨body, admin, route, found, writes'⟩ | ⟨route, writes'⟩ | spares := @command_kind c s' who req
  · cases writes'.symm.trans writes
  · exact AdminWrite.revoke.inj (writes.symm.trans writes')
  · exact absurd writes (spares.revoke tokenHash)

theorem command_purge {s : AdminState} {event : AdminEvent} {now : Int} (writes : s.command c event = .purge now) :
    event = .purge now := by
  obtain ⟨_, rfl, same⟩ | ⟨req, s', who, rfl, passed, writes⟩ := command_cases writes (by simp)
  · exact congrArg _ (AdminWrite.purge.inj same).symm
  obtain ⟨body, admin, route, found, writes'⟩ | ⟨route, writes'⟩ | spares := @command_kind c s' who req
  · cases writes'.symm.trans writes
  · cases writes'.symm.trans writes
  · exact absurd writes (spares.purge now)

/-- Other writes leave the sessions. -/
theorem sessions_write {t : AdminTables} {write : AdminWrite} (spares : SparesSessions write) :
    (write.tables t).adminSessions = t.adminSessions := by
  cases write with
  | nothing | account | dropRole => rfl
  | session row => exact absurd rfl (spares.session row)
  | revoke tokenHash => exact absurd rfl (spares.revoke tokenHash)
  | purge now => exact absurd rfl (spares.purge now)
  | password id passwordHash =>
    simp only [AdminWrite.tables, AdminAccountDao.updatePassword]
    split <;> rfl
  | status id value =>
    simp only [AdminWrite.tables, AdminAccountDao.updateStatus]
    split <;> rfl
  | roles id roleIds => exact (replaceRoles_others id roleIds t).adminSessions
  | role name description perms =>
    cases perms with
    | none => rfl
    | some perms => exact (setRolePermissions_others _ perms _).adminSessions
  | rights id description perms =>
    cases description <;> cases perms <;>
      simp only [AdminWrite.tables, Option.elim, (setRolePermissions_others _ _ _).adminSessions, updateRole]

/-- An account in good standing stays so unless its own status changes to another. -/
theorem standing_status {t : AdminTables} {adminId id : Int} {value : AccountStatus}
    (standing : (AdminAccountDao.findById adminId t).map Admin.status = some .normal)
    (spared : adminId = id → value = .normal) :
    (AdminAccountDao.findById adminId ((AdminWrite.status id value).tables t)).map Admin.status =
      (AdminAccountDao.findById adminId t).map Admin.status := by
  obtain ⟨admin, found, normal⟩ := Option.map_eq_some_iff.mp standing
  simp only [AdminWrite.tables, AdminAccountDao.updateStatus]
  split
  · rfl
  · refine findById_update fun a inside here selected => ?_
    have named : admin.id = adminId := by
      have hit := List.find?_some found
      simp only [Bool.and_eq_true, decide_eq_true_eq] at hit
      exact hit.1
    have : a = admin := Table.eq_of_id inside (List.mem_of_find?_eq_some found) (here.trans named.symm)
    rw [this, normal]
    exact spared (here.symm.trans (of_decide_eq_true selected))

/-- A step that does not confuse them keeps the ledger in the tables. -/
theorem recorded_step {s : AdminState} (lawful : Lawful c) (recorded : Recorded c s.tables l) (event : AdminEvent)
    (calm : ¬Confuses c (s, l) event) : Recorded c (s.step c event).tables (l.note c s event) := by
  have kept : (∀ i ∈ l.issued, ∀ value, s.command c event ≠ .status i.adminId value) →
      ∀ i ∈ l.issued, (AdminAccountDao.findById i.adminId ((s.command c event).tables s.tables)).map Admin.status =
        (AdminAccountDao.findById i.adminId s.tables).map Admin.status := by
    intro other i inside
    have standing := recorded.standing i inside
    refine status_write ?_ (other i inside)
    cases found : AdminAccountDao.findById i.adminId s.tables with
    | none => simp [found] at standing
    | some admin => rfl
  rw [AdminState.step_tables]
  unfold TokenLedger.note
  cases writes : s.command c event with
  | session row =>
    obtain ⟨i, stored, returned, rfl, signed, positive, standing⟩ := command_session writes
    rw [returned]
    cases event with
    | purge now => cases returned
    | request req =>
      have new : ¬(i.token ∈ l.loggedOut ∨ i.iat ≤ 0) := fun bad => calm ⟨i, returned, bad⟩
      rw [not_or, not_le] at new
      exact recorded.session lawful ⟨signed, positive, new.2⟩ standing new.1
  | revoke tokenHash =>
    rw [command_revoke writes]
    exact recorded.revoke event.token
  | purge now =>
    obtain rfl := command_purge writes
    simp only [Confuses, not_or] at calm
    refine recorded.purge (fun i inside early => ?_) fun token out first found purged r inside hashed => ?_
    · by_contra none_left
      refine calm.1 ⟨i, inside, early, fun r there hashed => ?_⟩
      by_contra spared
      exact none_left ⟨r, there, hashed, spared⟩
    · by_contra spared
      exact calm.2 ⟨token, out, ⟨first, found, purged⟩, r, inside, hashed, spared⟩
  | status id value =>
    have sessions := @sessions_write s.tables (.status id value) ⟨by simp, by simp, by simp⟩
    dsimp only
    split
    · rename_i normal
      exact recorded.same sessions fun i inside => standing_status (recorded.standing i inside) fun _ => normal
    · have fewer := recorded.filter fun i => i.adminId ≠ id
      refine fewer.same sessions fun i inside => standing_status (fewer.standing i inside) fun same => ?_
      exact absurd same (of_decide_eq_true (List.mem_filter.mp inside).2)
  | _ =>
    rw [writes] at kept
    exact recorded.same (sessions_write ⟨by simp, by simp, by simp⟩) (kept (by simp))

/-! ### The middleware -/

/-- The statuses of the cache are those of the tables. -/
def StatusCached (s : AdminState) : Prop :=
  ∀ e ∈ s.rbacCache, s.steady < e.expiresAt →
    (AdminAccountDao.findById e.adminId s.tables).map Admin.status = some e.accountStatus

theorem statusCached_step {s : AdminState} (cached : StatusCached s) (event : AdminEvent) :
    StatusCached (s.step c event) := by
  cases event with
  | purge now => exact cached
  | request req =>
    obtain ⟨cache, steady⟩ := AdminState.step_cache c s req
    intro e inside live
    rw [cache] at inside
    rw [steady] at live
    rw [AdminState.step_tables]
    have current : ∀ e ∈ (authMiddleware c (s.wait req.elapsed) req).1.rbacCache, s.steady + req.elapsed < e.expiresAt →
        (AdminAccountDao.findById e.adminId s.tables).map Admin.status = some e.accountStatus :=
      @entries_entered (fun e t => (AdminAccountDao.findById e.adminId t).map Admin.status = some e.accountStatus)
        (fun t adminId admin expires found => by simp [found]) c s cached req
    exact status_kept (current e (AdminWrite.mem_cache inside) live) inside

/-- An account in good standing is let in. -/
theorem authorize_standing {s : AdminState} {adminId : Int}
    (cached : ∀ e ∈ s.rbacCache, s.steady < e.expiresAt →
      (AdminAccountDao.findById e.adminId s.tables).map Admin.status = some e.accountStatus)
    (standing : (AdminAccountDao.findById adminId s.tables).map Admin.status = some .normal) :
    ∃ permissions, (authorize s adminId).2 = .next ⟨adminId, permissions⟩ := by
  unfold authorize
  split
  · rename_i e hit
    obtain ⟨found, live⟩ := Option.filter_eq_some_iff.mp hit
    have named : e.adminId = adminId := by simpa using List.find?_some found
    have status := cached e (List.mem_of_find?_eq_some found) (of_decide_eq_true live)
    rw [named, standing] at status
    simp [letIn, ← Option.some.inj status]
  · obtain ⟨admin, found, normal⟩ := Option.map_eq_some_iff.mp standing
    simp [found, letIn, normal]

/-- A ledger that is kept in the tables is what the middleware goes by. -/
theorem tokenLaw_of_recorded {s : AdminState} (lawful : Lawful c) (recorded : Recorded c s.tables l)
    (cached : StatusCached s) : TokenLaw c (s, l) where
  accepted := by
    intro i inside req route size token after before
    obtain ⟨signed, positive, issuedAt⟩ := recorded.signed i inside
    have decoded := lawful.decode_encode i.adminId i.iat i.exp positive issuedAt (by omega)
    rw [← signed] at decoded
    have verified : JwtUtils.verify c i.token req.readings.now = some ⟨i.adminId, i.iat, i.exp⟩ := by
      have fits : ¬(i.exp < req.readings.now - JwtUtils.kTolerance ∨ req.readings.now + JwtUtils.kTolerance < i.iat ∨
          i.adminId = 0) := by
        rw [show JwtUtils.kTolerance = 5 from rfl]
        omega
      simp [JwtUtils.verify, decoded, fits]
    have named : authenticate c s.tables req = .ok i.adminId := by
      simp [authenticate, not_lt.mpr size, token, verified, not_le.mpr positive, recorded.valid lawful inside]
    have entered := @authorize_standing (s.wait req.elapsed) i.adminId
      (fun e there live => cached e there (Nat.lt_of_le_of_lt (Nat.le_add_right _ _) live)) (recorded.standing i inside)
    obtain ⟨permissions, decision⟩ := entered
    refine ⟨permissions, ?_⟩
    simp only [authMiddleware, route, AdminState.wait, named]
    exact decision
  rejected := by
    intro token out req route given
    have revoked := recorded.shut token out
    have refused : ∃ e, authenticate c s.tables req = .error e := by
      unfold authenticate
      split
      · exact ⟨_, rfl⟩
      · rw [given]
        dsimp only
        split
        · exact ⟨_, rfl⟩
        · simp only [revoked, if_true]
          split <;> exact ⟨_, rfl⟩
    obtain ⟨e, refused⟩ := refused
    refine ⟨e, ?_⟩
    simp only [authMiddleware, route, AdminState.wait, refused]
    rfl

/-! ### Runs -/

/-- The server with tables that have no session yet, and nothing in the ledger. -/
def ledgerStart (tables : AdminTables) (limiter : RateLimiter) : AdminState × TokenLedger :=
  ({ tables := { tables with adminSessions := ∅ }, loginLimiter := limiter }, {})

/-- In every run whose events do not confuse the sessions, a token is good from its login to its
    logout, its expiry or the end of its account, and never after its logout. -/
theorem token_life (c : AdminConfig) (tables : AdminTables) (limiter : RateLimiter) (events : List AdminEvent)
    (lawful : Lawful c)
    (calm : Along (ledgerStep c) (fun p event => ¬Confuses c p event) (ledgerStart tables limiter) events) :
    ∀ before, before <+: events → TokenLaw c (after (ledgerStep c) (ledgerStart tables limiter) before) := by
  rintro before ⟨rest, rfl⟩
  have kept := @after_invariant _ _ (ledgerStep c) (fun p event => ¬Confuses c p event)
    (fun p => Recorded c p.1.tables p.2 ∧ StatusCached p.1)
    (fun p event calm holds => ⟨recorded_step lawful holds.1 event calm, statusCached_step holds.2 event⟩)
    (ledgerStart tables limiter)
    ⟨⟨by simp [ledgerStart], by simp [ledgerStart], by simp [ledgerStart], by simp [ledgerStart],
      by simp [ledgerStart], by simp [ledgerStart]⟩, fun e inside => absurd inside List.not_mem_nil⟩
    before (along_append.mp calm).1
  exact tokenLaw_of_recorded lawful kept.1 kept.2

/-! ### A server whose tokens are written in full -/

/-- A number in unary, with an end mark. -/
def unary (n : Int) : Bytes := List.replicate n.toNat 1 ++ [0]

/-- The number that a text begins with, and the rest. -/
def readUnary (bytes : Bytes) : Int × Bytes :=
  ((bytes.takeWhile (· = 1)).length, (bytes.dropWhile (· = 1)).drop 1)

theorem readUnary_unary {n : Int} (positive : 0 < n) (rest : Bytes) : readUnary (unary n ++ rest) = (n, rest) := by
  have split : unary n ++ rest = List.replicate n.toNat 1 ++ (0 :: rest) := by simp [unary]
  have ones : ∀ b ∈ List.replicate n.toNat (1 : UInt8), (decide (b = 1)) = true := by
    intro b inside
    simp [List.eq_of_mem_replicate inside]
  simp only [readUnary, split, List.takeWhile_append_of_pos ones, List.dropWhile_append_of_pos ones]
  simp [positive.le]

/-- Tokens that say their claims. -/
def plainConfig : AdminConfig where
  encode adminId iat exp := unary adminId ++ (unary iat ++ unary exp)
  decode token :=
    let adminId := readUnary token
    let iat := readUnary adminId.2
    some ⟨adminId.1, iat.1, (readUnary iat.2).1⟩
  sha256Hex := id
  hash := id
  verify password hash := password = hash
  jwtExpires := 3

theorem plainConfig_lawful : Lawful plainConfig where
  decode_encode adminId iat exp positive positive' positive'' := by
    have last := readUnary_unary positive'' []
    rw [List.append_nil] at last
    simp only [plainConfig, readUnary_unary positive, readUnary_unary positive', last]
  injective := Function.injective_id

/-- The first admin logs in at a reading of the clock. -/
def loginAt (now : Int) : AdminEvent :=
  .request
    { route := .login (some (.object [(ascii "uid", .string (ascii "admin")), (ascii "password", .string (ascii "secret"))]))
      readings := { now := now } }

/-- The first admin uses the token it got at a reading of the clock. -/
def withToken (issuedAt : Int) (route : Route) (now : Int) : HttpRequest :=
  { route := route, authorization := ascii "Bearer " ++ plainConfig.encode 1 issuedAt (issuedAt + 3), readings := { now := now } }

def firstStart : AdminState × TokenLedger :=
  ledgerStart (Seed.tables (ascii "secret")) { maxAttempts := 5, window := 60000000000 }

/-- Two logins a second apart, a purge and a logout of the first token: the first token is turned
    away and the second lets its admin in. -/
theorem token_life_two_logins :
    Lawful plainConfig ∧
      (∀ before, before <+: [loginAt 1, .purge 1, loginAt 2, .request (withToken 1 .logout 2)] →
        TokenLaw plainConfig (after (ledgerStep plainConfig) firstStart before)) ∧
      (after (ledgerStep plainConfig) firstStart
        [loginAt 1, .purge 1, loginAt 2, .request (withToken 1 .logout 2)]).2.issued.length = 1 :=
  ⟨plainConfig_lawful, token_life plainConfig (Seed.tables (ascii "secret")) { maxAttempts := 5, window := 60000000000 } _
    plainConfig_lawful (by decide), by decide⟩

/-- Login, logout and login in one second: the second login returns the revoked token. -/
theorem same_second_login :
    Lawful plainConfig ∧ ¬∀ before, before <+: [loginAt 1, .request (withToken 1 .logout 1), loginAt 1] →
      TokenLaw plainConfig (after (ledgerStep plainConfig) firstStart before) := by
  refine ⟨plainConfig_lawful, fun law => ?_⟩
  have there : ⟨plainConfig.encode 1 1 4, 1, 1, 4⟩ ∈ (after (ledgerStep plainConfig) firstStart
      [loginAt 1, .request (withToken 1 .logout 1), loginAt 1]).2.issued := by decide
  obtain ⟨permissions, accepted⟩ :=
    (law _ (List.prefix_refl _)).accepted _ there (withToken 1 .me 1) rfl (by decide) (by decide) (by decide) (by decide)
  have rejected : (authMiddleware plainConfig ((after (ledgerStep plainConfig) firstStart
      [loginAt 1, .request (withToken 1 .logout 1), loginAt 1]).1.wait 0) (withToken 1 .me 1)).2 =
      .reject apiErr.kTokenRevoked := by decide
  cases rejected.symm.trans accepted

end NovaIIM
