import NovaIIM.DecimalOrder
import NovaIIM.TokenLife

/-!
Which sessions a purge deletes.

A login stores when its session expires as a calendar time, and the purge compares that
with the seconds since 1970, as texts. A year has fewer digits than the seconds, so all
that matters is whether it comes up to their leading digits (`purged_iff`).
-/
namespace NovaIIM
open AdminHandlers

/-- The session is one that a login stored, to expire at an instant; it may have been revoked. -/
def Wrote (c : AdminConfig) (expiry : Int) (r : AdminSession) : Prop :=
  ∃ token stored, expiry = stored + c.jwtExpires ∧
    r = { sessionOf c r.adminId token stored with id := r.id, revoked := r.revoked }

/-- The year of an instant, written before a dash, comes before the seconds of another one. -/
def YearPrecedes (expiry now : Int) : Prop := 0 ≤ now ∧ LeadsTo 4 (Calendar.gmtime expiry).year.toNat now.toNat

instance (expiry now : Int) : Decidable (YearPrecedes expiry now) := inferInstanceAs (Decidable (_ ∧ _))

variable {c : AdminConfig} {t : AdminTables} {r : AdminSession} {expiry now : Int}

theorem Wrote.text (wrote : Wrote c expiry r) : r.expiresAt = Calendar.formatUtc expiry := by
  obtain ⟨token, stored, rfl, shape⟩ := wrote
  rw [shape]
  rfl

/-- The text of an instant begins with its year. -/
theorem formatUtc_year (expiry : Int) : ∃ rest,
    Calendar.formatUtc expiry = Calendar.decimal 4 (Calendar.gmtime expiry).year ++ 45 :: rest := by
  refine ⟨Calendar.decimal 2 (Calendar.gmtime expiry).month ++ [45] ++ Calendar.decimal 2 (Calendar.gmtime expiry).day ++
    [32] ++ Calendar.decimal 2 (Calendar.gmtime expiry).hour ++ [58] ++ Calendar.decimal 2 (Calendar.gmtime expiry).minute ++
    [58] ++ Calendar.decimal 2 (Calendar.gmtime expiry).second, ?_⟩
  simp [Calendar.formatUtc]

/-- A purge goes by the year alone. -/
theorem purged_iff (wrote : Wrote c expiry r) : Purged now r ↔ YearPrecedes expiry now := by
  obtain ⟨rest, text⟩ := formatUtc_year expiry
  rw [Purged, wrote.text, text, YearPrecedes, decimalText]
  split
  · next negative =>
    -- a minus sign comes before every digit
    have digits := digits_decimal 4 (Calendar.gmtime expiry).year
    have long : 0 < (Calendar.decimal 4 (Calendar.gmtime expiry).year).length := by
      rw [length_decimal, decimalWidth]
      omega
    obtain ⟨first, year, split⟩ := List.exists_cons_of_length_pos long
    rw [split] at digits ⊢
    have low := digits.head.1
    have after : ¬first < (45 : UInt8) := fun less => by
      have := UInt8.lt_iff_toNat_lt.mp less
      have : (45 : UInt8).toNat = 45 := rfl
      omega
    have other : first ≠ (45 : UInt8) := fun same => by
      rw [same] at low
      exact absurd low (by decide)
    refine iff_of_false ?_ (fun both => by omega)
    rw [List.cons_append, textLess, decide_eq_false after, decide_eq_false other]
    exact Bool.false_ne_true
  · next positive =>
    rw [textLess_decimal]
    exact (and_iff_right (by omega)).symm

private theorem filter_eq_iff {α : Type} {p q : α → Bool} {l : List α} :
    l.filter p = l.filter q ↔ ∀ a ∈ l, p a = q a := by
  constructor
  · intro same a inside
    have both : a ∈ l.filter p ↔ a ∈ l.filter q := by rw [same]
    rw [List.mem_filter, List.mem_filter] at both
    rw [Bool.eq_iff_iff]
    exact ⟨fun hp => (both.mp ⟨inside, hp⟩).2, fun hq => (both.mpr ⟨inside, hq⟩).2⟩
  · exact List.filter_congr

/-- A purge of sessions that logins stored deletes exactly the expired ones if and only if the
    expired ones are those whose year precedes the current seconds. -/
theorem purge_expired_iff (c : AdminConfig) (t : AdminTables) (expiry : Int → Int)
    (wrote : ∀ r ∈ t.adminSessions.rows, Wrote c (expiry r.id) r) (now : Int) :
    (AdminSessionDao.purgeExpired now t).adminSessions.rows =
        t.adminSessions.rows.filter (fun r => ¬expiry r.id < now) ↔
      ∀ r ∈ t.adminSessions.rows, expiry r.id < now ↔ YearPrecedes (expiry r.id) now := by
  show (t.adminSessions.rows.filter fun r => !textLess r.expiresAt (decimalText now)) = _ ↔ _
  rw [filter_eq_iff]
  refine forall₂_congr fun r inside => ?_
  have purged := @purged_iff c r (expiry r.id) now (wrote r inside)
  rw [← purged, Purged, Bool.eq_iff_iff]
  simp only [Bool.not_eq_true', decide_eq_true_eq, ← Bool.not_eq_true]
  exact not_iff_not.trans iff_comm

/-! ### Runs -/

/-- Every session of the tables was stored by a login. -/
def AllWritten (c : AdminConfig) (t : AdminTables) : Prop := ∀ r ∈ t.adminSessions.rows, ∃ expiry, Wrote c expiry r

theorem allWritten_step (s : AdminState) (event : AdminEvent) (written : AllWritten c s.tables) :
    AllWritten c (s.step c event).tables := by
  rw [AdminState.step_tables]
  cases writes : s.command c event with
  | session row =>
    intro r inside
    obtain ⟨i, stored, -, rfl, -⟩ := command_session writes
    obtain old | rfl := AdminSessionDao.mem_insert.mp inside
    · exact written r old
    · exact ⟨_, i.token, stored, rfl, rfl⟩
  | revoke tokenHash =>
    intro r inside
    simp only [AdminWrite.tables, AdminSessionDao.revokeByTokenHash] at inside
    split at inside
    · exact written r inside
    · obtain ⟨old, there, rfl⟩ := Table.mem_update.mp inside
      obtain ⟨expiry, token, stored, same, shape⟩ := written old there
      split
      · exact ⟨expiry, token, stored, same, congrArg (fun r : AdminSession => { r with revoked := true }) shape⟩
      · exact ⟨expiry, token, stored, same, shape⟩
  | purge now => exact fun r inside => written r (AdminSessionDao.mem_purge.mp inside).1
  | nothing | account | password | status | roles | role | rights | dropRole =>
    intro r inside
    rw [sessions_write] at inside
    · exact written r inside
    · exact ⟨by simp, by simp, by simp⟩

/-- In every run from tables without sessions, the sessions are ones that logins stored. -/
theorem allWritten_after (c : AdminConfig) (s : AdminState) (new : s.tables.adminSessions = ∅) (events : List AdminEvent) :
    AllWritten c (after (AdminState.step c) s events).tables := by
  refine @after_invariant_always _ _ (AdminState.step c) (fun s => AllWritten c s.tables)
    (fun s event => allWritten_step s event) s (fun r inside => ?_) events
  rw [new] at inside
  cases inside

/-- The tables with one session, stored at an instant. -/
def oneSession (stored : Int) : AdminTables := AdminSessionDao.insert (sessionOf plainConfig 1 [] stored) {}

theorem oneSession_wrote (stored : Int) : ∀ r ∈ (oneSession stored).adminSessions.rows, Wrote plainConfig (stored + 3) r := by
  intro r inside
  obtain old | rfl := AdminSessionDao.mem_insert.mp inside
  · cases old
  · exact ⟨[], stored, rfl, rfl⟩

/-- A session is kept a second before it expires. -/
theorem purge_expired_iff_kept :
    (∀ r ∈ (oneSession 1732999990).adminSessions.rows, Wrote plainConfig 1732999993 r) ∧
      (AdminSessionDao.purgeExpired 1732999992 (oneSession 1732999990)).adminSessions.rows =
        (oneSession 1732999990).adminSessions.rows.filter (fun _ => ¬1732999993 < 1732999992) :=
  ⟨oneSession_wrote _,
    (purge_expired_iff plainConfig (oneSession 1732999990) (fun _ => 1732999993) (oneSession_wrote _) 1732999992).mpr
      (by decide)⟩

/-- A session that has expired for a second stays. -/
theorem expired_session_stays :
    ¬∀ (c : AdminConfig) (t : AdminTables) (expiry : Int → Int), (∀ r ∈ t.adminSessions.rows, Wrote c (expiry r.id) r) →
      ∀ now, (AdminSessionDao.purgeExpired now t).adminSessions.rows =
        t.adminSessions.rows.filter (fun r => ¬expiry r.id < now) := by
  intro always
  have same := always plainConfig (oneSession 1732999990) (fun _ => 1732999993) (oneSession_wrote _) 1732999994
  revert same
  decide

end NovaIIM
