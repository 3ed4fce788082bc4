import NovaIIM.Replies
import NovaIIM.UserService

/-!
What an update of a profile comes to when its transaction is closed.

The handler does not look at the result of the soft deletion of the old avatar
files: when the query for them fails, or the update of one of them, the update of
the profile goes on and is committed (`MissesFiles`). Exactly then an update that
is answered with OK lacks a write (`handleUpdateProfile_settled`).
-/
namespace NovaIIM.UserService
open Store

/-- The avatar files of a user that are in use. -/
def activeAvatars (userId : Int) (t : Tables) : List UserFile :=
  t.userFiles.rows.filter fun r => r.userId = userId && r.fileType = ascii "avatar" && r.status = .active

/-- The file of a new avatar. -/
def avatarFile (user : User) (avatar fileHash : Bytes) : UserFile :=
  { userId := user.id, fileType := ascii "avatar", filePath := avatar, hash := fileHash }

/-- The writes of a new avatar, in place of some files. -/
def avatarWrites (user : User) (avatar fileHash now : Bytes) (files : List UserFile) : List (Write Tables) :=
  plain (Tables.setAvatar user.id avatar) :: (files.map fun f => plain (Tables.setFileStatus f.id .deleted now)) ++
    [plain (Tables.insertFile (FileDao.stampFile now (avatarFile user avatar fileHash)))]

/-- The writes of an update of a profile. -/
def profileWrites (user : User) (nickname avatar fileHash now : Bytes) (t : Tables) : List (Write Tables) :=
  (if nickname = [] then [] else [plain (Tables.setNickname user.id nickname)]) ++
    if avatar = [] then [] else avatarWrites user avatar fileHash now (activeAvatars user.id t)

/-- The user with a uid that has not deleted the account. -/
def userOf (uid : Bytes) (t : Tables) : Option User := t.users.rows.find? fun r => r.uid = uid && r.status ≠ .deleted

/-- Of the statements to come, the query for `n` old files or the update of one of them fails,
    and the insertion of the new file and the COMMIT do not. -/
def MissesFiles (n : Nat) (faults : List Bool) : Prop :=
  0 < n ∧ (faults.headD false = true ∧ Clear 2 faults.tail ∨
    faults.headD false = false ∧ ¬Clear n faults.tail ∧ Clear 2 (faults.tail.drop n))

/-! ### The soft deletion -/

/-- The tables behind the loop of the soft deletion, with the failures to come. -/
def softDeleted (now : Bytes) : List UserFile → List Bool → Tables → Tables
  | [], _, t => t
  | f :: rest, faults, t =>
    softDeleted now rest faults.tail (if faults.headD false then t else t.setFileStatus f.id .deleted now)

section SoftDeletion
variable {t : Tables} {now : Bytes}

theorem run_softDeleteEach (now : Bytes) (files : List UserFile) (w : World) :
    ∃ done, (FileDao.softDeleteEach now files).run w =
      ⟨done, { w with tables := softDeleted now files w.faults w.tables, faults := w.faults.drop files.length }, []⟩ := by
  induction files generalizing w with
  | nil => exact ⟨true, rfl⟩
  | cons f rest ih =>
    cases fault : w.fails with
    | true =>
      obtain ⟨others, ends⟩ := ih w.spend
      refine ⟨false, ?_⟩
      have skipped : softDeleted now (f :: rest) w.faults w.tables = softDeleted now rest w.faults.tail w.tables := by
        rw [softDeleted, if_pos (show w.faults.headD false = true from fault)]
      simp [FileDao.softDeleteEach, execute, fault, ends, skipped]
    | false =>
      obtain ⟨others, ends⟩ := ih (w.wrote (w.tables.setFileStatus f.id .deleted now))
      refine ⟨others, ?_⟩
      have deleted : softDeleted now (f :: rest) w.faults w.tables =
          softDeleted now rest w.faults.tail (w.tables.setFileStatus f.id .deleted now) := by
        rw [softDeleted, show w.faults.headD false = false from fault, if_neg Bool.false_ne_true]
      simp [FileDao.softDeleteEach, execute, fault, ends, deleted]

/-- Without failures every file is deleted. -/
theorem softDeleted_clear {files : List UserFile} {faults : List Bool} (clear : Clear files.length faults) (t : Tables) :
    applyAll (files.map fun f => plain (Tables.setFileStatus f.id .deleted now)) t = some (softDeleted now files faults t) := by
  induction files generalizing faults t with
  | nil => rfl
  | cons f rest ih =>
    have works : faults.headD false = false := clear.1
    rw [List.map_cons, applyAll_plain, softDeleted, works]
    exact ih clear.2 _

/-- A file that is not among those to delete stays. -/
theorem softDeleted_keeps {files : List UserFile} {faults : List Bool} {r : UserFile} (inside : r ∈ t.userFiles.rows)
    (other : ∀ f ∈ files, f.id ≠ r.id) : r ∈ (softDeleted now files faults t).userFiles.rows := by
  induction files generalizing faults t with
  | nil => exact inside
  | cons f rest ih =>
    refine ih ?_ fun g there => other g (List.mem_cons_of_mem _ there)
    split
    · exact inside
    · refine Table.mem_update.mpr ⟨r, inside, if_neg ?_⟩
      simpa using (other f List.mem_cons_self).symm

/-- When the update of a file fails, some file stays. -/
theorem softDeleted_leaves {files : List UserFile} {faults : List Bool} (apart : files.Pairwise fun f g => f.id ≠ g.id)
    (inside : ∀ f ∈ files, f ∈ t.userFiles.rows) (fault : ¬Clear files.length faults) :
    ∃ f ∈ files, f ∈ (softDeleted now files faults t).userFiles.rows := by
  induction files generalizing faults t with
  | nil => exact absurd trivial fault
  | cons f rest ih =>
    obtain ⟨here, apart⟩ := List.pairwise_cons.mp apart
    cases failed : faults.headD false with
    | true =>
      refine ⟨f, List.mem_cons_self, ?_⟩
      rw [softDeleted, failed]
      exact softDeleted_keeps (inside f List.mem_cons_self) fun g there => (here g there).symm
    | false =>
      have others : ∀ g ∈ rest, g ∈ (t.setFileStatus f.id .deleted now).userFiles.rows := by
        intro g there
        refine Table.mem_update.mpr ⟨g, inside g (List.mem_cons_of_mem _ there), if_neg ?_⟩
        simpa using (here g there).symm
      obtain ⟨g, there, stays⟩ := ih apart others fun clear => fault ⟨failed, clear⟩
      refine ⟨g, List.mem_cons_of_mem _ there, ?_⟩
      rw [softDeleted, failed]
      exact stays

/-- Rows with an id are deleted. -/
private def Gone (id : Int) (t : Tables) : Prop := ∀ r ∈ t.userFiles.rows, r.id = id → r.status = .deleted

private theorem gone_set {id other : Int} (gone : Gone id t) : Gone id (t.setFileStatus other .deleted now) := by
  intro r inside named
  obtain ⟨old, there, rfl⟩ := Table.mem_update.mp inside
  split
  · rfl
  · rename_i selected
    rw [if_neg selected] at named
    exact gone old there named

private theorem gone_softDeleted {id : Int} (files : List UserFile) (faults : List Bool) (gone : Gone id t) :
    Gone id (softDeleted now files faults t) := by
  induction files generalizing faults t with
  | nil => exact gone
  | cons f rest ih =>
    refine ih _ ?_
    split
    · exact gone
    · exact gone_set gone

/-- Without failures no file that was active stays so. -/
theorem softDeleted_gone {files : List UserFile} {faults : List Bool} (clear : Clear files.length faults) {f : UserFile}
    (inside : f ∈ files) : Gone f.id (softDeleted now files faults t) := by
  induction files generalizing faults t with
  | nil => cases inside
  | cons g rest ih =>
    have works : faults.headD false = false := clear.1
    rw [softDeleted, works]
    rcases List.mem_cons.mp inside with rfl | there
    · refine gone_softDeleted _ _ ?_
      intro r inside' named
      obtain ⟨old, known, rfl⟩ := Table.mem_update.mp inside'
      split
      · rfl
      · rename_i selected
        rw [if_neg selected] at named
        exact absurd (by simpa using named) selected
    · exact ih clear.2 there

theorem lastId_softDeleted (files : List UserFile) (faults : List Bool) (t : Tables) :
    (softDeleted now files faults t).userFiles.lastId = t.userFiles.lastId := by
  induction files generalizing faults t with
  | nil => rfl
  | cons f rest ih =>
    rw [softDeleted, ih]
    split <;> rfl

/-- The writes of a new avatar leave none of the files in use. -/
theorem avatarWrites_gone {user : User} {avatar fileHash : Bytes} {files : List UserFile} {t' : Tables}
    (made : applyAll (avatarWrites user avatar fileHash now files) t = some t') {f : UserFile} (inside : f ∈ files)
    (known : f ∈ t.userFiles.rows) (active : f.status = .active) : f ∉ t'.userFiles.rows := by
  have clear : ∀ n, Clear n [] := by
    intro n
    induction n with
    | zero => trivial
    | succ n ih => exact ⟨rfl, ih⟩
  rw [avatarWrites, List.cons_append, applyAll_plain, applyAll_append, softDeleted_clear (clear files.length)] at made
  cases made
  intro stays
  rcases Table.mem_insert.mp stays with there | ⟨-, fresh⟩
  · exact absurd ((softDeleted_gone (clear files.length) inside f there rfl).symm.trans active) (by decide)
  · have bound : f.id ≤ (t.userFiles.lastId : Int) := (t.userFiles.bounded f known).2
    have next : Row.id f = ((softDeleted now files [] (t.setAvatar user.id avatar)).userFiles.lastId : Int) + 1 :=
      (congrArg Row.id fresh).trans (Table.id_fresh _ _)
    rw [lastId_softDeleted] at next
    have next : f.id = (t.userFiles.lastId : Int) + 1 := next
    omega

theorem activeAvatars_apart (userId : Int) (t : Tables) :
    (activeAvatars userId t).Pairwise fun f g => f.id ≠ g.id :=
  (t.userFiles.ascending.filter _).imp fun less => (ne_of_lt less : _)

end SoftDeletion

/-! ### Behind the BEGIN -/

section Behind
variable {conn : ConnId} {seq : UInt32} {w : World} {intended missed : Tables → Prop} {start : Tables}
  {ws : List (Write Tables)}

private theorem stop_profile {misses : Prop} {e : Error} (bad : e.code ≠ 0) (w : World) (otherwise : ¬misses) :
    Settles (RefusedUnless conn .updateProfileAck misses) (GrantedEither conn .updateProfileAck misses intended missed) start ws
      (abort (sendRsp conn .updateProfileAck seq e)) w :=
  settles_abort silent_sendRsp ⟨refused_sendRsp bad w, otherwise⟩

/-- The COMMIT and the reply. -/
private theorem committed_settles {misses : Prop} (needs : misses → w.fails = false)
    (reached : w.fails = false → ∀ t, applyAll ws start = some t → misses ∧ missed t ∨ ¬misses ∧ intended t) :
    Settles (RefusedUnless conn .updateProfileAck misses) (GrantedEither conn .updateProfileAck misses intended missed) start ws (profileCommitted conn seq) w := by
  have database : errc.kDatabaseError.code ≠ 0 := by decide
  refine settles_commit (fun fault => stop_profile database _ fun misses => ?_) silent_sendRsp fun works done =>
    ⟨replies_sendRsp _ _ _, reached works _ done⟩
  rw [needs misses] at fault
  cases fault

theorem run_insertFile (file : UserFile) (w : World) :
    (FileDao.insert file).run w =
      (execute (Tables.insertFile (FileDao.stampFile (nowText w) file)) : Action Bool).run w := by
  have acts := run_insertReturningId (fun _ _ => rfl) Tables.userFiles (FileDao.stampFile (nowText w) file)
    (Tables.insertFile (FileDao.stampFile (nowText w) file)) w
  cases fault : w.fails <;> simp [FileDao.insert, acts, execute, fault]

/-- The loop of the soft deletion inside of the transaction. -/
private theorem softDeleteEach_settles {refused : List Event → Prop} {done : List Event → Tables → Prop}
    {files : List UserFile} {f : Bool → Handler}
    (rest : ∀ all, Settles refused done start (ws ++ [plain (softDeleted (nowText w) files w.faults)]) (f all)
      { w with tables := softDeleted (nowText w) files w.faults w.tables, faults := w.faults.drop files.length }) :
    Settles refused done start ws ((nowUtcStr >>= fun now => FileDao.softDeleteEach now files) >>= f) w := by
  rw [bind_assoc]
  refine settles_peek ?_
  obtain ⟨all, acts⟩ := run_softDeleteEach (nowText w) files w
  exact settles_part acts rfl rfl (rest all)

/-- The insertion of the new file, behind the soft deletion. -/
private theorem inserted_settles {misses : Prop} {file : UserFile} (needs : misses → Clear 2 w.faults)
    (reached : Clear 2 w.faults → ∀ t,
      applyAll (ws ++ [plain (Tables.insertFile (FileDao.stampFile (nowText w) file))]) start = some t →
        misses ∧ missed t ∨ ¬misses ∧ intended t) :
    Settles (RefusedUnless conn .updateProfileAck misses) (GrantedEither conn .updateProfileAck misses intended missed) start ws (do
      let inserted ← FileDao.insert file
      if !inserted then abort (sendRsp conn .updateProfileAck seq errc.user.kUpdateProfileFailed)
      else profileCommitted conn seq) w := by
  have failed : errc.user.kUpdateProfileFailed.code ≠ 0 := by decide
  refine settles_execute (run_insertFile _ _) (fun fault => stop_profile failed _ fun misses => ?_) fun works => ?_
  · exact Bool.false_ne_true ((needs misses).1.symm.trans fault)
  · exact committed_settles (fun misses => (needs misses).2.1) fun works' => reached ⟨works, works', trivial⟩

/-- The new avatar, from a state that knows the user and has the files of the start. -/
theorem updateAvatarFile_settles {uid : Bytes} {user found : User} {avatar fileHash now : Bytes} (clock : now = nowText w)
    (known : userOf uid w.tables = some found) (same : found.id = user.id)
    (files : w.tables.userFiles = start.userFiles)
    (reached : ∀ t, applyAll (ws ++ if avatar = [] then [] else
      avatarWrites user avatar fileHash now (activeAvatars user.id start)) start = some t → intended t)
    (left : ∀ t, (∃ f ∈ activeAvatars user.id start, f ∈ t.userFiles.rows) → missed t) :
    Settles (RefusedUnless conn .updateProfileAck (avatar ≠ [] ∧ Clear 2 w.faults ∧ MissesFiles (activeAvatars user.id start).length w.faults.tail.tail))
      (GrantedEither conn .updateProfileAck (avatar ≠ [] ∧ Clear 2 w.faults ∧ MissesFiles (activeAvatars user.id start).length w.faults.tail.tail)
        intended missed) start ws (updateAvatarFile conn seq uid user avatar fileHash) w := by
  have failed : errc.user.kUpdateProfileFailed.code ≠ 0 := by decide
  generalize misses : (avatar ≠ [] ∧ Clear 2 w.faults ∧
    MissesFiles (activeAvatars user.id start).length w.faults.tail.tail) = skips
  intro opened progress
  have behind : ∀ rest t, applyAll (ws ++ rest) start = some t ↔ applyAll rest w.tables = some t := by
    intro rest t
    rw [applyAll_append, progress, Option.bind_some]
  revert opened progress
  refine settles_ite (fun empty => ?_) fun named => ?_
  · have none_ : ¬skips := by
      rw [← misses]
      exact fun skips => skips.1 empty
    rw [if_pos empty, List.append_nil] at reached
    exact committed_settles (fun skips => absurd skips none_) fun _ t done => .inr ⟨none_, reached t done⟩
  rw [if_neg named] at reached
  refine settles_atomic ?_
  rw [bind_assoc]
  refine settles_lookup (fun miss => stop_profile failed _ fun skips => ?_) fun user' works here => ?_
  · rw [← misses] at skips
    rcases miss with fault | missing
    · exact Bool.false_ne_true (skips.2.1.1.symm.trans fault)
    · exact absurd (known.symm.trans missing) (Option.some_ne_none _)
  obtain rfl : found = user' := Option.some.inj (known.symm.trans here)
  rw [bind_assoc]
  refine settles_execute rfl (fun fault => stop_profile failed _ fun skips => ?_) fun works' => ?_
  · rw [← misses] at skips
    exact Bool.false_ne_true (skips.2.1.2.1.symm.trans fault)
  have written : Clear 2 w.faults := ⟨works, works', trivial⟩
  have rest : skips ↔ MissesFiles (activeAvatars user.id start).length w.faults.tail.tail := by
    rw [← misses]
    exact ⟨fun skips => skips.2.2, fun others => ⟨named, written, others⟩⟩
  have avatars : activeAvatars user.id (w.tables.setAvatar found.id avatar) = activeAvatars user.id start := by
    unfold activeAvatars
    rw [← files]
    rfl
  refine settles_atomic ?_
  rw [bind_assoc]
  -- the rows are the active files, unless the query fails
  refine settles_query (fun fault => softDeleteEach_settles fun _ => ?_) fun works'' => softDeleteEach_settles fun _ => ?_
  · have fault' : w.faults.tail.tail.headD false = true := fault
    refine inserted_settles (fun skips => ?_) fun clear t done => ?_
    · rcases (rest.mp skips).2 with ⟨-, clear⟩ | ⟨works, -⟩
      · exact clear
      · exact absurd (works.symm.trans fault') Bool.false_ne_true
    · simp only [List.append_assoc, List.cons_append, List.nil_append, behind] at done
      cases done
      by_cases some_ : 0 < (activeAvatars user.id start).length
      · refine .inl ⟨rest.mpr ⟨some_, .inl ⟨fault', clear⟩⟩, left _ ?_⟩
        obtain ⟨f, inside⟩ := List.length_pos_iff_exists_mem.mp some_
        refine ⟨f, inside, Table.mem_insert.mpr (.inl ?_)⟩
        show f ∈ w.tables.userFiles.rows
        rw [files]
        exact (List.mem_filter.mp inside).1
      · refine .inr ⟨fun skips => some_ (rest.mp skips).1, reached _ ?_⟩
        rw [behind, avatarWrites, avatarFile, List.length_eq_zero_iff.mp (Nat.eq_zero_of_not_pos some_), clock, ← same]
        rfl
  · have works' : w.faults.tail.tail.headD false = false := works''
    have listed : ((w.tables.setAvatar found.id avatar).userFiles.rows.filter fun r =>
        r.userId = user.id && r.fileType = ascii "avatar" && r.status = .active) = activeAvatars user.id start := avatars
    refine inserted_settles (fun skips => ?_) fun clear t done => ?_
    · rcases (rest.mp skips).2 with ⟨fault, -⟩ | ⟨-, -, clear⟩
      · exact absurd (works'.symm.trans fault) Bool.false_ne_true
      · rw [← listed] at clear
        exact clear
    · simp only [List.append_assoc, List.cons_append, List.nil_append, behind] at done
      cases done
      by_cases all : Clear (activeAvatars user.id start).length w.faults.tail.tail.tail
      · refine .inr ⟨fun skips => ?_, reached _ ?_⟩
        · rcases (rest.mp skips).2 with ⟨fault, -⟩ | ⟨-, fault, -⟩
          · exact absurd (works'.symm.trans fault) Bool.false_ne_true
          · exact fault all
        · rw [behind, avatarWrites, avatarFile, clock, List.cons_append, applyAll_plain, applyAll_append,
            softDeleted_clear all, ← listed, ← same]
          rfl
      · have some_ : 0 < (activeAvatars user.id start).length := by
          by_contra none_
          rw [Nat.eq_zero_of_not_pos none_] at all
          exact all trivial
        have insertable : Clear 2 (w.faults.tail.tail.tail.drop (activeAvatars user.id start).length) := by
          rw [← listed]
          exact clear
        refine .inl ⟨rest.mpr ⟨some_, .inr ⟨works', all, insertable⟩⟩, left _ ?_⟩
        have stored : ∀ f ∈ activeAvatars user.id start, f ∈ (w.tables.setAvatar found.id avatar).userFiles.rows := by
          intro f inside
          show f ∈ w.tables.userFiles.rows
          rw [files]
          exact (List.mem_filter.mp inside).1
        obtain ⟨f, inside, stays⟩ := softDeleted_leaves (activeAvatars_apart _ start) stored all
        refine ⟨f, inside, Table.mem_insert.mpr (.inl ?_)⟩
        rw [← listed] at stays
        exact stays

end Behind

/-! ### The handler -/

/-- How many statements an update executes before it asks for the old files. -/
def profileStatements (nickname : Bytes) : Nat := if nickname = [] then 4 else 6

/-- An update of a profile goes through, but for the old avatar files. -/
structure SkipsFiles (me : Connection) (faults : List Bool) (t : Tables) (req : UpdateProfileReq) : Prop where
  known : me.userId ≠ 0
  valid : profileError (trim req.nickname) (trim req.avatar) = none
  avatar : trim req.avatar ≠ []
  written : Clear (profileStatements (trim req.nickname)) faults
  missed : ∃ user, userOf me.uid t = some user ∧
    MissesFiles (activeAvatars user.id t).length (faults.drop (profileStatements (trim req.nickname)))

private theorem drop_tails (n : Nat) (faults : List Bool) : faults.tail.tail.drop n = faults.drop (n + 2) := by
  rw [List.drop_tail, List.drop_tail]

/-- The first two statements are the query for the user and the BEGIN. -/
private theorem written_behind (nickname : Bytes) {faults : List Bool} (works : faults.headD false = false)
    (works' : faults.tail.headD false = false) :
    (Clear (profileStatements nickname) faults ↔ Clear (profileStatements nickname - 2) faults.tail.tail) ∧
      faults.tail.tail.drop (profileStatements nickname - 2) = faults.drop (profileStatements nickname) := by
  rw [drop_tails]
  unfold profileStatements
  split
  · exact ⟨⟨fun clear => clear.2.2, fun clear => ⟨works, works', clear⟩⟩, rfl⟩
  · exact ⟨⟨fun clear => clear.2.2, fun clear => ⟨works, works', clear⟩⟩, rfl⟩

/-- The user behind a uid is the same when the nickname has been set. -/
private theorem userOf_renamed {t : Tables} {uid : Bytes} {user : User} (known : userOf uid t = some user)
    (nickname : Bytes) : ∃ found, userOf uid (t.setNickname user.id nickname) = some found ∧ found.id = user.id := by
  refine ⟨{ user with nickname := nickname }, ?_, rfl⟩
  have same : ∀ r : User, (if decide (r.id = user.id) = true then { r with nickname := nickname } else r).uid = r.uid ∧
      (if decide (r.id = user.id) = true then { r with nickname := nickname } else r).status = r.status := by
    intro r
    split <;> exact ⟨rfl, rfl⟩
  have found : t.users.rows.find? ((fun r : User => r.uid = uid && r.status ≠ .deleted) ∘ fun r : User =>
      if decide (r.id = user.id) = true then { r with nickname := nickname } else r) = some user := by
    refine Eq.trans (congrArg (List.find? · _) (funext fun r => ?_)) known
    rw [Function.comp_apply, (same r).1, (same r).2]
  show List.find? _ (t.users.rows.map _) = _
  rw [List.find?_map, found, Option.map_some, if_pos (decide_eq_true rfl)]

/-- The update from the tables that the BEGIN found. -/
theorem updateProfile_settles {conn : ConnId} {seq : UInt32} {w : World} {uid : Bytes} {user : User}
    {nickname avatar fileHash : Bytes} {intended missed : Tables → Prop} {skips : Prop} (known : userOf uid w.tables = some user)
    (exact_ : skips ↔ avatar ≠ [] ∧ Clear (profileStatements nickname - 2) w.faults ∧
      MissesFiles (activeAvatars user.id w.tables).length (w.faults.drop (profileStatements nickname - 2)))
    (reached : ∀ t, applyAll (profileWrites user nickname avatar fileHash (nowText w) w.tables) w.tables = some t → intended t)
    (left : ∀ t, (∃ f ∈ activeAvatars user.id w.tables, f ∈ t.userFiles.rows) → missed t) :
    Settles (RefusedUnless conn .updateProfileAck skips) (GrantedEither conn .updateProfileAck skips intended missed) w.tables []
      (updateProfile conn seq uid user nickname avatar fileHash) w := by
  have failed : errc.user.kUpdateProfileFailed.code ≠ 0 := by decide
  unfold profileWrites at reached
  refine settles_ite (fun empty => ?_) fun named => ?_
  · rw [if_pos empty] at reached
    rw [profileStatements, if_pos empty] at exact_
    rw [propext exact_]
    rw [← drop_tails]
    exact updateAvatarFile_settles rfl known rfl rfl reached left
  · rw [if_neg named] at reached
    rw [profileStatements, if_neg named] at exact_
    refine settles_atomic ?_
    rw [bind_assoc]
    refine settles_lookup (fun miss => stop_profile failed _ fun skips => ?_) fun user' works here => ?_
    · rcases miss with fault | missing
      · exact Bool.false_ne_true ((exact_.mp skips).2.1.1.symm.trans fault)
      · exact absurd (known.symm.trans missing) (Option.some_ne_none _)
    obtain rfl : user = user' := Option.some.inj (known.symm.trans here)
    rw [bind_assoc]
    refine settles_execute rfl (fun fault => stop_profile failed _ fun skips => ?_) fun works' => ?_
    · exact Bool.false_ne_true ((exact_.mp skips).2.1.2.1.symm.trans fault)
    obtain ⟨found, renamed, same⟩ := userOf_renamed known nickname
    have step : skips ↔ avatar ≠ [] ∧ Clear 2 w.faults.tail.tail ∧
        MissesFiles (activeAvatars user.id w.tables).length w.faults.tail.tail.tail.tail := by
      rw [exact_, show 6 - 2 = 2 + 2 from rfl, ← drop_tails, ← drop_tails]
      exact ⟨fun h => ⟨h.1, h.2.1.2.2, h.2.2⟩, fun h => ⟨h.1, ⟨works, works', h.2.1⟩, h.2.2⟩⟩
    rw [propext step]
    have clock : nowText w = nowText (w.spend.wrote (w.tables.setNickname user.id nickname)) := rfl
    exact updateAvatarFile_settles clock renamed same rfl reached left

theorem handleUpdateProfile_settled (conn : ConnId) (seq : UInt32) (req : UpdateProfileReq) (w : World) :
    (handleUpdateProfile conn seq (some req)).Ensures w (Store.Settled
      (RefusedUnless conn .updateProfileAck (SkipsFiles (w.mem.connections conn) w.faults w.tables req))
      (GrantedEither conn .updateProfileAck (SkipsFiles (w.mem.connections conn) w.faults w.tables req)
        (fun t => ∃ user, userOf (w.mem.connections conn).uid w.tables = some user ∧
          applyAll (profileWrites user (trim req.nickname) (trim req.avatar) req.fileHash (nowText w) w.tables)
            w.tables = some t)
        (fun t => ∃ user, userOf (w.mem.connections conn).uid w.tables = some user ∧
          ∃ f ∈ activeAvatars user.id w.tables, f ∈ t.userFiles.rows)) w.tables) := by
  generalize me : w.mem.connections conn = who
  generalize skipped : SkipsFiles who w.faults w.tables req = skips
  have stop : ∀ {intended missed : Tables → Prop} (e : Error) (s : World), e.code ≠ 0 → s.tables = w.tables → ¬skips →
      (sendRsp conn .updateProfileAck seq e).Ensures s
        (Store.Settled (RefusedUnless conn .updateProfileAck skips) (GrantedEither conn .updateProfileAck skips intended missed) w.tables) :=
    fun e s bad same otherwise => settled_refused silent_sendRsp same ⟨refused_sendRsp bad _, otherwise⟩
  refine ensures_peek ?_
  rw [me]
  refine Prog.ensures_ite (fun zero => stop _ _ (by decide) rfl ?_) fun nonzero => ?_
  · rw [← skipped]
    exact fun skips => skips.known zero
  dsimp only
  cases invalid : profileError (trim req.nickname) (trim req.avatar) with
  | some e =>
    refine stop _ _ ?_ rfl ?_
    · unfold profileError at invalid
      split_ifs at invalid <;> cases invalid <;> decide
    · rw [← skipped]
      exact fun skips => absurd (invalid.symm.trans skips.valid) (Option.some_ne_none _)
  | none =>
    refine ensures_found (fun miss => stop _ _ (by decide) rfl fun skips => ?_) fun user works found => ?_
    · rw [← skipped] at skips
      rcases miss with fault | missing
      · have written := skips.written
        unfold profileStatements at written
        split at written <;> exact Bool.false_ne_true (written.1.symm.trans fault)
      · obtain ⟨user, known, -⟩ := skips.missed
        exact absurd (known.symm.trans missing) (Option.some_ne_none _)
    have known : userOf who.uid w.tables = some user := found
    refine settled_begin_or rfl silent_sendRsp (fun fault => ⟨refused_sendRsp (by decide) _, fun skips => ?_⟩) fun works' => ?_
    · rw [← skipped] at skips
      have written := skips.written
      unfold profileStatements at written
      split at written <;> exact Bool.false_ne_true (written.2.1.symm.trans fault)
    obtain ⟨written, behind⟩ := written_behind (trim req.nickname) works works'
    refine updateProfile_settles known ?_ (fun t writes => ⟨user, known, writes⟩) fun t left => ⟨user, known, left⟩
    rw [← skipped]
    constructor
    · rintro ⟨-, -, avatar, clear, user', known', misses⟩
      obtain rfl : user = user' := Option.some.inj (known.symm.trans known')
      rw [← behind] at misses
      exact ⟨avatar, written.mp clear, misses⟩
    · rintro ⟨avatar, clear, misses⟩
      have misses : MissesFiles (activeAvatars user.id w.tables).length
          (w.faults.tail.tail.drop (profileStatements (trim req.nickname) - 2)) := misses
      rw [behind] at misses
      exact ⟨nonzero, invalid, avatar, written.mpr clear, user, known, misses⟩

end NovaIIM.UserService
