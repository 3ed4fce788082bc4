import NovaIIM.FileService
import NovaIIM.Replies

/-!
Failed uploads (`FileService::HandleUpload`).

The row of a new file is inserted with a placeholder for its path, and the path is
set by a second call without a transaction around the two. If the second call fails
after the first has worked, the request is refused and the row stays: active, with
the placeholder, for all later requests to find (`uploadNew_leaves_iff`). Every other
failure comes before the insertion (`handleUpload_leaves_iff`).
-/
namespace NovaIIM.FileService
open Store

/-- What a call answers on given tables when nothing fails. -/
def shown {α : Type} (call : Action α) (m : Server) (t : Tables) : α := (call.run { tables := t, mem := m }).value

/-- The lookups of active files answer as they did before. -/
structure SameFiles (m : Server) (before after : Tables) : Prop where
  byId : ∀ id, shown (FileDao.findById id) m after = shown (FileDao.findById id) m before
  latest : ∀ userId fileType,
    shown (FileDao.findLatestByUserAndType userId fileType) m after =
      shown (FileDao.findLatestByUserAndType userId fileType) m before

/-- A refused upload leaves nothing visible. -/
def LeavesNothing (conn : ConnId) (w : World) (o : Outcome World Event Unit) : Prop :=
  Refused conn .uploadAck o.events → SameFiles w.mem w.tables o.state.tables

/-- The upload is answered with the file that is there already. -/
def KnownHash (w : World) (userId : Int) (req : UploadReq) : Prop :=
  req.fileHash ≠ [] ∧ ¬StatementFails w.faults 0 ∧
    ∃ file, shown (FileDao.findLatestByUserAndType userId (fileTypeOf req)) w.mem w.tables = some file ∧
      file.hash = req.fileHash

/-- The statements in front of the insertion: the search for a file with the hash, if there is one. -/
def searches (req : UploadReq) : Nat := if req.fileHash = [] then 0 else 1

def ProperName (fileName : Bytes) : Prop :=
  ¬(safeName fileName = [] ∨ safeName fileName = ascii "." ∨ safeName fileName = ascii "..")

/-- The request is accepted and its row is inserted, but one of the two statements that complete the
    path fails: the SELECT or the UPDATE. -/
structure Stranded (w : World) (conn : ConnId) (req : UploadReq) : Prop where
  authenticated : (w.mem.connections conn).userId ≠ 0
  valid : uploadError req = none
  unknown : ¬KnownHash w (w.mem.connections conn).userId req
  named : ProperName req.fileName
  inserted : ¬StatementFails w.faults (searches req)
  unfinished : StatementFails w.faults (searches req + 1) ∨ StatementFails w.faults (searches req + 2)

section Outcomes
variable {conn : ConnId} {seq : UInt32} {w : World}

theorem SameFiles.refl (m : Server) (t : Tables) : SameFiles m t t := ⟨fun _ => rfl, fun _ _ => rfl⟩

/-- Nothing but a row that was just inserted has the next id. -/
theorem find_inserted {t : Tables} {file : UserFile} {selects : UserFile → Bool}
    (next : ∀ r, selects r = true → r.id = t.userFiles.lastId + 1) (hit : selects (t.userFiles.fresh file) = true) :
    t.userFiles.rows.find? selects = none ∧
      (Tables.insertFile file t).userFiles.rows.find? selects = some (t.userFiles.fresh file) := by
  have rows : (Tables.insertFile file t).userFiles.rows = t.userFiles.rows ++ [t.userFiles.fresh file] :=
    Table.rows_insert_free (by simp [Table.taken, Row.clash])
  have absent : t.userFiles.rows.find? selects = none := by
    refine List.find?_eq_none.mpr fun r inside found => ?_
    have bound : r.id ≤ t.userFiles.lastId := (t.userFiles.bounded r inside).2
    have id := next r found
    omega
  rw [rows, List.find?_append, absent, List.find?_singleton, if_pos hit]
  exact ⟨rfl, rfl⟩

/-- The row of a new file is found by its id. -/
theorem not_sameFiles_inserted (m : Server) (t : Tables) {file : UserFile} (active : file.status = .active) :
    ¬SameFiles m t (Tables.insertFile file t) := by
  intro same
  have here := same.byId (t.userFiles.lastId + 1)
  obtain ⟨absent, present⟩ := @find_inserted t file
    (fun r => r.id = (t.userFiles.lastId : Int) + 1 && r.status = .active)
    (fun r found => by simp only [Bool.and_eq_true, decide_eq_true_eq] at found; exact found.1)
    (by
      have id : (t.userFiles.fresh file).id = (t.userFiles.lastId : Int) + 1 := rfl
      have status : (t.userFiles.fresh file).status = .active := active
      simp [id, status])
  simp only [shown, FileDao.findById, run_query, fails, absent, present] at here
  simp at here

/-- A reply that is an error leaves nothing exactly if the lookups answer as before. -/
theorem leaves_refused {e : Error} {t : Tables} {v : World} (bad : e.code ≠ 0) (same : v.tables = t) :
    LeavesNothing conn w ((sendUploadAck conn seq { code := e.code, msg := e.msg }).run v) ↔
      SameFiles w.mem w.tables t := by
  have reply : Refused conn .uploadAck ((sendUploadAck conn seq { code := e.code, msg := e.msg }).run v).events :=
    ⟨_, bad, replies_sendPacket _ _ _⟩
  have quiet : ((sendUploadAck conn seq { code := e.code, msg := e.msg }).run v).state.tables = t :=
    (silent_sendPacket v).tables.trans same
  rw [LeavesNothing, quiet]
  exact ⟨fun leaves => leaves reply, fun files _ => files⟩

/-- An upload that is granted promises nothing here. -/
theorem leaves_granted {ack : UploadAck} {v : World} (good : ack.code = 0) :
    LeavesNothing conn w ((sendUploadAck conn seq ack).run v) := by
  rintro ⟨code, bad, replied⟩
  rw [sendUploadAck, replies_sendPacket] at replied
  exact absurd ((List.cons.inj replied).1.symm.trans good) bad

theorem run_insertId (file : UserFile) (w : World) :
    (FileDao.insertId file).run w =
      (statement none (fun t => some ((t.userFiles.lastId : Int) + 1))
        (Tables.insertFile (FileDao.stampFile (nowText w) file)) : Action (Option Int)).run w := by
  have acts := run_insertReturningId (fun _ _ => rfl) Tables.userFiles (FileDao.stampFile (nowText w) file)
    (Tables.insertFile (FileDao.stampFile (nowText w) file)) w
  simpa [FileDao.insertId] using acts

/-- `UpdatePath` of a row that is there: two statements, and it works if both do. -/
theorem run_updatePath {id : Int} {row : UserFile} (path : Bytes)
    (there : w.tables.userFiles.rows.find? (fun r => r.id = id) = some row) :
    (FileDao.updatePath id path).run w =
      if StatementFails w.faults 0 then ⟨false, w.spend, []⟩
      else if StatementFails w.faults 1 then ⟨false, w.spend.spend, []⟩
      else ⟨true, w.spend.wrote (Tables.setFilePath id path w.tables), []⟩ := by
  have first : w.fails = decide (StatementFails w.faults 0) := by simp [fails, StatementFails]
  have second : w.spend.fails = decide (StatementFails w.faults 1) := by simp [fails, StatementFails]
  by_cases fault : StatementFails w.faults 0
  · simp [FileDao.updatePath, first, fault]
  · by_cases fault' : StatementFails w.faults 1
    · simp [FileDao.updatePath, first, fault, there, execute, second, fault']
    · simp [FileDao.updatePath, first, fault, there, execute, second, fault']

/-- A statement that worked is behind, the next is the first. -/
theorem statementFails_spend (n : Nat) : StatementFails w.spend.faults n ↔ StatementFails w.faults (n + 1) := by
  simp [StatementFails]

theorem statementFails_wrote (t : Tables) (n : Nat) : StatementFails (w.wrote t).faults n ↔ StatementFails w.faults (n + 1) := by
  simp [StatementFails]

end Outcomes

/-! ### The handler -/

theorem uploadError_code {req : UploadReq} {e : Error} (error : uploadError req = some e) : e.code ≠ 0 := by
  have codes : ∀ e ∈ [errc.file.kFileNameRequired, ⟨errc.kInvalidBody.code, "file_name too long"⟩,
      ⟨errc.kInvalidBody.code, "file_hash too long"⟩, errc.file.kFileSizeInvalid, errc.file.kFileSizeTooLarge,
      errc.file.kMimeTypeRequired, ⟨errc.kInvalidBody.code, "mime_type too long"⟩, errc.file.kInvalidFileType], e.code ≠ 0 := by
    decide
  refine codes e ?_
  unfold uploadError at error
  grind

/-- The search for the hash finds the newest active file of the user and the type. -/
theorem shown_latest (m : Server) (t : Tables) (userId : Int) {fileType : Bytes} (allowed : fileType ∈ FileDao.kAllowed) :
    shown (FileDao.findLatestByUserAndType userId fileType) m t =
      (t.userFiles.rows.filter fun r => r.userId = userId && r.fileType = fileType && r.status = .active).getLast? := by
  rw [shown, FileDao.findLatestByUserAndType, if_pos allowed, run_query]
  rfl

/-- An accepted upload of an unknown file is stranded only by its name and by the statements from its
    insertion on. -/
theorem stranded_iff {conn : ConnId} {w : World} {req : UploadReq} (authenticated : (w.mem.connections conn).userId ≠ 0)
    (valid : uploadError req = none) (unknown : ¬KnownHash w (w.mem.connections conn).userId req) :
    Stranded w conn req ↔ ProperName req.fileName ∧ ¬StatementFails w.faults (searches req) ∧
      (StatementFails w.faults (searches req + 1) ∨ StatementFails w.faults (searches req + 2)) := by
  constructor
  · intro stranded
    exact ⟨stranded.named, stranded.inserted, stranded.unfinished⟩
  · rintro ⟨named, inserted, unfinished⟩
    exact ⟨authenticated, valid, unknown, named, inserted, unfinished⟩

theorem fileTypeOf_allowed {req : UploadReq} (valid : uploadError req = none) : fileTypeOf req ∈ FileDao.kAllowed := by
  unfold uploadError at valid
  grind

/-- A new upload leaves nothing unless its path cannot be completed. -/
theorem uploadNew_leaves_iff (conn : ConnId) (seq : UInt32) (userId : Int) (req : UploadReq) (w : World) :
    LeavesNothing conn w ((uploadNew conn seq userId req).run w) ↔
      ¬(ProperName req.fileName ∧ ¬StatementFails w.faults 0 ∧ (StatementFails w.faults 1 ∨ StatementFails w.faults 2)) := by
  have failed : errc.file.kUploadFailed.code ≠ 0 := by decide
  have required : errc.file.kFileNameRequired.code ≠ 0 := by decide
  suffices holds : (uploadNew conn seq userId req).Ensures w fun o => LeavesNothing conn w o ↔
      ¬(ProperName req.fileName ∧ ¬StatementFails w.faults 0 ∧ (StatementFails w.faults 1 ∨ StatementFails w.faults 2)) from
    holds
  have proper : ProperName req.fileName ↔
      ¬((safeName req.fileName).isEmpty ∨ safeName req.fileName = ascii "." ∨ safeName req.fileName = ascii "..") := by
    rw [ProperName, List.isEmpty_iff]
  rw [proper]
  unfold uploadNew
  refine Prog.ensures_ite (fun unnamed => ?_) fun named => ?_
  · exact iff_of_true ((leaves_refused required rfl).mpr (.refl _ _)) fun all => all.1 unnamed
  refine ensures_peek (ensures_statement (run_insertId _ w) (fun fault => ?_) fun works => ?_)
  · exact iff_of_true ((leaves_refused failed rfl).mpr (.refl _ _)) fun all => all.2.1 fault
  have inserted : ¬StatementFails w.faults 0 := by
    rw [StatementFails]
    exact (Bool.eq_false_iff.mp works)
  generalize stored : FileDao.stampFile (nowText w) _ = file
  have active : file.status = .active := by rw [← stored]; rfl
  have there := (@find_inserted w.tables file (fun r => r.id = (w.tables.userFiles.lastId : Int) + 1)
    (fun r found => of_decide_eq_true found) (decide_eq_true rfl)).2
  have later := @statementFails_wrote w (Tables.insertFile file w.tables)
  dsimp only
  rw [Prog.Ensures, Prog.run_bind, @run_updatePath (w.wrote (Tables.insertFile file w.tables)) _ _ _ there]
  -- where the path is not completed, the row stays as it was inserted
  have stays : ∀ v : World, v.tables = Tables.insertFile file w.tables →
      ¬LeavesNothing conn w
        ((sendUploadAck conn seq { code := errc.file.kUploadFailed.code, msg := errc.file.kUploadFailed.msg }).run v) :=
    fun v same leaves => not_sameFiles_inserted _ _ active ((leaves_refused failed same).mp leaves)
  split
  · rename_i fault
    exact iff_of_false (stays _ rfl) fun all => all ⟨named, inserted, .inl ((later 0).mp fault)⟩
  · rename_i found
    split
    · rename_i fault
      exact iff_of_false (stays _ rfl) fun all => all ⟨named, inserted, .inr ((later 1).mp fault)⟩
    · rename_i completed
      refine iff_of_true (leaves_granted rfl) fun all => ?_
      rcases all.2.2 with fault | fault
      · exact found ((later 0).mpr fault)
      · exact completed ((later 1).mpr fault)

/-- A refused upload leaves nothing visible exactly if it is not one whose row was inserted and
    whose path could not be completed. -/
theorem handleUpload_leaves_iff (conn : ConnId) (seq : UInt32) (body : Option UploadReq) (w : World) :
    LeavesNothing conn w ((handleUpload conn seq body).run w) ↔ ∀ req, body = some req → ¬Stranded w conn req := by
  have authentication : errc.kNotAuthenticated.code ≠ 0 := by decide
  have unreadable : errc.kInvalidBody.code ≠ 0 := by decide
  suffices holds : (handleUpload conn seq body).Ensures w fun o =>
      LeavesNothing conn w o ↔ ∀ req, body = some req → ¬Stranded w conn req from holds
  unfold handleUpload
  refine ensures_peek (Prog.ensures_ite (fun anonymous => ?_) fun known => ?_)
  · exact iff_of_true ((leaves_refused authentication rfl).mpr (.refl _ _)) fun _ _ stranded => stranded.authenticated anonymous
  cases body with
  | none => exact iff_of_true ((leaves_refused unreadable rfl).mpr (.refl _ _)) fun _ none => by cases none
  | some req =>
    dsimp only
    cases error : uploadError req with
    | some e =>
      refine iff_of_true ((leaves_refused (uploadError_code error) rfl).mpr (.refl _ _)) fun _ is stranded => ?_
      cases is
      exact absurd (error.symm.trans stranded.valid) (Option.some_ne_none _)
    | none =>
      dsimp only
      have only : (∀ req', some req = some req' → ¬Stranded w conn req') ↔ ¬Stranded w conn req := by
        simp
      rw [only]
      by_cases unnamed : req.fileHash = []
      · -- without a hash nothing is searched for
        rw [stranded_iff known error fun hash => hash.1 unnamed, searches, if_pos unnamed, if_pos (List.isEmpty_iff.mpr unnamed)]
        exact uploadNew_leaves_iff conn seq _ req w
      · have allowed := fileTypeOf_allowed error
        have search : searches req = 1 := if_neg unnamed
        have answer := shown_latest w.mem w.tables (w.mem.connections conn).userId allowed
        have new : ¬KnownHash w (w.mem.connections conn).userId req →
            (uploadNew conn seq (w.mem.connections conn).userId req).Ensures w.spend fun o =>
              LeavesNothing conn w o ↔ ¬Stranded w conn req := by
          intro unknown
          rw [stranded_iff known error unknown, search, ← statementFails_spend 0, ← statementFails_spend 1,
            ← statementFails_spend 2]
          exact uploadNew_leaves_iff conn seq _ req w.spend
        rw [if_neg (fun empty => unnamed (List.isEmpty_iff.mp empty)), FileDao.findLatestByUserAndType, if_pos allowed]
        refine ensures_found (fun miss => new ?_) fun file works found => ?_
        · rintro ⟨-, works, file, found, -⟩
          rcases miss with fault | none
          · exact works fault
          · exact absurd (none.symm.trans (answer.symm.trans found)).symm (Option.some_ne_none file)
        · have first : ¬StatementFails w.faults 0 := Bool.eq_false_iff.mp works
          by_cases same : file.hash = req.fileHash
          · rw [Option.filter_some, if_pos (decide_eq_true same)]
            refine iff_of_true (leaves_granted rfl) fun stranded => ?_
            exact stranded.unknown ⟨unnamed, first, file, answer.trans found, same⟩
          · rw [Option.filter_some, if_neg (by simpa using same)]
            refine new ?_
            rintro ⟨-, -, file', found', same'⟩
            cases found.symm.trans (answer.symm.trans found')
            exact same same'

/-- The database fails at the second statement of an upload without a hash. -/
def interrupted : World where
  tables := {}
  faults := [false, true]
  mem := { connections := fun _ => { userId := 1 } }

theorem handleUpload_strands :
    ¬∀ (conn : ConnId) (seq : UInt32) (body : Option UploadReq) (w : World),
      LeavesNothing conn w ((handleUpload conn seq body).run w) := by
  intro claim
  have leaves := claim 0 0 (some ⟨ascii "a.txt", 1, ascii "text/plain", [], []⟩) interrupted
    ⟨errc.file.kUploadFailed.code, by decide, by decide⟩
  exact absurd (leaves.byId 1) (by decide)

end NovaIIM.FileService
