import NovaIIM.Machine
import NovaIIM.SyncService

/-!
A page request as a state machine, in the manner of `SendPhases`.
-/
namespace NovaIIM
open Store SyncService

/-- A packet that carries a page request, with the connection it came on. -/
structure SyncCall where
  conn : ConnId
  seq : UInt32
  body : Option SyncMsgReq
deriving DecidableEq, Repr

/-- The handler that serves the packet. -/
def SyncCall.program (call : SyncCall) : Handler := handleSyncMsg call.conn call.seq call.body

/-- The reply to the packet, as an event. -/
def SyncCall.answered (call : SyncCall) (resp : SyncMsgResp) : Event :=
  .sent call.conn { cmd := .syncMsgResp, seq := call.seq, uid := 0, body := .syncMsgResp resp }

/-- How far a handler has got. -/
inductive SyncPhase (call : SyncCall) where
  | entered
  | checking (userId : Int) (req : SyncMsgReq) (given : call.body = some req)
  | configuring (req : SyncMsgReq) (given : call.body = some req)
  | reading (req : SyncMsgReq) (given : call.body = some req) (limit : Int)
  | naming (req : SyncMsgReq) (given : call.body = some req) (limit : Int) (messages : List Message)
      (some_ : messages ≠ [])
  | replying (resp : SyncMsgResp)
  | returned

namespace SyncPhase
variable {call : SyncCall}

/-- What is left of the handler. -/
def program : SyncPhase call → Handler
  | entered => call.program
  | checking userId req _ => syncChecked call.conn call.seq userId req
  | configuring req _ => syncConfigured call.conn call.seq req
  | reading req _ limit => syncRead call.conn call.seq req limit
  | naming _ _ limit messages _ => syncNamed call.conn call.seq limit messages
  | replying resp => sendSyncResp call.conn call.seq resp
  | returned => return ()

/-- The messages of a page are there: without any there are no senders to look up. -/
def found (req : SyncMsgReq) (given : call.body = some req) (limit : Int) (messages : List Message) : SyncPhase call :=
  if some_ : messages = [] then replying (pageOf limit [] []) else naming req given limit messages some_

theorem program_found (req : SyncMsgReq) (given : call.body = some req) (limit : Int) (messages : List Message) :
    (found req given limit messages).program = syncNamed call.conn call.seq limit messages := by
  unfold found
  split
  · rename_i none
    simp [program, syncNamed, none, UserDao.findByIds]
  · rfl

end SyncPhase

/-- The rows that `GetAfterSeq` answers with in some tables. -/
def pageRows (req : SyncMsgReq) (limit : Int) (t : Tables) : List Message :=
  MessageDao.afterSeq req.conversationId req.lastSeq (if limit < 0 then t.messages.rows.length else limit.toNat) t

/-- A step from one phase to the next. -/
inductive SyncStep {call : SyncCall} (w : World) :
    SyncPhase call → SyncPhase call → World → List Event → Prop where
  | turnAway (code : Int) : SyncStep w .entered (.replying { code := code }) w []
  | identify (req : SyncMsgReq) (given : call.body = some req) :
      SyncStep w .entered (.checking (w.mem.connections call.conn).userId req given) w []
  | outsider (userId : Int) (req : SyncMsgReq) (given : call.body = some req) :
      SyncStep w (.checking userId req given) (.replying { code := errc.sync.kNotMember.code }) w.spend []
  | insider (userId : Int) (req : SyncMsgReq) (given : call.body = some req) :
      SyncStep w (.checking userId req given) (.configuring req given) w.spend []
  | configure (req : SyncMsgReq) (given : call.body = some req) :
      SyncStep w (.configuring req given)
        (.reading req given (pageLimit w.mem.config.syncDefault w.mem.config.syncMax req.limit)) w []
  | lost (req : SyncMsgReq) (given : call.body = some req) (limit : Int) :
      SyncStep w (.reading req given limit) (.found req given limit []) w.spend []
  | read (req : SyncMsgReq) (given : call.body = some req) (limit : Int) :
      SyncStep w (.reading req given limit) (.found req given limit (pageRows req limit w.tables)) w.spend []
  | name (req : SyncMsgReq) (given : call.body = some req) (limit : Int) (messages : List Message)
      (some_ : messages ≠ []) (users : List User) :
      SyncStep w (.naming req given limit messages some_) (.replying (pageOf limit messages users)) w.spend []
  | reply (resp : SyncMsgResp) : SyncStep w (.replying resp) .returned w [call.answered resp]

/-- The actions of a handler are steps of the machine. -/
theorem syncPhase_first {call : SyncCall} {phase : SyncPhase call} {w w' : World} {rest : Handler}
    {events : List Event} (moves : phase.program.first w = some (rest, w', events)) :
    ∃ next : SyncPhase call, next.program = rest ∧ SyncStep w phase next w' events := by
  cases phase with
  | entered =>
    cases moves
    by_cases unknown : (w.mem.connections call.conn).userId = 0
    · exact ⟨_, by simp [SyncPhase.program, unknown], .turnAway errc.kNotAuthenticated.code⟩
    cases garbled : call.body with
    | none => exact ⟨_, by simp [SyncPhase.program, unknown], .turnAway errc.kInvalidBody.code⟩
    | some req =>
      by_cases invalid : req.conversationId ≤ 0
      · exact ⟨_, by simp [SyncPhase.program, unknown, invalid], .turnAway errc.kInvalidBody.code⟩
      · refine ⟨_, ?_, .identify req garbled⟩
        simp [SyncPhase.program, unknown, invalid]
  | checking userId req given =>
    rw [SyncPhase.program, syncChecked, ConversationDao.isMember, first_query] at moves
    generalize (if w.fails = true then false else _) = member at moves
    cases moves
    cases member with
    | true => exact ⟨_, rfl, .insider userId req given⟩
    | false => exact ⟨_, rfl, .outsider userId req given⟩
  | configuring req given =>
    cases moves
    exact ⟨_, rfl, .configure req given⟩
  | reading req given limit =>
    rw [SyncPhase.program, syncRead, MessageDao.getAfterSeq, first_query] at moves
    cases moves
    split
    · exact ⟨_, SyncPhase.program_found req given limit [], .lost req given limit⟩
    · exact ⟨_, SyncPhase.program_found req given limit _, .read req given limit⟩
  | naming req given limit messages some_ =>
    have names : (messages.map Message.senderId).isEmpty = false := by simpa using some_
    rw [SyncPhase.program, syncNamed, UserDao.findByIds, names, if_neg Bool.false_ne_true, first_query] at moves
    cases moves
    exact ⟨_, rfl, .name req given limit messages some_ _⟩
  | replying resp =>
    cases moves
    exact ⟨_, rfl, .reply resp⟩
  | returned => cases moves

/-- The page requests as a machine. -/
def syncMachine : Machine World Event SyncCall where
  program := SyncCall.program
  Phase := SyncPhase
  entered _ := .entered
  code := SyncPhase.program
  Step := SyncStep
  code_entered _ := rfl
  first := syncPhase_first

end NovaIIM
