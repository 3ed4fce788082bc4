import NovaIIM.Dao

/-!
The file service (`service/file_service.cpp`): the metadata of files. The bytes of
a file go through another server.
-/
namespace NovaIIM.FileService
open Store

/-- 100 MB. -/
def kMaxFileSize : Int := 100 * 1024 * 1024

/-- The type of an upload, `file` where the request names none. -/
def fileTypeOf (req : UploadReq) : Bytes := if req.fileType.isEmpty then ascii "file" else req.fileType

/-- Why an upload is turned away before the database sees it. -/
def uploadError (req : UploadReq) : Option Error :=
  if req.fileName.isEmpty then some errc.file.kFileNameRequired
  else if 512 < req.fileName.length then some ⟨errc.kInvalidBody.code, "file_name too long"⟩
  else if 256 < req.fileHash.length then some ⟨errc.kInvalidBody.code, "file_hash too long"⟩
  else if req.fileSize ≤ 0 then some errc.file.kFileSizeInvalid
  else if kMaxFileSize < req.fileSize then some errc.file.kFileSizeTooLarge
  else if req.mimeType.isEmpty then some errc.file.kMimeTypeRequired
  else if 128 < req.mimeType.length then some ⟨errc.kInvalidBody.code, "mime_type too long"⟩
  else if fileTypeOf req ∉ FileDao.kAllowed then some errc.file.kInvalidFileType
  else none

/-- The name behind the last slash or backslash. -/
def safeName (fileName : Bytes) : Bytes :=
  (fileName.reverse.takeWhile fun c => c ≠ 47 && c ≠ 92).reverse

/-- Where a file is stored. -/
def relPath (seconds : Int) (fileId userId : Int) (name : Bytes) : Bytes :=
  ascii "uploads/" ++ Calendar.formatDate seconds ++ ascii "/" ++ decimalText fileId ++ ascii "_" ++
    decimalText userId ++ ascii "_" ++ name

def sendUploadAck (conn : ConnId) (seq : UInt32) (ack : UploadAck) : Handler :=
  sendPacket conn .uploadAck seq (.uploadAck ack)

/-- An upload that is not there yet: the row is inserted first, for the sake of its id. -/
def uploadNew (conn : ConnId) (seq : UInt32) (userId : Int) (req : UploadReq) : Handler := do
  let reply := fun e : Error => sendUploadAck conn seq { code := e.code, msg := e.msg }
  let name := safeName req.fileName
  if name.isEmpty ∨ name = ascii "." ∨ name = ascii ".." then reply errc.file.kFileNameRequired
  else do
  let systemMs ← peek fun m => m.systemMs
  let id ← FileDao.insertId
    { userId := userId, fileType := fileTypeOf req, filePath := ascii "pending", fileName := req.fileName,
      fileSize := req.fileSize, mimeType := req.mimeType, hash := req.fileHash }
  match id with
  | none => reply errc.file.kUploadFailed
  | some fileId => do
    let path := relPath (systemMs / 1000) fileId userId name
    let updated ← FileDao.updatePath fileId path
    if !updated then reply errc.file.kUploadFailed
    else
      sendUploadAck conn seq
        { code := errc.kOk.code, msg := errc.kOk.msg, fileId := fileId, uploadUrl := path }

/-- `FileService::HandleUpload`. -/
def handleUpload (conn : ConnId) (seq : UInt32) (body : Option UploadReq) : Handler := do
  let me ← connection conn
  let reply := fun e : Error => sendUploadAck conn seq { code := e.code, msg := e.msg }
  if me.userId = 0 then reply errc.kNotAuthenticated
  else match body with
  | none => reply errc.kInvalidBody
  | some req =>
    match uploadError req with
    | some e => reply e
    | none => do
      let existing ← (if req.fileHash.isEmpty then pure none
        else FileDao.findLatestByUserAndType me.userId (fileTypeOf req))
      match existing.filter fun f => f.hash = req.fileHash with
      | some file =>
        sendUploadAck conn seq
          { code := errc.kOk.code, msg := errc.kOk.msg, fileId := file.id, uploadUrl := file.filePath,
            alreadyExists := 1 }
      | none => uploadNew conn seq me.userId req

/-- `FileService::HandleUploadComplete`. -/
def handleUploadComplete (conn : ConnId) (seq : UInt32) (body : Option FileReq) : Handler := do
  let me ← connection conn
  let reply := fun e : Error =>
    sendPacket conn .uploadCompleteAck seq (.uploadCompleteAck { code := e.code, msg := e.msg })
  if me.userId = 0 then reply errc.kNotAuthenticated
  else match body with
  | none => reply errc.kInvalidBody
  | some req =>
    if req.fileId ≤ 0 then reply errc.kInvalidBody
    else do
    let file ← FileDao.findById req.fileId
    match file.filter fun f => f.userId = me.userId with
    | none => reply errc.file.kFileNotFound
    | some file =>
      sendPacket conn .uploadCompleteAck seq
        (.uploadCompleteAck { code := errc.kOk.code, msg := errc.kOk.msg, filePath := file.filePath })

/-- A file may be downloaded by its owner and by whoever is in a conversation with the owner. -/
def mayDownload (userId : Int) (file : UserFile) : Action Bool :=
  if file.userId = userId then return true
  else do
    let mine ← ConversationDao.getMembersByUser userId
    let theirs ← ConversationDao.getMembersByUser file.userId
    return mine.any fun m => m.conversationId ∈ theirs.map ConversationMember.conversationId

/-- `FileService::HandleDownload`. -/
def handleDownload (conn : ConnId) (seq : UInt32) (body : Option FileReq) : Handler := do
  let me ← connection conn
  let reply := fun e : Error =>
    sendPacket conn .downloadAck seq (.downloadAck { code := e.code, msg := e.msg })
  if me.userId = 0 then reply errc.kNotAuthenticated
  else match body with
  | none => reply errc.kInvalidBody
  | some req =>
    if req.fileId ≤ 0 then reply errc.kInvalidBody
    else do
    let file ← FileDao.findById req.fileId
    match file with
    | none => reply errc.file.kFileNotFound
    | some file => do
      let allowed ← mayDownload me.userId file
      if !allowed then reply errc.file.kFileNotFound
      else
        sendPacket conn .downloadAck seq
          (.downloadAck
            { code := errc.kOk.code, msg := errc.kOk.msg, downloadUrl := file.filePath,
              fileName := file.fileName, fileSize := file.fileSize })

/-- A request to the service, with the connection and the packet seq it came with. -/
inductive Request where
  | upload (conn : ConnId) (seq : UInt32) (body : Option UploadReq)
  | uploadComplete (conn : ConnId) (seq : UInt32) (body : Option FileReq)
  | download (conn : ConnId) (seq : UInt32) (body : Option FileReq)

def Request.conn : Request → ConnId
  | upload conn .. | uploadComplete conn .. | download conn .. => conn

def handle : Request → Handler
  | .upload conn seq body => handleUpload conn seq body
  | .uploadComplete conn seq body => handleUploadComplete conn seq body
  | .download conn seq body => handleDownload conn seq body

end NovaIIM.FileService
