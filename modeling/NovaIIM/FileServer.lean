import NovaIIM.Paths
import NovaIIM.Runs
import NovaIIM.Types

/-!
The server that stores the bytes of files (`file/file_server.cpp`): the names that
its routes accept, the files that they open, and the streaming upload as a machine
driven by the callbacks of the HTTP parser.
-/
namespace NovaIIM

/-- `FileServer::Options` with the root directory as `Start` has created it, and what the file
    system says about a destination. -/
structure FileServer where
  rootDir : Bytes := ascii "files"
  maxUploadSize : Int := 500 * 1024 * 1024
  /-- `IsDestinationSafe`, for the links that there are -/
  isDestinationSafe : Bytes → Bool
  rootDir_named : rootDir ≠ []
  rootDir_path : 0 ∉ rootDir

namespace FileServer

/-- `std::tolower` of the C locale. -/
def tolower (c : UInt8) : UInt8 := if 65 ≤ c && c ≤ 90 then c + 32 else c

/-- The status and the message with which a request is turned away; a streaming upload is closed
    without a message. -/
structure Rejection where
  status : Nat
  message : String := ""
deriving DecidableEq, Repr

/-! ### Names -/

/-- `IsPathSafe`. -/
def isPathSafe (path : Bytes) : Bool :=
  if path.isEmpty then false
  else if Paths.dotDot <:+: path then false
  else if path.head? = some 47 ∨ path.head? = some 92 then false
  else if 0 ∈ path then false
  else true

def kAllowed : List Bytes :=
  ["jpg", "jpeg", "png", "gif", "webp", "bmp", "svg", "ico", "pdf", "txt", "md", "csv", "log", "doc", "docx", "xls",
    "xlsx", "ppt", "pptx", "mp3", "wav", "ogg", "flac", "m4a", "mp4", "webm", "mov", "avi", "mkv", "zip", "rar", "7z",
    "tar", "gz", "bz2", "json", "xml", "yaml", "yml"].map ascii

/-- What follows the last character of a kind. -/
def behindLast (kind : UInt8 → Bool) (s : Bytes) : Bytes := (s.reverse.takeWhile fun c => !kind c).reverse

/-- `IsExtensionAllowed`. -/
def isExtensionAllowed (filename : Bytes) : Bool :=
  if 46 ∉ filename then false
  else (behindLast (· == 46) filename).map tolower ∈ kAllowed

/-- `POST /api/v1/files/upload` with a form, `POST /api/v1/files/upload` with a raw body, and
    `POST /api/v1/files/upload/{filename}`. -/
inductive Route where
  | multipart | raw | streaming
deriving DecidableEq, Repr

def multipartName (rawFilename : Bytes) : Except Rejection Bytes :=
  if !isPathSafe rawFilename then .error ⟨400, "invalid filename"⟩
  else
    let filename := (behindLast (fun c => c == 47 || c == 92) rawFilename).map tolower
    if filename.isEmpty then .error ⟨400, "empty filename"⟩
    else if !isExtensionAllowed filename then .error ⟨415, "file type not allowed"⟩
    else .ok filename

def rawName (filename : Bytes) : Except Rejection Bytes :=
  if !isPathSafe filename then .error ⟨400, "invalid filename"⟩
  else if !isExtensionAllowed filename then .error ⟨415, "file type not allowed"⟩
  else .ok filename

/-- The checks of the streaming route, which are its own. -/
def streamingName (filename : Bytes) : Except Rejection Bytes :=
  if Paths.dotDot <:+: filename ∨ 47 ∈ filename ∨ 92 ∈ filename then .error { status := 400 }
  else if !isExtensionAllowed filename then .error { status := 415 }
  else .ok filename

/-- The name under which a route stores a file with that name in the request. -/
def storedName : Route → Bytes → Except Rejection Bytes
  | .multipart => multipartName
  | .raw => rawName
  | .streaming => streamingName

/-- The status with which an unsafe destination is turned away. -/
def unsafeDestination : Route → Rejection
  | .multipart | .raw => ⟨403, "unsafe destination"⟩
  | .streaming => { status := 403 }

/-- A server whose file system has no links. -/
def plainServer : FileServer where
  isDestinationSafe _ := true
  rootDir_named := by decide
  rootDir_path := by decide

variable (server : FileServer)

def filepath (name : Bytes) : Bytes := server.rootDir ++ 47 :: name

/-- What `open` sees of a `std::string`. -/
def cString (s : Bytes) : Bytes := s.takeWhile (· ≠ 0)

/-- The file that an upload opens for writing. -/
def openedFile (route : Route) (filename : Bytes) : Except Rejection Bytes := do
  let name ← storedName route filename
  if !server.isDestinationSafe (filepath server name) then throw (unsafeDestination route)
  return cString (filepath server name)

/-! ### The streaming upload -/

/-- What the headers of a streaming upload say, and whether its file can be opened. -/
structure StreamHeaders where
  multipart : Bool := false
  filename : Bytes := ascii "unnamed.txt"
  /-- 0 without a `Content-Length` -/
  contentLength : Int := 0
  opens : Bool := true
deriving DecidableEq, Repr

/-- The callbacks of the parser; of a chunk of the body the file system takes a number of bytes. -/
inductive Callback where
  | headersComplete (headers : StreamHeaders)
  | body (size taken : Nat)
  | messageComplete
  | error
deriving DecidableEq, Repr

/-- A streaming upload: the open file, how many bytes were written to it, and whether the
    connection was closed. -/
structure Upload where
  file : Option Bytes := none
  written : Nat := 0
  closed : Bool := false
deriving DecidableEq, Repr

/-- Why the headers of a streaming upload are turned away. -/
def headersError (headers : StreamHeaders) : Option Rejection :=
  if headers.multipart then some { status := 400 }
  else match streamingName headers.filename with
  | .error e => some e
  | .ok name =>
    if 0 < server.maxUploadSize ∧ server.maxUploadSize < headers.contentLength then some { status := 400 }
    else if !server.isDestinationSafe (filepath server name) then some (unsafeDestination .streaming)
    else if !headers.opens then some { status := 500 }
    else none

/-- The handler of `POST /api/v1/files/upload/{filename}`, with the status that it returns. -/
def stream (u : Upload) : Callback → Upload × Nat
  | .headersComplete headers =>
    match headersError server headers with
    | some e => ({ u with closed := true }, e.status)
    | none => ({ u with file := some (cString (filepath server headers.filename)), written := 0 }, 0)
  | .body size taken =>
    if u.file.isSome ∧ 0 < size then
      if taken < size then ({ u with file := none, written := u.written + taken, closed := true }, 500)
      else ({ u with written := u.written + size }, 0)
    else (u, 0)
  | .messageComplete => ({ u with file := none }, 200)
  | .error => ({ u with file := none }, 0)

end FileServer
end NovaIIM
