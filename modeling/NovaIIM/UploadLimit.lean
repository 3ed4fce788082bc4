import NovaIIM.FileServer

/-!
The size of streaming uploads (the handler of `POST /api/v1/files/upload/{filename}`
in `file/file_server.cpp`).

The limit is checked once, against the length that the headers declare, and the
chunks are not counted. So the file grows by all of them (`written_after`): a request
stays within the limit exactly if its chunks do (`stream_within_iff`). Where the
parser delivers no more than was declared they do (`stream_declared`), but a body in
chunks declares no length at all.
-/
namespace NovaIIM.FileServer

/-- What the parser reports of one request: its headers, the chunks of its body with the bytes that
    the file system takes of each, and whether the message was complete or an error ended it. -/
structure StreamRequest where
  headers : StreamHeaders
  chunks : List (Nat × Nat)
  completes : Bool := true

def StreamRequest.body (req : StreamRequest) : List Callback :=
  req.chunks.map (fun chunk => .body chunk.1 chunk.2) ++ [if req.completes then .messageComplete else .error]

def StreamRequest.callbacks (req : StreamRequest) : List Callback := .headersComplete req.headers :: req.body

/-- The bytes of the chunks that the file system takes, up to the first chunk that it does not take
    as a whole. -/
def takenBytes : List (Nat × Nat) → Nat
  | [] => 0
  | (size, taken) :: rest => if taken < size then taken else size + takenBytes rest

/-- The upload after a callback. -/
def received (server : FileServer) (u : Upload) (callback : Callback) : Upload := (stream server u callback).1

/-- The file is never larger than the limit. -/
def StaysWithin (server : FileServer) (u : Upload) (callbacks : List Callback) : Prop :=
  ∀ before, before <+: callbacks → ((after (received server) u before).written : Int) ≤ server.maxUploadSize

variable {server : FileServer} {u : Upload}

theorem staysWithin_cons {callback : Callback} {rest : List Callback} :
    StaysWithin server u (callback :: rest) ↔
      (u.written : Int) ≤ server.maxUploadSize ∧ StaysWithin server (received server u callback) rest := by
  constructor
  · intro within
    exact ⟨within [] List.nil_prefix, fun before short =>
      within (callback :: before) (List.cons_prefix_cons.mpr ⟨rfl, short⟩)⟩
  · rintro ⟨now, later⟩ before short
    cases before with
    | nil => exact now
    | cons first more =>
      obtain ⟨rfl, inside⟩ := List.cons_prefix_cons.mp short
      exact later more inside

/-- Without headers nothing is written to a file that is not open. -/
theorem written_closed {req : StreamRequest} (shut : u.file = none) {before : List Callback} (short : before <+: req.body) :
    (after (received server) u before).written = u.written := by
  have silent : ∀ callback ∈ req.body, ∀ v : Upload, v.file = none →
      (received server v callback).file = none ∧ (received server v callback).written = v.written := by
    intro callback inside v shut
    rcases List.mem_append.mp inside with chunk | last
    · obtain ⟨⟨size, taken⟩, -, rfl⟩ := List.mem_map.mp chunk
      simp [received, stream, shut]
    · rw [List.mem_singleton.mp last]
      cases req.completes <;> simp [received, stream]
  have all : ∀ callback ∈ before, callback ∈ req.body := fun _ inside => short.subset inside
  clear short
  induction before generalizing u with
  | nil => rfl
  | cons callback rest ih =>
    obtain ⟨still, same⟩ := silent callback (all callback List.mem_cons_self) u shut
    rw [after_cons, ih still fun other inside => all other (List.mem_cons_of_mem _ inside), same]

/-- An open file grows by all chunks that the file system takes. -/
theorem written_after {path : Bytes} (opened : u.file = some path) (chunks : List (Nat × Nat)) (completes : Bool)
    (headers : StreamHeaders) :
    StaysWithin server u (StreamRequest.body ⟨headers, chunks, completes⟩) ↔
      (u.written + takenBytes chunks : Int) ≤ server.maxUploadSize := by
  induction chunks generalizing u with
  | nil =>
    have last : (received server u (if completes then .messageComplete else .error)).written = u.written := by
      cases completes <;> rfl
    show StaysWithin server u [if completes then .messageComplete else .error] ↔ _
    rw [staysWithin_cons, StaysWithin]
    simp [last, takenBytes]
  | cons chunk rest ih =>
    obtain ⟨size, taken⟩ := chunk
    show StaysWithin server u (.body size taken :: StreamRequest.body ⟨headers, rest, completes⟩) ↔ _
    rw [staysWithin_cons, takenBytes]
    by_cases short : taken < size
    · -- the file is given up, so nothing more is written to it
      have failed : received server u (.body size taken) =
          { u with file := none, written := u.written + taken, closed := true } := by
        rw [received, stream, if_pos ⟨by rw [opened]; rfl, by omega⟩, if_pos short]
      rw [failed, if_pos short]
      constructor
      · rintro ⟨-, within⟩
        exact within [] List.nil_prefix
      · intro within
        refine ⟨by omega, fun before inside => ?_⟩
        rw [written_closed rfl inside]
        exact within
    · have grown : (received server u (.body size taken)).file = some path ∧
          (received server u (.body size taken)).written = u.written + size := by
        rw [received, stream]
        split
        · exact ⟨opened, rfl⟩
        · rename_i empty
          have none : size = 0 := by
            refine Nat.eq_zero_of_not_pos fun positive => empty ⟨by rw [opened]; rfl, positive⟩
          exact ⟨opened, by rw [none]; rfl⟩
      rw [ih grown.1, grown.2, if_neg short]
      omega

/-- A request whose headers are accepted writes from the start of an empty file. -/
theorem received_headers {headers : StreamHeaders} (accepted : headersError server headers = none) :
    received server u (.headersComplete headers) =
      { u with file := some (cString (filepath server headers.filename)), written := 0 } := by
  simp [received, stream, accepted]

/-- A request whose headers are accepted writes no more than the limit exactly if its chunks are no more. -/
theorem stays_accepted {req : StreamRequest} (limited : 0 < server.maxUploadSize) (accepted : headersError server req.headers = none) :
    StaysWithin server {} req.callbacks ↔ (takenBytes req.chunks : Int) ≤ server.maxUploadSize := by
  have start : (({} : Upload).written : Int) ≤ server.maxUploadSize := Int.le_of_lt limited
  rw [StreamRequest.callbacks, staysWithin_cons, received_headers accepted, written_after rfl]
  constructor
  · rintro ⟨-, within⟩
    simpa using within
  · intro within
    exact ⟨start, by simpa using within⟩

/-- A request that is turned away writes nothing. -/
theorem stays_refused {req : StreamRequest} {e : Rejection} (limited : 0 < server.maxUploadSize)
    (refused : headersError server req.headers = some e) : StaysWithin server {} req.callbacks := by
  have start : (({} : Upload).written : Int) ≤ server.maxUploadSize := Int.le_of_lt limited
  have closed : received server {} (.headersComplete req.headers) = { closed := true } := by
    simp [received, stream, refused]
  rw [StreamRequest.callbacks, staysWithin_cons, closed]
  refine ⟨start, fun before short => ?_⟩
  rw [written_closed rfl short]
  exact start

/-- Under a limit a request writes no more than the limit exactly if it is turned away, or the
    chunks of its body are no more. -/
theorem stream_within_iff (server : FileServer) (limited : 0 < server.maxUploadSize) (req : StreamRequest) :
    StaysWithin server {} req.callbacks ↔
      (headersError server req.headers = none → (takenBytes req.chunks : Int) ≤ server.maxUploadSize) := by
  cases error : headersError server req.headers with
  | none =>
    rw [stays_accepted limited error]
    simp only [forall_const]
  | some e => exact iff_of_true (stays_refused limited error) (by simp)

/-- What was declared is within the limit, so a body of at most that length is. -/
theorem stream_declared (server : FileServer) (limited : 0 < server.maxUploadSize) (req : StreamRequest)
    (declared : (takenBytes req.chunks : Int) ≤ req.headers.contentLength) : StaysWithin server {} req.callbacks := by
  cases error : headersError server req.headers with
  | some e => exact stays_refused limited error
  | none =>
    refine (stays_accepted limited error).mpr ?_
    have fits : ¬server.maxUploadSize < req.headers.contentLength := by
      intro exceeds
      rw [headersError] at error
      split at error
      · cases error
      · cases name : streamingName req.headers.filename with
        | error e =>
          rw [name] at error
          cases error
        | ok name' =>
          rw [name] at error
          simp [limited, exceeds] at error
    omega

theorem stream_within_text : StaysWithin plainServer {} (StreamRequest.callbacks ⟨{}, [(10, 10)], true⟩) :=
  (stream_within_iff plainServer (by decide) ⟨{}, [(10, 10)], true⟩).mpr fun _ => by decide

/-- A body in chunks, without a declared length, of one byte more than the 500 MB of the default. -/
theorem stream_over_limit :
    ¬∀ (server : FileServer), 0 < server.maxUploadSize → ∀ req : StreamRequest, StaysWithin server {} req.callbacks := by
  intro claim
  have within := claim plainServer (by decide) ⟨{}, [(524288001, 524288001)], true⟩
  have larger := within [.headersComplete {}, .body 524288001 524288001] ⟨[.messageComplete], rfl⟩
  exact absurd larger (by decide)

end NovaIIM.FileServer
