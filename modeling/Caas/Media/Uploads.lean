import Caas.Async.Pool
import Caas.Js.Buffer
import Caas.Js.Json
import Caas.Redis.ExpiringMap

/-!
# The upload routes

A file is uploaded whole, or in chunks under a session in Redis that counts them. Sessions and
chunks live under keys of one prefix; an upload id comes from the URL and may be any text.
Replies carry what the routes send, with the error texts.

Every awaited command may fail, without an effect then; the handlers answer 500. The times of
creation and the status of a session are left out, as no upload route reads them.
-/

namespace Caas.Media

open Js Async Program Redis OrderedMap

/-- The authenticated user of a request. -/
structure Caller where
  tenantId : String
  userId : String
deriving DecidableEq

/-- A file on its way: its content, and how many bytes of it have been read when its size and
when the quota is checked. -/
structure UploadedFile where
  filename : String
  mimetype : String
  content : Buffer
  bytesReadFirst : Nat
  bytesRead : Nat
  first_le : bytesReadFirst ≤ bytesRead
  read_le : bytesRead ≤ content.length

/-- The body of a request that initiates a chunked upload. -/
structure InitiateBody where
  filename : String
  totalSize : Nat
  chunkSize : Nat
  mimetype : String
deriving DecidableEq

/-- `Math.ceil(total_size / chunk_size)`, if that is a number. -/
def InitiateBody.totalChunks (body : InitiateBody) : Option Nat :=
  if body.chunkSize = 0 then none
  else some ((body.totalSize + body.chunkSize - 1) / body.chunkSize)

structure UploadSession where
  tenantId : String
  uploaderId : String
  filename : String
  totalSize : Nat
  chunkSize : Nat
  mimetype : String
  chunksReceived : Nat
  totalChunks : Option Nat
deriving DecidableEq

def initiated (caller : Caller) (body : InitiateBody) : UploadSession where
  tenantId := caller.tenantId
  uploaderId := caller.userId
  filename := body.filename
  totalSize := body.totalSize
  chunkSize := body.chunkSize
  mimetype := body.mimetype
  chunksReceived := 0
  totalChunks := body.totalChunks

/-- A number, `null` if there is none. -/
def numberOrNull (number : Option Nat) : Json Nat := number.elim .null .number

/-- `JSON.stringify(session)`. -/
def UploadSession.text (session : UploadSession) : String :=
  Json.stringify (Nat.toDigits 10) (.literal [("tenant_id", some (.string session.tenantId)),
    ("uploader_id", some (.string session.uploaderId)),
    ("filename", some (.string session.filename)), ("total_size", some (.number session.totalSize)),
    ("chunk_size", some (.number session.chunkSize)), ("mimetype", some (.string session.mimetype)),
    ("chunks_received", some (.number session.chunksReceived)),
    ("total_chunks", some (numberOrNull session.totalChunks))])

/-- A text in Redis: a serialised session, or the base64 text of a chunk. -/
inductive RedisText where
  | session (session : UploadSession)
  | chunk (base64 : String)
deriving DecidableEq

namespace RedisText

def text : RedisText → String
  | .session record => record.text
  | .chunk base64 => base64

/-- A text that is there and not empty; the text of a session never is. -/
def nonempty (found : Option RedisText) : Option RedisText :=
  found.filter fun
    | .session _ => true
    | .chunk base64 => base64 ≠ ""

def areDigits (chars : List Char) : Bool := chars ≠ [] && chars.all Char.isDigit

/-- The characters are an exponent, as base64 can spell it. -/
def areExponent : List Char → Bool
  | e :: '+' :: digits => (e = 'e' || e = 'E') && areDigits digits
  | e :: digits => (e = 'e' || e = 'E') && areDigits digits
  | [] => false

/-- The base64 text is JSON of a value that is not `null`: a number or `true`. -/
def isPrimitive (base64 : String) : Bool :=
  let (integer, rest) := base64.toList.span Char.isDigit
  base64 = "true" ||
    areDigits integer && (integer.length = 1 || integer.head? ≠ some '0') &&
      (rest = [] || areExponent rest)

/-- `JSON.parse(text)`, of which fields are read: a session, or a value without these fields. -/
def parse : RedisText → Except String (Option UploadSession)
  | .session record => .ok (some record)
  | .chunk base64 =>
    if isPrimitive base64 then .ok none else .error "Unexpected token in JSON at position 0"

end RedisText

structure StoredObject where
  body : Buffer
  contentType : String
  tenantId : String
  uploaderId : String
  checksum : String
deriving DecidableEq

/-- A document of the media files of a tenant. -/
structure MediaFile where
  id : String
  tenantId : String
  uploaderId : String
  filename : String
  mimetype : String
  size : Nat
  s3Key : String
  checksum : String
deriving DecidableEq

structure Quota where
  storageUsed : Nat
  storageLimit : Option Nat
deriving DecidableEq

structure UploadSettings where
  maxFileSizeMB : Nat
  digest : Buffer → Buffer

inductive UploadReply where
  | rejected (code : Nat) (error message : String)
  | uploaded (id filename : String) (size : Nat) (mimetype checksum : String)
  | initiated (uploadId : String) (chunkSize : Nat) (totalChunks : Option Nat)
  | received (chunkNumber : String) (totalReceived : Nat) (totalChunks : Option Nat)
  | incomplete (received : Nat) (expected : Option Nat)
  | completed (id filename : String) (size : Nat) (mimetype checksum : String)
deriving DecidableEq

inductive UploadCommand where
  | requestFile
  | readStream
  | redis (command : StringCommand String RedisText)
  | setProgress (uploadId status : String)
  | findQuota (tenantId : String)
  | putObject (key : String) (object : StoredObject)
  | insertFile (file : MediaFile)
  | incQuota (tenantId : String) (size : Nat)
  | publish (event : String) (file : MediaFile)

namespace UploadCommand

def Result : UploadCommand → Type
  | .redis command => command.Reply
  | .findQuota _ => Option Quota
  | .requestFile | .readStream | .setProgress _ _ | .putObject _ _ | .insertFile _ | .incQuota _ _
  | .publish _ _ => Unit

def Reply (command : UploadCommand) : Type := Except String command.Result

end UploadCommand

abbrev UploadProgram := Program UploadCommand UploadCommand.Reply

/-- The key of a session, or of what else is asked for under its id. -/
def sessionKey (uploadId : String) : String := "chunk:" ++ uploadId

def chunkKey (uploadId chunkNumber : String) : String := "chunk:" ++ uploadId ++ ":" ++ chunkNumber

def fileKey (caller : Caller) (fileId filename : String) : String :=
  caller.tenantId ++ "/" ++ caller.userId ++ "/" ++ fileId ++ "/" ++ filename

namespace UploadRoutes

/-- `await`, which throws what the command fails with. -/
def await (command : UploadCommand) : UploadProgram command.Result := do
  let reply : Except String command.Result ← Program.command command
  Program.orThrow reply

/-- `await redis.set(key, text, 'EX', 86400)`, or `setex`. -/
def setText (key : String) (text : RedisText) : UploadProgram Unit := do
  let written : Except String Unit ← await (.redis (.setex key 86400 text))
  orThrow written

variable (settings : UploadSettings)

def storedObject (caller : Caller) (mimetype : String) (content : Buffer) : StoredObject where
  body := content
  contentType := mimetype
  tenantId := caller.tenantId
  uploaderId := caller.userId
  checksum := Buffer.toHex (settings.digest content)

def mediaFile (caller : Caller) (id filename mimetype : String) (size : Nat) (content : Buffer) :
    MediaFile where
  id := id
  tenantId := caller.tenantId
  uploaderId := caller.userId
  filename := filename
  mimetype := mimetype
  size := size
  s3Key := fileKey caller id filename
  checksum := Buffer.toHex (settings.digest content)

/-- The quota has no room for the bytes; no limit is one that nothing exceeds. -/
def exceeds (quota : Option Quota) (bytes : Nat) : Bool :=
  quota.any fun quota => quota.storageLimit.any fun limit => limit < quota.storageUsed + bytes

def storeUpload (caller : Caller) (fileId : String) (file : UploadedFile) :
    UploadProgram UploadReply := do
  await (.setProgress fileId "uploading")
  await .readStream
  let stored := mediaFile settings caller fileId file.filename file.mimetype file.content.length
    file.content
  await (.putObject stored.s3Key (storedObject settings caller file.mimetype file.content))
  await (.insertFile stored)
  await (.incQuota caller.tenantId file.content.length)
  await (.setProgress fileId "completed")
  await (.publish "file.uploaded" stored)
  return .uploaded fileId file.filename file.content.length file.mimetype stored.checksum

/-- `POST /upload`, which draws `fileId`. -/
def upload (caller : Caller) (file : Option UploadedFile) (fileId : String) :
    UploadProgram UploadReply :=
  let handler : UploadProgram UploadReply := do
    await .requestFile
    match file with
    | none => return .rejected 400 "BadRequest" "No file provided"
    | some file =>
      if file.bytesReadFirst > settings.maxFileSizeMB * 1024 * 1024 then
        return .rejected 413 "PayloadTooLarge"
          ("File size exceeds " ++ toString settings.maxFileSizeMB ++ "MB limit")
      else
        let quota : Option Quota ← await (.findQuota caller.tenantId)
        if exceeds quota file.bytesRead then
          return .rejected 429 "QuotaExceeded" "Storage quota exceeded"
        else storeUpload settings caller fileId file
  handler.catching fun _ =>
    return .rejected 500 "InternalServerError" "Failed to upload file"

/-- `POST /upload/chunk`, which draws `uploadId`. -/
def initiate (caller : Caller) (body : InitiateBody) (uploadId : String) :
    UploadProgram UploadReply :=
  let handler : UploadProgram UploadReply := do
    setText (sessionKey uploadId) (.session (initiated caller body))
    return .initiated uploadId body.chunkSize body.totalChunks
  handler.catching fun _ =>
    return .rejected 500 "InternalServerError" "Failed to initiate chunked upload"

/-- `await redis.get(key)`, of a text that is not empty. -/
def getText (key : String) : UploadProgram (Option RedisText) := do
  let found : Option RedisText ← await (.redis (.get key))
  return RedisText.nonempty found

def storeChunk (uploadId chunkNumber : String) (data : Option Buffer) (session : UploadSession) :
    UploadProgram UploadReply := do
  await .requestFile
  match data with
  | none => return .rejected 400 "BadRequest" "No chunk data provided"
  | some chunk =>
    await .readStream
    setText (chunkKey uploadId chunkNumber) (.chunk (Buffer.toBase64 chunk))
    let counted := { session with chunksReceived := session.chunksReceived + 1 }
    setText (sessionKey uploadId) (.session counted)
    return .received chunkNumber counted.chunksReceived counted.totalChunks

/-- `POST /upload/chunk/:uploadId`. -/
def uploadChunk (caller : Caller) (uploadId chunkNumber : String) (data : Option Buffer) :
    UploadProgram UploadReply :=
  let handler : UploadProgram UploadReply := do
    let sessionData ← getText (sessionKey uploadId)
    match sessionData with
    | none => return .rejected 404 "NotFound" "Upload session not found"
    | some text =>
      let parsed ← orThrow text.parse
      match parsed with
      | none => return .rejected 403 "Forbidden" "Unauthorized access to upload session"
      | some session =>
        if session.tenantId ≠ caller.tenantId ∨ session.uploaderId ≠ caller.userId then
          return .rejected 403 "Forbidden" "Unauthorized access to upload session"
        else storeChunk uploadId chunkNumber data session
  handler.catching fun _ =>
    return .rejected 500 "InternalServerError" "Failed to upload chunk"

/-- The loop that reads the chunks: their contents, or the first that is not there. -/
def readChunks (uploadId : String) : List Nat → UploadProgram (Except Nat Buffer)
  | [] => return .ok []
  | number :: rest => do
    let chunkData ← getText (chunkKey uploadId (toString number))
    match chunkData with
    | none => return .error number
    | some text =>
      let later ← readChunks uploadId rest
      return later.map fun content => Buffer.ofBase64 text.text ++ content

def deleteChunks (uploadId : String) : List Nat → UploadProgram Unit
  | [] => return ()
  | number :: rest => do
    let _ ← await (.redis (.del (chunkKey uploadId (toString number))))
    deleteChunks uploadId rest

/-- A hexadecimal id of 24 digits, which `new ObjectId` takes. -/
def isObjectId (id : String) : Bool :=
  id.toList.length = 24 && id.toList.all fun c => (Buffer.digitValue c).isSome

/-- The file of a session whose chunks are there is stored, and its chunks are deleted. A value
without fields gives an empty file, whose id is then refused. -/
def storeFile (caller : Caller) (uploadId : String) (session : Option UploadSession)
    (content : Buffer) : UploadProgram UploadReply := do
  let filename := (session.map (·.filename)).getD "undefined"
  let mimetype := (session.map (·.mimetype)).getD "undefined"
  let size := (session.map (·.totalSize)).getD 0
  let stored := mediaFile settings caller uploadId filename mimetype size content
  await (.putObject stored.s3Key (storedObject settings caller mimetype content))
  if isObjectId uploadId then
    await (.insertFile stored)
    deleteChunks uploadId (List.range ((session.bind (·.totalChunks)).getD 0))
    let _ ← await (.redis (.del (sessionKey uploadId)))
    await (.publish "file.uploaded" stored)
    return .completed uploadId filename size mimetype stored.checksum
  else .failure "input must be a 24 character hex string, 12 byte Uint8Array, or an integer"

/-- `POST /upload/complete/:uploadId`. -/
def complete (caller : Caller) (uploadId : String) : UploadProgram UploadReply :=
  let handler : UploadProgram UploadReply := do
    let sessionData ← getText (sessionKey uploadId)
    match sessionData with
    | none => return .rejected 404 "NotFound" "Upload session not found"
    | some text =>
      let session ← orThrow text.parse
      if session.any fun session => session.totalChunks ≠ some session.chunksReceived then
        return .incomplete ((session.map (·.chunksReceived)).getD 0)
          (session.bind (·.totalChunks))
      else
        let content ← readChunks uploadId
          (List.range ((session.bind (·.totalChunks)).getD 0))
        match content with
        | .error number =>
          return .rejected 400 "BadRequest" ("Chunk " ++ toString number ++ " not found")
        | .ok content => storeFile settings caller uploadId session content
  handler.catching fun _ =>
    return .rejected 500 "InternalServerError" "Failed to complete chunked upload"

end UploadRoutes

/-- A request, with the id that its handler draws. -/
inductive UploadRequest where
  | upload (caller : Caller) (file : Option UploadedFile) (fileId : String)
  | initiate (caller : Caller) (body : InitiateBody) (uploadId : String)
  | uploadChunk (caller : Caller) (uploadId chunkNumber : String) (data : Option Buffer)
  | complete (caller : Caller) (uploadId : String)

namespace UploadRequest

def caller : UploadRequest → Caller
  | .upload caller _ _ | .initiate caller _ _ | .uploadChunk caller _ _ _ | .complete caller _ =>
    caller

/-- The id that the handler draws. -/
def draw? : UploadRequest → Option String
  | .upload _ _ id | .initiate _ _ id => some id
  | .uploadChunk _ _ _ _ | .complete _ _ => none

end UploadRequest

/-- Redis, the object storage and the database, with the clock. -/
structure UploadServer where
  now : Nat
  redis : ExpiringMap String RedisText
  objects : OrderedMap String StoredObject
  media : List MediaFile
  quotas : OrderedMap String Quota

namespace UploadServer

def hasFile (server : UploadServer) (tenantId id : String) : Bool :=
  server.media.any fun file => file.tenantId = tenantId && file.id = id

/-- `{ $inc: { storage_used: size } }`, which makes a record if there is none. -/
def increased (quota : Option Quota) (size : Nat) : Quota :=
  match quota with
  | some quota => { quota with storageUsed := quota.storageUsed + size }
  | none => ⟨size, none⟩

/-- Execute a command that does not fail on its way. -/
def answer (server : UploadServer) : (command : UploadCommand) → UploadServer × command.Reply
  | .requestFile | .readStream | .setProgress _ _ | .publish _ _ => (server, .ok ())
  | .redis command =>
    let (redis, reply) := command.exec server.redis server.now
    ({ server with redis }, .ok reply)
  | .findQuota tenantId => (server, .ok (get server.quotas tenantId))
  | .putObject key object =>
    ({ server with objects := set server.objects key object }, .ok ())
  | .insertFile file =>
    if server.hasFile file.tenantId file.id then
      (server, .error "E11000 duplicate key error collection")
    else ({ server with media := server.media ++ [file] }, .ok ())
  | .incQuota tenantId size =>
    let quota := increased (get server.quotas tenantId) size
    ({ server with quotas := set server.quotas tenantId quota }, .ok ())

def exec (server : UploadServer) (command : UploadCommand) (fault : Option String) :
    UploadServer × command.Reply :=
  match fault with
  | some error => (server, .error error)
  | none => server.answer command

end UploadServer

namespace UploadRoutes

variable (settings : UploadSettings)

def handle : UploadRequest → UploadProgram UploadReply
  | .upload caller file fileId => upload settings caller file fileId
  | .initiate caller body uploadId => initiate caller body uploadId
  | .uploadChunk caller uploadId chunkNumber data => uploadChunk caller uploadId chunkNumber data
  | .complete caller uploadId => complete settings caller uploadId

/-- Concurrent requests; outside of them only time passes. -/
def host : Host UploadServer UploadCommand UploadCommand.Reply (Option String) Nat UploadRequest
    UploadReply where
  exec server command fault := server.exec command fault
  change server elapsed := { server with now := server.now + elapsed }
  body := handle settings

end UploadRoutes

end Caas.Media
