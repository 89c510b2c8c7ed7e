import Caas.Media.Uploads

/-!
# What upload requests do

Where a request stands, which command it awaits there, and what one command does to it. Each
handler keeps to this, so that runs can be argued about without the handlers.
-/

namespace Caas.Media

open Js Async Redis UploadRoutes
open Program hiding result failure await

/-- Where a request stands: the session it has read, or what it has done with its file. -/
inductive Phase where
  | start
  | authorized (session : UploadSession)
  | stored (session : UploadSession)
  | counted
  | initiated
  | reading (session : Option UploadSession)
  | placed (session : Option UploadSession)
  | inserted (session : Option UploadSession)
  | admitted (quota : Option Quota)
  | owing
  | unpaid
  | settled
  | closed
deriving DecidableEq

/-- What is read under the key of a session, if it can be parsed. -/
def readSession (found : Option RedisText) : Option (Option UploadSession) :=
  (RedisText.nonempty found).bind fun text => text.parse.toOption

def UploadSession.ownedBy (session : UploadSession) (caller : Caller) : Bool :=
  session.tenantId = caller.tenantId && session.uploaderId = caller.userId

/-- The chunks of what has been read are as many as expected. -/
def countsAgree (session : Option UploadSession) : Bool :=
  session.all fun session => session.totalChunks = some session.chunksReceived

/-- The phase in which a request goes on with what it has read. -/
def opened : UploadRequest → Option (Option UploadSession) → Phase
  | .uploadChunk caller _ _ _, some (some session) =>
    if session.ownedBy caller then .authorized session else .closed
  | .complete _ _, some session => if countsAgree session then .reading session else .closed
  | _, _ => .closed

def checked : UploadRequest → Option Quota → Phase
  | .upload _ (some file) _, quota =>
    if exceeds quota file.bytesRead then .closed else .admitted quota
  | _, _ => .closed

def succeeded (request : UploadRequest) : Phase → (command : UploadCommand) → command.Result → Phase
  | .start, .redis (.get _), (found : Option RedisText) => opened request (readSession found)
  | .start, .redis (.setex _ _ _), _ => .initiated
  | .start, .findQuota _, (quota : Option Quota) => checked request quota
  | .authorized session, .redis (.setex _ _ _), _ => .stored session
  | .stored _, .redis (.setex _ _ _), _ => .counted
  | .reading session, .putObject _ _, _ => .placed session
  | .placed session, .insertFile _, _ => .inserted session
  | .admitted _, .insertFile _, _ => .owing
  | .owing, .incQuota _ _, _ => .settled
  | phase, _, _ => phase

/-- The phase after a command and its reply; only the increment of the quota may not fail
without a trace. -/
def nextPhase (request : UploadRequest) (phase : Phase) (command : UploadCommand)
    (reply : command.Reply) : Phase :=
  match reply with
  | .ok result => succeeded request phase command result
  | .error _ =>
    match phase with
    | .owing => .unpaid
    | .inserted session => .inserted session
    | _ => .closed

inductive Awaits (settings : UploadSettings) : UploadRequest → Phase → UploadCommand → Prop where
  | requestFile {request : UploadRequest} {phase : Phase} (before : phase = .start ∨
      ∃ session, phase = .authorized session) :
      Awaits settings request phase .requestFile
  | readStream {request : UploadRequest} {phase : Phase}
      (before : (∃ session, phase = .authorized session) ∨ ∃ quota, phase = .admitted quota) :
      Awaits settings request phase .readStream
  | initiate (caller : Caller) (body : InitiateBody) (uploadId : String) :
      Awaits settings (.initiate caller body uploadId) .start
        (.redis (.setex (sessionKey uploadId) 86400 (.session (initiated caller body))))
  | openChunk (caller : Caller) (uploadId chunkNumber : String) (data : Option Buffer) :
      Awaits settings (.uploadChunk caller uploadId chunkNumber data) .start
        (.redis (.get (sessionKey uploadId)))
  | openFile (caller : Caller) (uploadId : String) :
      Awaits settings (.complete caller uploadId) .start (.redis (.get (sessionKey uploadId)))
  | storeChunk (caller : Caller) (uploadId chunkNumber : String) (chunk : Buffer)
      (session : UploadSession) :
      Awaits settings (.uploadChunk caller uploadId chunkNumber (some chunk)) (.authorized session)
        (.redis (.setex (chunkKey uploadId chunkNumber) 86400 (.chunk (Buffer.toBase64 chunk))))
  | countChunk (caller : Caller) (uploadId chunkNumber : String) (data : Option Buffer)
      (session : UploadSession) :
      Awaits settings (.uploadChunk caller uploadId chunkNumber data) (.stored session)
        (.redis (.setex (sessionKey uploadId) 86400
          (.session { session with chunksReceived := session.chunksReceived + 1 })))
  | readChunk (caller : Caller) (uploadId : String) (session : Option UploadSession)
      (number : Nat) :
      Awaits settings (.complete caller uploadId) (.reading session)
        (.redis (.get (chunkKey uploadId (toString number))))
  | place (caller : Caller) (uploadId : String) (session : Option UploadSession)
      (filename mimetype : String) (content : Buffer) (empty : session = none → content = []) :
      Awaits settings (.complete caller uploadId) (.reading session)
        (.putObject (fileKey caller uploadId filename)
          (storedObject settings caller mimetype content))
  | insert (caller : Caller) (uploadId : String) (session : Option UploadSession)
      (valid : isObjectId uploadId = true) (filename mimetype : String) (content : Buffer) :
      Awaits settings (.complete caller uploadId) (.placed session)
        (.insertFile (mediaFile settings caller uploadId filename mimetype
          ((session.map (·.totalSize)).getD 0) content))
  | deleteChunk (caller : Caller) (uploadId : String) (session : Option UploadSession)
      (valid : isObjectId uploadId = true) (number : Nat) :
      Awaits settings (.complete caller uploadId) (.inserted session)
        (.redis (.del (chunkKey uploadId (toString number))))
  | deleteSession (caller : Caller) (uploadId : String) (session : Option UploadSession)
      (valid : isObjectId uploadId = true) :
      Awaits settings (.complete caller uploadId) (.inserted session)
        (.redis (.del (sessionKey uploadId)))
  | findQuota (caller : Caller) (file : Option UploadedFile) (fileId : String) :
      Awaits settings (.upload caller file fileId) .start (.findQuota caller.tenantId)
  | putUpload (caller : Caller) (file : UploadedFile) (fileId : String) (quota : Option Quota) :
      Awaits settings (.upload caller (some file) fileId) (.admitted quota)
        (.putObject (fileKey caller fileId file.filename)
          (storedObject settings caller file.mimetype file.content))
  | insertUpload (caller : Caller) (file : UploadedFile) (fileId : String)
      (quota : Option Quota) :
      Awaits settings (.upload caller (some file) fileId) (.admitted quota)
        (.insertFile (mediaFile settings caller fileId file.filename file.mimetype
          file.content.length file.content))
  | incQuota (caller : Caller) (file : UploadedFile) (fileId : String) :
      Awaits settings (.upload caller (some file) fileId) .owing
        (.incQuota caller.tenantId file.content.length)
  | setProgress {request : UploadRequest} {phase : Phase} (uploadId status : String)
      (before : phase = .settled ∨ ∃ quota, phase = .admitted quota) :
      Awaits settings request phase (.setProgress uploadId status)
  | publish {request : UploadRequest} {phase : Phase} (event : String) (file : MediaFile)
      (before : phase = .settled ∨ ∃ session, phase = .inserted session) :
      Awaits settings request phase (.publish event file)

/-- The requests await what their phases say. -/
def discipline (settings : UploadSettings) (request : UploadRequest) :
    Discipline UploadCommand UploadCommand.Reply Phase where
  next := nextPhase request
  may := Awaits settings request
  assumes _ _ := True

/-- An upload that is acknowledged has been initiated and a chunk that is acknowledged has been
counted, and nothing ends with a file that is stored but not yet counted. -/
def Answers (phase : Phase) (outcome : Outcome UploadReply) : Prop :=
  phase ≠ .owing ∧
    (∀ uploadId chunkSize totalChunks,
      outcome = .ok (.initiated uploadId chunkSize totalChunks) → phase = .initiated) ∧
    ∀ chunkNumber totalReceived totalChunks,
      outcome = .ok (.received chunkNumber totalReceived totalChunks) → phase = .counted

/-- A request is answered, whatever fails. -/
def ends (_ : UploadRequest) (phase : Phase) (outcome : Outcome UploadReply) : Prop :=
  Answers phase outcome ∧ ∃ reply, outcome = .ok reply

section Handlers

variable {settings : UploadSettings} {request : UploadRequest} {phase : Phase}

theorem nextPhase_error_ne_owing (request : UploadRequest) (phase : Phase)
    (command : UploadCommand) (error : String) :
    nextPhase request phase command (.error error) ≠ .owing := by
  cases phase <;> nofun

theorem opened_cases (request : UploadRequest) (found : Option (Option UploadSession)) :
    (∃ session, opened request found = .authorized session) ∨
      (∃ session, opened request found = .reading session) ∨ opened request found = .closed := by
  unfold opened
  split
  · split
    · exact .inl ⟨_, rfl⟩
    · exact .inr (.inr rfl)
  · split
    · exact .inr (.inl ⟨_, rfl⟩)
    · exact .inr (.inr rfl)
  · exact .inr (.inr rfl)

theorem checked_cases (request : UploadRequest) (quota : Option Quota) :
    checked request quota = .admitted quota ∨ checked request quota = .closed := by
  unfold checked
  split
  · split
    · exact .inr rfl
    · exact .inl rfl
  · exact .inr rfl

theorem opened_ne_owing (request : UploadRequest) (found : Option (Option UploadSession)) :
    opened request found ≠ .owing := by
  rcases opened_cases request found with ⟨_, same⟩ | ⟨_, same⟩ | same <;> rw [same] <;> nofun

theorem checked_ne_owing (request : UploadRequest) (quota : Option Quota) :
    checked request quota ≠ .owing := by
  rcases checked_cases request quota with same | same <;> rw [same] <;> nofun

theorem answers_error (calm : phase ≠ .owing) (error : String) :
    Answers phase (.error error) := ⟨calm, nofun, nofun⟩

theorem rejected_respects (calm : phase ≠ .owing) (code : Nat) (error message : String) :
    (pure (.rejected code error message) : UploadProgram UploadReply).Respects
      (discipline settings request) Answers phase := ⟨calm, nofun, nofun⟩

theorem await_respects {command : UploadCommand} {next : command.Result → UploadProgram UploadReply}
    (may : Awaits settings request phase command)
    (ok : ∀ result after, succeeded request phase command result = after →
      (next result).Respects (discipline settings request) Answers after) :
    (await command >>= next).Respects (discipline settings request) Answers phase := by
  refine respects_bind (respects_command_bind may ?_)
  rintro (error | result) _ after moved
  · exact answers_error (moved ▸ nextPhase_error_ne_owing request phase command error) error
  · exact ok result after moved

theorem setText_respects {key : String} {text : RedisText} {after : Phase}
    {next : Unit → UploadProgram UploadReply}
    (may : Awaits settings request phase (.redis (.setex key 86400 text)))
    (moved : ∀ result, succeeded request phase (.redis (.setex key 86400 text)) result = after)
    (calm : after ≠ .owing)
    (rest : (next ()).Respects (discipline settings request) Answers after) :
    (setText key text >>= next).Respects (discipline settings request) Answers phase := by
  refine respects_bind (respects_bind (respects_command_bind may ?_))
  rintro (error | result) _ _ rfl
  · exact answers_error
      (nextPhase_error_ne_owing request phase (.redis (.setex key 86400 text)) error) error
  · obtain rfl := moved result
    cases result with
    | error error => exact answers_error calm error
    | ok _ => exact rest

theorem getText_respects {α : Type} {post : Phase → Outcome α → Prop} {key : String}
    {next : Option RedisText → UploadProgram α} (may : Awaits settings request phase (.redis (.get key)))
    (fails : ∀ after error, after ≠ .owing → post after (.error error))
    (rest : ∀ found : Option RedisText, ∀ after,
      succeeded request phase (.redis (.get key)) found = after →
        (next (RedisText.nonempty found)).Respects (discipline settings request) post after) :
    (getText key >>= next).Respects (discipline settings request) post phase := by
  refine respects_bind (respects_bind (respects_command_bind may ?_))
  rintro (error | found) _ after moved
  · exact fails after error
      (moved ▸ nextPhase_error_ne_owing request phase (.redis (.get key)) error)
  · exact rest found after moved

theorem catching_respects {handler : UploadProgram UploadReply}
    (answers : handler.Respects (discipline settings request) Answers phase) (message : String) :
    (handler.catching fun _ =>
      return .rejected 500 "InternalServerError" message).Respects (discipline settings request)
        (ends request) phase := by
  refine respects_catching (answers.mono ?_)
  rintro after (error | reply) answered
  · exact ⟨⟨answered.1, nofun, nofun⟩, _, rfl⟩
  · exact ⟨answered, reply, rfl⟩

theorem storeUpload_respects (caller : Caller) (fileId : String) (file : UploadedFile)
    (quota : Option Quota) : (storeUpload settings caller fileId file).Respects
      (discipline settings (.upload caller (some file) fileId))
      Answers (.admitted quota) := by
  refine await_respects (.setProgress _ _ (.inr ⟨quota, rfl⟩)) ?_
  rintro _ _ rfl
  refine await_respects (.readStream (.inr ⟨quota, rfl⟩)) ?_
  rintro _ _ rfl
  refine await_respects (.putUpload caller file fileId quota) ?_
  rintro _ _ rfl
  refine await_respects (.insertUpload caller file fileId quota) ?_
  rintro _ _ rfl
  refine await_respects (.incQuota caller file fileId) ?_
  rintro _ _ rfl
  refine await_respects (.setProgress _ _ (.inl rfl)) ?_
  rintro _ _ rfl
  refine await_respects (.publish _ _ (.inl rfl)) ?_
  rintro _ _ rfl
  exact ⟨nofun, nofun, nofun⟩

theorem upload_respects (caller : Caller) (file : Option UploadedFile) (fileId : String) :
    (upload settings caller file fileId).Respects (discipline settings (.upload caller file fileId))
      (ends (.upload caller file fileId)) .start := by
  refine catching_respects (await_respects (.requestFile (.inl rfl)) ?_) _
  rintro _ _ rfl
  cases file with
  | none => exact rejected_respects (by nofun) _ _ _
  | some file =>
    by_cases large : file.bytesReadFirst > settings.maxFileSizeMB * 1024 * 1024
    · simp only [large, if_true]
      exact rejected_respects (by nofun) _ _ _
    · simp only [large, if_false]
      refine await_respects (.findQuota caller (some file) fileId) ?_
      rintro (quota : Option Quota) after moved
      cases full : exceeds quota file.bytesRead with
      | true =>
        obtain rfl : Phase.closed = after := (if_pos full).symm.trans moved
        exact rejected_respects (by nofun) _ _ _
      | false =>
        obtain rfl : Phase.admitted quota = after :=
          (if_neg (by rw [full]; nofun)).symm.trans moved
        exact storeUpload_respects caller fileId file quota

theorem initiate_respects (caller : Caller) (body : InitiateBody) (uploadId : String) :
    (initiate caller body uploadId).Respects (discipline settings (.initiate caller body uploadId))
      (ends (.initiate caller body uploadId)) .start := by
  refine catching_respects (setText_respects (.initiate caller body uploadId) (fun _ => rfl) nofun
    ?_) _
  exact ⟨nofun, fun _ _ _ _ => rfl, nofun⟩

theorem storeChunk_respects (caller : Caller) (uploadId chunkNumber : String)
    (data : Option Buffer) (session : UploadSession) :
    (storeChunk uploadId chunkNumber data session).Respects
      (discipline settings (.uploadChunk caller uploadId chunkNumber data))
      Answers (.authorized session) := by
  refine await_respects (.requestFile (.inr ⟨session, rfl⟩)) ?_
  rintro _ _ rfl
  cases data with
  | none => exact rejected_respects (by nofun) _ _ _
  | some chunk =>
    refine await_respects (.readStream (.inl ⟨session, rfl⟩)) ?_
    rintro _ _ rfl
    refine setText_respects (.storeChunk caller uploadId chunkNumber chunk session) (fun _ => rfl)
      nofun ?_
    refine setText_respects (.countChunk caller uploadId chunkNumber (some chunk) session)
      (fun _ => rfl) nofun ?_
    exact ⟨nofun, nofun, fun _ _ _ _ => rfl⟩

theorem uploadChunk_respects (caller : Caller) (uploadId chunkNumber : String)
    (data : Option Buffer) : (uploadChunk caller uploadId chunkNumber data).Respects
      (discipline settings (.uploadChunk caller uploadId chunkNumber data))
      (ends (.uploadChunk caller uploadId chunkNumber data)) .start := by
  refine catching_respects (getText_respects (.openChunk caller uploadId chunkNumber data)
    (fun _ error calm => answers_error calm error) ?_) _
  rintro found after rfl
  simp only [succeeded, readSession]
  cases RedisText.nonempty found with
  | none => exact rejected_respects (by nofun) _ _ _
  | some text =>
    refine respects_orThrow_bind (fun parsed same => ?_) fun error same => ?_
    · simp only [Option.bind_some, same, Except.toOption]
      cases parsed with
      | none => exact rejected_respects (by nofun) _ _ _
      | some session =>
        by_cases foreign : session.tenantId ≠ caller.tenantId ∨ session.uploaderId ≠ caller.userId
        · simp only [if_pos foreign]
          exact rejected_respects (opened_ne_owing _ _) _ _ _
        · have own : session.ownedBy caller = true := by
            simpa [UploadSession.ownedBy, not_or] using foreign
          simp only [if_neg foreign, opened, own, if_true]
          exact storeChunk_respects caller uploadId chunkNumber data session
    · simp only [Option.bind_some, same, Except.toOption]
      exact answers_error (by nofun) error

theorem readChunks_respects (caller : Caller) (uploadId : String) (session : Option UploadSession)
    (numbers : List Nat) :
    (readChunks uploadId numbers).Respects (discipline settings (.complete caller uploadId))
      (fun phase outcome => match outcome with
        | .ok content => phase = .reading session ∧ (numbers = [] → content = .ok [])
        | .error _ => phase ≠ .owing) (.reading session) := by
  induction numbers with
  | nil => exact ⟨rfl, fun _ => rfl⟩
  | cons number rest ih =>
    refine getText_respects (.readChunk caller uploadId session number) (fun _ _ calm => calm) ?_
    rintro found _ rfl
    cases RedisText.nonempty found with
    | none => exact ⟨rfl, nofun⟩
    | some text =>
      refine respects_bind (ih.mono ?_)
      rintro phase (error | content) done
      · exact done
      · exact ⟨done.1, nofun⟩

theorem deleteChunks_respects (caller : Caller) (uploadId : String)
    (session : Option UploadSession) (valid : isObjectId uploadId = true) (numbers : List Nat) :
    (deleteChunks uploadId numbers).Respects (discipline settings (.complete caller uploadId))
      (fun phase _ => phase = .inserted session) (.inserted session) := by
  induction numbers with
  | nil => exact rfl
  | cons number rest ih =>
    refine respects_bind (respects_command_bind
      (.deleteChunk caller uploadId session valid number) ?_)
    rintro (error | found) _ _ rfl
    · exact rfl
    · exact ih

theorem storeFile_respects (caller : Caller) (uploadId : String) (session : Option UploadSession)
    (content : Buffer) (empty : session = none → content = []) :
    (storeFile settings caller uploadId session content).Respects
      (discipline settings (.complete caller uploadId)) Answers
      (.reading session) := by
  refine await_respects (.place caller uploadId session _ _ content empty) ?_
  rintro _ _ rfl
  by_cases valid : isObjectId uploadId = true
  · simp only [valid, if_true]
    refine await_respects (.insert caller uploadId session valid _ _ content) ?_
    rintro _ _ rfl
    refine respects_bind ((deleteChunks_respects caller uploadId session valid _).mono ?_)
    rintro _ (error | _) rfl
    · exact answers_error (by nofun) error
    · refine await_respects (.deleteSession caller uploadId session valid) ?_
      rintro _ _ rfl
      refine await_respects (.publish _ _ (.inr ⟨session, rfl⟩)) ?_
      rintro _ _ rfl
      exact ⟨nofun, nofun, nofun⟩
  · simp only [valid]
    exact answers_error (by nofun) _

theorem complete_respects (caller : Caller) (uploadId : String) :
    (complete settings caller uploadId).Respects (discipline settings (.complete caller uploadId))
      (ends (.complete caller uploadId)) .start := by
  refine catching_respects (getText_respects (.openFile caller uploadId)
    (fun _ error calm => answers_error calm error) ?_) _
  rintro found after rfl
  simp only [succeeded, readSession]
  cases RedisText.nonempty found with
  | none => exact rejected_respects (by nofun) _ _ _
  | some text =>
    refine respects_orThrow_bind (fun session same => ?_) fun error same => ?_
    · simp only [Option.bind_some, same, Except.toOption]
      by_cases unequal : (session.any fun session =>
          session.totalChunks ≠ some session.chunksReceived) = true
      · simp only [if_pos unequal]
        exact ⟨opened_ne_owing _ _, nofun, nofun⟩
      · have agree : countsAgree session = true := by
          cases session with
          | none => rfl
          | some session => simpa [countsAgree] using unequal
        simp only [if_neg unequal, opened, agree, if_true]
        refine respects_bind ((readChunks_respects caller uploadId session _).mono ?_)
        rintro phase (error | content) done
        · exact answers_error done error
        · obtain ⟨rfl, empty⟩ := done
          cases content with
          | error number => exact rejected_respects (by nofun) _ _ _
          | ok content =>
            refine storeFile_respects caller uploadId session content ?_
            rintro rfl
            exact Except.ok.inj (empty rfl)
    · simp only [Option.bind_some, same, Except.toOption]
      exact answers_error (by nofun) error

theorem handle_respects (request : UploadRequest) :
    (handle settings request).Respects (discipline settings request) (ends request) .start := by
  cases request with
  | upload caller file fileId => exact upload_respects caller file fileId
  | initiate caller body uploadId => exact initiate_respects caller body uploadId
  | uploadChunk caller uploadId chunkNumber data =>
    exact uploadChunk_respects caller uploadId chunkNumber data
  | complete caller uploadId => exact complete_respects caller uploadId

end Handlers

section Pools

/-- Requests in progress, with their phases. -/
abbrev UploadPool :=
  Pool UploadServer UploadCommand UploadCommand.Reply UploadRequest Phase UploadReply

abbrev UploadCall := Call UploadCommand UploadCommand.Reply UploadRequest Phase UploadReply

/-- An event: a request comes in, a command succeeds or fails, or time passes. -/
abbrev UploadEvent := Event (Option String) Nat UploadRequest

def machine (settings : UploadSettings) : Transducer UploadPool UploadEvent Unit :=
  Pool.machine (host settings) (discipline settings) fun _ => .start

def newPool (server : UploadServer) : UploadPool := ⟨server, []⟩

/-- The requests keep to their disciplines. -/
abbrev Respectful (settings : UploadSettings) (pool : UploadPool) : Prop :=
  pool.Respectful (discipline settings) ends

theorem step_of_await {settings : UploadSettings} {pool : UploadPool} {index : Nat}
    {call : UploadCall} {command : UploadCommand} {next : command.Reply → UploadProgram UploadReply}
    {fault : Option String} (present : pool.calls[index]? = some call)
    (awaits : call.program = .await command next) :
    ((machine settings).step pool (.run index fault)).1 =
      pool.resume (discipline settings) index call command next (pool.shared.exec command fault) :=
  @Pool.step_run_of_await _ _ _ _ _ _ _ _ (host settings) (discipline settings) (fun _ => .start)
    pool index call command next fault present awaits

end Pools

section Samples

def sampleSettings : UploadSettings := ⟨1, fun _ => []⟩

def sampleCaller : Caller := ⟨"t", "u"⟩

def sampleId : String := "0123456789abcdef01234567"

def sampleServer : UploadServer where
  now := 0
  redis := .empty
  objects := .empty
  media := []
  quotas := OrderedMap.set .empty "t" ⟨0, some 2⟩

def sampleBody : InitiateBody := ⟨"file.txt", 3, 3, "text/plain"⟩

def goesOn (index count : Nat) : List UploadEvent := List.replicate count (.run index none)

def chunkedUpload (caller : Caller) : List UploadEvent :=
  .start (.initiate sampleCaller sampleBody sampleId) :: goesOn 0 1 ++
    .start (.uploadChunk sampleCaller sampleId "0" (some [1, 2, 3])) :: goesOn 1 5 ++
      .start (.complete caller sampleId) :: goesOn 2 7

end Samples

end Caas.Media
