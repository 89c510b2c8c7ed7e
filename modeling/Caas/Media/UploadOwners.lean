import Caas.Async.Histories
import Caas.Media.UploadSessions

/-!
# Who touches a chunked upload

The chunk route checks that the session is one of its caller; the complete route does not. When
everyone who completes an upload has initiated it, only its owner changes what Redis has of it,
and what requests have read of its chunks is stored under the owner alone.
-/

namespace Caas.Media

open Js Async Redis UploadRoutes

def readKey : (command : UploadCommand) → command.Reply → Option String
  | .redis (.get key), (reply : Except String (Option RedisText)) =>
    if reply.toOption.join.isSome then some key else none
  | _, _ => none

/-- The keys whose texts requests have read, with the index of the request. -/
def reads : Pool.Recorder UploadCommand UploadCommand.Reply UploadRequest Phase UploadReply
    (List (Nat × String)) where
  started past _ _ := past
  ran past index _ command reply _ :=
    past ++ ((readKey command reply).map fun key => (index, key)).toList

abbrev ReadingPool := Pool.Recorded UploadServer UploadCommand UploadCommand.Reply UploadRequest
  Phase UploadReply (List (Nat × String))

/-- The requests and the server, with what requests have read. -/
def readingMachine (settings : UploadSettings) : Transducer ReadingPool UploadEvent Unit :=
  Pool.Recorded.machine (host settings) (discipline settings) (fun _ => .start) reads

/-- The request at the index has read a chunk of the upload. -/
def HasRead (past : List (Nat × String)) (index : Nat) (uploadId : String) : Prop :=
  ∃ number, (index, chunkKey uploadId number) ∈ past

/-- What a command stores, if there is content in it, it stores under the user. -/
def StoresUnder (owner : Caller) : UploadCommand → Prop
  | .putObject key object => object.body ≠ [] → object.tenantId = owner.tenantId ∧
    object.uploaderId = owner.userId ∧ ∃ fileId filename, key = fileKey owner fileId filename
  | .insertFile file => file.tenantId = owner.tenantId ∧ file.uploaderId = owner.userId ∧
    ∃ filename, file.s3Key = fileKey owner file.id filename
  | _ => True

/-- The step changes no upload of another user, and stores nothing of one under its caller. -/
def Confined (current : ReadingPool) : UploadEvent → Prop
  | .run index _ => ∀ call command, current.pool.awaited? index = some (call, command) →
    ∀ uploadId owner, Initiated current.pool uploadId owner →
      (∀ key, writtenKey command = some key → OfUpload uploadId key → call.input.caller = owner) ∧
        (HasRead current.history index uploadId → StoresUnder owner command)
  | .start _ | .change _ => True

/-- A complete request that comes to store its file is one of the user who initiated the
upload. -/
def OwnComplete (pool : UploadPool) : UploadEvent → Prop
  | .run index _ => ∀ call key object, pool.awaited? index = some (call, .putObject key object) →
    ∀ caller uploadId owner, call.input = .complete caller uploadId →
      Initiated pool uploadId owner → caller = owner
  | .start _ | .change _ => True

section Phases

/-- The request has stopped, or what it has read has no session. -/
def Phase.blind : Phase → Bool
  | .closed | .reading none | .placed none | .inserted none => true
  | _ => false

/-- The request has stored its file. -/
def Phase.placed? : Phase → Option (Option UploadSession)
  | .placed session | .inserted session => some session
  | _ => none

/-- A request that has read a chunk completes its upload, or gets nowhere with it. -/
def ReadBy (request : UploadRequest) (phase : Phase) (key : String) : Prop :=
  ∀ uploadId number, isObjectId uploadId = true → key = chunkKey uploadId number →
    (∃ caller, request = .complete caller uploadId) ∨ phase.blind = true

/-- A complete request is one of the user who initiated the upload. -/
def initiatedBy (initiated : String → Caller → Prop) (request : UploadRequest) : Prop :=
  ∀ caller uploadId, request = .complete caller uploadId → initiated uploadId caller

theorem opened_ne_placed (request : UploadRequest) (found : Option (Option UploadSession))
    (session : Option UploadSession) : (opened request found).placed? ≠ some session := by
  rcases opened_cases request found with ⟨_, same⟩ | ⟨_, same⟩ | same <;> rw [same] <;> nofun

theorem checked_ne_placed (request : UploadRequest) (quota : Option Quota)
    (session : Option UploadSession) : (checked request quota).placed? ≠ some session := by
  rcases checked_cases request quota with same | same <;> rw [same] <;> nofun

variable {settings : UploadSettings} {initiated : String → Caller → Prop}
  {request : UploadRequest} {phase : Phase} {command : UploadCommand} {server : UploadServer}
  {uploadId : String}

theorem blind_next (awaits : Awaits settings request phase command) (blind : phase.blind = true)
    (fault : Option String) :
    (nextPhase request phase command (server.exec command fault).2).blind = true := by
  cases fault with
  | some error => cases phase <;> first | exact blind | rfl
  | none =>
    cases awaits with
    | readChunk | deleteChunk | deleteSession => exact blind
    | place _ _ session =>
      cases session with
      | none => rfl
      | some session => cases blind
    | insert _ _ session =>
      simp only [UploadServer.exec, UploadServer.answer]
      split
      · rfl
      · cases session with
        | none => rfl
        | some session => cases blind
    | requestFile before | setProgress _ _ before => obtain rfl | ⟨_, rfl⟩ := before <;> cases blind
    | readStream before => obtain ⟨_, rfl⟩ | ⟨_, rfl⟩ := before <;> cases blind
    | publish _ _ before =>
      obtain rfl | ⟨_, rfl⟩ := before
      · cases blind
      · exact blind
    | _ => cases blind

theorem blind_opened (other : ∀ session, readSession (server.redis.lookup server.now
      (sessionKey uploadId)) ≠ some (some session)) (request : UploadRequest) :
    (opened request (readSession (server.redis.lookup server.now
      (sessionKey uploadId)))).blind = true := by
  cases read : readSession (server.redis.lookup server.now (sessionKey uploadId)) with
  | none => cases request <;> rfl
  | some session =>
    cases session with
    | some session => exact absurd read (other session)
    | none =>
      cases request <;> rfl

theorem get_of_readKey {fault : Option String} {key : String}
    (read : readKey command (server.exec command fault).2 = some key) :
    command = .redis (.get key) ∧ fault = none := by
  cases command with
  | redis command =>
    cases command with
    | get other =>
      cases fault with
      | some error => cases read
      | none =>
        simp only [readKey] at read
        split at read
        · exact ⟨by rw [Option.some.inj read], rfl⟩
        · cases read
    | setex | ttl | del => cases read
  | _ => cases read

theorem not_session_of_chunkKey
    (filed : ∀ time key text, server.redis.lookup time key = some text → Filed initiated key text)
    (valid : ∀ uploadId owner, initiated uploadId owner → isObjectId uploadId = true)
    {chunkId number : String} (same : sessionKey uploadId = chunkKey chunkId number)
    (session : UploadSession) :
    readSession (server.redis.lookup server.now (sessionKey uploadId)) ≠ some (some session) := by
  intro read
  obtain ⟨other, owner, own, drawn, _⟩ := filed _ _ _ (readSession_some read)
  obtain rfl := sessionKey_inj own
  exact sessionKey_ne_chunkKey (valid _ _ drawn) same

section

variable (awaits : Awaits settings request phase command)
include awaits

/-- What is read under the key of a chunk is read by a request that completes the upload, or
gets nowhere. -/
theorem readBy_read
    (filed : ∀ time key text, server.redis.lookup time key = some text → Filed initiated key text)
    (valid : ∀ uploadId owner, initiated uploadId owner → isObjectId uploadId = true)
    (opens : ∀ session, phase.opened? = some session → Opens initiated request session)
    {fault : Option String} {key : String}
    (read : readKey command (server.exec command fault).2 = some key) :
    ReadBy request (nextPhase request phase command (server.exec command fault).2) key := by
  obtain ⟨rfl, rfl⟩ := get_of_readKey read
  intro chunkId number wellFormed same
  cases awaits with
  | openChunk | openFile =>
    exact .inr (blind_opened (not_session_of_chunkKey filed valid same) _)
  | readChunk caller uploadId session index =>
    cases session with
    | none => exact .inr rfl
    | some session =>
      obtain ⟨owner, drawn⟩ := opens (some session) rfl
      obtain ⟨rfl, _⟩ := chunkKey_inj (valid _ _ drawn) wellFormed same
      exact .inl ⟨caller, rfl⟩

/-- Only storing the file leads a complete request on to its document. -/
theorem placed_next
    (was : ∀ session, phase.placed? = some (some session) → initiatedBy initiated request)
    (opens : ∀ session, phase.opened? = some session → Opens initiated request session)
    (own : ∀ key object, command = .putObject key object → ∀ caller uploadId owner,
      request = .complete caller uploadId → initiated uploadId owner → caller = owner)
    (fault : Option String) {session : UploadSession}
    (next : (nextPhase request phase command (server.exec command fault).2).placed? =
      some (some session)) : initiatedBy initiated request := by
  cases fault with
  | some error => cases phase <;> first | exact was session next | cases next
  | none =>
    cases awaits with
    | place caller uploadId session' filename mimetype content =>
      cases next
      obtain ⟨owner, drawn⟩ := opens (some session) rfl
      rintro _ _ ⟨⟩
      obtain rfl := own _ _ rfl caller uploadId owner rfl drawn
      exact drawn
    | insert =>
      simp only [UploadServer.exec, UploadServer.answer] at next
      split at next
      · cases next
      · exact was session next
    | deleteChunk | deleteSession => exact was session next
    | requestFile before | setProgress _ _ before => obtain rfl | ⟨_, rfl⟩ := before <;> cases next
    | readStream before => obtain ⟨_, rfl⟩ | ⟨_, rfl⟩ := before <;> cases next
    | publish _ _ before =>
      obtain rfl | ⟨_, rfl⟩ := before
      · cases next
      · exact was session next
    | insertUpload =>
      simp only [UploadServer.exec, UploadServer.answer] at next
      split at next <;> cases next
    | openChunk | openFile => exact absurd next (opened_ne_placed _ _ _)
    | findQuota caller file fileId => exact absurd next (checked_ne_placed _ _ _)
    | storeChunk | readChunk | initiate | countChunk | putUpload | incQuota => cases next

/-- A command writes or deletes keys of an upload that its caller has initiated. -/
theorem writes_own (initiates : ∀ owner body uploadId, request = .initiate owner body uploadId →
      initiated uploadId owner)
    (opens : ∀ session, phase.opened? = some session → Opens initiated request session)
    (placed : ∀ session, phase.placed? = some (some session) → initiatedBy initiated request)
    {key : String} (writes : writtenKey command = some key) :
    ∃ uploadId, OfUpload uploadId key ∧ initiated uploadId request.caller := by
  have initiator (caller : Caller) (uploadId : String) (session : Option UploadSession)
      (valid : isObjectId uploadId = true) (deletes : phase = .inserted session)
      (input : request = .complete caller uploadId) : initiated uploadId caller := by
    subst deletes
    cases session with
    | none =>
      have opened := opens none rfl
      rw [input] at opened
      cases valid.symm.trans opened
    | some session => exact placed session rfl caller uploadId input
  cases awaits with
  | initiate caller body uploadId =>
    cases writes
    exact ⟨uploadId, .inl rfl, initiates caller body uploadId rfl⟩
  | storeChunk caller uploadId chunkNumber chunk session =>
    cases writes
    exact ⟨uploadId, .inr ⟨chunkNumber, rfl⟩, (opens _ rfl).1⟩
  | countChunk caller uploadId chunkNumber data session =>
    cases writes
    exact ⟨uploadId, .inl rfl, (opens _ rfl).1⟩
  | deleteChunk caller uploadId session valid number =>
    cases writes
    exact ⟨uploadId, .inr ⟨toString number, rfl⟩, initiator caller uploadId session valid rfl rfl⟩
  | deleteSession caller uploadId session valid =>
    cases writes
    exact ⟨uploadId, .inl rfl, initiator caller uploadId session valid rfl rfl⟩
  | _ => cases writes

/-- What is stored by a request that has read a chunk is stored under the owner. -/
theorem stores_under
    (opens : ∀ session, phase.opened? = some session → Opens initiated request session)
    (placed : ∀ session, phase.placed? = some (some session) → initiatedBy initiated request)
    (own : ∀ key object, command = .putObject key object → ∀ caller uploadId owner,
      request = .complete caller uploadId → initiated uploadId owner → caller = owner)
    {owner : Caller} (single : ∀ other, initiated uploadId other → owner = other)
    (drawn : initiated uploadId owner)
    (readBy : (∃ caller, request = .complete caller uploadId) ∨ phase.blind = true) :
    StoresUnder owner command := by
  cases awaits with
  | place caller chunkId session filename mimetype content empty =>
    intro nonempty
    obtain ⟨_, ⟨⟩⟩ | blind := readBy
    · obtain rfl := own _ _ rfl caller uploadId owner rfl drawn
      exact ⟨rfl, rfl, uploadId, filename, rfl⟩
    · cases session with
      | none => exact absurd (empty rfl) nonempty
      | some session => cases blind
  | insert caller chunkId session valid filename =>
    cases session with
    | none => cases valid.symm.trans (opens none rfl)
    | some session =>
      obtain ⟨_, ⟨⟩⟩ | blind := readBy
      · obtain rfl := single caller (placed session rfl caller uploadId rfl)
        exact ⟨rfl, rfl, filename, rfl⟩
      · cases blind
  | putUpload | insertUpload =>
    obtain ⟨_, ⟨⟩⟩ | blind := readBy
    cases blind
  | _ => trivial

end

end Phases

section Owners

variable {settings : UploadSettings} {pool : UploadPool}

/-- What holds of the requests and of what they have read. -/
structure Tracked (current : ReadingPool) : Prop where
  sound : Sound current.pool
  readBy : ∀ index key, (index, key) ∈ current.history →
    ∃ call, current.pool.calls[index]? = some call ∧ ReadBy call.input call.phase key
  placed : ∀ call ∈ current.pool.calls, ∀ session, call.phase.placed? = some (some session) →
    initiatedBy (Initiated current.pool) call.input

theorem tracked_new (server : UploadServer) (unfiled : server.redis = .empty) :
    Tracked ⟨newPool server, []⟩ :=
  ⟨sound_new server unfiled, fun _ _ read => absurd read List.not_mem_nil,
    fun _ here => absurd here List.not_mem_nil⟩

variable {past : List (Nat × String)}

theorem Tracked.start (tracked : Tracked ⟨pool, past⟩) {request : UploadRequest}
    (fresh : Fresh pool (.start request)) :
    Tracked ⟨pool.start (host settings) (fun _ => .start) request, past⟩ := by
  refine ⟨tracked.sound.start fresh, fun index key read => ?_, fun call here session phase => ?_⟩
  · obtain ⟨call, present, readBy⟩ := tracked.readBy index key read
    obtain ⟨bound, _⟩ := List.getElem?_eq_some_iff.mp present
    exact ⟨call, (List.getElem?_append_left bound).trans present, readBy⟩
  · rcases Pool.mem_start here with earlier | rfl
    · exact fun caller uploadId input =>
        (tracked.placed call earlier session phase caller uploadId input).start
    · cases phase

theorem Tracked.resume (tracked : Tracked ⟨pool, past⟩) {index : Nat} {call : UploadCall}
    {command : UploadCommand} {next : command.Reply → UploadProgram UploadReply}
    {fault : Option String} (present : pool.calls[index]? = some call)
    (awaits : Awaits settings call.input call.phase command)
    (own : ∀ key object, command = .putObject key object → ∀ caller uploadId owner,
      call.input = .complete caller uploadId → Initiated pool uploadId owner → caller = owner) :
    Tracked ⟨pool.resume (discipline settings) index call command next
        (pool.shared.exec command fault),
      past ++ ((readKey command (pool.shared.exec command fault).2).map fun key =>
        (index, key)).toList⟩ := by
  have goes := @Pool.goes_resume _ _ _ _ _ _ (discipline settings) pool index call command next
    (pool.shared.exec command fault) present
  have sound : Sound pool := tracked.sound
  have opens := sound.opened call goes.member
  refine ⟨sound.resume present awaits, fun other key read => ?_, ?_⟩
  · rw [Pool.getElem?_resume present]
    rcases List.mem_append.mp read with earlier | new
    · obtain ⟨reader, found, readBy⟩ := tracked.readBy other key earlier
      by_cases same : index = other
      · subst same
        cases present.symm.trans found
        rw [if_pos rfl]
        refine ⟨_, rfl, fun uploadId number valid own => ?_⟩
        exact (readBy uploadId number valid own).imp_right fun blind =>
          blind_next awaits blind fault
      · rw [if_neg same]
        exact ⟨reader, found, readBy⟩
    · obtain ⟨there, kept, same⟩ := Option.map_eq_some_iff.mp (Option.mem_toList.mp new)
      cases same
      rw [if_pos rfl]
      exact ⟨_, rfl, readBy_read awaits sound.filed (fun _ _ => sound.valid) opens kept⟩
  · refine @Pool.Goes.forall _ _ _ _ _ _ _ _ _ _ goes (fun request phase => ∀ session,
      phase.placed? = some (some session) → initiatedBy (Initiated _) request) ?_ ?_
    · exact fun session phase caller uploadId input => (placed_next awaits
        (tracked.placed call goes.member) opens own fault phase caller uploadId input).goes goes
    · exact fun other here session phase caller uploadId input =>
        (tracked.placed other here session phase caller uploadId input).goes goes

theorem tracked_run {current : ReadingPool} {events : List UploadEvent}
    (guarded : (readingMachine settings).Admits (fun current event =>
      Fresh current.pool event ∧ OwnComplete current.pool event) current events)
    (respectful : Respectful settings current.pool) (tracked : Tracked current) :
    Respectful settings ((readingMachine settings).run current events).pool ∧
      Tracked ((readingMachine settings).run current events) := by
  refine @Pool.Recorded.invariant _ _ _ _ _ _ _ _ _ (host settings) (discipline settings)
    (fun _ => .start) reads ends _ Tracked handle_respects ?_ ?_ ?_ _ _ guarded respectful tracked
  · exact fun current request tracked guard => Tracked.start tracked guard.1
  · exact fun current elapsed tracked _ =>
      ⟨tracked.sound.change elapsed, tracked.readBy, tracked.placed⟩
  · intro current index fault call command next tracked guard _ present awaits may
    refine ⟨trivial, fun _ => Tracked.resume tracked present may fun key object puts => ?_⟩
    subst puts
    exact guard.2 call key object (Pool.awaited?_of_await present awaits)

theorem confined_step {current : ReadingPool} {event : UploadEvent}
    (respectful : Respectful settings current.pool) (tracked : Tracked current)
    (own : OwnComplete current.pool event) : Confined current event := by
  cases event with
  | start | change => trivial
  | run index fault =>
    intro call command awaited uploadId owner drawn
    obtain ⟨next, present, awaits⟩ := Pool.await_of_awaited? awaited
    have here := List.mem_of_getElem? present
    have respects := respectful call here
    rw [awaits] at respects
    have sound := tracked.sound
    have opens := sound.opened call here
    refine ⟨fun key writes belongs => ?_, fun ⟨number, read⟩ => ?_⟩
    · obtain ⟨other, belongs', drawn'⟩ := writes_own respects.1
        (fun owner body id input => ⟨call, here, body, input⟩) opens (tracked.placed call here) writes
      obtain rfl := uploadId_eq (sound.valid drawn) (sound.valid drawn') belongs belongs'
      exact sound.owner_eq drawn' drawn
    · obtain ⟨reader, found, readBy⟩ := tracked.readBy index _ read
      cases present.symm.trans found
      refine stores_under respects.1 opens (tracked.placed call here) (fun key object puts => ?_)
        (fun other => sound.owner_eq drawn) drawn (readBy uploadId number (sound.valid drawn) rfl)
      subst puts
      exact own call key object awaited

/-- In every run in which uploads are completed by those who initiated them, content of an
upload is stored under its owner, and only its owner changes the upload. -/
theorem own_completions_confine {server : UploadServer} {events : List UploadEvent}
    (unfiled : server.redis = .empty)
    (fresh : (readingMachine settings).Admits (fun current => Fresh current.pool)
      ⟨newPool server, []⟩ events)
    (own : (readingMachine settings).Admits (fun current => OwnComplete current.pool)
      ⟨newPool server, []⟩ events) :
    (readingMachine settings).Admits Confined ⟨newPool server, []⟩ events := by
  have respectful : Respectful settings (newPool server) := List.forall_mem_nil _
  refine Transducer.Admits.imp_of_run (fun current events guarded
    (both : Respectful settings current.pool ∧ Tracked current) => ?_)
    (fun current event both guarded => ?_) (fresh.and own)
    (And.intro respectful (tracked_new server unfiled))
  · exact tracked_run guarded both.1 both.2
  · exact confined_step both.1 both.2 guarded.2

theorem chunkedUpload_fresh (caller : Caller) :
    (readingMachine sampleSettings).Admits (fun current => Fresh current.pool)
      ⟨newPool sampleServer, []⟩ (chunkedUpload caller) := by
  refine ⟨?_, trivial, nofun, trivial, trivial, trivial, trivial, trivial, nofun, trivial, trivial,
    trivial, trivial, trivial, trivial, trivial, trivial⟩
  rintro _ ⟨⟩
  exact ⟨by decide +kernel, List.forall_mem_nil _, List.forall_mem_nil _⟩

/-- The owner completes the upload. -/
theorem sample_upload_confined :
    (readingMachine sampleSettings).Admits Confined ⟨newPool sampleServer, []⟩
      (chunkedUpload sampleCaller) := by
  refine own_completions_confine rfl (chunkedUpload_fresh sampleCaller) ?_
  refine ⟨trivial, ?_, trivial, ?_, ?_, ?_, ?_, ?_, trivial, ?_, ?_, ?_, ?_, ?_, ?_, ?_, trivial⟩
  all_goals rintro _ _ _ ⟨⟩
  rintro _ _ _ ⟨⟩ ⟨call, here, body, input⟩
  rcases List.mem_cons.mp here with rfl | later
  · cases input
    rfl
  · rcases List.mem_cons.mp later with rfl | later
    · cases input
    · rw [List.mem_singleton.mp later] at input
      cases input

/-- A user of another tenant completes the upload, and stores what was uploaded. -/
theorem completion_crosses_tenants :
    ¬ ∀ (server : UploadServer) (events : List UploadEvent), server.redis = .empty →
      (readingMachine sampleSettings).Admits (fun current => Fresh current.pool)
        ⟨newPool server, []⟩ events →
      (readingMachine sampleSettings).Admits Confined ⟨newPool server, []⟩ events := by
  intro confined
  have steps := confined sampleServer (chunkedUpload ⟨"s", "v"⟩) rfl
    (chunkedUpload_fresh ⟨"s", "v"⟩)
  obtain ⟨_, _, _, _, _, _, _, _, _, _, _, places, _⟩ := steps
  have stored := (places _ _ rfl sampleId sampleCaller ⟨_, List.mem_cons_self, _, rfl⟩).2
    ⟨"0", by decide +kernel⟩
  obtain ⟨tenant, _⟩ := stored nofun
  exact absurd tenant (by decide)

end Owners

end Caas.Media
