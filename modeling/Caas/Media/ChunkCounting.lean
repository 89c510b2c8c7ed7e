import Caas.Async.Fallible
import Caas.Async.Histories
import Caas.Media.UploadSessions

/-!
# What the count of chunks is worth

A chunk request stores its chunk and then writes back the session that it read before, counted on
by one. When every chunk is counted once, from the session that is stored, the count reaches the
number of chunks with the last of them, and the file of the upload can be put together.
-/

namespace Caas.Media

open Js Async Program Redis UploadRoutes OrderedMap

/-- What has become of the chunks of an upload: what was last stored of each, and the numbers
with which the session was counted on. -/
structure Progress where
  latest : String → Option Buffer
  counted : List String

def Progress.none : Progress := ⟨fun _ => .none, []⟩

def Progress.after (uploadId : String) (past : Progress) : UploadCommand → UploadRequest → Progress
  | .redis (.setex _ _ (.chunk _)), .uploadChunk _ other number (some chunk) =>
    if other = uploadId then
      { past with latest := Function.update past.latest number (some chunk) }
    else past
  | .redis (.setex _ _ (.session _)), .uploadChunk _ other number _ =>
    if other = uploadId then { past with counted := past.counted ++ [number] } else past
  | _, _ => past

def progress (uploadId : String) : Pool.Recorder UploadCommand UploadCommand.Reply UploadRequest
    Phase UploadReply Progress where
  started past _ _ := past
  ran past _ call command (reply : Except String command.Result) _ :=
    if reply.toOption.isSome then past.after uploadId command call.input else past

abbrev ProgressPool := Pool.Recorded UploadServer UploadCommand UploadCommand.Reply UploadRequest
  Phase UploadReply Progress

/-- The requests and the server, with the progress of an upload. -/
def progressMachine (settings : UploadSettings) (uploadId : String) :
    Transducer ProgressPool UploadEvent Unit :=
  Pool.Recorded.machine (host settings) (discipline settings) (fun _ => .start) (progress uploadId)

/-- The number is one of the chunks `0` to `total - 1`, and has not been counted. -/
def Uncounted (total : Nat) (past : Progress) (number : String) : Prop :=
  (∃ i < total, number = toString i) ∧ number ∉ past.counted

/-- The session to be stored is the one that is there, counted on by one. -/
def CountsOn (server : UploadServer) (uploadId : String) (counted : UploadSession) : Prop :=
  ∃ session, server.redis.lookup server.now (sessionKey uploadId) = some (.session session) ∧
    counted = { session with chunksReceived := session.chunksReceived + 1 }

/-- A chunk of the upload has content and is counted once, from the session that is there, and
no request completes the upload. -/
def CarefulCommand (uploadId : String) (total : Nat) (past : Progress) (server : UploadServer) :
    UploadCommand → UploadRequest → Prop
  | .redis (.setex _ _ (.chunk _)), .uploadChunk _ other _ data => other = uploadId → data ≠ some []
  | .redis (.setex _ _ (.session counted)), .uploadChunk _ other number _ =>
    other = uploadId → Uncounted total past number ∧ CountsOn server uploadId counted
  | .insertFile _, .complete _ other => other ≠ uploadId
  | _, _ => True

/-- Commands that succeed are careful with the upload. -/
def Careful (uploadId : String) (total : Nat) (current : ProgressPool) : UploadEvent → Prop
  | .run index none => ∀ call command, current.pool.awaited? index = some (call, command) →
    CarefulCommand uploadId total current.history current.pool.shared command call.input
  | .run _ (some _) | .start _ | .change _ => True

/-- Nothing of the upload expires. -/
def Unexpired (uploadId : String) (pool : UploadPool) : UploadEvent → Prop
  | .change elapsed => ∀ key, OfUpload uploadId key →
    pool.shared.redis.lookup (pool.shared.now + elapsed) key =
      pool.shared.redis.lookup pool.shared.now key
  | .run _ _ | .start _ => True

section Server

variable {settings : UploadSettings} {request : UploadRequest} {phase : Phase}
  {command : UploadCommand} {initiated : String → Caller → Prop} {uploadId : String}

def UploadRequest.uploadId? : UploadRequest → Option String
  | .initiate _ _ uploadId | .uploadChunk _ uploadId _ _ | .complete _ uploadId => some uploadId
  | .upload _ _ _ => none

theorem writes_key (awaits : Awaits settings request phase command)
    (valid : ∀ id owner, initiated id owner → isObjectId id = true)
    (drawn : ∀ id, request.draw? = some id → isObjectId id = true)
    (opens : ∀ session, phase.opened? = some session → Opens initiated request session)
    {key : String} (writes : writtenKey command = some key) :
    ∃ id, request.uploadId? = some id ∧ isObjectId id = true ∧ OfUpload id key := by
  cases awaits with
  | initiate caller body id =>
    cases writes
    exact ⟨id, rfl, drawn id rfl, .inl rfl⟩
  | storeChunk caller id chunkNumber chunk session =>
    cases writes
    exact ⟨id, rfl, valid _ _ (opens _ rfl).1, .inr ⟨chunkNumber, rfl⟩⟩
  | countChunk caller id chunkNumber data session =>
    cases writes
    exact ⟨id, rfl, valid _ _ (opens _ rfl).1, .inl rfl⟩
  | deleteChunk caller id session valid number =>
    cases writes
    exact ⟨id, rfl, valid, .inr ⟨toString number, rfl⟩⟩
  | deleteSession caller id session valid =>
    cases writes
    exact ⟨id, rfl, valid, .inl rfl⟩
  | _ => cases writes

theorem lookup_exec_of_unwritten {server : UploadServer} {fault : Option String} {key : String}
    (unwritten : writtenKey command ≠ some key) :
    (server.exec command fault).1.redis.lookup (server.exec command fault).1.now key =
      server.redis.lookup server.now key := by
  cases fault with
  | some error => rfl
  | none =>
    cases command with
    | redis command =>
      cases command with
      | get other | ttl other => rfl
      | del other =>
        refine ExpiringMap.lookup_delete.trans (if_neg ?_)
        rintro rfl
        exact unwritten rfl
      | setex other seconds text =>
        have different : other ≠ key := by
          rintro rfl
          exact unwritten rfl
        by_cases positive : 0 < seconds
        · exact (StringCommand.lookup_setex _ _ _ _ _ positive).trans (if_neg different)
        · simp [UploadServer.exec, UploadServer.answer, StringCommand.exec, if_neg positive]
    | insertFile file =>
      simp only [UploadServer.exec, UploadServer.answer]
      split <;> rfl
    | _ => rfl

theorem media_exec {server : UploadServer} {fault : Option String} {file : MediaFile}
    (stored : file ∈ (server.exec command fault).1.media) :
    file ∈ server.media ∨ command = .insertFile file := by
  cases fault with
  | some error => exact .inl stored
  | none =>
    cases command with
    | insertFile other =>
      simp only [UploadServer.exec, UploadServer.answer] at stored
      split at stored
      · exact .inl stored
      · refine (List.mem_append.mp stored).imp_right fun new => ?_
        rw [List.mem_singleton.mp new]
    | _ => exact .inl stored

end Server

section Counting

variable {settings : UploadSettings} {uploadId : String} {total : Nat} {past : Progress}
  {pool pool' : UploadPool} {call : UploadCall} {phase : Phase} {key : String} {text : RedisText}

def held (pool : UploadPool) (key : String) : Option RedisText :=
  pool.shared.redis.lookup pool.shared.now key

/-- How many requests are about to initiate the upload. -/
def initiating (uploadId : String) (pool : UploadPool) : Nat :=
  pool.calls.countP fun call => draws uploadId call.input && call.phase = .start

/-- The session has counted what has been counted, once it is there. -/
def SessionCounts (uploadId : String) (past : Progress) (pool : UploadPool) : Prop :=
  (held pool (sessionKey uploadId) = none ∧ past.counted = [] ∧
      ∀ call ∈ pool.calls, call.phase = .initiated → call.input.uploadId? ≠ some uploadId) ∨
    ∃ owner body, (∃ call ∈ pool.calls, call.input = .initiate owner body uploadId) ∧
      held pool (sessionKey uploadId) = some (.session
        { initiated owner body with chunksReceived := past.counted.length }) ∧
      initiating uploadId pool = 0

/-- Redis has what the progress says, and each chunk has been counted once. -/
structure Recounts (uploadId : String) (total : Nat) (past : Progress) (pool : UploadPool) :
    Prop where
  chunks : ∀ number, held pool (chunkKey uploadId number) =
    (past.latest number).map fun chunk => .chunk (Buffer.toBase64 chunk)
  content : ∀ number, past.latest number ≠ some []
  session : SessionCounts uploadId past pool
  distinct : past.counted.Nodup
  expected : ∀ number ∈ past.counted, ∃ i < total, number = toString i
  known : ∀ number ∈ past.counted, (past.latest number).isSome = true

/-- What a chunk request in a phase has done. -/
def Noted (past : Progress) (number : String) : Phase → Prop
  | .stored _ => (past.latest number).isSome = true
  | .counted => number ∈ past.counted
  | _ => True

/-- Chunk requests have done what their phases say, and none has completed the upload. -/
structure Counting (uploadId : String) (total : Nat) (past : Progress) (pool : UploadPool) :
    Prop extends Recounts uploadId total past pool where
  noted : ∀ call ∈ pool.calls, ∀ caller number data,
    call.input = .uploadChunk caller uploadId number data → Noted past number call.phase
  uncompleted : ∀ call ∈ pool.calls, ∀ session, call.phase = .inserted session →
    call.input.uploadId? ≠ some uploadId
  undocumented : ∀ owner, Initiated pool uploadId owner →
    ∀ file ∈ pool.shared.media, file.id ≠ uploadId

theorem initiating_le (goes : pool.Goes call phase pool') (early : phase = .start →
    call.phase = .start) : initiating uploadId pool' ≤ initiating uploadId pool := by
  have counts := goes.countP fun request phase => draws uploadId request && phase = .start
  unfold initiating
  by_cases start : phase = .start
  · rw [early start, start] at counts
    omega
  · simp only [start, decide_false, Bool.and_false, Bool.false_eq_true, if_false] at counts
    omega

variable {request : UploadRequest} {command : UploadCommand} {server : UploadServer}
  {number : String} {index : Nat}

theorem start_of_next {reply : command.Reply}
    (early : nextPhase request phase command reply = .start) : phase = .start := by
  cases reply with
  | error error => cases phase <;> first | rfl | cases early
  | ok result =>
    change succeeded request phase command result = .start at early
    unfold succeeded at early
    split at early
    · rcases opened_cases request _ with ⟨_, same⟩ | ⟨_, same⟩ | same <;>
        cases same.symm.trans early
    · cases early
    · rcases checked_cases request _ with same | same <;> cases same.symm.trans early
    all_goals first | exact early | cases early

theorem SessionCounts.goes (counts : SessionCounts uploadId past pool)
    (goes : pool.Goes call phase pool') (early : phase = .start → call.phase = .start)
    (late : phase = .initiated → call.phase = .initiated ∨ call.input.uploadId? ≠ some uploadId)
    (same : held pool' (sessionKey uploadId) = held pool (sessionKey uploadId)) :
    SessionCounts uploadId past pool' := by
  rw [SessionCounts, same]
  refine counts.imp ?_ ?_
  · rintro ⟨missing, uncounted, begun⟩
    refine ⟨missing, uncounted, ?_⟩
    refine @Pool.Goes.forall _ _ _ _ _ _ _ _ _ _ goes (fun request phase =>
      phase = .initiated → request.uploadId? ≠ some uploadId) (fun reached => ?_) begun
    exact (late reached).elim (begun call goes.member) id
  · rintro ⟨owner, body, ⟨initiator, here, input⟩, there, none⟩
    obtain ⟨after, kept, own⟩ := goes.input here
    refine ⟨owner, body, ⟨after, kept, own.trans input⟩, there, ?_⟩
    have fewer : initiating uploadId pool' ≤ initiating uploadId pool := initiating_le goes early
    omega

theorem initiated_of_next (awaits : Awaits settings request phase command)
    (next : nextPhase request phase command (server.answer command).2 = .initiated) :
    phase = .initiated ∨ ∃ id, request.uploadId? = some id ∧
      writtenKey command = some (sessionKey id) := by
  cases awaits with
  | initiate caller body id => exact .inr ⟨id, rfl, rfl⟩
  | openChunk caller id chunkNumber data =>
    rcases opened_cases (.uploadChunk caller id chunkNumber data) (readSession
        (server.redis.lookup server.now (sessionKey id))) with ⟨_, same⟩ | ⟨_, same⟩ | same <;>
      cases same.symm.trans next
  | openFile caller id =>
    rcases opened_cases (.complete caller id) (readSession
        (server.redis.lookup server.now (sessionKey id))) with ⟨_, same⟩ | ⟨_, same⟩ | same <;>
      cases same.symm.trans next
  | findQuota caller file fileId =>
    rcases checked_cases (.upload caller file fileId)
        (get server.quotas caller.tenantId) with same | same <;>
      cases same.symm.trans next
  | insert | insertUpload =>
    simp only [UploadServer.answer] at next
    split at next <;> cases next
  | requestFile before | setProgress _ _ before | publish _ _ before =>
    obtain rfl | ⟨_, rfl⟩ := before <;> cases next
  | readStream before => obtain ⟨_, rfl⟩ | ⟨_, rfl⟩ := before <;> cases next
  | _ => cases next

theorem Recounts.same (recounts : Recounts uploadId total past pool)
    (goes : pool.Goes call phase pool') (early : phase = .start → call.phase = .start)
    (late : phase = .initiated → call.phase = .initiated ∨ call.input.uploadId? ≠ some uploadId)
    (same : ∀ key, OfUpload uploadId key → held pool' key = held pool key) :
    Recounts uploadId total past pool' := by
  refine ⟨fun number => ?_, recounts.content, ?_,
    recounts.distinct, recounts.expected, recounts.known⟩
  · rw [same _ (.inr ⟨number, rfl⟩)]
    exact recounts.chunks number
  · exact recounts.session.goes goes early late (same _ (.inl rfl))

theorem after_of_ne (foreign : request.uploadId? ≠ some uploadId) (command : UploadCommand) :
    past.after uploadId command request = past := by
  unfold Progress.after
  split
  · exact if_neg fun same => foreign (congrArg some same)
  · exact if_neg fun same => foreign (congrArg some same)
  · rfl

theorem after_of_unwritten (unwritten : writtenKey command = none) (request : UploadRequest) :
    past.after uploadId command request = past := by
  unfold Progress.after
  split
  · cases unwritten
  · cases unwritten
  · rfl

theorem Recounts.initiate (recounts : Recounts uploadId total past pool) (sound : Sound pool)
    (valid : isObjectId uploadId = true) {caller : Caller} {body : InitiateBody}
    (goes : pool.Goes call .initiated pool') (input : call.input = .initiate caller body uploadId)
    (early : call.phase = .start)
    (sets : ∀ key, held pool' key = if sessionKey uploadId = key then
      some (.session (initiated caller body)) else held pool key) :
    Recounts uploadId total past pool' := by
  have starts : (draws uploadId call.input && call.phase = .start) = true := by
    rw [early, input]
    simp [draws, UploadRequest.draw?]
  have none : initiating uploadId pool ≠ 0 := by
    intro none
    exact List.countP_eq_zero.mp none call goes.member starts
  refine ⟨fun number => ?_, recounts.content, .inr ⟨caller, body, ?_, ?_, ?_⟩, recounts.distinct,
    recounts.expected, recounts.known⟩
  · rw [sets, if_neg (sessionKey_ne_chunkKey valid)]
    exact recounts.chunks number
  · obtain ⟨after, there, same⟩ := goes.input goes.member
    exact ⟨after, there, same.trans input⟩
  · rw [sets, if_pos rfl]
    rcases recounts.session with ⟨_, uncounted, _⟩ | ⟨_, _, _, _, initiated⟩
    · rw [uncounted]
      rfl
    · exact absurd initiated none
  · have counts := goes.countP fun request phase => draws uploadId request && phase = .start
    have single : initiating uploadId pool ≤ 1 :=
      (List.countP_mono_left fun call _ both => (Bool.and_eq_true _ _ ▸ both).1).trans
        (sound.single uploadId)
    unfold initiating at single ⊢
    simp only [starts, if_true] at counts
    simp at counts
    omega

theorem isSome_update {latest : String → Option Buffer} {other : String} {chunk : Buffer}
    (known : (latest other).isSome = true) :
    (Function.update latest number (some chunk) other).isSome = true := by
  by_cases same : other = number
  · subst same
    rw [Function.update_self]
    rfl
  · rw [Function.update_of_ne same]
    exact known

theorem Recounts.store (recounts : Recounts uploadId total past pool)
    (valid : isObjectId uploadId = true) {chunk : Buffer} {session : UploadSession}
    (goes : pool.Goes call (.stored session) pool') (nonempty : chunk ≠ [])
    (sets : ∀ key, held pool' key = if chunkKey uploadId number = key then
      some (.chunk (Buffer.toBase64 chunk)) else held pool key) :
    Recounts uploadId total { past with latest := Function.update past.latest number (some chunk) }
      pool' := by
  refine ⟨fun other => ?_, fun other => ?_, ?_, recounts.distinct, recounts.expected,
    fun other counted => ?_⟩
  · dsimp only
    rw [sets]
    by_cases same : number = other
    · subst same
      rw [if_pos rfl, Function.update_self]
      rfl
    · rw [if_neg fun keys => same (chunkKey_inj valid valid keys).2,
        Function.update_of_ne (Ne.symm same)]
      exact recounts.chunks other
  · dsimp only
    by_cases same : other = number
    · subst same
      rw [Function.update_self]
      exact fun empty => nonempty (Option.some.inj empty)
    · rw [Function.update_of_ne same]
      exact recounts.content other
  · refine recounts.session.goes goes nofun nofun ?_
    rw [sets, if_neg (Ne.symm (sessionKey_ne_chunkKey valid))]
  · exact isSome_update (recounts.known other counted)

theorem Recounts.count (recounts : Recounts uploadId total past pool)
    (valid : isObjectId uploadId = true) {counted : UploadSession}
    (goes : pool.Goes call .counted pool') (known : (past.latest number).isSome = true)
    (uncounted : Uncounted total past number) (countsOn : CountsOn pool.shared uploadId counted)
    (sets : ∀ key, held pool' key = if sessionKey uploadId = key then
      some (.session counted) else held pool key) :
    Recounts uploadId total { past with counted := past.counted ++ [number] } pool' := by
  obtain ⟨session, there, rfl⟩ := countsOn
  refine ⟨fun other => ?_, recounts.content, .inr ?_, ?_, fun other listed => ?_,
    fun other listed => ?_⟩
  · rw [sets, if_neg (sessionKey_ne_chunkKey valid)]
    exact recounts.chunks other
  · rcases recounts.session with ⟨missing, _⟩ | ⟨owner, body, ⟨initiator, here, input⟩, held, none⟩
    · cases missing.symm.trans there
    · obtain ⟨after, kept, own⟩ := goes.input here
      refine ⟨owner, body, ⟨after, kept, own.trans input⟩, ?_, ?_⟩
      · cases held.symm.trans there
        rw [sets, if_pos rfl, List.length_append]
        rfl
      · have fewer : initiating uploadId pool' ≤ initiating uploadId pool :=
          initiating_le goes nofun
        omega
  · rw [List.nodup_append]
    refine ⟨recounts.distinct, List.nodup_singleton number, fun one here other new => ?_⟩
    rw [List.mem_singleton.mp new]
    rintro rfl
    exact uncounted.2 here
  · rcases List.mem_append.mp listed with earlier | new
    · exact recounts.expected other earlier
    · rw [List.mem_singleton.mp new]
      exact uncounted.1
  · rcases List.mem_append.mp listed with earlier | new
    · exact recounts.known other earlier
    · rw [List.mem_singleton.mp new]
      exact known

theorem held_setex {next : UploadCommand.Reply (.redis (.setex key 86400 text)) →
      UploadProgram UploadReply} (other : String) :
    held (pool.resume (discipline settings) index call (.redis (.setex key 86400 text)) next
        (pool.shared.exec (.redis (.setex key 86400 text)) none)) other =
      if key = other then some text else held pool other :=
  @StringCommand.lookup_setex _ _ _ pool.shared.redis pool.shared.now key other 86400 text (by decide)

theorem Recounts.resume (recounts : Recounts uploadId total past pool) (sound : Sound pool)
    (valid : isObjectId uploadId = true) (uncompleted : ∀ session, call.phase = .inserted session →
      call.input.uploadId? ≠ some uploadId)
    (noted : ∀ caller number data, call.input = .uploadChunk caller uploadId number data →
      Noted past number call.phase)
    {next : command.Reply → UploadProgram UploadReply} (present : pool.calls[index]? = some call)
    (awaits : Awaits settings call.input call.phase command)
    (careful : CarefulCommand uploadId total past pool.shared command call.input) :
    Recounts uploadId total (past.after uploadId command call.input)
      (pool.resume (discipline settings) index call command next
        (pool.shared.exec command none)) := by
  have goes := @Pool.goes_resume _ _ _ _ _ _ (discipline settings) pool index call command next
    (pool.shared.exec command none) present
  have here := goes.member
  have opens := sound.opened call here
  have drawn := sound.drawn call here
  by_cases touches : ∃ key, writtenKey command = some key ∧ OfUpload uploadId key
  · obtain ⟨key, writes, own⟩ := touches
    obtain ⟨id, input, valid', own'⟩ := writes_key awaits (fun _ _ => sound.valid) drawn opens writes
    obtain rfl := uploadId_eq valid valid' own own'
    obtain ⟨request, phase, program⟩ := call
    cases awaits with
    | initiate caller body other =>
      cases input
      exact recounts.initiate sound valid goes rfl rfl held_setex
    | storeChunk caller other chunkNumber chunk session =>
      cases input
      have stored : past.after uploadId
          (.redis (.setex (chunkKey uploadId chunkNumber) 86400 (.chunk (Buffer.toBase64 chunk))))
          (.uploadChunk caller uploadId chunkNumber (some chunk)) =
            { past with latest := Function.update past.latest chunkNumber (some chunk) } :=
        if_pos rfl
      rw [stored]
      exact recounts.store valid goes (fun empty => careful rfl (congrArg some empty)) held_setex
    | countChunk caller other chunkNumber data session =>
      cases input
      obtain ⟨uncounted, countsOn⟩ := careful rfl
      have counted : past.after uploadId
          (.redis (.setex (sessionKey uploadId) 86400
            (.session { session with chunksReceived := session.chunksReceived + 1 })))
          (.uploadChunk caller uploadId chunkNumber data) =
            { past with counted := past.counted ++ [chunkNumber] } := if_pos rfl
      rw [counted]
      exact recounts.count valid goes (noted _ _ _ rfl) uncounted countsOn held_setex
    | deleteChunk | deleteSession => exact absurd input (uncompleted _ rfl)
    | _ => cases writes
  · have same : past.after uploadId command call.input = past := by
      cases written : writtenKey command with
      | none => exact after_of_unwritten written _
      | some key =>
        obtain ⟨id, input, _, own⟩ := writes_key awaits (fun _ _ => sound.valid) drawn opens written
        refine after_of_ne (fun same => touches ⟨key, written, ?_⟩) command
        rw [← Option.some.inj (input.symm.trans same)]
        exact own
    rw [same]
    refine recounts.same goes start_of_next (fun reached => ?_) fun key own => ?_
    · exact (initiated_of_next awaits reached).imp_right fun ⟨id, input, writes⟩ same =>
        touches ⟨_, writes, .inl (Option.some.inj (input.symm.trans same) ▸ rfl)⟩
    · exact lookup_exec_of_unwritten fun writes => touches ⟨key, writes, own⟩

theorem unwritten_of_error {error : String} (failed : (server.answer command).2 = .error error) :
    writtenKey command = none := by
  cases command with
  | redis command => cases failed
  | _ => rfl

theorem ran_answer {program : UploadProgram UploadReply} (server : UploadServer) :
    (progress uploadId).ran past index call command (server.answer command).2 program =
      past.after uploadId command call.input := by
  cases reply : (server.answer command).2 with
  | error error => exact (after_of_unwritten (unwritten_of_error reply) call.input).symm
  | ok result => rfl

theorem Noted.after (noted : Noted past number phase) (command : UploadCommand)
    (request : UploadRequest) : Noted (past.after uploadId command request) number phase := by
  unfold Progress.after
  split
  · split
    · cases phase <;> first | exact isSome_update noted | exact noted
    · exact noted
  · split
    · cases phase <;> first | exact List.mem_append_left _ noted | exact noted
    · exact noted
  · exact noted

theorem noted_of_next {caller : Caller} {data : Option Buffer}
    (awaits : Awaits settings (.uploadChunk caller uploadId number data) phase command) :
    Noted (past.after uploadId command (.uploadChunk caller uploadId number data)) number
      (nextPhase (.uploadChunk caller uploadId number data) phase command
        (server.answer command).2) := by
  cases awaits with
  | openChunk =>
    change Noted _ _ (opened (.uploadChunk caller uploadId number data) (readSession
      (server.redis.lookup server.now (sessionKey uploadId))))
    rcases opened_cases (.uploadChunk caller uploadId number data) (readSession
        (server.redis.lookup server.now (sessionKey uploadId))) with ⟨_, same⟩ | ⟨_, same⟩ | same <;>
      rw [same] <;> trivial
  | storeChunk caller other chunkNumber chunk session =>
    simp only [Progress.after, if_true]
    exact congrArg Option.isSome (Function.update_self number (some chunk) past.latest)
  | countChunk caller other chunkNumber data session =>
    simp only [Progress.after, if_true]
    exact List.mem_append_right _ (List.mem_singleton_self number)
  | requestFile before | setProgress _ _ before | publish _ _ before =>
    obtain rfl | ⟨_, rfl⟩ := before <;> trivial
  | readStream before => obtain ⟨_, rfl⟩ | ⟨_, rfl⟩ := before <;> trivial

theorem inserted_of_next {fault : Option String} {session : Option UploadSession}
    (next : nextPhase request phase command (server.exec command fault).2 = .inserted session) :
    phase = .inserted session ∨ fault = none ∧ ∃ file, command = .insertFile file := by
  cases fault with
  | some error => cases phase <;> first | exact .inl next | cases next
  | none =>
    change nextPhase request phase command (server.answer command).2 = .inserted session at next
    cases reply : (server.answer command).2 with
    | error error =>
      rw [reply] at next
      cases phase <;> first | exact .inl next | cases next
    | ok result =>
      rw [reply] at next
      change succeeded request phase command result = .inserted session at next
      unfold succeeded at next
      split at next
      · rcases opened_cases request _ with ⟨_, same⟩ | ⟨_, same⟩ | same <;>
          cases same.symm.trans next
      · cases next
      · rcases checked_cases request _ with same | same <;> cases same.symm.trans next
      · cases next
      · cases next
      · cases next
      · exact .inr ⟨rfl, _, rfl⟩
      · cases next
      · cases next
      · exact .inl next

theorem Initiated.back (goes : pool.Goes call phase pool') {owner : Caller}
    (drawn : Initiated pool' uploadId owner) : Initiated pool uploadId owner := by
  obtain ⟨other, here, body, input⟩ := drawn
  rcases goes.back other here with there | ⟨same, _⟩
  · exact ⟨other, there, body, input⟩
  · exact ⟨call, goes.member, body, same.symm.trans input⟩

theorem Counting.insert (counting : Counting uploadId total past pool) (sound : Sound pool)
    {command : UploadCommand} {fault : Option String}
    (here : call ∈ pool.calls) (awaits : Awaits settings call.input call.phase command)
    (careful : fault = none →
      CarefulCommand uploadId total past pool.shared command call.input) {owner : Caller}
    (drawn : Initiated pool uploadId owner) {file : MediaFile}
    (stored : file ∈ (pool.shared.exec command fault).1.media) : file.id ≠ uploadId := by
  cases fault with
  | some error => exact counting.undocumented owner drawn file stored
  | none =>
    rcases media_exec stored with before | rfl
    · exact counting.undocumented owner drawn file before
    · have cautious := careful rfl
      obtain ⟨request, phase, program⟩ := call
      cases awaits with
      | insert caller other session valid filename mimetype content => exact cautious
      | insertUpload caller uploaded fileId quota =>
        rintro rfl
        obtain ⟨initiator, there, body, input⟩ := drawn
        obtain rfl := sound.drawn_eq there here (congrArg UploadRequest.draw? input) rfl
        cases input

theorem Counting.resume (counting : Counting uploadId total past pool) (sound : Sound pool)
    (valid : isObjectId uploadId = true) {next : command.Reply → UploadProgram UploadReply}
    {fault : Option String} (present : pool.calls[index]? = some call)
    (awaits : Awaits settings call.input call.phase command) (careful : fault = none →
      CarefulCommand uploadId total past pool.shared command call.input) : Counting uploadId total
      ((progress uploadId).ran past index call command (pool.shared.exec command fault).2
        (next (pool.shared.exec command fault).2))
      (pool.resume (discipline settings) index call command next
        (pool.shared.exec command fault)) := by
  have goes := @Pool.goes_resume _ _ _ _ _ _ (discipline settings) pool index call command next
    (pool.shared.exec command fault) present
  have here := goes.member
  have undocumented (owner : Caller) (drawn : Initiated (pool.resume (discipline settings) index
      call command next (pool.shared.exec command fault)) uploadId owner) :=
    fun file => @Counting.insert settings _ _ _ _ _ counting sound command fault here awaits careful
      owner (drawn.back goes) file
  have uncompleted : ∀ other ∈ (pool.resume (discipline settings) index call command next
      (pool.shared.exec command fault)).calls, ∀ session, other.phase = .inserted session →
        other.input.uploadId? ≠ some uploadId := by
    refine @Pool.Goes.forall _ _ _ _ _ _ _ _ _ _ goes (fun request phase => ∀ session,
      phase = .inserted session → request.uploadId? ≠ some uploadId) ?_ counting.uncompleted
    intro session inserted
    rcases inserted_of_next inserted with before | ⟨calm, file, rfl⟩
    · exact counting.uncompleted call here session before
    · have cautious := careful calm
      obtain ⟨request, phase, program⟩ := call
      cases awaits with
      | insert caller other session valid filename mimetype content =>
        exact fun same => cautious (Option.some.inj same)
      | insertUpload => nofun
  cases fault with
  | some error =>
    have early : nextPhase call.input call.phase command (.error error) = .start →
      call.phase = .start := start_of_next
    have late : nextPhase call.input call.phase command (.error error) = .initiated →
        call.phase = .initiated ∨ call.input.uploadId? ≠ some uploadId := by
      intro reached
      cases phase : call.phase <;> rw [phase] at reached <;> cases reached
    refine ⟨counting.same goes early late fun _ _ => rfl, ?_, uncompleted, undocumented⟩
    refine @Pool.Goes.forall _ _ _ _ _ _ _ _ _ _ goes (fun request phase => ∀ caller number data,
      request = .uploadChunk caller uploadId number data → Noted past number phase) ?_ counting.noted
    intro _ _ _ _
    cases call.phase <;> trivial
  | none =>
    have cautious := careful rfl
    have ran : (progress uploadId).ran past index call command (pool.shared.exec command none).2
        (next (pool.shared.exec command none).2) = past.after uploadId command call.input :=
      ran_answer pool.shared
    rw [ran]
    refine ⟨counting.toRecounts.resume sound valid (counting.uncompleted call here)
      (counting.noted call here) present awaits cautious, ?_, uncompleted, undocumented⟩
    refine @Pool.Goes.forall _ _ _ _ _ _ _ _ _ _ goes (fun request phase => ∀ caller number data,
      request = .uploadChunk caller uploadId number data →
        Noted (past.after uploadId command call.input) number phase) ?_ ?_
    · intro caller number data input
      obtain ⟨request, phase, program⟩ := call
      cases input
      exact noted_of_next awaits
    · exact fun other there caller number data input =>
        (counting.noted other there caller number data input).after command call.input

theorem SessionCounts.start (counts : SessionCounts uploadId past pool)
    (fresh : Fresh pool (.start request)) :
    SessionCounts uploadId past (pool.start (host settings) (fun _ => .start) request) := by
  refine counts.imp ?_ ?_
  · rintro ⟨missing, uncounted, begun⟩
    refine ⟨missing, uncounted, fun call here => ?_⟩
    rcases Pool.mem_start here with earlier | rfl
    · exact begun call earlier
    · exact nofun
  · rintro ⟨owner, body, ⟨initiator, here, input⟩, there, none⟩
    refine ⟨owner, body, ⟨initiator, List.mem_append_left _ here, input⟩, there, ?_⟩
    have other : draws uploadId request = false := by
      refine decide_eq_false fun same => (fresh uploadId same).2.1 initiator here ?_
      rw [input]
      rfl
    have initiating_start : initiating uploadId
        (pool.start (host settings) (fun _ => .start) request) = initiating uploadId pool := by
      simp [initiating, Pool.start, List.countP_append, other]
    exact initiating_start.trans none

theorem Counting.start (counting : Counting uploadId total past pool)
    (fresh : Fresh pool (.start request)) :
    Counting uploadId total past (pool.start (host settings) (fun _ => .start) request) := by
  refine ⟨⟨counting.chunks, counting.content, counting.session.start fresh, counting.distinct,
    counting.expected, counting.known⟩, fun call here => ?_, fun call here => ?_,
    fun owner drawn => ?_⟩
  · rcases Pool.mem_start here with earlier | rfl
    · exact counting.noted call earlier
    · exact fun _ _ _ _ => trivial
  · rcases Pool.mem_start here with earlier | rfl
    · exact counting.uncompleted call earlier
    · exact nofun
  · obtain ⟨call, here, body, input⟩ := drawn
    rcases Pool.mem_start here with earlier | rfl
    · exact counting.undocumented owner ⟨call, earlier, body, input⟩
    · refine (fresh uploadId ?_).2.2
      rw [show request = _ from input]
      rfl

theorem Counting.change (counting : Counting uploadId total past pool) {elapsed : Nat}
    (unexpired : Unexpired uploadId pool (.change elapsed)) : Counting uploadId total past
      { pool with shared := (host settings).change pool.shared elapsed } := by
  refine ⟨⟨fun number => ?_, counting.content, ?_, counting.distinct, counting.expected,
    counting.known⟩,
    counting.noted, counting.uncompleted, counting.undocumented⟩
  · exact (unexpired _ (.inr ⟨number, rfl⟩)).trans (counting.chunks number)
  · unfold SessionCounts
    have same : held { pool with shared := (host settings).change pool.shared elapsed }
      (sessionKey uploadId) = held pool (sessionKey uploadId) := unexpired _ (.inl rfl)
    rw [same]
    exact counting.session

theorem counting_new (server : UploadServer) (unfiled : server.redis = .empty) :
    Counting uploadId total .none (newPool server) := by
  have nothing (key : String) : held (newPool server) key = none := by
    simp only [held, newPool, unfiled]
    rfl
  refine ⟨⟨fun number => nothing _, fun number => (Option.some_ne_none _).symm,
    .inl ⟨nothing _, rfl, List.forall_mem_nil _⟩, List.nodup_nil, List.forall_mem_nil _,
    List.forall_mem_nil _⟩, List.forall_mem_nil _, List.forall_mem_nil _, ?_⟩
  rintro owner ⟨_, here, _⟩
  cases here

theorem counting_run {current : ProgressPool} {events : List UploadEvent}
    (guarded : (progressMachine settings uploadId).Admits (fun current event =>
      (Fresh current.pool event ∧ Unexpired uploadId current.pool event) ∧
        Careful uploadId total current event) current events)
    (respectful : Respectful settings current.pool) (sound : Sound current.pool)
    (counting : isObjectId uploadId = true → Counting uploadId total current.history current.pool) :
    let final := (progressMachine settings uploadId).run current events
    Respectful settings final.pool ∧ Sound final.pool ∧
      (isObjectId uploadId = true → Counting uploadId total final.history final.pool) := by
  refine @Pool.Recorded.invariant _ _ _ _ _ _ _ _ _ (host settings) (discipline settings)
    (fun _ => .start) (progress uploadId) ends _ (fun current => Sound current.pool ∧
      (isObjectId uploadId = true → Counting uploadId total current.history current.pool))
    handle_respects ?_ ?_ ?_ _ _ guarded respectful ⟨sound, counting⟩
  · exact fun current request both guard =>
      ⟨both.1.start guard.1.1, fun valid => (both.2 valid).start guard.1.1⟩
  · exact fun current elapsed both guard =>
      ⟨both.1.change elapsed, fun valid => (both.2 valid).change guard.1.2⟩
  · intro current index fault call command next both guard _ present awaits may
    refine ⟨trivial, fun _ => ⟨both.1.resume present may, fun valid => ?_⟩⟩
    refine (both.2 valid).resume both.1 valid present may ?_
    rintro rfl
    exact guard.2 call command (Pool.awaited?_of_await present awaits)

theorem toString_inj {i j : Nat} (same : toString i = toString j) : i = j := by
  have digits := congrArg (fun text => Nat.ofDigitChars 10 text.toList 0) same
  simpa [Nat.toString_eq_ofList_toDigits] using digits

theorem Recounts.length_counted (recounts : Recounts uploadId total past pool)
    (all : ∀ i < total, toString i ∈ past.counted) : past.counted.length = total := by
  have numbers : ((List.range total).map toString).Nodup :=
    List.nodup_range.map fun i j same => toString_inj same
  have same : past.counted.Perm ((List.range total).map toString) := by
    refine (List.perm_ext_iff_of_nodup recounts.distinct numbers).mpr fun number => ?_
    constructor
    · intro listed
      obtain ⟨i, bound, rfl⟩ := recounts.expected number listed
      exact List.mem_map.mpr ⟨i, List.mem_range.mpr bound, rfl⟩
    · intro listed
      obtain ⟨i, bound, rfl⟩ := List.mem_map.mp listed
      exact all i (List.mem_range.mp bound)
  rw [same.length_eq, List.length_map, List.length_range]

end Counting

section Completion

variable {settings : UploadSettings} {uploadId : String} {past : Progress}
  {server after : UploadServer} {number : Nat}

theorem await_ensures {α : Type} {command : UploadCommand} {next : command.Result → UploadProgram α}
    {post : Nat → UploadServer → Outcome α → Prop} {result : command.Result}
    (answered : server.answer command = (after, .ok result))
    (rest : (next result).Ensures UploadServer.exec (fun _ => none) post (number + 1) after) :
    (await command >>= next).Ensures UploadServer.exec (fun _ => none) post number server :=
  ensures_bind (ensures_command_bind answered rest)

theorem getText_ensures {α : Type} {key : String} {next : Option RedisText → UploadProgram α}
    {post : Nat → UploadServer → Outcome α → Prop} {text : RedisText}
    (found : server.redis.lookup server.now key = some text)
    (nonempty : RedisText.nonempty (some text) = some text)
    (rest : (next (some text)).Ensures UploadServer.exec (fun _ => none) post (number + 1) server) :
    (getText key >>= next).Ensures UploadServer.exec (fun _ => none) post number server := by
  have answered : server.answer (.redis (.get key)) = (server, .ok (some text)) := by
    rw [← found]
    rfl
  refine ensures_bind (await_ensures answered ?_)
  rw [nonempty]
  exact rest

def Progress.contents (past : Progress) (numbers : List Nat) : Buffer :=
  (numbers.map fun i => (past.latest (toString i)).getD []).flatten

def Present (uploadId : String) (past : Progress) (server : UploadServer) (numbers : List Nat) :
    Prop :=
  ∀ i ∈ numbers, ∃ chunk, past.latest (toString i) = some chunk ∧ chunk ≠ [] ∧
    server.redis.lookup server.now (chunkKey uploadId (toString i)) =
      some (.chunk (Buffer.toBase64 chunk))

theorem nonempty_chunk {chunk : Buffer} (content : chunk ≠ []) :
    RedisText.nonempty (some (.chunk (Buffer.toBase64 chunk))) =
      some (.chunk (Buffer.toBase64 chunk)) :=
  Option.filter_eq_some_iff.mpr ⟨rfl, decide_eq_true (mt Buffer.toBase64_eq_empty.mp content)⟩

theorem readChunks_ensures {numbers : List Nat} (present : Present uploadId past server numbers) :
    (readChunks uploadId numbers).Ensures UploadServer.exec (fun _ => none)
      (fun _ after outcome => after = server ∧ outcome = .ok (.ok (past.contents numbers)))
      number server := by
  induction numbers generalizing number with
  | nil => exact ⟨rfl, rfl⟩
  | cons i rest ih =>
    obtain ⟨chunk, latest, content, found⟩ := present i List.mem_cons_self
    refine getText_ensures found (nonempty_chunk content) ?_
    refine ensures_bind ((ih fun j later => present j (List.mem_cons_of_mem i later)).mono ?_)
    rintro _ _ _ ⟨rfl, rfl⟩
    refine ⟨rfl, ?_⟩
    simp only [Except.map, Progress.contents, List.map_cons, List.flatten_cons, latest,
      Option.getD_some, RedisText.text, Buffer.ofBase64_toBase64]

theorem deleteChunks_ensures {objects : OrderedMap String StoredObject} {media : List MediaFile}
    (stored : server.objects = objects) (documented : server.media = media) (numbers : List Nat) :
    (deleteChunks uploadId numbers).Ensures UploadServer.exec (fun _ => none)
      (fun _ after outcome => after.objects = objects ∧ after.media = media ∧ outcome = .ok ())
      number server := by
  induction numbers generalizing number server with
  | nil => exact ⟨stored, documented, rfl⟩
  | cons i rest ih => exact await_ensures rfl (ih stored documented)

theorem storeFile_ensures {caller : Caller} {session : UploadSession} {content : Buffer}
    (valid : isObjectId uploadId = true) (new : server.hasFile caller.tenantId uploadId = false) :
    (storeFile settings caller uploadId (some session) content).Ensures UploadServer.exec
      (fun _ => none)
      (fun _ after outcome =>
        let stored := mediaFile settings caller uploadId session.filename session.mimetype
          session.totalSize content
        get after.objects stored.s3Key =
            some (storedObject settings caller session.mimetype content) ∧
          after.media = server.media ++ [stored] ∧
          outcome = .ok (.completed uploadId session.filename session.totalSize session.mimetype
            stored.checksum)) number server := by
  let stored := mediaFile settings caller uploadId session.filename session.mimetype
    session.totalSize content
  let objects := set server.objects stored.s3Key
    (storedObject settings caller session.mimetype content)
  refine await_ensures rfl ?_
  rw [if_pos valid]
  have inserts : ({ server with objects } : UploadServer).answer (.insertFile stored) =
      ({ server with objects, media := server.media ++ [stored] }, .ok ()) := by
    refine if_neg ?_
    change ¬ server.hasFile caller.tenantId uploadId = true
    rw [new]
    nofun
  refine await_ensures inserts ?_
  refine ensures_bind ((deleteChunks_ensures rfl rfl _).mono ?_)
  rintro _ deleted _ ⟨kept, documented, rfl⟩
  refine await_ensures rfl (await_ensures rfl ⟨?_, documented, rfl⟩)
  have there : get deleted.objects stored.s3Key =
      some (storedObject settings caller session.mimetype content) := by
    rw [kept]
    exact get_set_self _ _ _
  exact there

/-- What the complete route does when it runs alone and nothing fails. -/
def completed (settings : UploadSettings) (caller : Caller) (uploadId : String)
    (server : UploadServer) : UploadServer × Outcome UploadReply :=
  (complete settings caller uploadId).run UploadServer.exec (fun _ => none) 0 server

/-- The file of the upload has been stored with this content. -/
def Stored (settings : UploadSettings) (caller : Caller) (uploadId : String)
    (body : InitiateBody) (content : Buffer) (server after : UploadServer)
    (outcome : Outcome UploadReply) : Prop :=
  let stored := mediaFile settings caller uploadId body.filename body.mimetype body.totalSize content
  get after.objects stored.s3Key =
      some (storedObject settings caller body.mimetype content) ∧
    after.media = server.media ++ [stored] ∧
    outcome = .ok (.completed uploadId body.filename body.totalSize body.mimetype stored.checksum)

theorem complete_ensures {caller owner : Caller} {body : InitiateBody} {total : Nat}
    (valid : isObjectId uploadId = true) (new : server.hasFile caller.tenantId uploadId = false)
    (chunks : body.totalChunks = some total)
    (session : server.redis.lookup server.now (sessionKey uploadId) =
      some (.session { initiated owner body with chunksReceived := total }))
    (present : Present uploadId past server (List.range total)) :
    (complete settings caller uploadId).Ensures UploadServer.exec (fun _ => none)
      (fun _ after outcome => Stored settings caller uploadId body (past.contents (List.range total))
        server after outcome) number server := by
  refine ensures_catching (getText_ensures session rfl ?_)
  refine ensures_bind ?_
  change Ensures _ _ _ (if _ then _ else _) _ _
  rw [if_neg]
  · simp only [Option.bind_some, initiated, chunks, Option.getD_some]
    refine ensures_bind ((readChunks_ensures present).mono ?_)
    rintro _ _ _ ⟨rfl, rfl⟩
    refine (storeFile_ensures valid new).mono ?_
    rintro _ _ _ ⟨stored, documented, rfl⟩
    exact ⟨stored, documented, rfl⟩
  · simp [initiated, chunks]

/-- In every run in which the chunks of an upload have content and each is counted once, from the
session that is there, once all are acknowledged the complete route succeeds and stores exactly
their latest contents, in order. -/
theorem counted_upload_completes {server : UploadServer} {events : List UploadEvent}
    {total : Nat} {owner : Caller} {body : InitiateBody} (unfiled : server.redis = .empty)
    (chunks : body.totalChunks = some total)
    (fresh : (progressMachine settings uploadId).Admits (fun current => Fresh current.pool)
      ⟨newPool server, .none⟩ events) (unexpired : (progressMachine settings uploadId).Admits
      (fun current => Unexpired uploadId current.pool) ⟨newPool server, .none⟩ events)
    (careful : (progressMachine settings uploadId).Admits (Careful uploadId total)
      ⟨newPool server, .none⟩ events) :
    let final := (progressMachine settings uploadId).run ⟨newPool server, .none⟩ events
    (∃ call ∈ final.pool.calls, call.input = .initiate owner body uploadId ∧
      ∃ chunkSize totalChunks,
        call.program.outcome? = some (.ok (.initiated uploadId chunkSize totalChunks))) →
    (∀ i < total, ∃ call ∈ final.pool.calls, ∃ caller data totalReceived totalChunks,
      call.input = .uploadChunk caller uploadId (toString i) data ∧ call.program.outcome? =
        some (.ok (.received (toString i) totalReceived totalChunks))) →
    ∀ caller, Stored settings caller uploadId body (final.history.contents (List.range total))
      final.pool.shared (completed settings caller uploadId final.pool.shared).1
        (completed settings caller uploadId final.pool.shared).2 := by
  intro final initiated acknowledged caller
  obtain ⟨respectful, sound, counts⟩ := counting_run ((fresh.and unexpired).and careful)
    (List.forall_mem_nil _) (sound_new server unfiled) fun _ => counting_new server unfiled
  obtain ⟨initiator, here, input, chunkSize, totalChunks, ended⟩ := initiated
  have began : initiator.phase = .initiated :=
    ((respectful initiator here).ends_of_outcome ended).1.2.1 _ _ _ rfl
  have drawn : Initiated final.pool uploadId owner := ⟨initiator, here, body, input⟩
  have valid := sound.valid drawn
  have counting := counts valid
  have all (i : Nat) (bound : i < total) : toString i ∈ final.history.counted := by
    obtain ⟨call, there, caller, data, _, _, request, answered⟩ := acknowledged i bound
    have counted : call.phase = .counted :=
      ((respectful call there).ends_of_outcome answered).1.2.2 _ _ _ rfl
    have noted := counting.noted call there caller _ data request
    rw [counted] at noted
    exact noted
  rcases counting.session with ⟨_, _, begun⟩ | ⟨_, _, ⟨other, there, input'⟩, session, _⟩
  · exact absurd (congrArg UploadRequest.uploadId? input) (begun initiator here began)
  · obtain rfl := sound.drawn_eq here there (congrArg UploadRequest.draw? input)
      (congrArg UploadRequest.draw? input')
    cases input.symm.trans input'
    rw [counting.length_counted all] at session
    have new : final.pool.shared.hasFile caller.tenantId uploadId = false := by
      refine List.any_eq_false.mpr fun file stored => ?_
      simp [counting.undocumented owner drawn file stored]
    have present : Present uploadId final.history final.pool.shared (List.range total) := by
      intro i listed
      obtain ⟨chunk, latest⟩ := Option.isSome_iff_exists.mp
        (counting.known _ (all i (List.mem_range.mp listed)))
      refine ⟨chunk, latest, fun empty => counting.content _ (empty ▸ latest), ?_⟩
      have found := counting.chunks (toString i)
      rw [latest] at found
      exact found
    exact (@Program.ensures_iff_run _ _ _ _ _ _ _ _ _ _ (fun after outcome =>
      Stored settings caller uploadId body (final.history.contents (List.range total))
        final.pool.shared after outcome)).mp (complete_ensures valid new chunks session present)

/-- One chunk of three bytes is uploaded. -/
def oneChunk : List UploadEvent :=
  .start (.initiate sampleCaller sampleBody sampleId) :: goesOn 0 1 ++
    .start (.uploadChunk sampleCaller sampleId "0" (some [1, 2, 3])) :: goesOn 1 5

theorem oneChunk_fresh : (progressMachine sampleSettings sampleId).Admits
    (fun current => Fresh current.pool) ⟨newPool sampleServer, .none⟩ oneChunk := by
  refine ⟨?_, trivial, nofun, trivial, trivial, trivial, trivial, trivial, trivial⟩
  rintro _ ⟨⟩
  exact ⟨by decide +kernel, List.forall_mem_nil _, List.forall_mem_nil _⟩

/-- The one chunk is counted, and the upload completes. -/
theorem one_chunk_completes :
    let final := (progressMachine sampleSettings sampleId).run ⟨newPool sampleServer, .none⟩ oneChunk
    Stored sampleSettings sampleCaller sampleId sampleBody [1, 2, 3] final.pool.shared
      (completed sampleSettings sampleCaller sampleId final.pool.shared).1
      (completed sampleSettings sampleCaller sampleId final.pool.shared).2 := by
  refine @counted_upload_completes sampleSettings sampleId sampleServer oneChunk 1 sampleCaller
    sampleBody rfl rfl oneChunk_fresh ?_ ?_ ?_ ?_ sampleCaller
  · exact ⟨trivial, trivial, trivial, trivial, trivial, trivial, trivial, trivial, trivial⟩
  · refine ⟨trivial, ?_, trivial, ?_, ?_, ?_, ?_, ?_, trivial⟩
    all_goals rintro _ _ ⟨⟩
    any_goals trivial
    · exact fun _ => nofun
    · exact fun _ => ⟨⟨⟨0, by decide, rfl⟩, nofun⟩, _, by decide +kernel, rfl⟩
  · exact ⟨_, List.mem_cons_self, rfl, _, _, rfl⟩
  · intro i bound
    obtain rfl := Nat.lt_one_iff.mp bound
    exact ⟨_, List.mem_cons_of_mem _ List.mem_cons_self, _, _, _, _, rfl, rfl⟩

/-- The chunk is sent once more. -/
def retriedChunk : List UploadEvent :=
  oneChunk ++ .start (.uploadChunk sampleCaller sampleId "0" (some [1, 2, 3])) :: goesOn 2 5

/-- A chunk that is sent again is counted again, and the upload never completes. -/
theorem retry_prevents_completion :
    ¬ ∀ (server : UploadServer) (events : List UploadEvent) (uploadId : String) (total : Nat)
      (owner : Caller) (body : InitiateBody), server.redis = .empty →
      body.totalChunks = some total →
      (∀ request, .start request ∈ events → ∀ caller, request ≠ .complete caller uploadId) →
      (progressMachine sampleSettings uploadId).Admits (fun current => Fresh current.pool)
        ⟨newPool server, .none⟩ events → (progressMachine sampleSettings uploadId).Admits
        (fun current => Unexpired uploadId current.pool) ⟨newPool server, .none⟩ events →
      let final := (progressMachine sampleSettings uploadId).run ⟨newPool server, .none⟩ events
      (∃ call ∈ final.pool.calls, call.input = .initiate owner body uploadId ∧
        ∃ chunkSize totalChunks,
          call.program.outcome? = some (.ok (.initiated uploadId chunkSize totalChunks))) →
      (∀ i < total, ∃ call ∈ final.pool.calls, ∃ caller data totalReceived totalChunks,
        call.input = .uploadChunk caller uploadId (toString i) data ∧ call.program.outcome? =
          some (.ok (.received (toString i) totalReceived totalChunks))) →
      ∀ caller, Stored sampleSettings caller uploadId body
        (final.history.contents (List.range total)) final.pool.shared
          (completed sampleSettings caller uploadId final.pool.shared).1
          (completed sampleSettings caller uploadId final.pool.shared).2 := by
  intro completes
  have uncompleted (request : UploadRequest) (sent : .start request ∈ retriedChunk)
      (caller : Caller) : request ≠ .complete caller sampleId := by
    rintro rfl
    simp [retriedChunk, oneChunk, goesOn] at sent
  obtain ⟨_, _, answered⟩ := completes sampleServer retriedChunk sampleId 1 sampleCaller sampleBody
    rfl rfl uncompleted
    (Transducer.admits_append.mpr ⟨oneChunk_fresh, nofun, trivial, trivial, trivial, trivial,
      trivial, trivial⟩)
    ⟨trivial, trivial, trivial, trivial, trivial, trivial, trivial, trivial, trivial, trivial,
      trivial, trivial, trivial, trivial, trivial⟩
    ⟨_, List.mem_cons_self, rfl, _, _, rfl⟩
    (fun i bound => by
      obtain rfl := Nat.lt_one_iff.mp bound
      exact ⟨_, List.mem_cons_of_mem _ List.mem_cons_self, _, _, _, _, rfl, rfl⟩) sampleCaller
  exact absurd answered (by decide +kernel)

end Completion

end Caas.Media
