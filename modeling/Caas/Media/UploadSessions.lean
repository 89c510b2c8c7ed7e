import Caas.Media.UploadPhases
import Caas.Redis.Keys

/-!
# Whose sessions and chunks Redis has

An upload id that a route draws has no colon, so that the keys of different uploads differ. A
session in Redis belongs to the user who initiated it, chunks are stored under ids of initiated
uploads, and a request that goes on with a session goes on with one of its upload id.
-/

namespace Caas.Media

open Js Async Redis UploadRoutes

/-- The key is the one of the session, or of a chunk. -/
def OfUpload (uploadId key : String) : Prop :=
  key = sessionKey uploadId ∨ ∃ number, key = chunkKey uploadId number

def writtenKey : UploadCommand → Option String
  | .redis (.setex key _ _) | .redis (.del key) => some key
  | _ => none

section Keys

variable {uploadId other number number' : String}

theorem colon_notMem (valid : isObjectId uploadId = true) : ':' ∉ uploadId.toList := by
  intro here
  simp only [isObjectId, Bool.and_eq_true, List.all_eq_true] at valid
  exact absurd (valid.2 ':' here) (by decide)

theorem sessionKey_inj (same : sessionKey uploadId = sessionKey other) : uploadId = other := by
  have chars := congrArg String.toList same
  simp only [sessionKey, String.toList_append] at chars
  exact String.toList_inj.mp (List.append_cancel_left chars)

theorem toList_chunkKey (uploadId number : String) : (chunkKey uploadId number).toList =
      "chunk:".toList ++ (uploadId.toList ++ ':' :: number.toList) := by
  simp [chunkKey, String.toList_append]

theorem chunkKey_inj (valid : isObjectId uploadId = true) (valid' : isObjectId other = true)
    (same : chunkKey uploadId number = chunkKey other number') :
    uploadId = other ∧ number = number' := by
  have chars := congrArg String.toList same
  rw [toList_chunkKey, toList_chunkKey] at chars
  obtain ⟨ids, numbers⟩ := eq_of_append_cons_eq (List.append_cancel_left chars)
    (colon_notMem valid) (colon_notMem valid')
  exact ⟨String.toList_inj.mp ids, String.toList_inj.mp numbers⟩

theorem sessionKey_ne_chunkKey (valid : isObjectId uploadId = true) :
    sessionKey uploadId ≠ chunkKey other number := by
  intro same
  have chars := congrArg String.toList same
  rw [toList_chunkKey] at chars
  simp only [sessionKey, String.toList_append] at chars
  have ids := List.append_cancel_left chars
  refine colon_notMem valid ?_
  rw [ids]
  exact List.mem_append_right _ List.mem_cons_self

theorem uploadId_eq {uploadId other key : String} (valid : isObjectId uploadId = true)
    (valid' : isObjectId other = true) (own : OfUpload uploadId key) (own' : OfUpload other key) :
    uploadId = other := by
  obtain rfl | ⟨number, rfl⟩ := own
  · obtain same | ⟨number, same⟩ := own'
    · exact sessionKey_inj same
    · exact absurd same (sessionKey_ne_chunkKey valid)
  · obtain same | ⟨number', same⟩ := own'
    · exact absurd same.symm (sessionKey_ne_chunkKey valid')
    · exact (chunkKey_inj valid valid' same).1

end Keys

/-- The ids that `new ObjectId` draws are new. -/
def Fresh (pool : UploadPool) : UploadEvent → Prop
  | .start request => ∀ id, request.draw? = some id → isObjectId id = true ∧
    (∀ call ∈ pool.calls, call.input.draw? ≠ some id) ∧ ∀ file ∈ pool.shared.media, file.id ≠ id
  | .run _ _ | .change _ => True

def Initiated (pool : UploadPool) (uploadId : String) (owner : Caller) : Prop :=
  ∃ call ∈ pool.calls, ∃ body, call.input = .initiate owner body uploadId

def draws (id : String) (request : UploadRequest) : Bool := request.draw? = some id

/-- What a key holds belongs to an initiated upload. -/
def Filed (initiated : String → Caller → Prop) (key : String) : RedisText → Prop
  | .session session => ∃ uploadId owner, key = sessionKey uploadId ∧ initiated uploadId owner ∧
    session.ownedBy owner = true
  | .chunk _ => ∃ uploadId number owner, key = chunkKey uploadId number ∧ initiated uploadId owner

/-- What a request has read under its id. -/
def Phase.opened? : Phase → Option (Option UploadSession)
  | .authorized session | .stored session => some (some session)
  | .reading session | .placed session | .inserted session => some session
  | _ => none

/-- What a request has read is a session of its upload; a chunk request has read one of its
caller. What else a complete request reads is not under a valid id. -/
def Opens (initiated : String → Caller → Prop) : UploadRequest → Option UploadSession → Prop
  | .uploadChunk caller uploadId _ _, some session =>
    initiated uploadId caller ∧ session.ownedBy caller = true
  | .complete _ uploadId, some _ => ∃ owner, initiated uploadId owner
  | .complete _ uploadId, none => isObjectId uploadId = false
  | .uploadChunk _ _ _ _, none | .upload _ _ _, _ | .initiate _ _ _, _ => False

/-- Ids are drawn once, and requests and Redis have sessions and chunks of initiated uploads. -/
structure Sound (pool : UploadPool) : Prop where
  drawn : ∀ call ∈ pool.calls, ∀ id, call.input.draw? = some id → isObjectId id = true
  single : ∀ id, (pool.calls.countP fun call => draws id call.input) ≤ 1
  filed : ∀ time key text, pool.shared.redis.lookup time key = some text →
    Filed (Initiated pool) key text
  opened : ∀ call ∈ pool.calls, ∀ session, call.phase.opened? = some session →
    Opens (Initiated pool) call.input session

section Steps

variable {settings : UploadSettings} {pool pool' : UploadPool} {call : UploadCall} {phase : Phase}
  {initiated initiated' : String → Caller → Prop} {request : UploadRequest}

theorem Filed.mono {key : String} {text : RedisText} (filed : Filed initiated key text)
    (stays : ∀ uploadId owner, initiated uploadId owner → initiated' uploadId owner) :
    Filed initiated' key text := by
  cases text with
  | session session =>
    obtain ⟨uploadId, owner, own, drawn, owned⟩ := filed
    exact ⟨uploadId, owner, own, stays _ _ drawn, owned⟩
  | chunk base64 =>
    obtain ⟨uploadId, number, owner, own, drawn⟩ := filed
    exact ⟨uploadId, number, owner, own, stays _ _ drawn⟩

theorem Opens.mono {session : Option UploadSession} (opens : Opens initiated request session)
    (stays : ∀ uploadId owner, initiated uploadId owner → initiated' uploadId owner) :
    Opens initiated' request session := by
  cases request with
  | upload | initiate => exact opens
  | uploadChunk caller uploadId =>
    cases session with
    | none => exact opens
    | some session => exact ⟨stays _ _ opens.1, opens.2⟩
  | complete caller uploadId =>
    cases session with
    | none => exact opens
    | some session => exact opens.imp fun _ => stays _ _

theorem Initiated.goes (goes : pool.Goes call phase pool') {uploadId : String} {owner : Caller}
    (drawn : Initiated pool uploadId owner) : Initiated pool' uploadId owner := by
  obtain ⟨other, here, body, input⟩ := drawn
  obtain ⟨after, there, same⟩ := goes.input here
  exact ⟨after, there, body, same.trans input⟩

theorem Initiated.start {uploadId : String} {owner : Caller}
    (drawn : Initiated pool uploadId owner) :
    Initiated (pool.start (host settings) (fun _ => .start) request) uploadId owner := by
  obtain ⟨other, here, initiates⟩ := drawn
  exact ⟨other, List.mem_append_left _ here, initiates⟩

theorem sound_new (server : UploadServer) (unfiled : server.redis = .empty) :
    Sound (newPool server) := by
  refine ⟨List.forall_mem_nil _, fun _ => Nat.zero_le 1, fun time key text found => ?_,
    List.forall_mem_nil _⟩
  simp only [newPool, unfiled] at found
  cases found

theorem Sound.start (sound : Sound pool) (fresh : Fresh pool (.start request)) :
    Sound (pool.start (host settings) (fun _ => .start) request) := by
  refine ⟨fun call here id draw => ?_, fun id => ?_, fun time key text found => ?_,
    fun call here session phase => ?_⟩
  · rcases Pool.mem_start here with earlier | rfl
    · exact sound.drawn call earlier id draw
    · exact (fresh id draw).1
  · simp only [Pool.start, List.countP_append, List.countP_singleton]
    split
    · rename_i drawn
      have unused : (pool.calls.countP fun call => draws id call.input) = 0 :=
        List.countP_eq_zero.mpr fun call here same =>
          (fresh id (of_decide_eq_true drawn)).2.1 call here (of_decide_eq_true same)
      omega
    · exact sound.single id
  · exact (sound.filed time key text found).mono fun _ _ => Initiated.start
  · rcases Pool.mem_start here with earlier | rfl
    · exact (sound.opened call earlier session phase).mono fun _ _ => Initiated.start
    · cases phase

theorem Sound.change (sound : Sound pool) (elapsed : Nat) :
    Sound { pool with shared := (host settings).change pool.shared elapsed } :=
  ⟨sound.drawn, sound.single, sound.filed, sound.opened⟩

theorem readSession_some {found : Option RedisText} {session : UploadSession}
    (read : readSession found = some (some session)) : found = some (.session session) := by
  obtain ⟨text, kept, parsed⟩ := Option.bind_eq_some_iff.mp read
  rw [(Option.filter_eq_some_iff.mp kept).1]
  cases text with
  | session record =>
    cases parsed
    rfl
  | chunk base64 =>
    simp only [RedisText.parse] at parsed
    split at parsed <;> cases parsed

theorem readSession_none {found : Option RedisText} (read : readSession found = some none) :
    ∃ base64, found = some (.chunk base64) := by
  obtain ⟨text, kept, parsed⟩ := Option.bind_eq_some_iff.mp read
  cases text with
  | session record => cases parsed
  | chunk base64 => exact ⟨base64, (Option.filter_eq_some_iff.mp kept).1⟩

theorem eq_of_ownedBy {session : UploadSession} {caller owner : Caller}
    (own : session.ownedBy caller = true) (owned : session.ownedBy owner = true) :
    owner = caller := by
  simp only [UploadSession.ownedBy, Bool.and_eq_true, decide_eq_true_eq] at own owned
  cases owner
  cases caller
  rw [Caller.mk.injEq]
  exact ⟨owned.1.symm.trans own.1, owned.2.symm.trans own.2⟩

theorem opens_chunk {caller : Caller} {uploadId chunkNumber : String} {data : Option Buffer}
    {found : Option RedisText} {session : Option UploadSession}
    (filed : ∀ text, found = some text → Filed initiated (sessionKey uploadId) text)
    (next : (opened (.uploadChunk caller uploadId chunkNumber data)
      (readSession found)).opened? = some session) :
    Opens initiated (.uploadChunk caller uploadId chunkNumber data) session := by
  cases read : readSession found with
  | none =>
    rw [read] at next
    cases next
  | some parsed =>
    cases parsed with
    | none =>
      rw [read] at next
      cases next
    | some record =>
      rw [read, opened] at next
      split at next
      · rename_i own
        cases next
        obtain ⟨other, owner, same, drawn, owned⟩ := filed _ (readSession_some read)
        obtain rfl := sessionKey_inj same
        obtain rfl := eq_of_ownedBy own owned
        exact ⟨drawn, owned⟩
      · cases next

/-- What a complete request goes on with is a session of its upload, or is not under a valid
id. -/
theorem opens_complete {caller : Caller} {uploadId : String} {found : Option RedisText}
    {session : Option UploadSession}
    (filed : ∀ text, found = some text → Filed initiated (sessionKey uploadId) text)
    (next : (opened (.complete caller uploadId) (readSession found)).opened? = some session) :
    Opens initiated (.complete caller uploadId) session := by
  cases read : readSession found with
  | none =>
    rw [read] at next
    cases next
  | some parsed =>
    rw [read, opened] at next
    split at next
    · cases next
      cases session with
      | none =>
        obtain ⟨base64, there⟩ := readSession_none read
        obtain ⟨other, number, owner, same, _⟩ := filed _ there
        exact Bool.eq_false_of_not_eq_true fun valid => sessionKey_ne_chunkKey valid same
      | some record =>
        obtain ⟨other, owner, same, drawn, _⟩ := filed _ (readSession_some read)
        obtain rfl := sessionKey_inj same
        exact ⟨owner, drawn⟩
    · cases next

theorem opens_next {command : UploadCommand} (awaits : Awaits settings request phase command)
    {server : UploadServer} (filed : ∀ time key text, server.redis.lookup time key = some text →
      Filed initiated key text)
    (was : ∀ session, phase.opened? = some session → Opens initiated request session)
    (fault : Option String) {session : Option UploadSession}
    (next : (nextPhase request phase command (server.exec command fault).2).opened? =
      some session) : Opens initiated request session := by
  cases fault with
  | some error => cases phase <;> first | exact was session next | cases next
  | none =>
    cases awaits with
    | openChunk => exact opens_chunk (filed server.now _) next
    | openFile => exact opens_complete (filed server.now _) next
    | requestFile before | publish _ _ before =>
      obtain rfl | ⟨_, rfl⟩ := before
      · cases next
      · exact was session next
    | readStream before =>
      obtain ⟨_, rfl⟩ | ⟨_, rfl⟩ := before
      · exact was session next
      · cases next
    | setProgress _ _ before => obtain rfl | ⟨_, rfl⟩ := before <;> cases next
    | storeChunk | readChunk | place | deleteChunk | deleteSession => exact was session next
    | insert =>
      simp only [UploadServer.exec, UploadServer.answer] at next
      split at next
      · cases next
      · exact was session next
    | insertUpload =>
      simp only [UploadServer.exec, UploadServer.answer] at next
      split at next <;> cases next
    | findQuota caller file fileId =>
      cases file with
      | none => cases next
      | some file =>
        change (checked (.upload caller (some file) fileId)
          (OrderedMap.get server.quotas caller.tenantId)).opened? = some session at next
        rw [checked] at next
        split at next <;> cases next
    | initiate | countChunk | putUpload | incQuota => cases next

/-- A command makes only what belongs to an initiated upload visible. -/
theorem filed_exec {command : UploadCommand} (awaits : Awaits settings request phase command)
    {server : UploadServer} (filed : ∀ time key text, server.redis.lookup time key = some text →
      Filed initiated key text)
    (opens : ∀ session, phase.opened? = some session → Opens initiated request session)
    (initiates : ∀ owner body uploadId, request = .initiate owner body uploadId →
      initiated uploadId owner) (fault : Option String) (time : Nat) (key : String)
    (text : RedisText) (found : (server.exec command fault).1.redis.lookup time key = some text) :
    Filed initiated key text := by
  cases fault with
  | some error => exact filed time key text found
  | none =>
    cases command with
    | redis command =>
      rcases StringCommand.lookup_exec found with before | ⟨seconds, rfl⟩
      · exact filed time key text before
      · cases awaits with
        | initiate caller body uploadId =>
          refine ⟨uploadId, caller, rfl, initiates caller body uploadId rfl, ?_⟩
          simp [UploadSession.ownedBy, Media.initiated]
        | storeChunk caller uploadId chunkNumber chunk session =>
          exact ⟨uploadId, chunkNumber, caller, rfl, (opens _ rfl).1⟩
        | countChunk caller uploadId chunkNumber data session =>
          exact ⟨uploadId, caller, rfl, opens _ rfl⟩
    | insertFile file =>
      simp only [UploadServer.exec, UploadServer.answer] at found
      split at found <;> exact filed time key text found
    | _ => exact filed time key text found

end Steps

section Runs

variable {settings : UploadSettings} {pool : UploadPool}

theorem Sound.resume (sound : Sound pool) {index : Nat} {call : UploadCall}
    {command : UploadCommand} {next : command.Reply → UploadProgram UploadReply}
    {fault : Option String} (present : pool.calls[index]? = some call)
    (awaits : Awaits settings call.input call.phase command) :
    Sound (pool.resume (discipline settings) index call command next
      (pool.shared.exec command fault)) := by
  have goes := @Pool.goes_resume _ _ _ _ _ _ (discipline settings) pool index call command next
    (pool.shared.exec command fault) present
  have opens := sound.opened call goes.member
  refine ⟨?_, fun id => ?_, fun time key text found => ?_, ?_⟩
  · exact @Pool.Goes.forall _ _ _ _ _ _ _ _ _ _ goes (fun request _ => ∀ id,
      request.draw? = some id → isObjectId id = true) (sound.drawn call goes.member) sound.drawn
  · rw [goes.countP_input (draws id)]
    exact sound.single id
  · refine (filed_exec awaits sound.filed opens (fun owner body uploadId input => ?_) fault time key
      text found).mono fun _ _ => Initiated.goes goes
    exact ⟨call, goes.member, body, input⟩
  · refine @Pool.Goes.forall _ _ _ _ _ _ _ _ _ _ goes (fun request phase => ∀ session,
      phase.opened? = some session → Opens (Initiated _) request session) ?_ ?_
    · exact fun session phase => (opens_next awaits sound.filed opens fault phase).mono
        fun _ _ => Initiated.goes goes
    · exact fun other here session phase => (sound.opened other here session phase).mono
        fun _ _ => Initiated.goes goes

theorem Sound.drawn_eq (sound : Sound pool) {call other : UploadCall} (here : call ∈ pool.calls)
    (there : other ∈ pool.calls) {id : String} (draw : call.input.draw? = some id)
    (draw' : other.input.draw? = some id) : call = other :=
  Pool.eq_of_countP_le_one (sound.single id) here there (decide_eq_true draw)
    (decide_eq_true draw')

theorem Sound.valid (sound : Sound pool) {uploadId : String} {owner : Caller}
    (drawn : Initiated pool uploadId owner) : isObjectId uploadId = true := by
  obtain ⟨call, here, body, input⟩ := drawn
  refine sound.drawn call here uploadId ?_
  rw [input]
  rfl

theorem Sound.owner_eq (sound : Sound pool) {uploadId : String} {owner other : Caller}
    (drawn : Initiated pool uploadId owner) (drawn' : Initiated pool uploadId other) :
    owner = other := by
  obtain ⟨call, here, body, input⟩ := drawn
  obtain ⟨call', here', body', input'⟩ := drawn'
  obtain rfl := sound.drawn_eq here here' (congrArg UploadRequest.draw? input)
    (congrArg UploadRequest.draw? input')
  cases input.symm.trans input'
  rfl

end Runs

end Caas.Media
