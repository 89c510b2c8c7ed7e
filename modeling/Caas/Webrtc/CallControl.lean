import Caas.Webrtc.EndedCalls

/-!
# Call control

A one-to-one call should be answered by its callee, and rejected or ended by one of its two
participants. An answer asks only for a participant, so a caller can answer their own call; a
rejection and a hang-up ask for nobody, so anyone who knows the id can end the call. A disconnect
ends calls of its user only.

Who takes part in a call never changes. The history is the roster of the calls that have been made.
-/

namespace Caas.Webrtc.CallControl

open Async hiding Call
open Program Js Redis

/-- The records an operation has read, and the id it has drawn. -/
structure ControlPhase where
  read : List Call := []
  drawn : Option String := none

def nextPhase (phase : ControlPhase) : (command : CallCommand) → command.Reply → ControlPhase
  | .get _, (some call, _) => { phase with read := phase.read ++ [call] }
  | .randomUUID, (callId, _) => { phase with drawn := some callId }
  | _, _ => phase

theorem nextPhase_get (phase : ControlPhase) (callId : String) (data : Option Call) (now : Nat) :
    nextPhase phase (.get callId) (data, now) =
      ⟨phase.read ++ data.toList, phase.drawn⟩ := by
  cases data with
  | none => simp [nextPhase]
  | some call => rfl

def Found (read : List Call) (callId userId : String) : Prop :=
  ∃ copy ∈ read, copy.id = callId ∧ userId ∈ copy.participantIds

/-- The users of a call stay those of a record that has been read. -/
def KeepsUsers (read : List Call) (call : Call) : Prop :=
  ∃ copy ∈ read, copy.id = call.id ∧ copy.participantIds = call.participantIds ∧
    copy.callerId = call.callerId

/-- A one-to-one call is answered for its callee, and rejected or ended for a user who has been
found in it. -/
structure Authorized (input : WebrtcInput) (read : List Call) (call : Call) : Prop where
  answered : call.type = .oneToOne → call.status = .answered →
    ∃ user, input = .event user (.answer call.id) ∧ call.calleeId? = some user.userId
  ended : call.type = .oneToOne → call.status = .rejected ∨ call.status = .ended →
    ∃ user, input.user? = some user ∧ Found read call.id user.userId

/-- What is stored of a call: a new one, or a change of one that has been read. -/
inductive Stores (input : WebrtcInput) (phase : ControlPhase) (call : Call) : Prop where
  | create (user : SocketUser) (calleeId : String) (mediaType : MediaType)
    (initiates : input = .event user (.initiate calleeId mediaType))
    (drawn : phase.drawn = some call.id) (ringing : call.status = .ringing)
    (users : call.participantIds = [user.userId, calleeId]) (caller : call.callerId = user.userId)
  | change (keeps : KeepsUsers phase.read call) (authorized : Authorized input phase.read call)

def Awaits (input : WebrtcInput) (phase : ControlPhase) : CallCommand → Prop
  | .set call => Stores input phase call
  | _ => True

/-- Who may have read a record: the callee of a ringing call, to answer it; a participant, to
reject it or hang up. -/
def Entitled (call : Call) : WebrtcInput → Prop
  | .event user (.answer _) => call.type = .oneToOne → call.status = .ringing →
    call.calleeId? = some user.userId
  | .event user (.reject _) => call.type = .oneToOne → call.status = .ringing →
    user.userId ∈ call.participantIds
  | .event user (.hangup _) => call.type = .oneToOne →
    call.status ≠ .ended ∧ call.status ≠ .rejected → user.userId ∈ call.participantIds
  | _ => True

/-- What a record that is read is: stored under its id, of a caller who takes part in it, and of a
call that the reader is entitled to. -/
def Assumes (input : WebrtcInput) : (command : CallCommand) → command.Reply → Prop
  | .get callId, (some call, _) =>
    call.id = callId ∧ call.callerId ∈ call.participantIds ∧ Entitled call input
  | _, _ => True

def discipline (input : WebrtcInput) : Discipline CallCommand CallCommand.Reply ControlPhase where
  next := nextPhase
  may := Awaits input
  assumes := Assumes input

def ends {α : Type} (_ : ControlPhase) (_ : Outcome α) : Prop := True

theorem Found.mono {read later : List Call} {callId userId : String}
    (found : Found read callId userId) (more : read ⊆ later) : Found later callId userId := by
  obtain ⟨copy, here, own⟩ := found
  exact ⟨copy, more here, own⟩

theorem mem_of_isActiveFor {call : Call} {userId : String}
    (active : CallStore.isActiveFor userId call = true)
    (caller : call.callerId ∈ call.participantIds) : userId ∈ call.participantIds := by
  rcases (CallStore.isActiveFor_iff.mp active).2.2 with among | rfl
  · exact among
  · exact caller

section Respects

variable {input : WebrtcInput} {phase : ControlPhase}

theorem read_subset (phase : ControlPhase) (command : CallCommand) (reply : command.Reply) :
    phase.read ⊆ (nextPhase phase command reply).read := by
  cases command with
  | get callId =>
    obtain ⟨data, now⟩ := reply
    rw [nextPhase_get]
    exact List.subset_append_left phase.read data.toList
  | keys | set | del | randomUUID | insertOne | emit => exact fun _ => id

theorem respects_grows {α : Type} {program : CallProgram α} {post : ControlPhase → Outcome α → Prop}
    (respects : program.Respects (discipline input) post phase) :
    program.Respects (discipline input)
      (fun after outcome => phase.read ⊆ after.read ∧ post after outcome) phase := by
  induction program generalizing phase with
  | result | failure => exact ⟨fun _ => id, respects⟩
  | await command next ih =>
    refine ⟨respects.1, fun reply assumed => ?_⟩
    refine (ih reply (respects.2 reply assumed)).mono fun after outcome grown => ?_
    exact ⟨List.Subset.trans (read_subset phase command reply) grown.1, grown.2⟩

theorem seq_respects {α β : Type} {program : CallProgram α} {next : α → CallProgram β}
    (first : program.Respects (discipline input) ends phase)
    (rest : ∀ value after, phase.read ⊆ after.read →
      (next value).Respects (discipline input) ends after) :
    (program >>= next).Respects (discipline input) ends phase := by
  refine respects_bind ((respects_grows first).mono fun after outcome grown => ?_)
  cases outcome with
  | ok value => exact rest value after grown.1
  | error error => trivial

theorem getCall_respects {α : Type} {callId : String} {next : Option Call × Nat → CallProgram α}
    (missing : ∀ now, (next (none, now)).Respects (discipline input) ends phase)
    (found : ∀ call now, call.id = callId → call.callerId ∈ call.participantIds →
      Entitled call input → (next (some call, now)).Respects (discipline input) ends
        { phase with read := phase.read ++ [call] }) :
    (CallStore.getCall callId >>= next).Respects (discipline input) ends phase := by
  refine ⟨trivial, fun (reply : Option Call × Nat) assumed => ?_⟩
  obtain ⟨call, now⟩ := reply
  cases call with
  | none => exact missing now
  | some call => exact found call now assumed.1 assumed.2.1 assumed.2.2

theorem saveCall_respects {call : Call} (stores : Stores input phase call) :
    (CallStore.saveCall call).Respects (discipline input) ends phase :=
  ⟨stores, fun _ _ => trivial⟩

theorem mem_last {read : List Call} {call : Call} : call ∈ read ++ [call] :=
  List.mem_append_right read (List.mem_singleton_self call)

def ActiveCalls (read : List Call) (userId : String) (calls : List Call) : Prop :=
  ∀ call ∈ calls, Found read call.id userId

theorem collectActiveCalls_respects {α : Type} {next : List Call → CallProgram α} {userId : String}
    (later : ∀ calls after, ActiveCalls after.read userId calls →
      (next calls).Respects (discipline input) ends after)
    (keys : List String) (activeCalls : List Call) (phase : ControlPhase)
    (active : ActiveCalls phase.read userId activeCalls) :
    (CallStore.collectActiveCalls userId activeCalls keys >>= next).Respects
      (discipline input) ends phase := by
  induction keys generalizing activeCalls phase with
  | nil => exact later activeCalls phase active
  | cons key rest ih =>
    refine ⟨trivial, fun (reply : Option Call × Nat) assumed => ?_⟩
    refine ih _ _ fun call here => ?_
    rcases List.mem_append.mp here with before | new
    · exact (active call before).mono (read_subset phase (.get key) reply)
    · obtain ⟨data, now⟩ := reply
      cases data with
      | none => cases new
      | some data =>
        obtain ⟨data_eq, isActive⟩ := List.mem_filter.mp new
        cases List.mem_singleton.mp data_eq
        exact ⟨call, mem_last, rfl, mem_of_isActiveFor isActive assumed.2.1⟩

theorem getActiveCallsForUser_respects {α : Type} {next : List Call → CallProgram α}
    {userId : String} (later : ∀ calls after, ActiveCalls after.read userId calls →
      (next calls).Respects (discipline input) ends after) (phase : ControlPhase) :
    (CallStore.getActiveCallsForUser userId >>= next).Respects (discipline input) ends phase :=
  ⟨trivial, fun (keys : List String) _ =>
    collectActiveCalls_respects later keys [] phase fun _ none => absurd none List.not_mem_nil⟩

theorem initiateCall_respects (user : SocketUser) (calleeId : String) (mediaType : MediaType) :
    (CallManager.initiateCall user.userId calleeId mediaType user.tenantId).Respects
      (discipline (.event user (.initiate calleeId mediaType))) ends phase := by
  refine getActiveCallsForUser_respects (fun activeCalls after _ => ?_) phase
  split
  · trivial
  · refine getActiveCallsForUser_respects (fun calleeActiveCalls later _ => ?_) after
    split
    · trivial
    · refine ⟨trivial, fun (drawn : String × Nat) _ => ?_⟩
      obtain ⟨callId, now⟩ := drawn
      exact ⟨.create user calleeId mediaType rfl rfl rfl rfl rfl, fun _ _ => trivial⟩

theorem stores_last {copy call : Call} (id : copy.id = call.id)
    (users : call.participantIds = copy.participantIds) (caller : copy.callerId = call.callerId)
    (authorized : Authorized input (phase.read ++ [copy]) call) :
    Stores input { phase with read := phase.read ++ [copy] } call :=
  .change ⟨copy, mem_last, id, users.symm, caller⟩ authorized

theorem answerCall_respects (user : SocketUser) (callId : String) :
    (CallManager.answerCall callId user.userId).Respects
      (discipline (.event user (.answer callId))) ends phase := by
  refine getCall_respects (fun _ => trivial) fun call now own _ entitled => ?_
  dsimp only
  split
  · trivial
  · rename_i ringing
    cases call.participant? user.userId with
    | none => trivial
    | some _ =>
      have users := @participantIds_update user.userId
        (fun participant => { participant with status := .connected, joinedAt := some now })
        (fun _ => rfl) call.participants
      refine ⟨stores_last rfl users rfl ⟨fun oneToOne _ => ⟨user, own ▸ rfl, ?_⟩, ?_⟩,
        fun _ _ => trivial⟩
      · exact (congrArg (fun ids : List String => ids[1]?) users).trans
          (entitled oneToOne (not_not.mp ringing))
      · intro _ ended
        rcases ended with ended | ended <;> cases ended

theorem rejectCall_respects (user : SocketUser) (callId : String) :
    (CallManager.rejectCall callId user.userId).Respects
      (discipline (.event user (.reject callId))) ends phase := by
  refine getCall_respects (fun _ => trivial) fun call now own _ entitled => ?_
  dsimp only
  split
  · trivial
  · rename_i ringing
    refine saveCall_respects (stores_last rfl rfl rfl ⟨fun _ answered => ?_, fun oneToOne _ => ?_⟩)
    · cases answered
    · exact ⟨user, rfl, call, mem_last, rfl, entitled oneToOne (not_not.mp ringing)⟩

theorem ringingTimeout_respects (callId : String) :
    (CallManager.ringingTimeout callId).Respects (discipline (.ringingTimeout callId)) ends
      phase := by
  refine getCall_respects (fun _ => trivial) fun call now _ _ _ => ?_
  dsimp only
  split
  · refine saveCall_respects (stores_last rfl rfl rfl ⟨fun _ answered => ?_, fun _ ended => ?_⟩)
    · cases answered
    · rcases ended with ended | ended <;> cases ended
  · trivial

variable (config : CallHistoryConfig)

theorem saveCallHistory_respects (callId : String) :
    (CallHistorySaver.saveCallHistory config callId).Respects (discipline input) ends phase := by
  refine getCall_respects (fun _ => trivial) fun call now _ _ _ => ?_
  dsimp only
  split
  · refine ⟨trivial, fun (inserted : Outcome Unit) _ => ?_⟩
    cases inserted with
    | ok _ => exact ⟨trivial, fun _ _ => trivial⟩
    | error _ => trivial
  · exact ⟨trivial, fun _ _ => trivial⟩

theorem endCall_respects (user : SocketUser) (own : input.user? = some user) (callId : String)
    (among : ∀ call, call.id = callId → Entitled call input → call.type = .oneToOne →
      call.status ≠ .ended ∧ call.status ≠ .rejected →
        Found (phase.read ++ [call]) callId user.userId) :
    (CallTerminator.endCall config callId user.userId .userHangup).Respects (discipline input) ends
      phase := by
  refine getCall_respects (fun _ => trivial) fun call now same _ entitled => ?_
  dsimp only
  split
  · trivial
  · rename_i goesOn
    refine ⟨stores_last rfl rfl rfl ⟨fun _ answered => ?_, fun oneToOne _ => ⟨user, own, ?_⟩⟩,
      fun _ _ => ⟨trivial, fun _ _ => saveCallHistory_respects config callId⟩⟩
    · cases answered
    · exact same ▸ among call same entitled oneToOne (not_or.mp goesOn)

theorem endCallForUser_respects (user : SocketUser) (callId : String)
    (found : Found phase.read callId user.userId) :
    (CallTerminator.endCallForUser config callId user.userId).Respects
      (discipline (.disconnect user)) ends phase := by
  refine getCall_respects (fun _ => trivial) fun call now same _ _ => ?_
  have again {more : List Call} (subset : phase.read ⊆ more) (call : Call)
      (_ : call.id = callId) (_ : Entitled call (.disconnect user)) (_ : call.type = .oneToOne)
      (_ : call.status ≠ .ended ∧ call.status ≠ .rejected) :
      Found (more ++ [call]) callId user.userId :=
    found.mono (List.Subset.trans subset (List.subset_append_left more [call]))
  have kept := List.subset_append_left phase.read [call]
  dsimp only
  split
  · exact endCall_respects config user rfl callId (again kept)
  · rename_i group
    have users := @participantIds_update user.userId
      (fun participant => { participant with status := .disconnected, leftAt := some now })
      (fun _ => rfl) call.participants
    refine ⟨stores_last rfl users rfl ⟨fun oneToOne => absurd oneToOne group,
      fun oneToOne => absurd oneToOne group⟩, fun _ _ => ⟨trivial, fun _ _ => ?_⟩⟩
    split
    · exact endCall_respects config user rfl callId (again kept)
    · trivial

theorem endCallsForUser_respects (user : SocketUser) (calls : List Call) (phase : ControlPhase)
    (active : ActiveCalls phase.read user.userId calls) :
    (CallTerminator.endCallsForUser config user.userId calls).Respects
      (discipline (.disconnect user)) ends phase := by
  induction calls generalizing phase with
  | nil => trivial
  | cons call rest ih =>
    refine seq_respects (endCallForUser_respects config user call.id
      (active call List.mem_cons_self)) fun _ after more => ih after fun other here => ?_
    exact (active other (List.mem_cons_of_mem call here)).mono more

theorem handleDisconnect_respects (user : SocketUser) :
    (CallTerminator.handleDisconnect config user.userId).Respects (discipline (.disconnect user))
      ends phase := by
  have ending := @getActiveCallsForUser_respects (.disconnect user) Unit
    (CallTerminator.endCallsForUser config user.userId) user.userId
    (fun calls after active => endCallsForUser_respects config user calls after active) phase
  refine respects_catching (ending.mono fun after outcome _ => ?_)
  cases outcome <;> trivial

variable (gate : EventGate)

theorem perform_respects (user : SocketUser) (event : WebrtcEvent) :
    (WebrtcNamespace.perform config user event).Respects (discipline (.event user event)) ends
      phase := by
  cases event with
  | initiate calleeId mediaType =>
    exact seq_respects (initiateCall_respects user calleeId mediaType) fun _ _ _ => trivial
  | answer callId => exact seq_respects (answerCall_respects user callId) fun _ _ _ => trivial
  | reject callId => exact seq_respects (rejectCall_respects user callId) fun _ _ _ => trivial
  | hangup callId =>
    refine seq_respects (endCall_respects config user rfl callId ?_) fun _ _ _ => trivial
    exact fun call own entitled oneToOne goesOn =>
      ⟨call, mem_last, own, entitled oneToOne goesOn⟩

theorem handle_respects (user : SocketUser) (event : WebrtcEvent) :
    (WebrtcNamespace.handle config gate user event).Respects (discipline (.event user event)) ends
      phase := by
  unfold WebrtcNamespace.handle
  split
  · trivial
  · refine respects_catching ((perform_respects config user event).mono ?_)
    intro after outcome _
    cases outcome <;> trivial

theorem body_respects (input : WebrtcInput) :
    ((webrtcHost config gate).body input).Respects (discipline input) (fun phase => ends phase)
      {} := by
  cases input with
  | event user event =>
    exact seq_respects (handle_respects config gate user event) fun _ _ _ => trivial
  | disconnect user =>
    exact seq_respects (handleDisconnect_respects config user) fun _ _ _ => trivial
  | ringingTimeout callId =>
    exact seq_respects (ringingTimeout_respects callId) fun _ _ _ => trivial

end Respects

/-- Who takes part in the calls that have been made. -/
abbrev Roster := String → Option (List String)

abbrev ControlPool :=
  Pool CallState CallCommand CallCommand.Reply WebrtcInput ControlPhase (Option EventResponse)

abbrev ControlHistory :=
  Pool.Recorded CallState CallCommand CallCommand.Reply WebrtcInput ControlPhase
    (Option EventResponse) Roster

abbrev ControlEvent := Event CallOracle Nat WebrtcInput

abbrev Operation :=
  Async.Call CallCommand CallCommand.Reply WebrtcInput ControlPhase (Option EventResponse)

def usersOf : WebrtcInput → List String
  | .event user (.initiate calleeId _) => [user.userId, calleeId]
  | _ => []

/-- A call gets its users with its id. -/
def rosters : Pool.Recorder CallCommand CallCommand.Reply WebrtcInput ControlPhase
    (Option EventResponse) Roster where
  started roster _ _ := roster
  ran roster _ operation command reply _ :=
    match command, reply with
    | .randomUUID, (callId, _) => Function.update roster callId (some (usersOf operation.input))
    | _, _ => roster

def history (config : CallHistoryConfig) (gate : EventGate) :
    Transducer ControlHistory ControlEvent Unit :=
  Pool.Recorded.machine (webrtcHost config gate) discipline (fun _ => {}) rosters

def newHistory (state : CallState) : ControlHistory :=
  ⟨⟨state, []⟩, fun callId => (stored? state callId).map (·.participantIds)⟩

/-- The id that is drawn is not that of a call that has been made. -/
def NewIds (current : ControlHistory) : ControlEvent → Prop
  | .run index oracle => ∀ operation, current.pool.awaited? index = some (operation, .randomUUID) →
    current.history oracle.uuid = none
  | _ => True

/-- Only the callee comes to answer a ringing one-to-one call, and only a participant to reject it
or to hang up while it goes on. -/
def EntitledReads (current : ControlHistory) : ControlEvent → Prop
  | .run index _ => ∀ operation callId call,
    current.pool.awaited? index = some (operation, .get callId) →
      stored? current.pool.shared callId = some call → Entitled call operation.input
  | _ => True

def StepOf (pool : ControlPool) (event : ControlEvent) (input : WebrtcInput) : Prop :=
  ∃ index oracle operation, event = .run index oracle ∧ pool.calls[index]? = some operation ∧
    operation.input = input

/-- When a one-to-one call becomes answered, its callee is answering it, and when it becomes
rejected or ended, this is for an event of one of its participants. -/
def Controlled (config : CallHistoryConfig) (gate : EventGate) (current : ControlHistory)
    (event : ControlEvent) : Prop :=
  ∀ callId call, stored? ((history config gate).step current event).1.pool.shared callId =
      some call → call.type = .oneToOne →
    (stored? current.pool.shared callId).map (·.status) ≠ some call.status →
      (call.status = .answered → ∃ user, StepOf current.pool event (.event user (.answer callId)) ∧
        call.calleeId? = some user.userId) ∧
      (call.status = .rejected ∨ call.status = .ended → ∃ input user,
        StepOf current.pool event input ∧ input.user? = some user ∧
          user.userId ∈ call.participantIds)

/-- The roster lists the users of the call, its caller among them. -/
structure Listed (roster : Roster) (call : Call) : Prop where
  users : roster call.id = some call.participantIds
  caller : call.callerId ∈ call.participantIds

/-- Records are stored and read as the roster lists them, and ids are drawn for their users. -/
structure Rostered (current : ControlHistory) : Prop where
  stored : ∀ callId call, stored? current.pool.shared callId = some call →
    call.id = callId ∧ Listed current.history call
  read : ∀ operation ∈ current.pool.calls, ∀ copy ∈ operation.phase.read,
    Listed current.history copy
  drawn : ∀ operation ∈ current.pool.calls, ∀ callId, operation.phase.drawn = some callId →
    current.history callId = some (usersOf operation.input)

section Steps

variable {current : ControlHistory} {operation : Operation} {phase : ControlPhase}
  {pool : ControlPool} {roster : Roster} {call : Call}

theorem stored?_of_exec {state : CallState} {command : CallCommand} {oracle : CallOracle}
    {callId : String} (other : ∀ call, command ≠ .set call)
    (found : stored? (exec state command oracle).1 callId = some call) :
    stored? state callId = some call := by
  cases command with
  | set call => exact absurd rfl (other call)
  | del deleted => exact stored?_of_del found
  | insertOne record =>
    unfold exec at found
    cases inserted : oracle.insertion <;> simp only [inserted] at found <;> exact found
  | keys | get | randomUUID | emit => exact found

theorem Listed.mono {later : Roster} (listed : Listed roster call)
    (kept : ∀ callId users, roster callId = some users → later callId = some users) :
    Listed later call := ⟨kept call.id _ listed.users, listed.caller⟩

theorem Stores.listed {input : WebrtcInput} (stores : Stores input phase call)
    (read : ∀ copy ∈ phase.read, Listed roster copy)
    (drawn : ∀ callId, phase.drawn = some callId → roster callId = some (usersOf input)) :
    Listed roster call := by
  cases stores with
  | create user calleeId mediaType initiates own _ users caller =>
    subst initiates
    refine ⟨(drawn call.id own).trans (congrArg some users.symm), ?_⟩
    rw [users, caller]
    exact List.mem_cons_self
  | change keeps _ =>
    obtain ⟨copy, here, id, users, caller⟩ := keeps
    have listed := read copy here
    exact ⟨users ▸ id ▸ listed.users, users ▸ caller ▸ listed.caller⟩

theorem Rostered.goes (rostered : Rostered current) (goes : current.pool.Goes operation phase pool)
    (kept : ∀ callId users, current.history callId = some users → roster callId = some users)
    (stored : ∀ callId call, stored? pool.shared callId = some call →
      call.id = callId ∧ Listed roster call) (read : ∀ copy ∈ phase.read, Listed roster copy)
    (drawn : ∀ callId, phase.drawn = some callId →
      roster callId = some (usersOf operation.input)) : Rostered ⟨pool, roster⟩ := by
  refine ⟨stored, fun other here copy among => ?_, fun other here callId own => ?_⟩
  · rcases goes.back other here with before | ⟨_, reached⟩
    · exact (rostered.read other before copy among).mono kept
    · exact read copy (reached ▸ among)
  · rcases goes.back other here with before | ⟨input, reached⟩
    · exact kept callId _ (rostered.drawn other before callId own)
    · exact input ▸ drawn callId (reached ▸ own)

theorem Rostered.resume (rostered : Rostered current) {index : Nat} {command : CallCommand}
    {next : command.Reply → CallProgram (Option EventResponse)} (oracle : CallOracle)
    (present : current.pool.calls[index]? = some operation)
    (awaits : Awaits operation.input operation.phase command)
    (fresh : command = .randomUUID → current.history oracle.uuid = none) :
    Rostered ⟨current.pool.resume discipline index operation command next
        (exec current.pool.shared command oracle),
      rosters.ran current.history index operation command
        (exec current.pool.shared command oracle).2
        (next (exec current.pool.shared command oracle).2)⟩ := by
  have goes := @Pool.goes_resume _ _ _ _ _ _ discipline current.pool index operation command next
    (exec current.pool.shared command oracle) present
  have here := List.mem_of_getElem? present
  have read := rostered.read operation here
  have drawn := rostered.drawn operation here
  have stays (other : ∀ call, command ≠ .set call) (callId : String) (call : Call)
      (found : stored? (exec current.pool.shared command oracle).1 callId = some call) :
      call.id = callId ∧ Listed current.history call :=
    rostered.stored callId call (stored?_of_exec other found)
  cases command with
  | keys | del | insertOne | emit =>
    exact rostered.goes goes (fun _ _ => id) (stays (fun _ => nofun)) read drawn
  | get callId =>
    have more : (discipline operation.input).next operation.phase (.get callId)
        (exec current.pool.shared (.get callId) oracle).2 =
          ⟨operation.phase.read ++ (stored? current.pool.shared callId).toList,
            operation.phase.drawn⟩ := nextPhase_get _ callId _ _
    refine rostered.goes goes (fun _ _ => id) (stays (fun _ => nofun)) ?_ (more ▸ drawn)
    rw [more]
    intro copy among
    rcases List.mem_append.mp among with before | new
    · exact read copy before
    · exact (rostered.stored callId copy (Option.mem_toList.mp new)).2
  | set call =>
    refine rostered.goes goes (fun _ _ => id) (fun callId other found => ?_) read drawn
    change stored? (exec current.pool.shared (.set call) oracle).1 callId = some other at found
    rw [stored?_set] at found
    split at found
    · rename_i own
      cases found
      exact ⟨own, Stores.listed awaits read drawn⟩
    · exact rostered.stored callId other found
  | randomUUID =>
    have kept (callId : String) (users : List String)
        (before : current.history callId = some users) :
        Function.update current.history oracle.uuid (some (usersOf operation.input)) callId =
          some users := by
      refine (Function.update_of_ne ?_ _ _).trans before
      rintro rfl
      cases (fresh rfl).symm.trans before
    refine rostered.goes goes kept (fun callId call found => ?_)
      (fun copy among => (read copy among).mono kept) ?_
    · exact ⟨(rostered.stored callId call found).1, (rostered.stored callId call found).2.mono kept⟩
    · rintro _ ⟨⟩
      exact Function.update_self _ _ _

theorem Rostered.authorized (rostered : Rostered current) (here : operation ∈ current.pool.calls)
    (stores : Stores operation.input operation.phase call) (oneToOne : call.type = .oneToOne) :
    (call.status = .answered → ∃ user, operation.input = .event user (.answer call.id) ∧
      call.calleeId? = some user.userId) ∧
    (call.status = .rejected ∨ call.status = .ended → ∃ user, operation.input.user? = some user ∧
      user.userId ∈ call.participantIds) := by
  cases stores with
  | create user calleeId mediaType initiates own ringing users caller =>
    refine ⟨fun answered => ?_, fun ended => ?_⟩
    · cases ringing.symm.trans answered
    · rcases ended with ended | ended <;> cases ringing.symm.trans ended
  | change keeps authorized =>
    refine ⟨authorized.answered oneToOne, fun ended => ?_⟩
    obtain ⟨user, own, copy, among, sameId, takesPart⟩ := authorized.ended oneToOne ended
    obtain ⟨source, read, id, users, _⟩ := keeps
    have listed := (rostered.read operation here copy among).users
    have source_listed := (rostered.read operation here source read).users
    rw [sameId, ← id, source_listed, users] at listed
    exact ⟨user, own, (Option.some.inj listed).symm ▸ takesPart⟩

variable {config : CallHistoryConfig} {gate : EventGate}

theorem Rostered.controlled (rostered : Rostered current)
    (respectful : current.pool.Respectful discipline fun _ => ends) (event : ControlEvent) :
    Controlled config gate current event := by
  intro callId call found oneToOne changed
  cases event with
  | start input => exact absurd (congrArg (Option.map _) found) changed
  | change elapsed =>
    have before := ExpiringMap.lookup_of_later (Nat.le_add_right current.pool.shared.now elapsed)
      found
    exact absurd (congrArg (Option.map _) before) changed
  | run index oracle =>
    rcases @Pool.Recorded.step_run_or_await _ _ _ _ _ _ _ _ _ (webrtcHost config gate) discipline
      (fun _ => {}) rosters current index oracle with
      idle | ⟨operation, command, next, present, awaits⟩
    · rw [history, idle] at found
      exact absurd (congrArg (Option.map _) found) changed
    · have here := List.mem_of_getElem? present
      have may := respectful operation here
      rw [awaits] at may
      rw [history, Pool.Recorded.step_run_of_await current oracle present awaits] at found
      change stored? (exec current.pool.shared command oracle).1 callId = some call at found
      by_cases stores : ∃ stored, command = .set stored
      · obtain ⟨stored, rfl⟩ := stores
        rw [stored?_set] at found
        split at found
        · rename_i own
          cases found
          obtain ⟨answered, ended⟩ := rostered.authorized here may.1 oneToOne
          subst own
          refine ⟨fun status => ?_, fun status => ?_⟩
          · obtain ⟨user, input, callee⟩ := answered status
            exact ⟨user, ⟨index, oracle, operation, rfl, present, input⟩, callee⟩
          · obtain ⟨user, own, takesPart⟩ := ended status
            exact ⟨_, user, ⟨index, oracle, operation, rfl, present, rfl⟩, own, takesPart⟩
        · exact absurd (congrArg (Option.map _) found) changed
      · have before := stored?_of_exec (fun call same => stores ⟨call, same⟩) found
        exact absurd (congrArg (Option.map _) before) changed

end Steps

/-- Every record is stored under the id of its call, whose caller takes part in it. -/
def OwnRecords (state : CallState) : Prop :=
  ∀ callId call, stored? state callId = some call →
    call.id = callId ∧ call.callerId ∈ call.participantIds

section Runs

variable {config : CallHistoryConfig} {gate : EventGate} {current : ControlHistory}

/-- What is asked of a step: a new id, and a reader entitled to the record. -/
def Admissible (current : ControlHistory) (event : ControlEvent) : Prop :=
  NewIds current event ∧ EntitledReads current event

theorem Rostered.assumes (rostered : Rostered current) {index : Nat} {operation : Operation}
    {command : CallCommand} (oracle : CallOracle)
    (awaited : current.pool.awaited? index = some (operation, command))
    (entitled : EntitledReads current (.run index oracle)) :
    Assumes operation.input command (exec current.pool.shared command oracle).2 := by
  cases command with
  | get callId =>
    change Assumes operation.input (.get callId) (stored? current.pool.shared callId, _)
    cases found : stored? current.pool.shared callId with
    | none => trivial
    | some call =>
      obtain ⟨own, listed⟩ := rostered.stored callId call found
      exact ⟨own, listed.caller, entitled operation callId call awaited found⟩
  | keys | set | del | randomUUID | insertOne | emit => trivial

theorem Rostered.run {events : List ControlEvent}
    (respectful : current.pool.Respectful discipline fun _ => ends) (rostered : Rostered current)
    (admissible : (history config gate).Admits Admissible current events) :
    ((history config gate).run current events).pool.Respectful discipline (fun _ => ends) ∧
      Rostered ((history config gate).run current events) := by
  refine Pool.Recorded.invariant (body_respects config gate) ?_ ?_ ?_ admissible respectful rostered
  · intro current input rostered _
    refine ⟨rostered.stored, Pool.forall_start ?_ rostered.read,
      Pool.forall_start ?_ rostered.drawn⟩
    · exact fun _ among => absurd among List.not_mem_nil
    · rintro _ ⟨⟩
  · intro current elapsed rostered _
    refine ⟨fun callId call found => ?_, rostered.read, rostered.drawn⟩
    exact rostered.stored callId call
      (ExpiringMap.lookup_of_later (Nat.le_add_right _ elapsed) found)
  · intro current index oracle operation command next rostered guarded _ present program awaits
    have awaited := Pool.awaited?_of_await present program
    refine ⟨rostered.assumes oracle awaited guarded.2, fun _ => ?_⟩
    refine rostered.resume oracle present awaits ?_
    rintro rfl
    exact guarded.1 operation awaited

end Runs

/-- Users initiate, answer, reject and hang up any calls, and disconnect, while calls time out, in
any order and interleaved in any way; ids are drawn that no other call has had. As long as a
ringing one-to-one call is answered by nobody but its callee, and rejected or hung up by nobody
but its participants, every one-to-one call becomes answered only by an answer of its callee, and
rejected or ended only by an event of one of its participants. -/
theorem calls_are_controlled_by_their_participants (config : CallHistoryConfig) (gate : EventGate)
    (state : CallState) (records : OwnRecords state) (events : List ControlEvent)
    (fresh : (history config gate).Admits NewIds (newHistory state) events)
    (entitled : (history config gate).Admits EntitledReads (newHistory state) events) :
    (history config gate).Admits (Controlled config gate) (newHistory state) events := by
  have start : Rostered (newHistory state) := by
    refine ⟨fun callId call found => ?_, fun _ here => absurd here List.not_mem_nil,
      fun _ here => absurd here List.not_mem_nil⟩
    obtain ⟨own, caller⟩ := records callId call found
    refine ⟨own, ?_, caller⟩
    subst own
    exact congrArg (Option.map (·.participantIds)) found
  have respectful : (newHistory state).pool.Respectful discipline fun _ => ends :=
    fun _ here => absurd here List.not_mem_nil
  have admissible : (history config gate).Admits Admissible (newHistory state) events :=
    fresh.and entitled
  refine Transducer.Admits.imp_of_run (fun current events admissible
      (both : current.pool.Respectful discipline (fun _ => ends) ∧ Rostered current) => ?_)
    (fun current event both _ => ?_) admissible ⟨respectful, start⟩
  · exact Rostered.run both.1 both.2 admissible
  · exact both.2.controlled both.1 event

section Sample

def alice : SocketUser := ⟨"alice", "t"⟩

def bob : SocketUser := ⟨"bob", "t"⟩

def mallory : SocketUser := ⟨"mallory", "t"⟩

def openGate : EventGate := fun _ _ => none

def goesOn (index count : Nat) : List ControlEvent :=
  List.replicate count (.run index sampleOracle)

def calledBob (input : WebrtcInput) : List ControlEvent :=
  .start (.event alice (.initiate "bob" .audio)) :: goesOn 0 4 ++ .start input :: goesOn 1 1

theorem ownRecords_sample : OwnRecords sampleState := by
  intro callId call found
  have none : stored? sampleState callId = none := rfl
  cases none.symm.trans found

theorem callee_answers : (history sampleConfig openGate).Admits (Controlled sampleConfig openGate)
      (newHistory sampleState) (calledBob (.event bob (.answer "c1")) ++ goesOn 1 1) := by
  refine calls_are_controlled_by_their_participants sampleConfig openGate sampleState
    ownRecords_sample _ ?_ ?_
  · refine ⟨trivial, ?_, ?_, ?_, ?_, trivial, ?_, ?_, trivial⟩
    all_goals rintro _ ⟨⟩
    rfl
  · refine ⟨trivial, ?_, ?_, ?_, ?_, trivial, ?_, ?_, trivial⟩
    all_goals rintro _ _ _ ⟨⟩
    rintro ⟨⟩ _ _
    rfl

def rejectedCall : Call where
  id := "c1"
  type := .oneToOne
  status := .rejected
  callerId := "alice"
  participants := [⟨"alice", some 0, none, .calling⟩, ⟨"bob", none, none, .ringing⟩]
  mediaType := .audio
  tenantId := "t"
  createdAt := 0
  endedAt := some 0
  endReason := some .rejected
  endedBy := some "mallory"

theorem stranger_rejects : ¬ ∀ (state : CallState) (events : List ControlEvent), OwnRecords state →
      (history sampleConfig openGate).Admits NewIds (newHistory state) events →
        (history sampleConfig openGate).Admits (Controlled sampleConfig openGate)
          (newHistory state) events := by
  intro controlled
  have admits := controlled sampleState (calledBob (.event mallory (.reject "c1")) ++ goesOn 1 1)
    ownRecords_sample (by
      refine ⟨trivial, ?_, ?_, ?_, ?_, trivial, ?_, ?_, trivial⟩
      all_goals rintro _ ⟨⟩
      rfl)
  have last := (Transducer.admits_append.mp admits).2.1
  have found : stored? ((history sampleConfig openGate).step ((history sampleConfig openGate).run
      (newHistory sampleState) (calledBob (.event mallory (.reject "c1"))))
        (.run 1 sampleOracle)).1.pool.shared "c1" = some rejectedCall := by decide +kernel
  have changed : (stored? ((history sampleConfig openGate).run (newHistory sampleState)
      (calledBob (.event mallory (.reject "c1")))).pool.shared "c1").map (·.status) ≠
        some rejectedCall.status := by decide +kernel
  obtain ⟨input, user, ⟨index, oracle, operation, ⟨⟩, ⟨⟩, rfl⟩, own, takesPart⟩ :=
    (last "c1" rejectedCall found rfl changed).2 (.inl rfl)
  cases own
  exact absurd takesPart (by decide)

end Sample

end Caas.Webrtc.CallControl
