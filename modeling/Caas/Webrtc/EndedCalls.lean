import Caas.Async.Histories
import Caas.Webrtc.CallOperations

/-!
# Ended calls stay ended

A call that has been rejected, missed or ended should not come back. Each operation stores
what it has read, so a call comes back when it ends while an operation has read it and is
still to store it as one that goes on.
-/

namespace Caas.Webrtc

open Async hiding Call
open Program Js Redis

def CallStatus.Terminal : CallStatus → Prop
  | .ended | .rejected | .missed => True
  | _ => False

instance : (status : CallStatus) → Decidable status.Terminal
  | .ended | .rejected | .missed => .isTrue trivial
  | .initiating | .ringing | .answered | .connected => .isFalse id

/-- What an operation has last been given: a record that it may store changed, or a new id. -/
inductive CallPhase where
  | idle
  | holding (call : Call)
  | drawn (callId : String)

def nextPhase : CallPhase → (command : CallCommand) → command.Reply → CallPhase
  | _, .get _, (some call, _) => .holding call
  | _, .randomUUID, (callId, _) => .drawn callId
  | _, _, _ => .idle

/-- What an operation awaits: a record is stored right after it has been read, and then an ended
call stays one, or right after its id has been drawn. -/
inductive Awaits : CallPhase → CallCommand → Prop where
  | keys phase : Awaits phase .keys
  | get phase callId : Awaits phase (.get callId)
  | del phase callId : Awaits phase (.del callId)
  | draw phase : Awaits phase .randomUUID
  | insert phase record : Awaits phase (.insertOne record)
  | emit phase notice : Awaits phase (.emit notice)
  | store copy call (same : call.id = copy.id)
    (stays : copy.status.Terminal → call.status.Terminal) : Awaits (.holding copy) (.set call)
  | create callId call (own : call.id = callId) : Awaits (.drawn callId) (.set call)

def discipline (_ : CallOperation) : Discipline CallCommand CallCommand.Reply CallPhase where
  next := nextPhase
  may := Awaits
  assumes _ _ := True

def ends {α : Type} (_ : CallPhase) (_ : Outcome α) : Prop := True

section Respects

variable {operation : CallOperation} {phase : CallPhase}

theorem getCall_respects {α : Type} {callId : String} {next : Option Call × Nat → CallProgram α}
    (missing : ∀ now, (next (none, now)).Respects (discipline operation) ends .idle)
    (found : ∀ call now, (next (some call, now)).Respects (discipline operation) ends
      (.holding call)) :
    (CallStore.getCall callId >>= next).Respects (discipline operation) ends phase := by
  refine ⟨.get _ _, fun (reply : Option Call × Nat) _ => ?_⟩
  obtain ⟨call, now⟩ := reply
  cases call with
  | none => exact missing now
  | some call => exact found call now

theorem saveCall_respects {copy call : Call} (same : call.id = copy.id)
    (stays : copy.status.Terminal → call.status.Terminal) :
    (CallStore.saveCall call).Respects (discipline operation) ends (.holding copy) :=
  ⟨.store copy call same stays, fun _ _ => trivial⟩

theorem saved_respects {copy call : Call} (same : call.id = copy.id)
    (stays : copy.status.Terminal → call.status.Terminal) :
    (do
      CallStore.saveCall call
      pure call : CallProgram Call).Respects (discipline operation) ends (.holding copy) :=
  ⟨.store copy call same stays, fun _ _ => trivial⟩

theorem collectActiveCalls_respects {α : Type} {next : List Call → CallProgram α}
    (later : ∀ calls phase, (next calls).Respects (discipline operation) ends phase)
    (userId : String) (keys : List String) (activeCalls : List Call) (phase : CallPhase) :
    (CallStore.collectActiveCalls userId activeCalls keys >>= next).Respects
      (discipline operation) ends phase := by
  induction keys generalizing activeCalls phase with
  | nil => exact later activeCalls phase
  | cons key rest ih =>
    refine ⟨.get _ _, fun (reply : Option Call × Nat) _ => ?_⟩
    exact ih _ _

theorem getActiveCallsForUser_respects {α : Type} {next : List Call → CallProgram α}
    (later : ∀ calls phase, (next calls).Respects (discipline operation) ends phase)
    (userId : String) (phase : CallPhase) :
    (CallStore.getActiveCallsForUser userId >>= next).Respects (discipline operation) ends
      phase :=
  ⟨.keys _, fun (keys : List String) _ => collectActiveCalls_respects later userId keys [] _⟩

theorem initiateCall_respects (callerId calleeId : String) (mediaType : MediaType)
    (tenantId : String) : (CallManager.initiateCall callerId calleeId mediaType tenantId).Respects
      (discipline operation) ends phase := by
  refine getActiveCallsForUser_respects (fun activeCalls _ => ?_) callerId phase
  split
  · trivial
  · refine getActiveCallsForUser_respects (fun calleeActiveCalls _ => ?_) calleeId _
    split
    · trivial
    · refine ⟨.draw _, fun (drawn : String × Nat) _ => ?_⟩
      obtain ⟨callId, now⟩ := drawn
      exact ⟨.create _ _ rfl, fun _ _ => trivial⟩

theorem answerCall_respects (callId userId : String) :
    (CallManager.answerCall callId userId).Respects (discipline operation) ends phase := by
  refine getCall_respects (fun _ => trivial) fun call now => ?_
  dsimp only
  split
  · trivial
  · rename_i ringing
    cases call.participant? userId with
    | none => trivial
    | some _ =>
      refine saved_respects rfl fun terminal => ?_
      rw [not_not.mp ringing] at terminal
      cases terminal

theorem rejectCall_respects (callId userId : String) :
    (CallManager.rejectCall callId userId).Respects (discipline operation) ends phase := by
  refine getCall_respects (fun _ => trivial) fun call now => ?_
  dsimp only
  split
  · trivial
  · exact saveCall_respects rfl fun _ => trivial

theorem addParticipant_respects (callId userId : String) :
    (CallManager.addParticipant callId userId).Respects (discipline operation) ends phase := by
  refine getCall_respects (fun _ => trivial) fun call now => ?_
  dsimp only
  split
  · trivial
  · cases call.participant? userId with
    | some _ => trivial
    | none => exact saved_respects rfl id

theorem ringingTimeout_respects (callId : String) :
    (CallManager.ringingTimeout callId).Respects (discipline operation) ends phase := by
  refine getCall_respects (fun _ => trivial) fun call now => ?_
  dsimp only
  split
  · exact saveCall_respects rfl fun _ => trivial
  · trivial

theorem createGroupCall_respects (creatorId : String) (participantIds : List String)
    (mediaType : MediaType) (tenantId : String) :
    (GroupCallManager.createGroupCall creatorId participantIds mediaType tenantId).Respects
      (discipline operation) ends phase := by
  refine ⟨.draw _, fun (drawn : String × Nat) _ => ?_⟩
  obtain ⟨callId, now⟩ := drawn
  exact ⟨.create _ _ rfl, fun _ _ => trivial⟩

theorem addGroupParticipant_respects (callId userId : String) :
    (GroupCallManager.addParticipant callId userId).Respects (discipline operation) ends
      phase := by
  refine getCall_respects (fun _ => trivial) fun call now => ?_
  dsimp only
  split
  · trivial
  · cases call.participant? userId with
    | none => exact saved_respects rfl id
    | some existingParticipant =>
      dsimp only
      split
      · exact saved_respects rfl id
      · trivial

theorem removeParticipant_respects (callId userId : String) :
    (GroupCallManager.removeParticipant callId userId).Respects (discipline operation) ends
      phase := by
  refine getCall_respects (fun _ => trivial) fun call now => ?_
  cases found : call.participant? userId with
  | none =>
    simp only [found]
    trivial
  | some _ =>
    simp only [found]
    exact saved_respects rfl id

theorem answerGroupCall_respects (callId userId : String) :
    (GroupCallManager.answerGroupCall callId userId).Respects (discipline operation) ends
      phase := by
  refine getCall_respects (fun _ => trivial) fun call now => ?_
  dsimp only
  split
  · trivial
  · cases call.participant? userId with
    | none => trivial
    | some _ =>
      dsimp only
      split
      · rename_i ringing
        refine saved_respects rfl fun terminal => ?_
        rw [show call.status = .ringing from ringing] at terminal
        cases terminal
      · exact saved_respects rfl id

theorem seq_respects {α β : Type} {program : CallProgram α} {next : α → CallProgram β}
    (first : program.Respects (discipline operation) ends phase)
    (rest : ∀ value phase, (next value).Respects (discipline operation) ends phase) :
    (program >>= next).Respects (discipline operation) ends phase := by
  refine respects_bind (first.mono fun phase outcome _ => ?_)
  cases outcome with
  | ok value => exact rest value phase
  | error error => trivial

variable (config : CallHistoryConfig)

theorem saveCallHistory_respects (callId : String) :
    (CallHistorySaver.saveCallHistory config callId).Respects (discipline operation) ends
      phase := by
  refine getCall_respects (fun _ => trivial) fun call now => ?_
  dsimp only
  split
  · refine ⟨.insert _ _, fun (inserted : Outcome Unit) _ => ?_⟩
    cases inserted with
    | ok _ => exact ⟨.del _ _, fun _ _ => trivial⟩
    | error _ => trivial
  · exact ⟨.del _ _, fun _ _ => trivial⟩

theorem endCall_respects (callId endedBy : String) (reason : EndReason) :
    (CallTerminator.endCall config callId endedBy reason).Respects (discipline operation) ends
      phase := by
  refine getCall_respects (fun _ => trivial) fun call now => ?_
  dsimp only
  split
  · trivial
  · refine ⟨.store call _ rfl fun _ => trivial, fun _ _ => ⟨.emit _ _, fun _ _ => ?_⟩⟩
    exact saveCallHistory_respects config callId

theorem endCallForUser_respects (callId userId : String) :
    (CallTerminator.endCallForUser config callId userId).Respects (discipline operation) ends
      phase := by
  refine getCall_respects (fun _ => trivial) fun call now => ?_
  dsimp only
  split
  · exact endCall_respects config callId userId _
  · refine ⟨.store call _ rfl id, fun _ _ => ⟨.emit _ _, fun _ _ => ?_⟩⟩
    split
    · exact endCall_respects config callId userId _
    · trivial

theorem endCallsForUser_respects (userId : String) (calls : List Call) (phase : CallPhase) :
    (CallTerminator.endCallsForUser config userId calls).Respects (discipline operation) ends
      phase := by
  induction calls generalizing phase with
  | nil => trivial
  | cons call rest ih =>
    exact seq_respects (endCallForUser_respects config call.id userId) fun _ phase => ih phase

theorem handleDisconnect_respects (userId : String) :
    (CallTerminator.handleDisconnect config userId).Respects (discipline operation) ends
      phase := by
  have ending := @getActiveCallsForUser_respects operation Unit
    (CallTerminator.endCallsForUser config userId)
    (fun calls phase => endCallsForUser_respects config userId calls phase) userId phase
  refine respects_catching (ending.mono fun phase outcome _ => ?_)
  cases outcome <;> trivial

theorem operation_respects (operation : CallOperation) :
    ((host config).body operation).Respects (discipline operation) (fun phase => ends phase)
      .idle := by
  cases operation with
  | initiateCall callerId calleeId mediaType tenantId =>
    exact seq_respects (initiateCall_respects callerId calleeId mediaType tenantId)
      fun _ _ => trivial
  | answerCall callId userId =>
    exact seq_respects (answerCall_respects callId userId) fun _ _ => trivial
  | rejectCall callId userId =>
    exact seq_respects (rejectCall_respects callId userId) fun _ _ => trivial
  | addParticipant callId userId =>
    exact seq_respects (addParticipant_respects callId userId) fun _ _ => trivial
  | ringingTimeout callId =>
    exact seq_respects (ringingTimeout_respects callId) fun _ _ => trivial
  | endCall callId endedBy reason =>
    exact seq_respects (endCall_respects config callId endedBy reason) fun _ _ => trivial
  | endCallForUser callId userId =>
    exact seq_respects (endCallForUser_respects config callId userId) fun _ _ => trivial
  | handleDisconnect userId =>
    exact seq_respects (handleDisconnect_respects config userId) fun _ _ => trivial
  | createGroupCall creatorId participantIds mediaType tenantId =>
    exact seq_respects (createGroupCall_respects creatorId participantIds mediaType tenantId)
      fun _ _ => trivial
  | addGroupParticipant callId userId =>
    exact seq_respects (addGroupParticipant_respects callId userId) fun _ _ => trivial
  | removeParticipant callId userId =>
    exact seq_respects (removeParticipant_respects callId userId) fun _ _ => trivial
  | answerGroupCall callId userId =>
    exact seq_respects (answerGroupCall_respects callId userId) fun _ _ => trivial

end Respects

def stored? (state : CallState) (callId : String) : Option Call :=
  state.calls.lookup state.now callId

def endedCalls : Pool.Recorder CallCommand CallCommand.Reply CallOperation CallPhase (Option Call)
    (String → Bool) where
  started finished _ _ := finished
  ran finished _ _ command _ _ :=
    match command with
    | .set call =>
      if call.status.Terminal then Function.update finished call.id true else finished
    | _ => finished

abbrev CallHistory :=
  Pool.Recorded CallState CallCommand CallCommand.Reply CallOperation CallPhase (Option Call)
    (String → Bool)

abbrev CallPool :=
  Pool CallState CallCommand CallCommand.Reply CallOperation CallPhase (Option Call)

abbrev CallEvent := Event CallOracle Nat CallOperation

abbrev OperationState :=
  Async.Call CallCommand CallCommand.Reply CallOperation CallPhase (Option Call)

def history (config : CallHistoryConfig) : Transducer CallHistory CallEvent Unit :=
  Pool.Recorded.machine (host config) discipline (fun _ => .idle) endedCalls

def newHistory (state : CallState) : CallHistory :=
  ⟨⟨state, []⟩, fun callId => (stored? state callId).any fun call => call.status.Terminal⟩

/-- No call that has ended is stored as one that goes on. -/
def StayEnded (current : CallHistory) : Prop :=
  ∀ callId call, current.history callId = true →
    stored? current.pool.shared callId = some call → call.status.Terminal

/-- The id that is drawn is not that of a call that has ended. -/
def NewIds (current : CallHistory) : CallEvent → Prop
  | .run index oracle => ∀ call, current.pool.awaited? index = some (call, .randomUUID) →
    current.history oracle.uuid = false
  | _ => True

/-- When a call is stored as ended, no other operation has it to store as one that goes on. -/
def Undisturbed (current : CallHistory) : CallEvent → Prop
  | .run index _ => ∀ operation call,
    current.pool.awaited? index = some (operation, .set call) → call.status.Terminal →
      ∀ other operation' copy, other ≠ index →
        current.pool.awaited? other = some (operation', .set copy) → copy.id = call.id →
          copy.status.Terminal
  | _ => True

/-- Records are stored under their ids, calls that have ended as such, and nobody has them to
store as ones that go on. -/
structure Final (current : CallHistory) : Prop where
  owned : ∀ callId call, stored? current.pool.shared callId = some call → call.id = callId
  ended : StayEnded current
  waiting : ∀ index operation call,
    current.pool.awaited? index = some (operation, .set call) → current.history call.id = true →
      call.status.Terminal

section Steps

variable {current : CallHistory} {index : Nat} {operation : OperationState}
  {command : CallCommand} {next : command.Reply → CallProgram (Option Call)}
  {state : CallState} {callId : String}

theorem stored?_set {call : Call} {oracle : CallOracle} :
    stored? (exec state (.set call) oracle).1 callId =
      if call.id = callId then some call else stored? state callId :=
  ExpiringMap.lookup_store (Nat.mul_pos (by decide) (by decide))

theorem stored?_of_del {deleted : String} {oracle : CallOracle} {call : Call}
    (found : stored? (exec state (.del deleted) oracle).1 callId = some call) :
    stored? state callId = some call := by
  change ExpiringMap.lookup (OrderedMap.delete _ _) state.now _ = _ at found
  rw [ExpiringMap.lookup_delete] at found
  split at found
  · cases found
  · exact found

theorem awaited?_resume_of_ne {pool : CallPool} {effect : CallState × command.Reply} {other : Nat}
    (present : pool.calls[index]? = some operation) (different : other ≠ index) :
    (pool.resume discipline index operation command next effect).awaited? other =
      pool.awaited? other := by
  unfold Pool.awaited?
  rw [Pool.getElem?_resume present, if_neg (Ne.symm different)]

theorem awaits_of_awaited? {pool : CallPool} {effect : CallState × command.Reply} {call : Call}
    {operation' : OperationState} (present : pool.calls[index]? = some operation)
    (respectful : (pool.resume discipline index operation command next effect).Respectful
      discipline fun _ => ends)
    (awaited : (pool.resume discipline index operation command next effect).awaited? index =
      some (operation', .set call)) :
    Awaits (nextPhase operation.phase command effect.2) (.set call) := by
  obtain ⟨rest, present', program⟩ := Pool.await_of_awaited? awaited
  have respects := respectful operation' (List.mem_of_getElem? present')
  rw [program] at respects
  rw [Pool.getElem?_resume present, if_pos rfl] at present'
  cases present'
  exact respects.1

theorem not_awaits_idle {call : Call} : ¬ Awaits .idle (.set call) := nofun

/-- A command that stores no record, after which the operation does not go on to make an ended
call one that goes on. -/
theorem Final.pass (final : Final current) {effect : CallState × command.Reply}
    {finished : String → Bool} (present : current.pool.calls[index]? = some operation)
    (same : finished = current.history)
    (fewer : ∀ callId call, stored? effect.1 callId = some call →
      stored? current.pool.shared callId = some call)
    (own : ∀ call, Awaits (nextPhase operation.phase command effect.2) (.set call) →
      current.history call.id = true → call.status.Terminal)
    (respectful : (current.pool.resume discipline index operation command next effect).Respectful
      discipline fun _ => ends) :
    Final ⟨current.pool.resume discipline index operation command next effect, finished⟩ := by
  subst same
  refine ⟨fun callId call found => final.owned callId call (fewer callId call found),
    fun callId call finished found => final.ended callId call finished (fewer callId call found), ?_⟩
  intro other operation' call awaited finished
  by_cases self : other = index
  · subst self
    exact own call (awaits_of_awaited? present respectful awaited) finished
  · rw [awaited?_resume_of_ne present self] at awaited
    exact final.waiting other operation' call awaited finished

theorem Final.store (final : Final current) {call : Call}
    {next : CallCommand.Reply (.set call) → CallProgram (Option Call)} (oracle : CallOracle)
    (present : current.pool.calls[index]? = some operation)
    (program : operation.program = .await (.set call) next)
    (undisturbed : call.status.Terminal → ∀ other operation' copy, other ≠ index →
      current.pool.awaited? other = some (operation', .set copy) → copy.id = call.id →
        copy.status.Terminal)
    (respectful : (current.pool.resume discipline index operation (.set call) next
      (exec current.pool.shared (.set call) oracle)).Respectful discipline fun _ => ends) :
    Final ⟨current.pool.resume discipline index operation (.set call) next
        (exec current.pool.shared (.set call) oracle),
      if call.status.Terminal then Function.update current.history call.id true
      else current.history⟩ := by
  have before := final.waiting index operation call (Pool.awaited?_of_await present program)
  have finished_iff : ∀ callId, (if call.status.Terminal then
      Function.update current.history call.id true else current.history) callId = true ↔
        current.history callId = true ∨ call.status.Terminal ∧ call.id = callId := by
    intro callId
    split
    · rename_i terminal
      rw [Function.update_apply]
      split
      · rename_i same
        exact ⟨fun _ => .inr ⟨terminal, same.symm⟩, fun _ => rfl⟩
      · rename_i different
        exact ⟨.inl, fun finished => finished.resolve_right fun own => different own.2.symm⟩
    · rename_i goesOn
      exact ⟨.inl, fun finished => finished.resolve_right fun own => goesOn own.1⟩
  constructor
  · intro callId found stored
    change stored? (exec current.pool.shared (.set call) oracle).1 callId = some found at stored
    rw [stored?_set] at stored
    split at stored
    · rename_i same
      cases stored
      exact same
    · exact final.owned callId found stored
  · intro callId found finished stored
    change stored? (exec current.pool.shared (.set call) oracle).1 callId = some found at stored
    rw [stored?_set] at stored
    have finished := (finished_iff callId).mp finished
    split at stored
    · rename_i same
      cases stored
      rcases finished with finished | ⟨terminal, _⟩
      · exact before (same ▸ finished)
      · exact terminal
    · rename_i different
      exact final.ended callId found (finished.resolve_right fun own => different own.2) stored
  · intro other operation' copy awaited finished
    have finished := (finished_iff copy.id).mp finished
    by_cases self : other = index
    · subst self
      cases awaits_of_awaited? present respectful awaited
    · rw [awaited?_resume_of_ne present self] at awaited
      rcases finished with finished | ⟨terminal, same⟩
      · exact final.waiting other operation' copy awaited finished
      · exact undisturbed terminal other operation' copy self awaited same.symm

theorem Final.resume (final : Final current) (oracle : CallOracle)
    (present : current.pool.calls[index]? = some operation)
    (program : operation.program = .await command next) (awaits : Awaits operation.phase command)
    (fresh : command = .randomUUID → current.history oracle.uuid = false)
    (undisturbed : ∀ call, command = .set call → call.status.Terminal →
      ∀ other operation' copy, other ≠ index →
        current.pool.awaited? other = some (operation', .set copy) → copy.id = call.id →
          copy.status.Terminal)
    (respectful : (current.pool.resume discipline index operation command next
      (exec current.pool.shared command oracle)).Respectful discipline fun _ => ends) :
    Final ⟨current.pool.resume discipline index operation command next
        (exec current.pool.shared command oracle),
      endedCalls.ran current.history index operation command
        (exec current.pool.shared command oracle).2
        (next (exec current.pool.shared command oracle).2)⟩ := by
  cases command with
  | keys | emit =>
    exact final.pass present rfl (fun _ _ => id) (fun _ may => absurd may not_awaits_idle)
      respectful
  | del callId =>
    exact final.pass present rfl (fun _ _ => stored?_of_del)
      (fun _ may => absurd may not_awaits_idle) respectful
  | insertOne record =>
    refine final.pass present rfl (fun callId call found => ?_)
      (fun _ may => absurd may not_awaits_idle) respectful
    unfold exec at found
    cases inserted : oracle.insertion <;> simp only [inserted] at found <;> exact found
  | get callId =>
    refine final.pass present rfl (fun _ _ => id) (fun call may finished => ?_) respectful
    change Awaits (nextPhase operation.phase (.get callId)
      (stored? current.pool.shared callId, current.pool.shared.now)) _ at may
    cases found : stored? current.pool.shared callId with
    | none =>
      rw [found] at may
      cases may
    | some copy =>
      rw [found] at may
      cases may with
      | store _ _ same stays =>
        have own := final.owned callId copy found
        exact stays (final.ended callId copy (own ▸ same ▸ finished) found)
  | randomUUID =>
    refine final.pass present rfl (fun _ _ => id) (fun call may finished => ?_) respectful
    cases may with
    | create _ _ own => cases (own ▸ finished).symm.trans (fresh rfl)
  | set call => exact final.store oracle present program (undisturbed call rfl) respectful

end Steps

/-- Operations on calls run interleaved in any way, timeouts of any calls included, while time
passes and ids are drawn that no ended call has. As long as no call is stored as ended while
another operation has it to store as one that goes on, a call that has ended stays ended. -/
theorem ended_calls_stay_ended (config : CallHistoryConfig) (state : CallState)
    (owned : ∀ callId call, stored? state callId = some call → call.id = callId)
    (events : List CallEvent) (fresh : (history config).Admits NewIds (newHistory state) events)
    (undisturbed : (history config).Admits Undisturbed (newHistory state) events) :
    StayEnded ((history config).run (newHistory state) events) := by
  have start : Final (newHistory state) := by
    refine ⟨owned, fun callId call finished found => ?_, fun _ _ _ awaited => ?_⟩
    · change (stored? state callId).any (fun call => call.status.Terminal) = true at finished
      change stored? state callId = some call at found
      rw [found] at finished
      exact of_decide_eq_true finished
    · cases awaited
  refine (Pool.Recorded.invariant (operation_respects config) ?_ ?_ ?_ (fresh.and undisturbed)
    (fun _ here => absurd here List.not_mem_nil) start).2.ended
  · intro current input final _
    refine ⟨final.owned, final.ended, fun index operation call awaited finished => ?_⟩
    obtain ⟨next, present, program⟩ := Pool.await_of_awaited? awaited
    rcases Pool.getElem?_start present with before | rfl
    · exact final.waiting index operation call (Pool.awaited?_of_await before program) finished
    · have respects := operation_respects config input
      rw [show (host config).body input = .await (.set call) next from program] at respects
      cases respects.1
  · intro current elapsed final _
    refine ⟨fun callId call found => ?_, fun callId call finished found => ?_, final.waiting⟩
    · exact final.owned callId call
        (ExpiringMap.lookup_of_later (Nat.le_add_right _ elapsed) found)
    · exact final.ended callId call finished
        (ExpiringMap.lookup_of_later (Nat.le_add_right _ elapsed) found)
  · intro current index oracle call command next final guarded _ present program awaits
    refine ⟨trivial, fun respectful => ?_⟩
    have awaited := Pool.awaited?_of_await present program
    refine final.resume oracle present program awaits ?_ ?_ respectful
    · rintro rfl
      exact guarded.1 call awaited
    · rintro record rfl
      exact guarded.2 call record awaited

section Sample

def sampleConfig : CallHistoryConfig := ⟨true⟩

def sampleState : CallState := ⟨0, .empty, [], []⟩

def sampleOracle : CallOracle := ⟨"c1", .ok ()⟩

def commands (index count : Nat) : List CallEvent := List.replicate count (.run index sampleOracle)

def rejected : List CallEvent :=
  .start (.initiateCall "alice" "bob" .audio "t") :: commands 0 4 ++
    .start (.rejectCall "c1" "bob") :: commands 1 2

theorem rejected_call_stays_rejected :
    StayEnded ((history sampleConfig).run (newHistory sampleState) rejected) := by
  have none (callId : String) : stored? sampleState callId = none := rfl
  refine ended_calls_stay_ended sampleConfig sampleState (fun callId call found => ?_) rejected ?_ ?_
  · cases (none callId).symm.trans found
  · refine ⟨trivial, ?_, ?_, ?_, ?_, trivial, ?_, ?_, trivial⟩
    all_goals rintro _ ⟨⟩
    rfl
  · refine ⟨trivial, ?_, ?_, ?_, ?_, trivial, ?_, ?_, trivial⟩
    all_goals rintro _ _ ⟨⟩
    · exact False.elim
    · intro _ other _ _ different waiting
      match other with
      | 0 => cases waiting
      | 1 => exact absurd rfl different
      | _ + 2 => cases waiting

def answeredMeanwhile : List CallEvent :=
  .start (.initiateCall "alice" "bob" .audio "t") :: commands 0 4 ++
    .start (.answerCall "c1" "bob") :: commands 1 1 ++
      .start (.rejectCall "c1" "bob") :: commands 2 2 ++ commands 1 1

theorem rejected_call_is_answered :
    ¬ ∀ events, (history sampleConfig).Admits NewIds (newHistory sampleState) events →
      StayEnded ((history sampleConfig).run (newHistory sampleState) events) := by
  intro stay
  have fresh : (history sampleConfig).Admits NewIds (newHistory sampleState)
      answeredMeanwhile := by
    refine ⟨trivial, ?_, ?_, ?_, ?_, trivial, ?_, trivial, ?_, ?_, ?_, trivial⟩
    all_goals rintro _ ⟨⟩
    rfl
  have answered : (stored? ((history sampleConfig).run (newHistory sampleState)
      answeredMeanwhile).pool.shared "c1").map (·.status) = some .answered := by decide +kernel
  obtain ⟨call, stored, status⟩ := Option.map_eq_some_iff.mp answered
  have terminal := stay answeredMeanwhile fresh "c1" call (by decide +kernel) stored
  rw [status] at terminal
  exact terminal

end Sample

end Caas.Webrtc
