import Caas.Webrtc.EndedCalls

/-!
# The busy check

`initiateCall` looks for active calls of the caller and then of the callee: it lists the keys of
all calls and reads one after the other. The first user with an active call makes it fail. An
initiation is in one phase from each await to the next: which users have been cleared, whose calls
are being read, which keys are left and which calls have been found.
-/

namespace Caas.Webrtc

open Async hiding Call
open Program Js Redis

def Call.Live (call : Call) : Prop := ¬ call.status.Terminal

instance (call : Call) : Decidable call.Live := inferInstanceAs (Decidable (¬ _))

def Call.TakesPart (call : Call) (userId : String) : Prop :=
  userId ∈ call.participantIds ∨ call.callerId = userId

instance (call : Call) (userId : String) : Decidable (call.TakesPart userId) :=
  inferInstanceAs (Decidable (_ ∨ _))

namespace BusyUsers

inductive ManagerOperation where
  | initiateCall (callerId calleeId : String) (mediaType : MediaType) (tenantId : String)
  | answerCall (callId userId : String)
  | rejectCall (callId userId : String)
  | ringingTimeout (callId : String)

def managerBody : ManagerOperation → CallProgram (Option Call)
  | .initiateCall callerId calleeId mediaType tenantId =>
    returning (CallManager.initiateCall callerId calleeId mediaType tenantId)
  | .answerCall callId userId => returning (CallManager.answerCall callId userId)
  | .rejectCall callId userId => finishing (CallManager.rejectCall callId userId)
  | .ringingTimeout callId => finishing (CallManager.ringingTimeout callId)

/-- The operations of the call manager; time passes between commands. -/
def managerHost : Host CallState CallCommand CallCommand.Reply CallOracle Nat ManagerOperation
    (Option Call) where
  exec := exec
  change state elapsed := { state with now := state.now + elapsed }
  body := managerBody

inductive BusyPhase where
  | idle
  /-- Some users have been cleared; others are left. -/
  | ready (cleared later : List String)
  /-- The calls of a user are looked for. -/
  | checking (cleared : List String) (userId : String) (keys found later : List String)
  | refused (userId : String)
  /-- The record of a call has been read, to be stored changed. -/
  | holding (call : Call)

/-- When no key is left, the user is cleared or the initiation is refused. -/
def settle (cleared : List String) (userId : String) (keys found later : List String) : BusyPhase :=
  match keys, found with
  | [], [] => .ready (userId :: cleared) later
  | [], _ :: _ => .refused userId
  | _ :: _, _ => .checking cleared userId keys found later

/-- The call that has been read, if it counts as active for the user. -/
def activeIds (userId : String) (data : Option Call) : List String :=
  (data.toList.filter (CallStore.isActiveFor userId)).map (·.id)

def firstPhase : ManagerOperation → BusyPhase
  | .initiateCall callerId calleeId _ _ => .ready [] [callerId, calleeId]
  | _ => .idle

def nextPhase (phase : BusyPhase) : (command : CallCommand) → command.Reply → BusyPhase
  | .keys, keys =>
    match phase with
    | .ready cleared (userId :: later) => settle cleared userId keys [] later
    | _ => .idle
  | .get _, (data, _) =>
    match phase, data with
    | .checking cleared userId (_ :: keys) found later, data =>
      settle cleared userId keys (found ++ activeIds userId data) later
    | _, some call => .holding call
    | _, none => .idle
  | .randomUUID, _ => phase
  | _, _ => .idle

/-- The users and the type of a call are those of another one. -/
structure SameUsers (call other : Call) : Prop where
  type : call.type = other.type
  users : call.participantIds = other.participantIds
  caller : call.callerId = other.callerId

/-- What an operation awaits. A call is stored for users who have been cleared, or changed: it is
over then, unless it is answered. -/
inductive Awaits (operation : ManagerOperation) : BusyPhase → CallCommand → Prop where
  | look cleared userId later : Awaits operation (.ready cleared (userId :: later)) .keys
  | read cleared userId key keys found later :
    Awaits operation (.checking cleared userId (key :: keys) found later) (.get key)
  | draw cleared : Awaits operation (.ready cleared []) .randomUUID
  | create cleared call (users : ∀ userId, call.TakesPart userId → userId ∈ cleared)
    (initiates : ∃ callerId calleeId mediaType tenantId,
      operation = .initiateCall callerId calleeId mediaType tenantId) :
    Awaits operation (.ready cleared []) (.set call)
  | fetch callId : Awaits operation .idle (.get callId)
  | change copy call (own : call.id = copy.id) (users : SameUsers copy call)
    (answers : call.Live → ∃ callId userId, operation = .answerCall callId userId) :
    Awaits operation (.holding copy) (.set call)

def discipline (operation : ManagerOperation) :
    Discipline CallCommand CallCommand.Reply BusyPhase where
  next := nextPhase
  may := Awaits operation
  assumes _ _ := True

/-- An initiation that fails as busy has been refused for that user. -/
def Refuses {α : Type} (operation : ManagerOperation) (phase : BusyPhase)
    (outcome : Outcome α) : Prop :=
  ∀ callerId calleeId mediaType tenantId,
    operation = .initiateCall callerId calleeId mediaType tenantId →
      (outcome = .error "User is already in an active call" → phase = .refused callerId) ∧
      (outcome = .error "Callee is busy" → phase = .refused calleeId)

section Respects

variable {operation : ManagerOperation} {phase : BusyPhase}

theorem refuses_ok {α : Type} {value : α} : Refuses operation phase (.ok value) := by
  refine fun _ _ _ _ _ => ⟨fun failed => ?_, fun failed => ?_⟩ <;> cases failed

theorem refuses_other {α : Type} {outcome : Outcome α}
    (other : ∀ callerId calleeId mediaType tenantId,
      operation ≠ .initiateCall callerId calleeId mediaType tenantId) :
    Refuses operation phase outcome :=
  fun callerId calleeId mediaType tenantId same =>
    absurd same (other callerId calleeId mediaType tenantId)

theorem collectActiveCalls_respects {α : Type} {next : List Call → CallProgram α}
    {cleared later : List String} {userId : String}
    (rest : ∀ calls, (next calls).Respects (discipline operation) (Refuses operation)
      (settle cleared userId [] (calls.map (·.id)) later))
    (keys : List String) (activeCalls : List Call) :
    (CallStore.collectActiveCalls userId activeCalls keys >>= next).Respects
      (discipline operation) (Refuses operation)
      (settle cleared userId keys (activeCalls.map (·.id)) later) := by
  induction keys generalizing activeCalls with
  | nil => exact rest activeCalls
  | cons key keys ih =>
    refine ⟨.read cleared userId key keys _ later, fun (reply : Option Call × Nat) _ => ?_⟩
    obtain ⟨data, now⟩ := reply
    have onward := ih (activeCalls ++ data.toList.filter (CallStore.isActiveFor userId))
    rw [List.map_append] at onward
    exact onward

theorem getActiveCallsForUser_respects {α : Type} {next : List Call → CallProgram α}
    {cleared later : List String} {userId : String}
    (clear : (next []).Respects (discipline operation) (Refuses operation)
      (.ready (userId :: cleared) later))
    (busy : ∀ call calls, (next (call :: calls)).Respects (discipline operation)
      (Refuses operation) (.refused userId)) :
    (CallStore.getActiveCallsForUser userId >>= next).Respects (discipline operation)
      (Refuses operation) (.ready cleared (userId :: later)) := by
  refine ⟨.look cleared userId later, fun (keys : List String) _ => ?_⟩
  refine collectActiveCalls_respects (fun calls => ?_) keys []
  cases calls with
  | nil => exact clear
  | cons call calls => exact busy call calls

theorem initiateCall_respects (callerId calleeId : String) (mediaType : MediaType)
    (tenantId : String) : (CallManager.initiateCall callerId calleeId mediaType tenantId).Respects
      (discipline (.initiateCall callerId calleeId mediaType tenantId))
      (Refuses (.initiateCall callerId calleeId mediaType tenantId))
      (.ready [] [callerId, calleeId]) := by
  refine getActiveCallsForUser_respects ?_ fun call calls => ?_
  · refine getActiveCallsForUser_respects ?_ fun call calls => ?_
    · refine ⟨.draw _, fun (drawn : String × Nat) _ => ?_⟩
      obtain ⟨callId, now⟩ := drawn
      refine ⟨.create _ _ (fun userId takesPart => ?_) ⟨_, _, _, _, rfl⟩, fun _ _ => refuses_ok⟩
      rcases takesPart with among | rfl
      · exact List.mem_reverse.mp among
      · exact List.mem_cons_of_mem _ List.mem_cons_self
    · rintro _ _ _ _ ⟨⟩
      refine ⟨fun failed => ?_, fun _ => rfl⟩
      exact absurd (Except.error.inj failed) (by decide)
  · rintro _ _ _ _ ⟨⟩
    refine ⟨fun _ => rfl, fun failed => ?_⟩
    exact absurd (Except.error.inj failed) (by decide)

theorem getCall_respects {α : Type} {callId : String} {next : Option Call × Nat → CallProgram α}
    (missing : ∀ now, (next (none, now)).Respects (discipline operation) (Refuses operation) .idle)
    (found : ∀ call now, (next (some call, now)).Respects (discipline operation)
      (Refuses operation) (.holding call)) :
    (CallStore.getCall callId >>= next).Respects (discipline operation) (Refuses operation)
      .idle := by
  refine ⟨.fetch callId, fun (reply : Option Call × Nat) _ => ?_⟩
  obtain ⟨data, now⟩ := reply
  cases data with
  | none => exact missing now
  | some call => exact found call now

theorem answerCall_respects (callId userId : String) :
    (CallManager.answerCall callId userId).Respects (discipline (.answerCall callId userId))
      (Refuses (.answerCall callId userId)) .idle := by
  have fails {phase : BusyPhase} {outcome : Outcome Call} :
      Refuses (.answerCall callId userId) phase outcome := refuses_other (by rintro _ _ _ _ ⟨⟩)
  refine getCall_respects (fun _ => fails) fun call now => ?_
  dsimp only
  split
  · exact fails
  · cases call.participant? userId with
    | none => exact fails
    | some _ =>
      have users := @participantIds_update userId
        (fun participant => { participant with status := .connected, joinedAt := some now })
        (fun _ => rfl) call.participants
      exact ⟨.change call _ rfl ⟨rfl, users.symm, rfl⟩ fun _ => ⟨callId, userId, rfl⟩,
        fun _ _ => fails⟩

theorem rejectCall_respects (callId userId : String) :
    (CallManager.rejectCall callId userId).Respects (discipline (.rejectCall callId userId))
      (Refuses (.rejectCall callId userId)) .idle := by
  have fails {phase : BusyPhase} {outcome : Outcome Unit} :
      Refuses (.rejectCall callId userId) phase outcome := refuses_other (by rintro _ _ _ _ ⟨⟩)
  refine getCall_respects (fun _ => fails) fun call now => ?_
  dsimp only
  split
  · exact fails
  · exact ⟨.change call _ rfl ⟨rfl, rfl, rfl⟩ fun live => absurd trivial live, fun _ _ => fails⟩

theorem ringingTimeout_respects (callId : String) :
    (CallManager.ringingTimeout callId).Respects (discipline (.ringingTimeout callId))
      (Refuses (.ringingTimeout callId)) .idle := by
  have ends {phase : BusyPhase} {outcome : Outcome Unit} :
      Refuses (.ringingTimeout callId) phase outcome := refuses_other (by rintro _ _ _ _ ⟨⟩)
  refine getCall_respects (fun _ => ends) fun call now => ?_
  dsimp only
  split
  · exact ⟨.change call _ rfl ⟨rfl, rfl, rfl⟩ fun live => absurd trivial live, fun _ _ => ends⟩
  · exact ends

theorem mapped_respects {α β : Type} {program : CallProgram α} {value : α → β}
    (respects : program.Respects (discipline operation) (Refuses operation) phase) :
    (do
      let result ← program
      pure (value result) : CallProgram β).Respects (discipline operation) (Refuses operation)
        phase := by
  refine respects_bind (respects.mono fun after outcome refuses => ?_)
  cases outcome with
  | ok result => exact refuses_ok
  | error message =>
    intro callId calleeId mediaType tenantId same
    have refused := refuses callId calleeId mediaType tenantId same
    refine ⟨fun failed => refused.1 ?_, fun failed => refused.2 ?_⟩
    all_goals exact congrArg Except.error (Except.error.inj failed)

theorem operation_respects (operation : ManagerOperation) :
    (managerHost.body operation).Respects (discipline operation) (Refuses operation)
      (firstPhase operation) := by
  cases operation with
  | initiateCall callerId calleeId mediaType tenantId =>
    exact mapped_respects (initiateCall_respects callerId calleeId mediaType tenantId)
  | answerCall callId userId => exact mapped_respects (answerCall_respects callId userId)
  | rejectCall callId userId => exact mapped_respects (rejectCall_respects callId userId)
  | ringingTimeout callId => exact mapped_respects (ringingTimeout_respects callId)

end Respects

end BusyUsers

end Caas.Webrtc
