import Caas.Async.Histories
import Caas.Messaging.DeliveryConfirmation

/-!
# Persisted messages stay persisted

Once a message has been reported as persisted, no failure, timeout or retry of it should be
reported any more, and its status should stay. Only the timeout looks at the status that it is
about to replace, and that on a copy.
-/

namespace Caas.Messaging

open Async Program Js Redis DeliveryConfirmationTracker ExpiringMap

inductive ConfirmationPhase where
  | waiting
  | read (data : Option DeliveryStatus)
  | saved
  | told
  | closed

def nextPhase (phase : ConfirmationPhase) :
    (command : ConfirmationCommand) → command.Reply → ConfirmationPhase
  | .get _, (data, _) => .read data
  | .setex _ _ _, .ok _ => .saved
  | .setex _ _ _, .error _ => .closed
  | .getSocket _, _ => .told
  | .setexSocket _ _ _, _ => phase
  | .setTimeout _ _, _ => phase
  | .clearTimeout _, _ => phase
  | .timeoutFired _, _ => phase

variable (config : DeliveryConfirmationConfig)

inductive Awaits : ConfirmationOperation → ConfirmationPhase → ConfirmationCommand → Prop where
  | track messageId socketId now :
    Awaits (.trackMessage messageId socketId now) .waiting
      (.setex messageId (pendingExpiry config)
        { messageId, status := .pending, timestamp := now, retries := some 0 })
  | trackSocket messageId socketId now :
    Awaits (.trackMessage messageId socketId now) .saved
      (.setexSocket messageId (pendingExpiry config) socketId)
  | trackTimer messageId socketId now :
    Awaits (.trackMessage messageId socketId now) .saved (.setTimeout messageId config.timeout)
  | clear operation messageId : Awaits operation .waiting (.clearTimeout messageId)
  | fired operation messageId : Awaits operation .waiting (.timeoutFired messageId)
  | getConfirmed messageId : Awaits (.confirmPersistence messageId) .waiting (.get messageId)
  | getFailed messageId error : Awaits (.markFailed messageId error) .waiting (.get messageId)
  | getTimedOut messageId : Awaits (.handleTimeout messageId) .waiting (.get messageId)
  | getRetried messageId : Awaits (.incrementRetry messageId) .waiting (.get messageId)
  | confirm messageId copy status (persisted : status.status = .persisted) :
    Awaits (.confirmPersistence messageId) (.read (some copy)) (.setex messageId auditExpiry status)
  | fail messageId error copy status :
    Awaits (.markFailed messageId error) (.read (some copy)) (.setex messageId auditExpiry status)
  | timeOut messageId copy status (pending : copy.status = .pending) :
    Awaits (.handleTimeout messageId) (.read (some copy)) (.setex messageId auditExpiry status)
  | retry messageId copy status :
    Awaits (.incrementRetry messageId) (.read (some copy))
      (.setex messageId (pendingExpiry config) status)
  | tell operation : Awaits operation .saved (.getSocket operation.messageId)

def discipline (operation : ConfirmationOperation) :
    Discipline ConfirmationCommand ConfirmationCommand.Reply ConfirmationPhase where
  next := nextPhase
  may := Awaits config operation
  assumes _ _ := True

def DeliveryNotice.Persists (messageId : String) : DeliveryNotice → Prop
  | .persisted other _ => other = messageId
  | _ => False

/-- The notice is a failure, a timeout or a retry of the message. -/
def DeliveryNotice.Fails (messageId : String) : DeliveryNotice → Prop
  | .persisted _ _ => False
  | .persistFailed other _ _ | .timeout other _ | .retry other _ => other = messageId

/-- The operation may report a failure of the message. -/
def Reports (messageId : String) : ConfirmationOperation → Prop
  | .markFailed other _ | .handleTimeout other => other = messageId
  | _ => False

/-- Only a confirmation reports that a message is persisted, and only a failure or a timeout that
it is not, in each case at the end. -/
def ends (operation : ConfirmationOperation) (phase : ConfirmationPhase)
    (outcome : Outcome (List DeliveryNotice)) : Prop :=
  ∀ notices, outcome = .ok notices → ∀ messageId, ∀ notice ∈ notices,
    (notice.Persists messageId → operation = .confirmPersistence messageId ∧ phase = .told) ∧
      (notice.Fails messageId → Reports messageId operation ∧ phase = .told)

section Respects

variable {config} {operation : ConfirmationOperation} {phase : ConfirmationPhase}

theorem ends_error {error : String} : ends operation phase (.error error) := by
  intro notices failed
  cases failed

theorem ends_silent : ends operation phase (.ok []) := by
  rintro _ ⟨⟩ messageId notice member
  exact absurd member List.not_mem_nil

theorem get_respects {messageId : String}
    {next : Option DeliveryStatus × Nat → ConfirmationProgram (List DeliveryNotice)}
    (may : Awaits config operation phase (.get messageId))
    (later : ∀ data now, (next (data, now)).Respects (discipline config operation)
      (ends operation) (.read data)) :
    (RedisClient.get messageId >>= next).Respects (discipline config operation) (ends operation)
      phase :=
  ⟨may, fun (reply : Option DeliveryStatus × Nat) _ => later reply.1 reply.2⟩

variable {messageId : String}

theorem setex_respects {expiry : Nat} {status : DeliveryStatus}
    {next : Unit → ConfirmationProgram (List DeliveryNotice)}
    (may : Awaits config operation phase (.setex messageId expiry status))
    (later : (next ()).Respects (discipline config operation) (ends operation) .saved) :
    (RedisClient.setex messageId expiry status >>= next).Respects (discipline config operation)
      (ends operation) phase := by
  refine ⟨may, fun (stored : Outcome Unit) _ => ?_⟩
  cases stored with
  | ok _ => exact later
  | error error => exact ends_error

theorem tell_respects {notices : Option String → List DeliveryNotice}
    (own : operation.messageId = messageId)
    (told : ∀ socketId, ends operation .told (.ok (notices socketId))) :
    (do
      let socketId ← RedisClient.getSocket messageId
      pure (notices socketId) : ConfirmationProgram (List DeliveryNotice)).Respects
        (discipline config operation) (ends operation) .saved :=
  ⟨own ▸ .tell operation, fun socketId _ => told socketId⟩

theorem ends_failure {notice : DeliveryNotice} {status : DeliveryStatus}
    (own : Reports messageId operation) (fails : ∀ other, notice.Fails other ↔ messageId = other)
    (persists : ∀ other, ¬ notice.Persists other) :
    ends operation .told (.ok (notice :: retryNotices config messageId status)) := by
  rintro _ ⟨⟩ other later member
  rcases List.mem_cons.mp member with rfl | member
  · exact ⟨fun persisted => absurd persisted (persists other), fun failed =>
      ⟨(fails other).mp failed ▸ own, rfl⟩⟩
  · unfold retryNotices at member
    split at member
    · obtain rfl := List.mem_singleton.mp member
      exact ⟨False.elim, fun failed => ⟨(show messageId = other from failed) ▸ own, rfl⟩⟩
    · exact absurd member List.not_mem_nil

end Respects

variable (messageId : String)

theorem trackMessage_respects (socketId : String) (now : Nat) :
    (trackMessage config messageId socketId now).Respects
      (discipline config (.trackMessage messageId socketId now))
      (ends (.trackMessage messageId socketId now)) .waiting := by
  refine setex_respects (.track _ _ _)
    ⟨.trackSocket _ _ _, fun (stored : Outcome Unit) _ => ?_⟩
  cases stored with
  | ok _ => exact ⟨.trackTimer _ _ _, fun _ _ => ends_silent⟩
  | error error => exact ends_error

theorem confirmPersistence_respects :
    (confirmPersistence messageId).Respects (discipline config (.confirmPersistence messageId))
      (ends (.confirmPersistence messageId)) .waiting := by
  refine ⟨.clear _ _, fun _ _ => get_respects (.getConfirmed _) fun data now => ?_⟩
  cases data with
  | none => exact ends_silent
  | some copy =>
    refine setex_respects (.confirm _ _ _ rfl) (tell_respects rfl fun socketId => ?_)
    rintro _ ⟨⟩ other notice member
    obtain rfl := List.mem_singleton.mp member
    exact ⟨fun persisted => ⟨congrArg _ persisted, rfl⟩, False.elim⟩

theorem markFailed_respects (error : String) :
    (markFailed config messageId error).Respects (discipline config (.markFailed messageId error))
      (ends (.markFailed messageId error)) .waiting := by
  refine ⟨.clear _ _, fun _ _ => get_respects (.getFailed _ _) fun data now => ?_⟩
  cases data with
  | none => exact ends_silent
  | some copy =>
    exact setex_respects (.fail _ _ _ _) (tell_respects rfl fun socketId =>
      ends_failure rfl (fun _ => Iff.rfl) fun _ => id)

theorem handleTimeout_respects :
    (handleTimeout config messageId).Respects (discipline config (.handleTimeout messageId))
      (ends (.handleTimeout messageId)) .waiting := by
  refine ⟨.fired _ _, fun _ _ => get_respects (.getTimedOut _) fun data now => ?_⟩
  cases data with
  | none => exact ends_silent
  | some copy =>
    dsimp only
    split
    · rename_i pending
      exact setex_respects (.timeOut _ _ _ pending) (tell_respects rfl fun socketId =>
        ends_failure rfl (fun _ => Iff.rfl) fun _ => id)
    · exact ends_silent

theorem incrementRetry_respects :
    (incrementRetry config messageId).Respects (discipline config (.incrementRetry messageId))
      (ends (.incrementRetry messageId)) .waiting := by
  refine get_respects (.getRetried _) fun data now => ?_
  cases data with
  | none => exact ends_silent
  | some copy => exact setex_respects (.retry _ _ _) ends_silent

theorem operation_respects (operation : ConfirmationOperation) :
    ((host config).body operation).Respects (discipline config operation) (ends operation)
      .waiting := by
  cases operation with
  | trackMessage messageId socketId now => exact trackMessage_respects config messageId socketId now
  | confirmPersistence messageId => exact confirmPersistence_respects config messageId
  | markFailed messageId error => exact markFailed_respects config messageId error
  | handleTimeout messageId => exact handleTimeout_respects config messageId
  | incrementRetry messageId => exact incrementRetry_respects config messageId

abbrev ConfirmationEvent := Event Unit Nat ConfirmationOperation

abbrev Ending := ConfirmationOperation × Outcome (List DeliveryNotice)

abbrev ConfirmationCall :=
  Call ConfirmationCommand ConfirmationCommand.Reply ConfirmationOperation ConfirmationPhase
    (List DeliveryNotice)

abbrev ConfirmationHistory :=
  Pool.Recorded ConfirmationState ConfirmationCommand ConfirmationCommand.Reply
    ConfirmationOperation ConfirmationPhase (List DeliveryNotice) (List Ending)

/-- The operations on statuses, interleaved, with how they have ended. -/
def history : Transducer ConfirmationHistory ConfirmationEvent Unit :=
  Pool.Recorded.machine (host config) (discipline config) (fun _ => .waiting) Pool.endings

def newHistory (state : ConfirmationState) : ConfirmationHistory := ⟨⟨state, []⟩, []⟩

/-- What an operation has emitted that has ended. -/
def Ending.notices (ending : Ending) : List DeliveryNotice :=
  match ending.2 with
  | .ok notices => notices
  | .error _ => []

def emitted (current : ConfirmationHistory) : List DeliveryNotice :=
  current.history.flatMap Ending.notices

def Reported (messageId : String) (current : ConfirmationHistory) : Prop :=
  ∃ notice ∈ emitted current, notice.Persists messageId

def stored? (state : ConfirmationState) (messageId : String) : Option DeliveryStatus :=
  state.statuses.lookup state.now messageId

/-- The status that has last been stored of a message, expired or not. -/
def written? (state : ConfirmationState) (messageId : String) : Option DeliveryStatus :=
  (OrderedMap.get state.statuses messageId).map (·.value)

/-- The status that has last been stored of a message is that it is persisted. -/
def Persisted (state : ConfirmationState) (messageId : String) : Prop :=
  ∃ status, written? state messageId = some status ∧ status.status = .persisted

/-- The operation has still to store or to report that the message is not persisted, whatever it
reads. -/
def Threatens (messageId : String) : ConfirmationOperation → ConfirmationPhase → Prop
  | .trackMessage other _ _, phase => other = messageId ∧ phase = .waiting
  | .confirmPersistence _, _ => False
  | .markFailed other _, phase =>
    other = messageId ∧ ((∃ copy, phase = .read (some copy)) ∨ phase = .saved)
  | .handleTimeout other, phase => other = messageId ∧
    ((∃ copy, phase = .read (some copy) ∧ copy.status = .pending) ∨ phase = .saved)
  | .incrementRetry other, phase => other = messageId ∧ ∃ copy, phase = .read (some copy)

/-- The operation rewrites whatever status it reads of the message. -/
def Rewrites (messageId : String) : ConfirmationOperation → Prop
  | .markFailed other _ | .incrementRetry other => other = messageId
  | _ => False

/-- When the message is reported as persisted, that is its status and no other operation has still
to say otherwise; from then on it is not tracked, and nothing that would rewrite its status finds
one. -/
def KeepsPersisted (messageId : String) (current : ConfirmationHistory) :
    ConfirmationEvent → Prop
  | .start operation =>
    (∃ socketId now, operation = .trackMessage messageId socketId now) → ¬ Reported messageId current
  | .run index _ => ∀ operation command, current.pool.awaited? index = some (operation, command) →
    (operation.input = .confirmPersistence messageId → command = .getSocket messageId →
      Persisted current.pool.shared messageId ∧ ∀ other operation', other ≠ index →
        current.pool.calls[other]? = some operation' →
          ¬ Threatens messageId operation'.input operation'.phase) ∧
    (Rewrites messageId operation.input → command = .get messageId → Reported messageId current →
      stored? current.pool.shared messageId = none)
  | .change _ => True

/-- After the message has been reported as persisted nothing else is, and that is its status. -/
structure StaysPersisted (messageId : String) (current : ConfirmationHistory) : Prop where
  silent : (emitted current).Pairwise fun earlier later =>
    earlier.Persists messageId → ¬ later.Fails messageId
  status : Reported messageId current → Persisted current.pool.shared messageId

/-- The message stays persisted, since no operation threatens it once it has been reported. -/
structure Final (messageId : String) (current : ConfirmationHistory) : Prop
    extends StaysPersisted messageId current where
  safe : Reported messageId current →
    ∀ operation ∈ current.pool.calls, ¬ Threatens messageId operation.input operation.phase

section Steps

variable {config} {messageId : String} {state : ConfirmationState}
  {operation : ConfirmationOperation} {phase : ConfirmationPhase} {command : ConfirmationCommand}
  {current : ConfirmationHistory}

variable {other : String} {expiry : Nat} {status : DeliveryStatus}

theorem written?_setex : written? (exec state (.setex other expiry status) ()).1 messageId =
      if other = messageId ∧ WholeSeconds expiry then some status else written? state messageId := by
  unfold exec
  by_cases whole : WholeSeconds expiry
  · simp only [whole, if_true, and_true, written?, store, OrderedMap.get_set]
    split <;> rfl
  · simp [whole]

theorem written?_of_stored? (found : stored? state messageId = some status) :
    written? state messageId = some status := by
  simp only [stored?, lookup, liveEntry, Option.map_eq_some_iff,
    Option.filter_eq_some_iff] at found
  obtain ⟨entry, ⟨here, _⟩, rfl⟩ := found
  rw [written?, here]
  rfl

theorem statuses_exec (other : ∀ messageId expiry status, command ≠ .setex messageId expiry status) :
    (exec state command ()).1.statuses = state.statuses := by
  cases command with
  | setex messageId expiry status => exact absurd rfl (other messageId expiry status)
  | setexSocket | clearTimeout =>
    unfold exec
    dsimp only
    split <;> rfl
  | get | getSocket | setTimeout | timeoutFired => rfl

theorem persisted_setex (persisted : Persisted state messageId)
    (kept : other = messageId → status.status = .persisted) :
    Persisted (exec state (.setex other expiry status) ()).1 messageId := by
  rw [Persisted, written?_setex]
  split
  · rename_i both
    exact ⟨status, rfl, kept both.1⟩
  · exact persisted

theorem persisted_exec (awaits : Awaits config operation phase command)
    (safe : ¬ Threatens messageId operation phase) (persisted : Persisted state messageId) :
    Persisted (exec state command ()).1 messageId := by
  have unchanged (other : ∀ messageId expiry status,
      command ≠ .setex messageId expiry status) : Persisted (exec state command ()).1 messageId := by
    rw [Persisted, written?, statuses_exec other]
    exact persisted
  cases awaits with
  | track => exact persisted_setex persisted fun same => absurd ⟨same, rfl⟩ safe
  | confirm _ copy status kept => exact persisted_setex persisted fun _ => kept
  | fail _ _ copy => exact persisted_setex persisted fun same => absurd ⟨same, .inl ⟨copy, rfl⟩⟩ safe
  | timeOut _ copy _ pending =>
    exact persisted_setex persisted fun same => absurd ⟨same, .inl ⟨copy, rfl, pending⟩⟩ safe
  | retry _ copy => exact persisted_setex persisted fun same => absurd ⟨same, copy, rfl⟩ safe
  | trackSocket | trackTimer | clear | fired | getConfirmed | getFailed | getTimedOut | getRetried
  | tell => exact unchanged (fun _ _ _ => ConfirmationCommand.noConfusion)

/-- An operation that does not threaten a persisted message does not come to threaten it. -/
theorem not_threatens_next (awaits : Awaits config operation phase command)
    (safe : ¬ Threatens messageId operation phase) (persisted : Persisted state messageId)
    (finds : Rewrites messageId operation → command = .get messageId →
      stored? state messageId = none) :
    ¬ Threatens messageId operation (nextPhase phase command (exec state command ()).2) := by
  cases awaits with
  | trackSocket | trackTimer | clear | fired => exact safe
  | track =>
    rintro ⟨same, _⟩
    exact safe ⟨same, rfl⟩
  | getConfirmed | confirm => exact id
  | getFailed =>
    rintro ⟨rfl, ⟨copy, found⟩ | saved⟩
    · cases (ConfirmationPhase.read.inj found).symm.trans (finds rfl rfl)
    · cases saved
  | getTimedOut =>
    rintro ⟨rfl, ⟨copy, found, pending⟩ | saved⟩
    · obtain ⟨status, written, kept⟩ := persisted
      cases written.symm.trans (written?_of_stored? (ConfirmationPhase.read.inj found))
      cases pending.symm.trans kept
    · cases saved
  | getRetried =>
    rintro ⟨rfl, copy, found⟩
    cases (ConfirmationPhase.read.inj found).symm.trans (finds rfl rfl)
  | fail _ _ copy =>
    rintro ⟨same, _⟩
    exact safe ⟨same, .inl ⟨copy, rfl⟩⟩
  | timeOut _ copy _ pending =>
    rintro ⟨same, _⟩
    exact safe ⟨same, .inl ⟨copy, rfl, pending⟩⟩
  | retry _ copy =>
    rintro ⟨same, _⟩
    exact safe ⟨same, copy, rfl⟩
  | tell =>
    cases operation with
    | confirmPersistence => exact id
    | trackMessage =>
      rintro ⟨_, told⟩
      cases told
    | markFailed => rintro ⟨_, ⟨_, told⟩ | told⟩ <;> cases told
    | handleTimeout => rintro ⟨_, ⟨_, told, _⟩ | told⟩ <;> cases told
    | incrementRetry =>
      rintro ⟨_, _, told⟩
      cases told

theorem nextPhase_setex_ne_told (reply : Outcome Unit) :
    nextPhase phase (.setex other expiry status) reply ≠ .told := by
  cases reply <;> exact ConfirmationPhase.noConfusion

theorem tells_of_told (awaits : Awaits config operation phase command)
    (told : nextPhase phase command (exec state command ()).2 = .told) :
    phase = .saved ∧ command = .getSocket operation.messageId := by
  cases awaits with
  | tell => exact ⟨rfl, rfl⟩
  | track | confirm | fail | timeOut | retry =>
    exact absurd told (nextPhase_setex_ne_told _)
  | _ => cases told

theorem emitted_append {pool : Pool ConfirmationState ConfirmationCommand ConfirmationCommand.Reply
      ConfirmationOperation ConfirmationPhase (List DeliveryNotice)}
    {log : List Ending} {program : ConfirmationProgram (List DeliveryNotice)} :
    emitted ⟨pool, log ++ Pool.ending operation program⟩ =
      log.flatMap Ending.notices ++ (Pool.ending operation program).flatMap Ending.notices :=
  List.flatMap_append

theorem notices_of_ends {program : ConfirmationProgram (List DeliveryNotice)}
    (respects : program.Respects (discipline config operation) (ends operation) phase)
    {notice : DeliveryNotice}
    (member : notice ∈ (Pool.ending operation program).flatMap Ending.notices) :
    (notice.Persists messageId → operation = .confirmPersistence messageId ∧ phase = .told) ∧
      (notice.Fails messageId → Reports messageId operation ∧ phase = .told) := by
  unfold Pool.ending at member
  cases ended : program.outcome? with
  | none =>
    rw [ended] at member
    exact absurd member List.not_mem_nil
  | some outcome =>
    have finished := respects.ends_of_outcome ended
    rw [ended] at member
    cases outcome with
    | error error => exact absurd member List.not_mem_nil
    | ok notices =>
      refine finished notices rfl messageId notice ?_
      simpa [Ending.notices] using member

theorem threatens_of_reports (reports : Reports messageId operation) :
    Threatens messageId operation .saved := by
  cases operation with
  | markFailed | handleTimeout => exact ⟨reports, .inr rfl⟩
  | trackMessage | confirmPersistence | incrementRetry => exact reports.elim

variable {index : Nat} {call : ConfirmationCall}
  {next : command.Reply → ConfirmationProgram (List DeliveryNotice)}

theorem Final.later (final : Final messageId current) (reported : Reported messageId current)
    (present : current.pool.calls[index]? = some call)
    (awaits : Awaits config call.input call.phase command)
    (finds : Rewrites messageId call.input → command = .get messageId →
      stored? current.pool.shared messageId = none) :
    Persisted (exec current.pool.shared command ()).1 messageId ∧
      ∀ operation ∈ (current.pool.resume (discipline config) index call command next
        (exec current.pool.shared command ())).calls,
          ¬ Threatens messageId operation.input operation.phase := by
  have own := final.safe reported call (List.mem_of_getElem? present)
  refine ⟨persisted_exec awaits own (final.status reported), fun operation here => ?_⟩
  rcases List.mem_or_eq_of_mem_set here with there | rfl
  · exact final.safe reported operation there
  · exact not_threatens_next awaits own (final.status reported) finds

theorem Final.report (present : current.pool.calls[index]? = some call)
    (persisted : Persisted current.pool.shared messageId)
    (confirms : call.input = .confirmPersistence messageId)
    (others : ∀ other operation', other ≠ index → current.pool.calls[other]? = some operation' →
        ¬ Threatens messageId operation'.input operation'.phase)
    {socket : String} {next : ConfirmationCommand.Reply (.getSocket socket) →
      ConfirmationProgram (List DeliveryNotice)} :
    Persisted (exec current.pool.shared (.getSocket socket) ()).1 messageId ∧
      ∀ operation ∈ (current.pool.resume (discipline config) index call (.getSocket socket) next
        (exec current.pool.shared (.getSocket socket) ())).calls,
          ¬ Threatens messageId operation.input operation.phase := by
  refine ⟨persisted, fun operation here => ?_⟩
  obtain ⟨position, found⟩ := List.mem_iff_getElem?.mp here
  rw [Pool.getElem?_resume present] at found
  split at found
  · cases found
    rw [confirms]
    exact id
  · rename_i different
    exact others position operation (Ne.symm different) found

theorem Final.resume (final : Final messageId current)
    (present : current.pool.calls[index]? = some call)
    (awaits : Awaits config call.input call.phase command)
    (reports : call.input = .confirmPersistence messageId → command = .getSocket messageId →
      Persisted current.pool.shared messageId ∧ ∀ other operation', other ≠ index →
        current.pool.calls[other]? = some operation' →
          ¬ Threatens messageId operation'.input operation'.phase)
    (finds : Rewrites messageId call.input → command = .get messageId →
      Reported messageId current → stored? current.pool.shared messageId = none)
    (respectful : (current.pool.resume (discipline config) index call command next
      (exec current.pool.shared command ())).Respectful (discipline config) ends) :
    Final messageId ⟨current.pool.resume (discipline config) index call command next
        (exec current.pool.shared command ()),
      current.history ++ Pool.ending call.input (next (exec current.pool.shared command ()).2)⟩ := by
  have respects : (next (exec current.pool.shared command ()).2).Respects
      (discipline config call.input) (ends call.input)
      (nextPhase call.phase command (exec current.pool.shared command ()).2) :=
    respectful _ (Pool.mem_resume_self present)
  have fails : ∀ notice ∈ (Pool.ending call.input
      (next (exec current.pool.shared command ()).2)).flatMap Ending.notices,
      notice.Fails messageId → Threatens messageId call.input call.phase := by
    intro notice member failed
    obtain ⟨reporting, told⟩ := (notices_of_ends respects member).2 failed
    rw [(tells_of_told awaits told).1]
    exact threatens_of_reports reporting
  have after : Reported messageId ⟨current.pool.resume (discipline config) index call command next
        (exec current.pool.shared command ()),
      current.history ++ Pool.ending call.input (next (exec current.pool.shared command ()).2)⟩ →
      Persisted (exec current.pool.shared command ()).1 messageId ∧
        ∀ operation ∈ (current.pool.resume (discipline config) index call command next
          (exec current.pool.shared command ())).calls,
            ¬ Threatens messageId operation.input operation.phase := by
    rintro ⟨notice, member, persists⟩
    rw [emitted_append, List.mem_append] at member
    rcases member with before | now
    · exact final.later ⟨notice, before, persists⟩ present awaits
        fun rewrites read => finds rewrites read ⟨notice, before, persists⟩
    · obtain ⟨confirms, told⟩ := (notices_of_ends respects now).1 persists
      obtain ⟨_, rfl⟩ := tells_of_told awaits told
      obtain ⟨persisted, others⟩ := reports confirms (by rw [confirms]; rfl)
      exact Final.report present persisted confirms others
  refine ⟨⟨?_, fun reported => (after reported).1⟩, fun reported => (after reported).2⟩
  rw [emitted_append, List.pairwise_append]
  refine ⟨final.silent, List.pairwise_of_forall_mem_list ?_, ?_⟩
  · intro earlier here later there persists failed
    obtain ⟨confirms, _⟩ := (notices_of_ends respects here).1 persists
    have threatens := fails later there failed
    rw [confirms] at threatens
    exact threatens
  · intro earlier before later there persists failed
    exact final.safe ⟨earlier, before, persists⟩ call (List.mem_of_getElem? present)
      (fails later there failed)

end Steps

/-- Operations on statuses run interleaved in any way, timeouts at any time. As long as, when a
message is reported as persisted, that is its status and nothing in progress is still to say
otherwise, and afterwards it is not tracked again and nothing that would rewrite its status finds
it, the message stays persisted. -/
theorem persisted_messages_stay (config : DeliveryConfirmationConfig) (messageId : String)
    (state : ConfirmationState) (events : List ConfirmationEvent)
    (keeps : (history config).Admits (KeepsPersisted messageId) (newHistory state) events) :
    StaysPersisted messageId ((history config).run (newHistory state) events) := by
  have fresh : Final messageId (newHistory state) := by
    refine ⟨⟨List.Pairwise.nil, ?_⟩, ?_⟩
    all_goals
      rintro ⟨notice, member, _⟩
      exact absurd member List.not_mem_nil
  refine (Pool.Recorded.invariant (operation_respects config) ?_ ?_ ?_ keeps
    (fun _ member => absurd member List.not_mem_nil) fresh).2.toStaysPersisted
  · intro current operation final guarded
    have same : current.history ++ Pool.ending operation ((host config).body operation) =
        current.history := by
      cases operation <;> exact List.append_nil _
    change Final messageId ⟨_, current.history ++ Pool.ending operation _⟩
    rw [same]
    refine ⟨⟨final.silent, final.status⟩, fun reported => Pool.forall_start ?_ (final.safe reported)⟩
    intro threatens
    cases operation with
    | trackMessage other socketId now =>
      obtain ⟨rfl, _⟩ := threatens
      exact guarded ⟨socketId, now, rfl⟩ reported
    | confirmPersistence => exact threatens
    | markFailed => obtain ⟨_, ⟨_, phase⟩ | phase⟩ := threatens <;> cases phase
    | handleTimeout => obtain ⟨_, ⟨_, phase, _⟩ | phase⟩ := threatens <;> cases phase
    | incrementRetry =>
      obtain ⟨_, _, phase⟩ := threatens
      cases phase
  · intro current elapsed final _
    exact ⟨⟨final.silent, final.status⟩, final.safe⟩
  · rintro current index ⟨⟩ call command next final guarded _ present program awaits
    obtain ⟨reports, finds⟩ := guarded call command (Pool.awaited?_of_await present program)
    exact ⟨trivial, final.resume present awaits reports finds⟩

section Sample

def sampleConfig : DeliveryConfirmationConfig := ⟨5000, 3⟩

def sampleState : ConfirmationState := ⟨0, .empty, .empty, [], .empty, 0⟩

def commands (index count : Nat) : List ConfirmationEvent := List.replicate count (.run index ())

def confirmed : List ConfirmationEvent :=
  .start (.trackMessage "m1" "s1" 0) :: commands 0 3 ++
    .start (.confirmPersistence "m1") :: commands 1 4 ++
      .start (.handleTimeout "m1") :: commands 2 2

theorem confirmed_message_stays :
    StaysPersisted "m1" ((history sampleConfig).run (newHistory sampleState) confirmed) := by
  refine persisted_messages_stay sampleConfig "m1" sampleState confirmed
    ⟨?_, ?_, ?_, ?_, ?_, ?_, ?_, ?_, ?_, ?_, ?_, ?_, trivial⟩
  case refine_1 =>
    rintro _ ⟨_, member, _⟩
    exact absurd member List.not_mem_nil
  case refine_5 | refine_10 =>
    rintro ⟨_, _, started⟩
    cases started
  case refine_9 =>
    -- The message is reported: it is persisted, and nothing else goes on.
    rintro _ _ ⟨⟩
    refine ⟨fun _ _ => ⟨⟨_, rfl, rfl⟩, fun other operation different present => ?_⟩, False.elim⟩
    match other with
    | 0 =>
      cases present
      rintro ⟨_, waiting⟩
      cases waiting
    | 1 => exact absurd rfl different
    | _ + 2 => cases present
  all_goals
    rintro _ _ ⟨⟩
    refine ⟨fun confirms socket => ?_, False.elim⟩
  case refine_2 | refine_3 | refine_4 | refine_11 | refine_12 => cases confirms
  all_goals cases socket

def failedAfterwards : List ConfirmationEvent :=
  .start (.trackMessage "m1" "s1" 0) :: commands 0 3 ++
    .start (.confirmPersistence "m1") :: commands 1 4 ++
      .start (.markFailed "m1" "disk full") :: commands 2 4

theorem persisted_message_fails :
    ¬ ∀ events, StaysPersisted "m1" ((history sampleConfig).run (newHistory sampleState)
      events) := by
  intro stays
  have silent := (stays failedAfterwards).silent
  have notices : emitted ((history sampleConfig).run (newHistory sampleState) failedAfterwards) =
      [.persisted "m1" (some "s1"), .persistFailed "m1" (some "s1") "disk full",
        .retry "m1" 1] := by decide +kernel
  rw [notices] at silent
  exact (List.pairwise_cons.mp silent).1 _ List.mem_cons_self rfl rfl

end Sample

end Caas.Messaging
