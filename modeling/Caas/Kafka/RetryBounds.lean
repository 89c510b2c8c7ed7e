import Caas.Kafka.DeadLetterRetry

/-!
# Dead letters are not stuck

A dead letter should be sent no more than `maxRetries` times between two manual
reprocessings, and a pending one should be selected again. A letter is returned with a count
one higher than that of the copy that could not be sent, whatever the filter of the
selection says of it.
-/

namespace Caas.Kafka.DLQRetryService

open Js Async Program

/-- Whether a call has failed to send a letter that it has not returned yet. -/
inductive RetryPhase (ν : Type) where
  | calm
  | failing (dlqMessage : DLQMessage ν)

variable {ν : Type}

def afterSending (dlqMessage : DLQMessage ν) : Sending → RetryPhase ν
  | .sent => .calm
  | _ => .failing dlqMessage

def nextPhase : RetryPhase ν → (command : RetryCommand ν) → command.Reply → RetryPhase ν
  | .calm, .send _ dlqMessage, sending => afterSending dlqMessage sending
  | .failing _, .updateStatus _ _ _, _ => .calm
  | phase, _, _ => phase

inductive Awaits (settings : Settings) : RetryPhase ν → RetryCommand ν → Prop where
  | select limit : Awaits settings .calm (.getPendingMessages limit)
  | find dlqId : Awaits settings .calm (.findOne dlqId)
  | reset dlqId : Awaits settings .calm (.updateStatus dlqId .pending (some 0))
  | giveUp dlqId : Awaits settings .calm (.updateStatus dlqId .failed none)
  | date : Awaits settings .calm .dateNow
  | mark dlqId retryCount : Awaits settings .calm (.updateStatus dlqId .retrying (some retryCount))
  | send retryTopic dlqMessage (left : dlqMessage.retryCount < settings.maxRetries) :
    Awaits settings .calm (.send retryTopic dlqMessage)
  | putBack dlqMessage : Awaits settings (.failing dlqMessage)
      (.updateStatus dlqMessage.dlqId .pending (some (dlqMessage.retryCount + 1)))

def discipline (settings : Settings) (_ : RetryCall ν) :
    Discipline (RetryCommand ν) RetryCommand.Reply (RetryPhase ν) where
  next := nextPhase
  may := Awaits settings
  assumes _ _ := True

/-- A call ends when nothing is left to be returned. -/
def ends (_ : RetryCall ν) (phase : RetryPhase ν) (_ : Outcome Unit) : Prop :=
  phase = .calm

/-- A letter that has been given to the producer is counted. -/
def countAttempt (counts : String → Nat) (dlqId : String) : Sending → String → Nat
  | .unsent _ => counts
  | _ => Function.update counts dlqId (counts dlqId + 1)

/-- How often each letter has been given to the producer since its count was reset. -/
def attempts : Pool.Recorder (RetryCommand ν) RetryCommand.Reply (RetryCall ν) (RetryPhase ν) Unit
    (String → Nat) where
  started counts _ _ := counts
  ran counts _ _ command reply _ :=
    match command, reply with
    | .updateStatus dlqId .pending (some 0), _ => Function.update counts dlqId 0
    | .send _ dlqMessage, sending => countAttempt counts dlqMessage.dlqId sending
    | _, _ => counts

abbrev RetryHistory (ν : Type) :=
  Pool.Recorded (DLQStore ν) (RetryCommand ν) RetryCommand.Reply (RetryCall ν) (RetryPhase ν) Unit
    (String → Nat)

abbrev RetryEvent (ν : Type) := Event Circumstance Unit (RetryCall ν)

variable (numbers : Json.Numbers ν) (settings : Settings)

/-- The calls of the service, with the attempts since a reset. -/
def history : Transducer (RetryHistory ν) (RetryEvent ν) Unit :=
  Pool.Recorded.machine (host numbers settings) (discipline settings) (fun _ => .calm) attempts

def newHistory (store : DLQStore ν) : RetryHistory ν := ⟨⟨store, []⟩, fun _ => 0⟩

def IsRetryable (store : DLQStore ν) (dlqId : String) : Prop :=
  ∃ stored ∈ store.messages, stored.dlqId = dlqId ∧ stored.isRetryable = true

/-- The letter cannot be sent: there is no producer, it has no record, or it is rejected. -/
def CannotSend (store : DLQStore ν) (dlqMessage : DLQMessage ν) (circumstance : Circumstance) :
    Prop :=
  store.producing = false ∨ dlqMessage.message = .null ∨ circumstance.rejection ≠ none

/-- A copy that is to be sent counts all attempts since the reset, and a letter that can be
retried and cannot be sent has been tried fewer than two times before. -/
def Accounted (current : RetryHistory ν) : RetryEvent ν → Prop
  | .run index circumstance => ∀ call retryTopic dlqMessage,
    current.pool.awaited? index = some (call, .send retryTopic dlqMessage) →
      current.history dlqMessage.dlqId ≤ dlqMessage.retryCount ∧
        (CannotSend current.pool.shared dlqMessage circumstance →
          IsRetryable current.pool.shared dlqMessage.dlqId → dlqMessage.retryCount < 2)
  | _ => True

/-- No letter has been tried too often, and all that are pending and can be retried are
selected. -/
structure Unstuck (current : RetryHistory ν) : Prop where
  bounded : ∀ dlqId, current.history dlqId ≤ settings.maxRetries
  selected : ∀ message ∈ current.pool.shared.messages, message.isRetryable = true →
    message.status = .pending → message.retryCount < 3
  failing : ∀ call ∈ current.pool.calls, ∀ dlqMessage, call.phase = .failing dlqMessage →
    IsRetryable current.pool.shared dlqMessage.dlqId → dlqMessage.retryCount < 2

section Storage

variable {messages : List (DLQMessage ν)} {message : DLQMessage ν}

theorem mem_updateStatus {dlqId : String} {status : DLQStatus} {retryCount : Option Nat} {now : Int}
    (here : message ∈ updateStatus dlqId status retryCount now messages) :
    ∃ old ∈ messages, old.dlqId = message.dlqId ∧ old.isRetryable = message.isRetryable ∧
      (message = old ∨ message.dlqId = dlqId ∧ message.status = status ∧
        message.retryCount = retryCount.getD old.retryCount) := by
  induction messages with
  | nil => cases here
  | cons first rest ih =>
    unfold updateStatus at here
    split at here
    · rename_i same
      rcases List.mem_cons.mp here with rfl | later
      · exact ⟨first, List.mem_cons_self, rfl, rfl, .inr ⟨same, rfl, rfl⟩⟩
      · exact ⟨message, List.mem_cons_of_mem _ later, rfl, rfl, .inl rfl⟩
    · rcases List.mem_cons.mp here with rfl | later
      · exact ⟨message, List.mem_cons_self, rfl, rfl, .inl rfl⟩
      · obtain ⟨old, member, kept⟩ := ih later
        exact ⟨old, List.mem_cons_of_mem _ member, kept⟩

theorem mem_getPendingMessages {limit : Nat} (enough : messages.length ≤ limit) :
    message ∈ getPendingMessages messages limit ↔ message ∈ messages ∧ Selected message := by
  have whole : (messages.filter fun message => Selected message).length ≤ limit :=
    Nat.le_trans (List.length_filter_le _ _) enough
  rw [getPendingMessages, List.take_of_length_le whole, List.mem_filter, decide_eq_true_iff]

end Storage

section Respects

variable (call : RetryCall ν)

theorem send_respects {retryTopic : String} {dlqMessage : DLQMessage ν}
    (left : dlqMessage.retryCount < settings.maxRetries) :
    (send retryTopic dlqMessage).Respects (discipline settings call)
      (fun phase outcome => match outcome with
        | .ok _ => phase = .calm
        | .error _ => phase = .failing dlqMessage) .calm := by
  refine ⟨.send _ _ left, fun (sending : Sending) _ => ?_⟩
  cases sending <;> rfl

theorem retryMessage_respects (dlqMessage : DLQMessage ν) :
    (retryMessage settings dlqMessage).Respects (discipline settings call) (ends call) .calm := by
  refine Program.respects_catching ?_
  split
  · exact ⟨.giveUp _, fun _ _ => rfl⟩
  · rename_i unspent
    refine ⟨.date, fun (now : Int) _ => ?_⟩
    dsimp only [Program.bind]
    split
    · rfl
    · refine ⟨.mark _ _, fun _ _ => ?_⟩
      refine (send_respects settings call (Nat.lt_of_not_le unspent)).mono ?_
      intro phase outcome ended
      cases outcome with
      | ok _ => exact ended
      | error _ =>
        rw [ended]
        exact ⟨.putBack _, fun _ _ => rfl⟩

theorem retryMessages_respects (messages : List (DLQMessage ν)) :
    (retryMessages settings messages).Respects (discipline settings call) (ends call) .calm := by
  induction messages with
  | nil => rfl
  | cons message rest ih =>
    refine respects_bind ((retryMessage_respects settings call message).mono ?_)
    rintro phase outcome rfl
    cases outcome with
    | ok _ => exact ih
    | error _ => rfl

theorem retryCall_respects :
    ((host numbers settings).body call).Respects (discipline settings call) (ends call) .calm := by
  cases call with
  | processPendingMessages =>
    refine ⟨.select _, fun (messages : List (DLQMessage ν)) _ => ?_⟩
    exact retryMessages_respects settings _ messages
  | retryMessage dlqMessage => exact retryMessage_respects settings _ dlqMessage
  | reprocessMessage dlqId =>
    refine ⟨.find _, fun (found : Option (DLQMessage ν)) _ => ?_⟩
    cases found with
    | none => rfl
    | some dlqMessage => exact ⟨.reset _, fun _ _ => retryMessage_respects settings _ dlqMessage⟩

end Respects

section Steps

variable {current : RetryHistory ν} {index : Nat}
  {call : Call (RetryCommand ν) RetryCommand.Reply (RetryCall ν) (RetryPhase ν) Unit}
  {command : RetryCommand ν} {next : command.Reply → RetryProgram ν Unit}

variable {dlqId : String} {circumstance : Circumstance}

theorem isRetryable_updateStatus {store : DLQStore ν} {other : String} {status : DLQStatus}
    {retryCount : Option Nat}
    (after : IsRetryable (exec numbers store (.updateStatus dlqId status retryCount)
      circumstance).1 other) : IsRetryable store other := by
  obtain ⟨message, here, same, retryable⟩ := after
  obtain ⟨old, member, sameId, sameFlag, _⟩ := mem_updateStatus here
  exact ⟨old, member, sameId.trans same, sameFlag.trans retryable⟩

/-- A step after which no count is too high, no letter is stuck, and none is to be returned
that would be. -/
theorem Unstuck.step (unstuck : Unstuck settings current) {effect : DLQStore ν × command.Reply}
    {counts : String → Nat} (bounded : ∀ dlqId, counts dlqId ≤ settings.maxRetries)
    (selected : ∀ message ∈ effect.1.messages, message.isRetryable = true →
      message.status = .pending → message.retryCount < 3)
    (retryable : ∀ dlqId, IsRetryable effect.1 dlqId → IsRetryable current.pool.shared dlqId)
    (own : ∀ dlqMessage, nextPhase call.phase command effect.2 = .failing dlqMessage →
      IsRetryable current.pool.shared dlqMessage.dlqId → dlqMessage.retryCount < 2) :
    Unstuck settings
      ⟨current.pool.resume (discipline settings) index call command next effect, counts⟩ := by
  refine ⟨bounded, selected, fun other here dlqMessage failing after => ?_⟩
  rcases List.mem_or_eq_of_mem_set here with kept | rfl
  · exact unstuck.failing other kept dlqMessage failing (retryable _ after)
  · exact own dlqMessage failing (retryable _ after)

theorem Unstuck.selected_updateStatus (unstuck : Unstuck settings current) {status : DLQStatus}
    {retryCount : Option Nat} (unstick : status = .pending → IsRetryable current.pool.shared dlqId →
      ∃ count < 3, retryCount = some count) :
    ∀ message ∈ (exec numbers current.pool.shared (.updateStatus dlqId status retryCount)
        circumstance).1.messages,
      message.isRetryable = true → message.status = .pending → message.retryCount < 3 := by
  intro message here retryable pending
  obtain ⟨old, member, sameId, sameFlag, same | ⟨target, set, counted⟩⟩ := mem_updateStatus here
  · rw [same] at retryable pending ⊢
    exact unstuck.selected old member retryable pending
  · obtain ⟨count, few, given⟩ := unstick (set.symm.trans pending)
      ⟨old, member, sameId.trans target, sameFlag.trans retryable⟩
    rw [counted, given]
    exact few

theorem countAttempt_le {counts : String → Nat} {bound : Nat} {sending : Sending}
    (bounded : ∀ other, counts other ≤ bound) (left : counts dlqId < bound) (other : String) :
    countAttempt counts dlqId sending other ≤ bound := by
  unfold countAttempt
  split
  · exact bounded other
  · rw [Function.update_apply]
    split
    · exact left
    · exact bounded other

theorem afterSending_eq_failing {dlqMessage failed : DLQMessage ν} {sending : Sending}
    (turned : afterSending dlqMessage sending = .failing failed) :
    sending ≠ .sent ∧ dlqMessage = failed := by
  cases sending <;> cases turned
  all_goals exact ⟨nofun, rfl⟩

theorem cannotSend_of_not_sent {store : DLQStore ν} {retryTopic : String}
    {dlqMessage : DLQMessage ν}
    (unsent : (exec numbers store (.send retryTopic dlqMessage) circumstance).2 ≠ Sending.sent) :
    CannotSend store dlqMessage circumstance := by
  unfold CannotSend
  by_contra able
  push Not at able
  obtain ⟨producing, hasRecord, accepted⟩ := able
  have record : ∃ record, retryRecord numbers retryTopic dlqMessage = .ok record := by
    unfold retryRecord
    cases found : dlqMessage.message with
    | null => exact absurd found hasRecord
    | _ => exact ⟨_, rfl⟩
  obtain ⟨record, made⟩ := record
  have present := (Bool.not_eq_false _).mp producing
  simp only [exec, present, if_true, made, accepted] at unsent
  exact unsent rfl

theorem messages_send {store : DLQStore ν} {retryTopic : String} {dlqMessage : DLQMessage ν}
    {circumstance : Circumstance} :
    (exec numbers store (.send retryTopic dlqMessage) circumstance).1.messages = store.messages := by
  unfold exec
  cases store.producing with
  | false => rfl
  | true =>
    dsimp only
    rw [if_pos rfl]
    cases retryRecord numbers retryTopic dlqMessage <;> rfl

theorem Unstuck.resume (unstuck : Unstuck settings current) (circumstance : Circumstance)
    (present : current.pool.calls[index]? = some call) (awaits : Awaits settings call.phase command)
    (accounted : ∀ retryTopic dlqMessage, command = .send retryTopic dlqMessage →
      current.history dlqMessage.dlqId ≤ dlqMessage.retryCount ∧
        (CannotSend current.pool.shared dlqMessage circumstance →
          IsRetryable current.pool.shared dlqMessage.dlqId → dlqMessage.retryCount < 2)) :
    Unstuck settings
      ⟨current.pool.resume (discipline settings) index call command next
          (exec numbers current.pool.shared command circumstance),
        attempts.ran current.history index call command
          (exec numbers current.pool.shared command circumstance).2
          (next (exec numbers current.pool.shared command circumstance).2)⟩ := by
  have failing := unstuck.failing call (List.mem_of_getElem? present)
  obtain ⟨input, phase, program⟩ := call
  cases awaits with
  | select | find | date =>
    exact unstuck.step settings unstuck.bounded unstuck.selected (fun _ => id) nofun
  | reset dlqId =>
    refine unstuck.step settings (fun other => ?_) (unstuck.selected_updateStatus numbers settings ?_)
      (fun _ => isRetryable_updateStatus numbers) nofun
    · change Function.update current.history dlqId 0 other ≤ _
      rw [Function.update_apply]
      split
      · exact Nat.zero_le _
      · exact unstuck.bounded other
    · exact fun _ _ => ⟨0, by decide, rfl⟩
  | giveUp | mark =>
    exact unstuck.step settings unstuck.bounded
      (unstuck.selected_updateStatus numbers settings nofun)
      (fun _ => isRetryable_updateStatus numbers) nofun
  | putBack dlqMessage =>
    refine unstuck.step settings unstuck.bounded
      (unstuck.selected_updateStatus numbers settings fun _ retryable => ?_)
      (fun _ => isRetryable_updateStatus numbers) nofun
    exact ⟨_, Nat.succ_lt_succ (failing dlqMessage rfl retryable), rfl⟩
  | send retryTopic dlqMessage left =>
    obtain ⟨counted, few⟩ := accounted retryTopic dlqMessage rfl
    have kept := @messages_send ν numbers current.pool.shared retryTopic dlqMessage circumstance
    refine unstuck.step settings (fun other => ?_) (kept ▸ unstuck.selected) (fun other => ?_) ?_
    · exact countAttempt_le unstuck.bounded (Nat.lt_of_le_of_lt counted left) other
    · unfold IsRetryable
      rw [kept]
      exact id
    · intro failed turned
      obtain ⟨unsent, rfl⟩ := afterSending_eq_failing turned
      exact few (cannotSend_of_not_sent numbers unsent)

end Steps

/-- Calls run interleaved in any way, while the producer fails at will and the clock shows
anything, from letters that are all selected as long as they are pending and can be retried.
When all that is sent is accounted for, no letter is given to the producer more than `maxRetries`
times without a reset, and every letter that can be retried and is pending is selected. -/
theorem dead_letters_are_not_stuck (store : DLQStore ν)
    (selectable : ∀ message ∈ store.messages, message.isRetryable = true →
      message.status = .pending → Selected message) (events : List (RetryEvent ν))
    (accounted : (history numbers settings).Admits Accounted (newHistory store) events) :
    (∀ dlqId, ((history numbers settings).run (newHistory store) events).history dlqId ≤
      settings.maxRetries) ∧
    ∀ message ∈ ((history numbers settings).run (newHistory store) events).pool.shared.messages,
      message.isRetryable = true → message.status = .pending → ∀ limit,
        ((history numbers settings).run (newHistory store) events).pool.shared.messages.length ≤
          limit → message ∈ getPendingMessages
          ((history numbers settings).run (newHistory store) events).pool.shared.messages limit := by
  have unstuck : Unstuck settings ((history numbers settings).run (newHistory store) events) := by
    refine (Pool.Recorded.invariant (retryCall_respects numbers settings) ?_ ?_ ?_ accounted
      (fun call here => absurd here List.not_mem_nil) ?_).2
    · intro current input unstuck _
      refine ⟨unstuck.bounded, unstuck.selected, fun call here dlqMessage failing => ?_⟩
      rcases Pool.mem_start here with earlier | rfl
      · exact unstuck.failing call earlier dlqMessage failing
      · cases failing
    · intro current _ unstuck _
      exact ⟨unstuck.bounded, unstuck.selected, unstuck.failing⟩
    · intro current index circumstance call command next unstuck guarded _ present program awaits
      refine ⟨trivial, fun _ => unstuck.resume numbers settings circumstance present awaits ?_⟩
      rintro retryTopic dlqMessage rfl
      exact guarded call retryTopic dlqMessage (Pool.awaited?_of_await present program)
    · refine ⟨fun _ => Nat.zero_le _, fun message here retryable pending => ?_,
        fun call here => absurd here List.not_mem_nil⟩
      exact (selectable message here retryable pending).2.2
  refine ⟨unstuck.bounded, fun message here retryable pending limit enough => ?_⟩
  refine (mem_getPendingMessages enough).mpr ⟨here, pending, retryable, ?_⟩
  exact unstuck.selected message here retryable pending

section Sample

def sampleLetter (message : Json Nat) : DLQMessage Nat :=
  ⟨"dlq_1", "chat.messages", message, 0, true, 0, none, .pending⟩

def sampleStore (message : Json Nat) : DLQStore Nat := ⟨[sampleLetter message], true, []⟩

def sampleNumbers : Json.Numbers Nat := ⟨Nat.toDigits 10, (· = 0)⟩

def sampleSettings : Settings := .ofOptions none none

def retried (index : Nat) (rejection : Option String) (commands : Nat) : List (RetryEvent Nat) :=
  .start .processPendingMessages ::
    List.replicate commands (.run index ⟨100000000, rejection⟩)

theorem sent_letter_is_bounded :
    ((history sampleNumbers sampleSettings).run (newHistory (sampleStore (.object [])))
      (retried 0 none 4)).history "dlq_1" ≤ 3 ∧
    ∀ message ∈ ((history sampleNumbers sampleSettings).run (newHistory (sampleStore (.object [])))
        (retried 0 none 4)).pool.shared.messages,
      message.isRetryable = true → message.status = .pending → ∀ limit, 1 ≤ limit →
        message ∈ getPendingMessages ((history sampleNumbers sampleSettings).run
          (newHistory (sampleStore (.object []))) (retried 0 none 4)).pool.shared.messages limit := by
  have bounded := dead_letters_are_not_stuck sampleNumbers sampleSettings
    (sampleStore (.object [])) ?_ (retried 0 none 4) ?_
  · exact ⟨bounded.1 "dlq_1", bounded.2⟩
  · intro message here retryable pending
    cases List.mem_singleton.mp here
    exact ⟨rfl, rfl, by decide⟩
  · refine ⟨trivial, ?_, ?_, ?_, ?_, trivial⟩
    all_goals rintro _ _ _ ⟨⟩
    exact ⟨by decide +kernel, fun _ _ => by decide⟩

def failedThrice : List (RetryEvent Nat) :=
  retried 0 (some "timeout") 5 ++ retried 1 (some "timeout") 5 ++ retried 2 (some "timeout") 5

/-- A letter whose sending fails three times is pending for ever. -/
theorem failing_letter_is_stuck :
    ¬ ∀ events, ∀ message ∈ ((history sampleNumbers sampleSettings).run
        (newHistory (sampleStore (.object []))) events).pool.shared.messages,
      message.isRetryable = true → message.status = .pending → ∀ limit,
        ((history sampleNumbers sampleSettings).run (newHistory (sampleStore (.object [])))
          events).pool.shared.messages.length ≤ limit →
        message ∈ getPendingMessages ((history sampleNumbers sampleSettings).run
          (newHistory (sampleStore (.object []))) events).pool.shared.messages limit := by
  intro selected
  have stuck : ((history sampleNumbers sampleSettings).run (newHistory (sampleStore (.object [])))
      failedThrice).pool.shared.messages.map (fun message =>
        (message.isRetryable, message.status, message.retryCount)) = [(true, .pending, 3)] := by
    decide +kernel
  obtain ⟨message, alone, fields⟩ := List.map_eq_singleton_iff.mp stuck
  simp only [Prod.mk.injEq] at fields
  obtain ⟨retryable, pending, count⟩ := fields
  have here := selected failedThrice message (alone ▸ List.mem_singleton.mpr rfl) retryable pending
    _ (Nat.le_refl _)
  have few := ((mem_getPendingMessages (Nat.le_refl _)).mp here).2.2.2
  omega

end Sample

end Caas.Kafka.DLQRetryService
