import Caas.Async.Pool
import Caas.Redis.ExpiringMap

/-!
# Tracking deliveries

The recipients of a message and those it has been delivered to are one record in Redis. A
confirmation reads the record, adds its recipient and writes the record back.

`JSON.stringify` and `JSON.parse` of a record are the identity. Redis does not fail. The time at
which a message is sent is an argument.
-/

namespace Caas.Receipts

open Async Redis

structure DeliveryTrackingRecord where
  messageId : String
  conversationId : String
  senderId : String
  recipientIds : List String
  deliveredTo : List String
  sentAt : Nat
deriving DecidableEq

/-- What `getDeliveryStatus` answers. -/
structure DeliveryStatus where
  totalRecipients : Nat
  deliveredTo : List String
  pending : List String
deriving DecidableEq

structure DeliveryState where
  now : Nat
  records : ExpiringMap String DeliveryTrackingRecord

/-- What an operation awaits; a record is named by the rest of its key. -/
inductive DeliveryCommand where
  | get (messageId : String)
  | setEx (messageId : String) (seconds : Nat) (record : DeliveryTrackingRecord)

def DeliveryCommand.Reply : DeliveryCommand → Type
  | .get _ => Option DeliveryTrackingRecord
  | .setEx _ _ _ => Unit

abbrev DeliveryProgram := Program DeliveryCommand DeliveryCommand.Reply

def await (command : DeliveryCommand) : DeliveryProgram command.Reply := Program.command command

namespace RedisClient

def get (messageId : String) : DeliveryProgram (Option DeliveryTrackingRecord) :=
  await (.get messageId)

def setEx (messageId : String) (seconds : Nat) (record : DeliveryTrackingRecord) :
    DeliveryProgram Unit :=
  await (.setEx messageId seconds record)

end RedisClient

def exec (state : DeliveryState) (command : DeliveryCommand) (_ : Unit) :
    DeliveryState × command.Reply :=
  match command with
  | .get messageId => (state, state.records.lookup state.now messageId)
  | .setEx messageId seconds record =>
    ({ state with records := state.records.store state.now messageId seconds record }, ())

namespace DeliveryTracker

def deliveryTtl : Nat := 7 * 24 * 60 * 60

def trackMessageSent (messageId conversationId senderId : String) (recipientIds : List String)
    (sentAt : Nat) : DeliveryProgram Unit :=
  RedisClient.setEx messageId deliveryTtl
    { messageId, conversationId, senderId, recipientIds, deliveredTo := [], sentAt }

def confirmDelivery (messageId recipientId : String) : DeliveryProgram Unit := do
  let data ← RedisClient.get messageId
  match data with
  | none => pure ()
  | some record =>
    if recipientId ∈ record.deliveredTo then pure ()
    else
      RedisClient.setEx messageId deliveryTtl
        { record with deliveredTo := record.deliveredTo ++ [recipientId] }

def status (record : DeliveryTrackingRecord) : DeliveryStatus where
  totalRecipients := record.recipientIds.length
  deliveredTo := record.deliveredTo
  pending := record.recipientIds.filter fun id => id ∉ record.deliveredTo

def getDeliveryStatus (messageId : String) : DeliveryProgram (Option DeliveryStatus) := do
  let data ← RedisClient.get messageId
  pure (data.map status)

end DeliveryTracker

open DeliveryTracker

inductive DeliveryOperation where
  | trackMessageSent (messageId conversationId senderId : String) (recipientIds : List String)
    (sentAt : Nat)
  | confirmDelivery (messageId recipientId : String)
  | getDeliveryStatus (messageId : String)

def body : DeliveryOperation → DeliveryProgram (Option DeliveryStatus)
  | .trackMessageSent messageId conversationId senderId recipientIds sentAt => do
    trackMessageSent messageId conversationId senderId recipientIds sentAt
    pure none
  | .confirmDelivery messageId recipientId => do
    confirmDelivery messageId recipientId
    pure none
  | .getDeliveryStatus messageId => getDeliveryStatus messageId

/-- The operations on deliveries; time passes between commands. -/
def host : Host DeliveryState DeliveryCommand DeliveryCommand.Reply Unit Nat DeliveryOperation
    (Option DeliveryStatus) where
  exec := exec
  change state elapsed := { state with now := state.now + elapsed }
  body := body

end Caas.Receipts

/-!
## Nobody is lost from a delivery record

Every recipient of a message should be either pending or delivered, and stay delivered. A
confirmation writes back the record that it has read, so it drops whoever has been recorded
since, and it records whoever it is called with.
-/

namespace Caas.Receipts

open Async Redis DeliveryTracker

inductive DeliveryPhase where
  | waiting
  | read (data : Option DeliveryTrackingRecord)
  | stored

def nextPhase : (command : DeliveryCommand) → command.Reply → DeliveryPhase
  | .get _, data => .read data
  | .setEx _ _ _, _ => .stored

/-- What an operation awaits: a confirmation writes what it has read with its recipient added. -/
inductive Awaits : DeliveryOperation → DeliveryPhase → DeliveryCommand → Prop where
  | track messageId conversationId senderId recipientIds sentAt :
    Awaits (.trackMessageSent messageId conversationId senderId recipientIds sentAt) .waiting
      (.setEx messageId deliveryTtl
        { messageId, conversationId, senderId, recipientIds, deliveredTo := [], sentAt })
  | read messageId recipientId :
    Awaits (.confirmDelivery messageId recipientId) .waiting (.get messageId)
  | confirm messageId recipientId record (new : recipientId ∉ record.deliveredTo) :
    Awaits (.confirmDelivery messageId recipientId) (.read (some record))
      (.setEx messageId deliveryTtl
        { record with deliveredTo := record.deliveredTo ++ [recipientId] })
  | status messageId : Awaits (.getDeliveryStatus messageId) .waiting (.get messageId)

def discipline (operation : DeliveryOperation) :
    Discipline DeliveryCommand DeliveryCommand.Reply DeliveryPhase where
  next _ := nextPhase
  may := Awaits operation
  assumes _ _ := True

/-- A confirmation ends when it has stored its recipient, or has read that there is nothing to
store. -/
def ends {α : Type} : DeliveryOperation → DeliveryPhase → Program.Outcome α → Prop
  | .confirmDelivery _ recipientId, phase, _ => phase = .stored ∨
    ∃ data, phase = .read data ∧ ∀ record, data = some record → recipientId ∈ record.deliveredTo
  | _, _, _ => True

theorem get_respects {α : Type} {operation : DeliveryOperation} {messageId : String}
    {next : Option DeliveryTrackingRecord → DeliveryProgram α}
    (may : Awaits operation .waiting (.get messageId))
    (later : ∀ data, (next data).Respects (discipline operation) (ends operation) (.read data)) :
    (RedisClient.get messageId >>= next).Respects (discipline operation) (ends operation)
      .waiting :=
  ⟨may, fun data _ => later data⟩

theorem confirmDelivery_respects (messageId recipientId : String) :
    (confirmDelivery messageId recipientId).Respects
      (discipline (.confirmDelivery messageId recipientId))
      (ends (.confirmDelivery messageId recipientId)) .waiting := by
  refine get_respects (.read _ _) fun data => ?_
  cases data with
  | none =>
    refine .inr ⟨none, rfl, fun record found => ?_⟩
    cases found
  | some record =>
    dsimp only
    split
    · rename_i known
      refine .inr ⟨some record, rfl, fun other found => ?_⟩
      cases found
      exact known
    · rename_i new
      exact ⟨.confirm _ _ record new, fun _ _ => .inl rfl⟩

theorem operation_respects (operation : DeliveryOperation) :
    (host.body operation).Respects (discipline operation) (ends operation) .waiting := by
  cases operation with
  | trackMessageSent messageId conversationId senderId recipientIds sentAt =>
    exact ⟨.track _ _ _ _ _, fun _ _ => trivial⟩
  | confirmDelivery messageId recipientId =>
    refine Program.respects_bind
      ((confirmDelivery_respects messageId recipientId).mono fun phase outcome ended => ?_)
    cases outcome <;> exact ended
  | getDeliveryStatus messageId => exact ⟨.status _, fun _ _ => trivial⟩

abbrev DeliveryPool :=
  Pool DeliveryState DeliveryCommand DeliveryCommand.Reply DeliveryOperation DeliveryPhase
    (Option DeliveryStatus)

abbrev DeliveryEvent := Event Unit Nat DeliveryOperation

def deliveries : Transducer DeliveryPool DeliveryEvent Unit :=
  Pool.machine host discipline fun _ => .waiting

def stored? (state : DeliveryState) (messageId : String) : Option DeliveryTrackingRecord :=
  state.records.lookup state.now messageId

/-- A message has been tracked, and nothing else has happened. -/
def tracked (state : DeliveryState) (messageId conversationId senderId : String)
    (recipientIds : List String) (sentAt : Nat) : DeliveryPool :=
  deliveries.run ⟨state, []⟩
    [.start (.trackMessageSent messageId conversationId senderId recipientIds sentAt), .run 0 ()]

/-- The message is not tracked again, and its record does not expire. -/
def TrackedOnce (messageId : String) (pool : DeliveryPool) : DeliveryEvent → Prop
  | .start (.trackMessageSent other _ _ _ _) => other ≠ messageId
  | .change elapsed =>
    stored? (host.change pool.shared elapsed) messageId = stored? pool.shared messageId
  | _ => True

/-- Only recipients confirm, and everyone who is recorded when a confirmation writes is in the
record that it has read, or is the one it confirms. -/
def LosesNobody (messageId : String) (recipientIds : List String) (pool : DeliveryPool) :
    DeliveryEvent → Prop
  | .start (.confirmDelivery other recipientId) => other = messageId → recipientId ∈ recipientIds
  | .run index _ => ∀ call seconds written copy record,
    pool.awaited? index = some (call, .setEx messageId seconds written) →
      call.phase = .read (some copy) → stored? pool.shared messageId = some record →
        ∀ recipientId ∈ record.deliveredTo,
          recipientId ∈ copy.deliveredTo ∨ call.input = .confirmDelivery messageId recipientId
  | _ => True

/-- The record has these recipients; those it has been delivered to are some of them, each
listed once. -/
structure Sound (recipientIds : List String) (record : DeliveryTrackingRecord) : Prop where
  recipients : record.recipientIds = recipientIds
  once : record.deliveredTo.Nodup
  among : ∀ recipientId ∈ record.deliveredTo, recipientId ∈ recipientIds

/-- Delivered and pending recipients are all recipients. -/
def Partitioned (record : DeliveryTrackingRecord) : Prop :=
  ((status record).deliveredTo ++ (status record).pending).Perm record.recipientIds

/-- The message has a sound record in which its recipients are delivered or pending, and every
completed confirmation is recorded. -/
def KeepsAccount (messageId : String) (recipientIds : List String) (pool : DeliveryPool) : Prop :=
  ∃ record, stored? pool.shared messageId = some record ∧ Sound recipientIds record ∧
    Partitioned record ∧
    ∀ call ∈ pool.calls, ∀ recipientId, call.input = .confirmDelivery messageId recipientId →
      call.program.outcome? ≠ none → recipientId ∈ record.deliveredTo

variable {messageId : String} {recipientIds : List String} {record record' : DeliveryTrackingRecord}

theorem Sound.partitioned (sound : Sound recipientIds record) (distinct : recipientIds.Nodup) :
    Partitioned record := by
  have pendingOnce : (status record).pending.Nodup := by
    refine List.Nodup.filter _ ?_
    rw [sound.recipients]
    exact distinct
  have apart : ∀ one ∈ record.deliveredTo, ∀ other ∈ (status record).pending, one ≠ other := by
    rintro one delivered other pending rfl
    exact of_decide_eq_true (List.mem_filter.mp pending).2 delivered
  refine (List.perm_ext_iff_of_nodup (List.nodup_append.mpr ⟨sound.once, pendingOnce, apart⟩)
    (sound.recipients ▸ distinct)).mpr fun recipientId => ?_
  rw [List.mem_append]
  constructor
  · rintro (delivered | pending)
    · rw [sound.recipients]
      exact sound.among recipientId delivered
    · exact (List.mem_filter.mp pending).1
  · intro recipient
    by_cases delivered : recipientId ∈ record.deliveredTo
    · exact .inl delivered
    · exact .inr (List.mem_filter.mpr ⟨recipient, decide_eq_true delivered⟩)

theorem Sound.add (sound : Sound recipientIds record) {recipientId : String}
    (recipient : recipientId ∈ recipientIds) (new : recipientId ∉ record.deliveredTo) :
    Sound recipientIds { record with deliveredTo := record.deliveredTo ++ [recipientId] } := by
  refine ⟨sound.recipients, ?_, fun other delivered => ?_⟩
  · rw [List.nodup_append]
    refine ⟨sound.once, List.nodup_singleton _, ?_⟩
    rintro one delivered other same rfl
    rw [List.mem_singleton] at same
    exact new (same ▸ delivered)
  · rcases List.mem_append.mp delivered with before | same
    · exact sound.among other before
    · rw [List.mem_singleton.mp same]
      exact recipient

/-- What an operation on the message has done, when `record` is stored of it. -/
def Accounted (messageId : String) (recipientIds : List String) (record : DeliveryTrackingRecord)
    (operation : DeliveryOperation) (phase : DeliveryPhase) : Prop :=
  match operation with
  | .trackMessageSent other _ _ _ _ => other = messageId → phase = .stored
  | .confirmDelivery other recipientId => other = messageId → recipientId ∈ recipientIds ∧
    match phase with
    | .waiting => True
    | .read data => ∃ copy, data = some copy ∧ Sound recipientIds copy ∧
      ∀ delivered ∈ copy.deliveredTo, delivered ∈ record.deliveredTo
    | .stored => recipientId ∈ record.deliveredTo
  | .getDeliveryStatus _ => True

theorem Accounted.mono {operation : DeliveryOperation} {phase : DeliveryPhase}
    (accounted : Accounted messageId recipientIds record operation phase)
    (more : ∀ recipientId ∈ record.deliveredTo, recipientId ∈ record'.deliveredTo) :
    Accounted messageId recipientIds record' operation phase := by
  cases operation with
  | trackMessageSent => exact accounted
  | getDeliveryStatus => trivial
  | confirmDelivery other recipientId =>
    intro same
    obtain ⟨recipient, done⟩ := accounted same
    refine ⟨recipient, ?_⟩
    cases phase with
    | waiting => trivial
    | read data =>
      obtain ⟨copy, found, sound, fewer⟩ := done
      exact ⟨copy, found, sound, fun delivered member => more delivered (fewer delivered member)⟩
    | stored => exact more recipientId done

/-- The message has a sound record, and every operation is accounted for. -/
def Conserved (messageId : String) (recipientIds : List String) (pool : DeliveryPool) : Prop :=
  ∃ record, stored? pool.shared messageId = some record ∧ Sound recipientIds record ∧
    ∀ call ∈ pool.calls, Accounted messageId recipientIds record call.input call.phase

theorem stored?_setEx {state : DeliveryState} {other : String} :
    stored? (exec state (.setEx other deliveryTtl record) ()).1 messageId =
      if other = messageId then some record else stored? state messageId :=
  ExpiringMap.lookup_store (by decide)

section Steps

variable {pool pool' : DeliveryPool}
  {call : Call DeliveryCommand DeliveryCommand.Reply DeliveryOperation DeliveryPhase
    (Option DeliveryStatus)} {phase : DeliveryPhase}

theorem Conserved.goes (conserved : Conserved messageId recipientIds pool)
    (goes : pool.Goes call phase pool')
    (grows : ∀ record, stored? pool.shared messageId = some record → Sound recipientIds record →
      Accounted messageId recipientIds record call.input call.phase →
      ∃ record', stored? pool'.shared messageId = some record' ∧ Sound recipientIds record' ∧
        (∀ recipientId ∈ record.deliveredTo, recipientId ∈ record'.deliveredTo) ∧
        Accounted messageId recipientIds record' call.input phase) :
    Conserved messageId recipientIds pool' := by
  obtain ⟨record, present, sound, accounted⟩ := conserved
  obtain ⟨record', present', sound', more, own⟩ :=
    grows record present sound (accounted call goes.member)
  exact ⟨record', present', sound',
    goes.forall own fun other here => (accounted other here).mono more⟩

theorem Conserved.resume (conserved : Conserved messageId recipientIds pool)
    {command : DeliveryCommand} (awaits : Awaits call.input call.phase command)
    (lossless : ∀ seconds written copy record, command = .setEx messageId seconds written →
      call.phase = .read (some copy) → stored? pool.shared messageId = some record →
        ∀ recipientId ∈ record.deliveredTo,
          recipientId ∈ copy.deliveredTo ∨ call.input = .confirmDelivery messageId recipientId)
    (goes : pool.Goes call (nextPhase command (exec pool.shared command ()).2) pool')
    (shared : pool'.shared = (exec pool.shared command ()).1) :
    Conserved messageId recipientIds pool' := by
  refine conserved.goes goes fun record present sound own => ?_
  rw [shared]
  obtain ⟨input, phase, program⟩ := call
  cases awaits with
  | status => exact ⟨record, present, sound, fun _ => id, trivial⟩
  | track other conversationId senderId recipients sentAt =>
    have different : other ≠ messageId := fun same => by cases own same
    refine ⟨record, ?_, sound, fun _ => id, fun _ => rfl⟩
    rw [stored?_setEx, if_neg different]
    exact present
  | read other recipientId =>
    refine ⟨record, present, sound, fun _ => id, fun same => ⟨(own same).1, ?_⟩⟩
    subst same
    exact ⟨record, present, sound, fun _ => id⟩
  | confirm other recipientId copy new =>
    by_cases same : other = messageId
    · subst same
      obtain ⟨recipient, read⟩ := own rfl
      obtain ⟨_, ⟨⟩, soundCopy, _⟩ := read
      have kept := lossless _ _ copy record rfl rfl present
      refine ⟨{ copy with deliveredTo := copy.deliveredTo ++ [recipientId] }, ?_,
        soundCopy.add recipient new, fun delivered member => ?_, fun _ => ⟨recipient, ?_⟩⟩
      · rw [stored?_setEx, if_pos rfl]
      · rcases kept delivered member with before | confirmed
        · exact List.mem_append_left _ before
        · cases confirmed
          exact List.mem_append_right _ (List.mem_singleton_self _)
      · exact List.mem_append_right _ (List.mem_singleton_self _)
    · refine ⟨record, ?_, sound, fun _ => id, fun own => absurd own same⟩
      rw [stored?_setEx, if_neg same]
      exact present

end Steps

theorem conserved_tracked (state : DeliveryState)
    (messageId conversationId senderId : String) (recipientIds : List String) (sentAt : Nat) :
    Conserved messageId recipientIds
      (tracked state messageId conversationId senderId recipientIds sentAt) := by
  refine ⟨{ messageId, conversationId, senderId, recipientIds, deliveredTo := [], sentAt }, ?_,
    ⟨rfl, List.nodup_nil, List.forall_mem_nil _⟩, ?_⟩
  · exact stored?_setEx.trans (if_pos rfl)
  · intro call member
    obtain rfl := List.mem_singleton.mp member
    exact fun _ => rfl

theorem respectful_tracked (state : DeliveryState)
    (messageId conversationId senderId : String) (recipientIds : List String) (sentAt : Nat) :
    (tracked state messageId conversationId senderId recipientIds sentAt).Respectful discipline
      ends :=
  Pool.respectful_run operation_respects (fun _ _ _ _ => trivial)
    (fun _ member => absurd member List.not_mem_nil) _

/-- After a message has been tracked, deliveries of it are confirmed in any interleaving. As long
as only recipients confirm, and nobody who is recorded when a confirmation writes is missing from
what it has read, every reachable record keeps account of all recipients. -/
theorem deliveries_conserved (state : DeliveryState) (messageId conversationId senderId : String)
    (recipientIds : List String) (sentAt : Nat) (distinct : recipientIds.Nodup)
    (events : List DeliveryEvent) (once : deliveries.Admits (TrackedOnce messageId)
      (tracked state messageId conversationId senderId recipientIds sentAt) events)
    (lossless : deliveries.Admits (LosesNobody messageId recipientIds)
      (tracked state messageId conversationId senderId recipientIds sentAt) events) :
    KeepsAccount messageId recipientIds (deliveries.run
      (tracked state messageId conversationId senderId recipientIds sentAt) events) := by
  have holds := @Pool.invariant _ _ _ _ _ _ _ _ host discipline (fun _ => .waiting) ends
    (fun pool event => TrackedOnce messageId pool event ∧
      LosesNobody messageId recipientIds pool event)
    (Conserved messageId recipientIds) operation_respects ?_ ?_ ?_ _ _ (once.and lossless)
    (respectful_tracked state messageId conversationId senderId recipientIds sentAt)
    (conserved_tracked state messageId conversationId senderId recipientIds sentAt)
  · obtain ⟨respectful, record, present, sound, accounted⟩ := holds
    refine ⟨record, present, sound, sound.partitioned distinct, ?_⟩
    rintro ⟨operation, phase, program⟩ member recipientId rfl ended
    obtain ⟨outcome, ended⟩ := Option.ne_none_iff_exists'.mp ended
    have kept := accounted _ member rfl
    rcases (respectful _ member).ends_of_outcome ended with rfl | ⟨data, rfl, known⟩
    · exact kept.2
    · obtain ⟨_, copy, rfl, _, more⟩ := kept
      exact more recipientId (known copy rfl)
  · rintro pool operation ⟨record, present, sound, accounted⟩ ⟨new, recipient⟩
    refine ⟨record, present, sound, Pool.forall_start ?_ accounted⟩
    cases operation with
    | trackMessageSent other => exact fun same => absurd same new
    | confirmDelivery other recipientId => exact fun same => ⟨recipient same, trivial⟩
    | getDeliveryStatus => trivial
  · rintro pool elapsed ⟨record, present, sound, accounted⟩ ⟨lasting, _⟩
    exact ⟨record, lasting.trans present, sound, accounted⟩
  · rintro pool index ⟨⟩ call command next conserved ⟨_, lossless⟩ present program awaits
    have goes := @Pool.goes_resume _ _ _ _ _ _ discipline pool index call command next
      (exec pool.shared command ()) present
    refine ⟨trivial, conserved.resume awaits ?_ goes rfl⟩
    rintro seconds written copy record rfl
    exact lossless call seconds written copy record (Pool.awaited?_of_await present program)

section Sample

def sampleState : DeliveryState := ⟨0, .empty⟩

def sampleTracked : DeliveryPool := tracked sampleState "m1" "c1" "alice" ["bob", "carol"] 0

def oneByOne : List DeliveryEvent :=
  [.start (.confirmDelivery "m1" "bob"), .run 1 (), .run 1 (),
    .start (.confirmDelivery "m1" "carol"), .run 2 (), .run 2 ()]

theorem confirmed_one_by_one :
    KeepsAccount "m1" ["bob", "carol"] (deliveries.run sampleTracked oneByOne) := by
  refine deliveries_conserved sampleState "m1" "c1" "alice" ["bob", "carol"] 0 (by decide) oneByOne
    ⟨trivial, trivial, trivial, trivial, trivial, trivial, trivial⟩ ?_
  refine ⟨fun _ => by decide, ?_, ?_, fun _ => by decide, ?_, ?_, trivial⟩
  all_goals rintro _ _ _ copy record ⟨⟩ ⟨⟩ ⟨⟩
  all_goals exact fun _ => .inl

def together : List DeliveryEvent :=
  [.start (.confirmDelivery "m1" "bob"), .start (.confirmDelivery "m1" "carol"), .run 1 (),
    .run 2 (), .run 1 (), .run 2 ()]

theorem delivery_lost : ¬ ∀ events, deliveries.Admits (TrackedOnce "m1") sampleTracked events →
      KeepsAccount "m1" ["bob", "carol"] (deliveries.run sampleTracked events) := by
  intro keeps
  obtain ⟨record, present, _, _, recorded⟩ := keeps together
    ⟨trivial, trivial, trivial, trivial, trivial, trivial, trivial⟩
  obtain ⟨call, member, input, ended⟩ :
      ∃ call ∈ (deliveries.run sampleTracked together).calls,
        call.input = .confirmDelivery "m1" "bob" ∧ call.program.outcome? ≠ none :=
    ⟨_, List.mem_cons_of_mem _ List.mem_cons_self, rfl, Option.some_ne_none _⟩
  have delivered := recorded call member "bob" input ended
  have stored : (stored? (deliveries.run sampleTracked together).shared "m1").map
      (·.deliveredTo) = some ["carol"] := by decide +kernel
  rw [present] at stored
  rw [show record.deliveredTo = ["carol"] from Option.some.inj stored] at delivered
  exact absurd delivered (by decide)

end Sample

end Caas.Receipts
