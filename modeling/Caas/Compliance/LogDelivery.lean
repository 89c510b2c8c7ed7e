import Caas.Async.Histories
import Caas.Compliance.AuditService
import Mathlib.Algebra.Order.BigOperators.Group.List
import Mathlib.Algebra.Order.Group.Nat

/-!
# The delivery of logs

The collection takes the batch of a flush as a whole, and refuses one that holds a log it
already has. A log that has been pushed is then, at any time, in the buffer or in the batch of
one flush, so it is never stored twice and never lost. A flush whose cache update fails after
its insertion returns a batch that is stored to the buffer, and no later flush can empty it.
-/

namespace Caas.Compliance.LogDelivery

open Async Program Redis AuditService

variable {ν : Type} (settings : AuditSettings ν)

def hasAny (collection batch : List (AuditLog ν)) : Bool :=
  batch.any fun log => collection.any fun stored => stored.auditId = log.auditId

/-- An insertion inserts all of its batch or nothing, and a batch with a log that is stored
is refused. -/
def exec (state : AuditState ν) : (command : AuditCommand ν) → Circumstance →
    AuditState ν × command.Reply
  | .insertMany batch, circumstance =>
    match circumstance.fault with
    | some error => (state, .error error)
    | none =>
      if hasAny state.collection batch then (state, .error "E11000 duplicate key error collection")
      else ({ state with collection := state.collection ++ batch }, .ok ())
  | command, circumstance => AuditService.exec settings state command circumstance

/-- Concurrent calls on a collection that refuses duplicates. -/
def host : Host (AuditState ν) (AuditCommand ν) AuditCommand.Reply Circumstance Nat (AuditCall ν)
    (Option String) :=
  { AuditService.host settings with exec := exec settings }

/-- Where a call stands: whether it has pushed its log, the batch that it has taken, whether
the batch has been inserted, and whether a cache update has failed since. -/
structure Phase (ν : Type) where
  logged : Bool := false
  taken : List (AuditLog ν) := []
  written : Bool := false
  failed : Bool := false

def updateFails : (command : AuditCommand ν) → command.Reply → Bool
  | .redis (.setex _ _ _), (reply : Except String (Except String Unit)) =>
    match reply with
    | .ok (.ok _) => false
    | _ => true
  | _, _ => false

def nextPhase (phase : Phase ν) : (command : AuditCommand ν) → command.Reply → Phase ν
  | .push _, _ => { phase with logged := true }
  | .takeBatch, (batch : List (AuditLog ν)) => { phase with taken := batch }
  | .insertMany _, (reply : Except String Unit) =>
    match reply with
    | .ok _ => { phase with written := true }
    | .error _ => phase
  | .unshift _, _ => { phase with taken := [] }
  | .redis command, reply =>
    { phase with failed := phase.failed || phase.written && updateFails (.redis command) reply }
  | .newDate, _ | .findOne _, _ | .find _ _ _, _ => phase

theorem nextPhase_redis {phase : Phase ν} {command : StringCommand String String}
    {reply : (AuditCommand.redis command : AuditCommand ν).Reply}
    (harmless : (phase.written && updateFails (.redis command) reply) = false) :
    nextPhase phase (.redis command) reply = phase := by
  simp [nextPhase, harmless]

/-- The id that a call of `log` has drawn. -/
def drawn : AuditCall ν → Option String
  | .log _ auditId => some auditId
  | .flushBatch => none

/-- A call pushes one log, under its id; it inserts the batch that it has taken, and returns
it unless everything after the insertion went well. -/
def discipline (call : AuditCall ν) : Discipline (AuditCommand ν) AuditCommand.Reply (Phase ν) where
  next := nextPhase
  may phase
    | .push log => phase.logged = false ∧ drawn call = some log.auditId
    | .takeBatch => phase.taken = [] ∧ phase.written = false
    | .insertMany batch => batch = phase.taken ∧ phase.written = false
    | .unshift batch => batch = phase.taken ∧ (phase.written = true → phase.failed = true)
    | .redis _ => phase.written = true → phase.taken ≠ []
    | .newDate | .findOne _ => True
    | .find _ _ _ => False
  assumes _ _ := True

/-- A call ends with nothing taken, or with all of it inserted; one of `log` that returns has
pushed its log. -/
def ends (call : AuditCall ν) (phase : Phase ν)
    (outcome : Outcome (Option String)) : Prop :=
  (phase.taken = [] ∨ phase.written = true ∧ phase.failed = false) ∧
    ∀ auditId, outcome = .ok (some auditId) → phase.logged = true ∧ drawn call = some auditId

section Programs

variable {settings} {call : AuditCall ν} {phase : Phase ν}

theorem redis_respects {command : StringCommand String String} (unwritten : phase.written = false)
    {α : Type} {next : (AuditCommand.redis command : AuditCommand ν).Reply → AuditProgram ν α}
    {post : Phase ν → Outcome α → Prop}
    (rest : ∀ reply, (next reply).Respects (discipline call) post phase) :
    (await (.redis command) >>= next).Respects (discipline call) post phase := by
  have may : (discipline call).may phase (.redis command) := fun written =>
    absurd (written.symm.trans unwritten) Bool.true_eq_false.mp
  refine respects_command_bind may fun reply _ after moved => ?_
  obtain rfl : phase = after :=
    (nextPhase_redis (by rw [unwritten, Bool.false_and])).symm.trans moved
  exact rest reply

theorem redisGet_respects (key : String) (unwritten : phase.written = false) :
    (redisGet key : AuditProgram ν _).Respects (discipline call) (fun final _ => final = phase)
      phase :=
  redis_respects unwritten fun _ => respects_orThrow rfl

theorem redisSetex_respects (key : String) (seconds : Int) (value : String)
    (unwritten : phase.written = false) :
    (redisSetex key seconds value : AuditProgram ν _).Respects (discipline call)
      (fun final _ => final = phase) phase := by
  refine redis_respects unwritten fun (reply : Except String (Except String Unit)) => ?_
  exact respects_orThrow_bind (fun written _ => respects_orThrow rfl)
    fun _ _ => rfl

theorem getLastHash_respects (tenantId : String) (unwritten : phase.written = false) :
    (getLastHash tenantId : AuditProgram ν _).Respects (discipline call)
      (fun final _ => final = phase) phase := by
  refine respects_bind ((redisGet_respects _ unwritten).mono ?_)
  rintro _ (_ | cached) rfl
  · rfl
  · change Respects _ _ _ (match cached.filter (· ≠ "") with
      | some hash => pure hash
      | none => _)
    cases cached.filter (· ≠ "") with
    | some hash => exact rfl
    | none =>
      refine respects_command_bind trivial
        fun (reply : Except String (Option (AuditLog ν))) _ after moved => ?_
      obtain rfl := moved
      refine respects_orThrow_bind (fun lastLog _ => ?_) fun _ _ => rfl
      refine respects_bind ((redisSetex_respects _ _ _ unwritten).mono ?_)
      rintro _ (_ | _) rfl <;> rfl

theorem cacheLastHashes_respects (batch : List (AuditLog ν)) (written : phase.written = true)
    (well : phase.failed = false) (busy : phase.taken ≠ []) :
    (cacheLastHashes batch).Respects (discipline call)
      (fun final outcome => final.taken = phase.taken ∧ final.logged = phase.logged ∧
        final.written = true ∧ (final.failed = false ↔ outcome = .ok ())) phase := by
  induction batch with
  | nil => exact ⟨rfl, rfl, written, iff_of_true well rfl⟩
  | cons log rest ih =>
    refine respects_bind (respects_command_bind (fun _ => busy)
      fun (reply : Except String (Except String Unit)) _ after moved => ?_)
    match reply with
    | .ok (.ok ()) =>
      obtain rfl : phase = after := (nextPhase_redis (Bool.and_false _)).symm.trans moved
      exact ih
    | .ok (.error error) =>
      obtain rfl := moved
      refine ⟨rfl, rfl, written, iff_of_false ?_ nofun⟩
      simp [discipline, nextPhase, updateFails, written]
    | .error error =>
      obtain rfl := moved
      refine ⟨rfl, rfl, written, iff_of_false ?_ nofun⟩
      simp [discipline, nextPhase, updateFails, written]

/-- A flush returns, with its batch inserted and the cache updated, or returned. -/
theorem flushBatch_respects (idle : phase.taken = []) (unwritten : phase.written = false)
    (well : phase.failed = false) : (flushBatch : AuditProgram ν Unit).Respects (discipline call)
      (fun final outcome => outcome = .ok () ∧
        (final.taken = [] ∨ final.written = true ∧ final.failed = false) ∧
          final.logged = phase.logged) phase := by
  refine respects_command_bind ⟨idle, unwritten⟩
    fun (batch : List (AuditLog ν)) _ after moved => ?_
  obtain rfl : { phase with taken := batch } = after := moved
  by_cases empty : batch.length = 0
  · rw [if_pos empty]
    exact ⟨rfl, .inl (List.length_eq_zero_iff.mp empty), rfl⟩
  · rw [if_neg empty]
    refine respects_catching ?_
    refine respects_command_bind ⟨rfl, unwritten⟩
      fun (reply : Except String Unit) _ after moved => ?_
    cases reply with
    | error message =>
      obtain rfl : { phase with taken := batch } = after := moved
      refine ⟨⟨rfl, fun written => ?_⟩, fun _ _ => ⟨rfl, .inl rfl, rfl⟩⟩
      exact absurd (written.symm.trans unwritten) Bool.true_eq_false.mp
    | ok value =>
      obtain rfl : { phase with taken := batch, written := true } = after := moved
      refine (@cacheLastHashes_respects _ call { phase with taken := batch, written := true } batch
        rfl well (mt List.length_eq_zero_iff.mpr empty)).mono fun final outcome finished => ?_
      obtain ⟨taken, logged, written, succeeded⟩ := finished
      cases outcome with
      | ok _ => exact ⟨rfl, .inr ⟨written, succeeded.mpr rfl⟩, logged⟩
      | error message =>
        refine ⟨⟨taken.symm, fun _ => ?_⟩, fun _ _ => ⟨rfl, .inl rfl, logged⟩⟩
        exact Bool.eq_true_of_not_eq_false fun fine => nomatch succeeded.mp fine

theorem body_respects (call : AuditCall ν) :
    (body settings call).Respects (discipline call) (ends call) {} := by
  cases call with
  | flushBatch =>
    refine respects_bind ((flushBatch_respects rfl rfl rfl).mono ?_)
    rintro final _ ⟨rfl, settled, -⟩
    exact ⟨settled, nofun⟩
  | log event auditId =>
    refine respects_bind ?_
    refine respects_command_bind trivial fun (createdAt : Int) _ after moved => ?_
    obtain rfl : ({} : Phase ν) = after := moved
    refine respects_bind ((getLastHash_respects _ rfl).mono ?_)
    rintro _ (message | previousHash) rfl
    · exact ⟨.inl rfl, nofun⟩
    · refine respects_command_bind trivial fun (time : Int) _ after moved => ?_
      obtain rfl : ({} : Phase ν) = after := moved
      refine respects_command_bind ⟨rfl, rfl⟩ fun (length : Nat) _ after moved => ?_
      obtain rfl : ({ logged := true } : Phase ν) = after := moved
      by_cases full : length ≥ 100
      · rw [if_pos full]
        refine respects_bind ((flushBatch_respects rfl rfl rfl).mono ?_)
        rintro final _ ⟨rfl, settled, logged⟩
        refine ⟨settled, fun _ same => ?_⟩
        cases same
        exact ⟨logged, rfl⟩
      · rw [if_neg full]
        refine ⟨.inl rfl, fun _ same => ?_⟩
        cases same
        exact ⟨rfl, rfl⟩

end Programs

/-- Whether a cache update of a flush has failed after its insertion. -/
def failures :
    Pool.Recorder (AuditCommand ν) AuditCommand.Reply (AuditCall ν) (Phase ν) (Option String)
      Bool where
  started failed _ _ := failed
  ran failed _ call command reply _ := failed || call.phase.written && updateFails command reply

abbrev DeliveryPool (ν : Type) :=
  Pool (AuditState ν) (AuditCommand ν) AuditCommand.Reply (AuditCall ν) (Phase ν) (Option String)

/-- The calls, and whether a cache update has failed. -/
abbrev Delivery (ν : Type) :=
  Pool.Recorded (AuditState ν) (AuditCommand ν) AuditCommand.Reply (AuditCall ν) (Phase ν)
    (Option String) Bool

/-- The concurrent calls with the history of failures. -/
def machine : Transducer (Delivery ν) (Event Circumstance Nat (AuditCall ν)) Unit :=
  Pool.Recorded.machine (host settings) discipline (fun _ => {}) failures

/-- A service that has just been made, on an empty collection. -/
def newDelivery (ν : Type) (now : Nat) : Delivery ν := ⟨⟨⟨now, [], [], .empty⟩, []⟩, false⟩

/-- The ids that calls of `log` draw are new. -/
def Fresh (current : Delivery ν) : Event Circumstance Nat (AuditCall ν) → Prop
  | .start input => ∀ call ∈ current.pool.calls, ∀ auditId, drawn input = some auditId →
    drawn call.input ≠ some auditId
  | .run _ _ | .change _ => True

section Accounting

def named (auditId : String) (log : AuditLog ν) : Bool := log.auditId = auditId

def draws (auditId : String) (input : AuditCall ν) : Bool := drawn input = some auditId

/-- How many logs of the id the flush still has to insert. -/
def pending (auditId : String) (phase : Phase ν) : Nat :=
  if phase.written then 0 else phase.taken.countP (named auditId)

theorem pending_unwritten {phase : Phase ν} (unwritten : phase.written = false)
    (auditId : String) : pending auditId phase = phase.taken.countP (named auditId) := by
  simp [pending, unwritten]

theorem pending_written {phase : Phase ν} (written : phase.written = true) (auditId : String) :
    pending auditId phase = 0 := by
  simp [pending, written]

abbrev DeliveryCall (ν : Type) :=
  Call (AuditCommand ν) AuditCommand.Reply (AuditCall ν) (Phase ν) (Option String)

/-- A stored log is in the buffer again, or is about to be returned to it. -/
def Stuck (pool : DeliveryPool ν) : Prop :=
  ∃ stored ∈ pool.shared.collection,
    0 < pool.shared.batchBuffer.countP (named stored.auditId) ∨
      ∃ call ∈ pool.calls, 0 < call.phase.taken.countP (named stored.auditId) ∧
        (call.phase.written = true → call.phase.failed = true)

structure Accounted (current : Delivery ν) : Prop where
  drawn : ∀ auditId, current.pool.calls.countP (fun call => draws auditId call.input) ≤ 1
  conserved : ∀ auditId, current.pool.shared.batchBuffer.countP (named auditId) +
      (current.pool.calls.map fun call => call.phase.taken.countP (named auditId)).sum =
    current.pool.calls.countP fun call => draws auditId call.input && call.phase.logged
  stored : ∀ auditId, current.pool.shared.collection.countP (named auditId) ≤
    current.pool.calls.countP fun call => draws auditId call.input && call.phase.logged
  written : ∀ call ∈ current.pool.calls, call.phase.written = true →
    ∀ log ∈ call.phase.taken, log ∈ current.pool.shared.collection
  calm : current.history = false → (∀ call ∈ current.pool.calls, call.phase.failed = false) ∧
    ∀ auditId, current.pool.shared.batchBuffer.countP (named auditId) +
        (current.pool.calls.map fun call => pending auditId call.phase).sum +
          current.pool.shared.collection.countP (named auditId) =
      current.pool.calls.countP fun call => draws auditId call.input && call.phase.logged
  stuck : current.history = true → Stuck current.pool

/-- What one command does to the buffer, to the collection, to the phase of its call and to the
history. -/
inductive Moves (call : AuditCall ν) (state : AuditState ν) (phase : Phase ν) (failed : Bool) :
    AuditState ν → Phase ν → Bool → Prop where
  | stay {after : AuditState ν} (buffer : after.batchBuffer = state.batchBuffer)
      (collection : after.collection = state.collection) :
      Moves call state phase failed after phase failed
  | push (log : AuditLog ν) (new : phase.logged = false) (own : draws log.auditId call = true) :
      Moves call state phase failed { state with batchBuffer := state.batchBuffer ++ [log] }
        { phase with logged := true } failed
  | take (idle : phase.taken = []) (unwritten : phase.written = false) :
      Moves call state phase failed { state with batchBuffer := [] }
        { phase with taken := state.batchBuffer } failed
  | insert (unwritten : phase.written = false)
      (new : hasAny state.collection phase.taken = false) :
      Moves call state phase failed { state with collection := state.collection ++ phase.taken }
        { phase with written := true } failed
  | unshift (vain : phase.written = true → phase.failed = true) :
      Moves call state phase failed
        { state with batchBuffer := phase.taken ++ state.batchBuffer }
        { phase with taken := [] } failed
  | fail {after : AuditState ν} (buffer : after.batchBuffer = state.batchBuffer)
      (collection : after.collection = state.collection) (written : phase.written = true)
      (busy : phase.taken ≠ []) :
      Moves call state phase failed after { phase with failed := true } true

variable {settings} {call : AuditCall ν} {state : AuditState ν} {phase : Phase ν}

theorem moves_exec {command : AuditCommand ν} (may : (discipline call).may phase command)
    (circumstance : Circumstance) (failed : Bool) :
    Moves call state phase failed (exec settings state command circumstance).1
      (nextPhase phase command (exec settings state command circumstance).2)
      (failed || phase.written && updateFails command
        (exec settings state command circumstance).2) := by
  have harmless {reply : command.Reply}
      (fine : (phase.written && updateFails command reply) = false) :
      (failed || phase.written && updateFails command reply) = failed := by
    rw [fine, Bool.or_false]
  cases command with
  | newDate =>
    rw [harmless (Bool.and_false _)]
    exact .stay rfl rfl
  | findOne tenantId =>
    rw [harmless (Bool.and_false _)]
    obtain ⟨_, _ | _, _⟩ := circumstance <;> exact .stay rfl rfl
  | redis command =>
    have buffer : (exec settings state (.redis command) circumstance).1.batchBuffer =
        state.batchBuffer := by
      obtain ⟨_, _ | _, _⟩ := circumstance <;> rfl
    have collection : (exec settings state (.redis command) circumstance).1.collection =
        state.collection := by
      obtain ⟨_, _ | _, _⟩ := circumstance <;> rfl
    generalize (exec settings state (.redis command) circumstance).2 = reply at harmless ⊢
    cases fails : phase.written && updateFails (.redis command) reply with
    | false =>
      rw [nextPhase_redis fails, Bool.or_false]
      exact .stay buffer collection
    | true =>
      rw [Bool.or_true]
      have failing : nextPhase phase (.redis command) reply = { phase with failed := true } := by
        simp [nextPhase, fails]
      rw [failing]
      have written := (Bool.and_eq_true_iff.mp fails).1
      exact .fail buffer collection written (may written)
  | find => exact may.elim
  | push log =>
    rw [harmless (Bool.and_false _)]
    exact .push log may.1 (decide_eq_true may.2)
  | takeBatch =>
    rw [harmless (Bool.and_false _)]
    exact .take may.1 may.2
  | insertMany batch =>
    rw [harmless (Bool.and_false _)]
    obtain ⟨rfl, unwritten⟩ := may
    obtain ⟨_, _ | error, _⟩ := circumstance
    · cases refused : hasAny state.collection phase.taken with
      | true =>
        simp only [exec, refused, if_true]
        exact .stay rfl rfl
      | false =>
        simp only [exec, refused, Bool.false_eq_true, if_false]
        exact .insert unwritten refused
    · exact .stay rfl rfl
  | unshift batch =>
    rw [harmless (Bool.and_false _)]
    obtain ⟨rfl, vain⟩ := may
    exact .unshift vain

variable {pool pool' : DeliveryPool ν} {failed failed' : Bool} {caller : DeliveryCall ν}
  {phase' : Phase ν}

theorem named_iff_draws {log : AuditLog ν} (own : draws log.auditId call = true)
    (auditId : String) : named auditId log = draws auditId call := by
  have same : drawn call = some log.auditId := of_decide_eq_true own
  simp [named, draws, same]

theorem countP_of_new {collection batch : List (AuditLog ν)} (new : hasAny collection batch = false)
    {auditId : String} (among : 0 < batch.countP (named auditId)) :
    collection.countP (named auditId) = 0 := by
  obtain ⟨log, member, same⟩ := List.countP_pos_iff.mp among
  refine List.countP_eq_zero.mpr fun stored here same' => ?_
  have absent := List.any_eq_false.mp (Bool.eq_false_iff.mpr (List.any_eq_false.mp new log member))
    stored here
  rw [of_decide_eq_true same, ← of_decide_eq_true same'] at absent
  exact absent (decide_eq_true rfl)

theorem conserved_moves (goes : pool.Goes caller phase' pool')
    (moves : Moves caller.input pool.shared caller.phase failed pool'.shared phase' failed')
    (auditId : String) (conserved : pool.shared.batchBuffer.countP (named auditId) +
        (pool.calls.map fun call => call.phase.taken.countP (named auditId)).sum =
      pool.calls.countP fun call => draws auditId call.input && call.phase.logged) :
    pool'.shared.batchBuffer.countP (named auditId) +
        (pool'.calls.map fun call => call.phase.taken.countP (named auditId)).sum =
      pool'.calls.countP fun call => draws auditId call.input && call.phase.logged := by
  have taken := goes.sum fun _ phase => phase.taken.countP (named auditId)
  have logged := goes.countP fun input phase => draws auditId input && phase.logged
  generalize pool'.shared = after at moves ⊢
  cases moves with
  | stay buffer =>
    rw [buffer]
    omega
  | push log new own =>
    rw [List.countP_append, List.countP_singleton, named_iff_draws own]
    simp only [new, Bool.and_false, Bool.false_eq_true, if_false, Bool.and_true] at logged taken
    omega
  | take idle =>
    simp only [idle, List.countP_nil] at taken logged ⊢
    omega
  | insert =>
    dsimp only at taken logged ⊢
    omega
  | unshift =>
    simp only [List.countP_append, List.countP_nil] at taken logged ⊢
    omega
  | fail buffer =>
    dsimp only at taken logged
    rw [buffer]
    omega

theorem pending_moves (goes : pool.Goes caller phase' pool')
    (moves : Moves caller.input pool.shared caller.phase failed pool'.shared phase' false)
    (well : caller.phase.failed = false) (auditId : String)
    (conserved : pool.shared.batchBuffer.countP (named auditId) +
        (pool.calls.map fun call => pending auditId call.phase).sum +
          pool.shared.collection.countP (named auditId) =
      pool.calls.countP fun call => draws auditId call.input && call.phase.logged) :
    pool'.shared.batchBuffer.countP (named auditId) +
        (pool'.calls.map fun call => pending auditId call.phase).sum +
          pool'.shared.collection.countP (named auditId) =
      pool'.calls.countP fun call => draws auditId call.input && call.phase.logged := by
  have weighed := goes.sum fun _ phase => pending auditId phase
  have logged := goes.countP fun input phase => draws auditId input && phase.logged
  generalize pool'.shared = after at moves ⊢
  cases moves with
  | stay buffer collection =>
    rw [buffer, collection]
    omega
  | push log new own =>
    rw [List.countP_append, List.countP_singleton, named_iff_draws own]
    simp only [new, Bool.and_false, Bool.false_eq_true, if_false, Bool.and_true] at logged
    change _ = _ + pending auditId caller.phase at weighed
    dsimp only
    omega
  | take idle unwritten =>
    simp only [pending_unwritten, idle, unwritten, List.countP_nil] at weighed logged ⊢
    omega
  | insert unwritten =>
    simp only [pending_unwritten, pending_written, unwritten, List.countP_append] at weighed logged ⊢
    omega
  | unshift vain =>
    have unwritten : caller.phase.written = false :=
      Bool.eq_false_of_not_eq_true fun written => nomatch well.symm.trans (vain written)
    simp only [pending_unwritten, unwritten, List.countP_append, List.countP_nil] at weighed logged ⊢
    omega

theorem logged_moves (goes : pool.Goes caller phase' pool')
    (moves : Moves caller.input pool.shared caller.phase failed pool'.shared phase' failed')
    (auditId : String) :
    (pool.calls.countP fun call => draws auditId call.input && call.phase.logged) ≤
      pool'.calls.countP fun call => draws auditId call.input && call.phase.logged := by
  have logged := goes.countP fun input phase => draws auditId input && phase.logged
  generalize pool'.shared = after at moves
  cases moves with
  | push log new own =>
    simp only [new, Bool.and_false, Bool.false_eq_true, if_false] at logged
    omega
  | stay => omega
  | take | insert | unshift | fail =>
    dsimp only at logged
    omega

theorem stored_moves (accounted : Accounted ⟨pool, failed⟩) (goes : pool.Goes caller phase' pool')
    (moves : Moves caller.input pool.shared caller.phase failed pool'.shared phase' failed')
    (auditId : String) : pool'.shared.collection.countP (named auditId) ≤
      pool'.calls.countP fun call => draws auditId call.input && call.phase.logged := by
  have before : pool.shared.collection.countP (named auditId) ≤
    pool.calls.countP fun call => draws auditId call.input && call.phase.logged :=
      accounted.stored auditId
  have grows := logged_moves goes moves auditId
  generalize pool'.shared = after at moves ⊢
  cases moves with
  | stay _ collection | fail _ collection =>
    rw [collection]
    omega
  | push | take | unshift =>
    dsimp only
    omega
  | insert unwritten new =>
    rw [List.countP_append]
    rcases Nat.eq_zero_or_pos (caller.phase.taken.countP (named auditId)) with none | among
    · omega
    · have conserved := accounted.conserved auditId
      have part : caller.phase.taken.countP (named auditId) ≤
          (pool.calls.map fun call => call.phase.taken.countP (named auditId)).sum :=
        List.le_sum_of_mem (List.mem_map.mpr ⟨caller, goes.member, rfl⟩)
      dsimp only at conserved
      rw [countP_of_new new among]
      omega

theorem written_moves (accounted : Accounted ⟨pool, failed⟩) (goes : pool.Goes caller phase' pool')
    (moves : Moves caller.input pool.shared caller.phase failed pool'.shared phase' failed') :
    ∀ call ∈ pool'.calls, call.phase.written = true →
      ∀ log ∈ call.phase.taken, log ∈ pool'.shared.collection := by
  have before := accounted.written
  intro call here written log taken
  rcases goes.back call here with there | ⟨-, same⟩
  · have stored := before call there written log taken
    generalize pool'.shared = after at moves ⊢
    cases moves with
    | stay _ collection | fail _ collection => rwa [collection]
    | push | take | unshift => exact stored
    | insert => exact List.mem_append_left _ stored
  · rw [same] at written taken
    generalize pool'.shared = after at moves ⊢
    cases moves with
    | stay _ collection | fail _ collection =>
      rw [collection]
      exact before caller goes.member written log taken
    | push => exact before caller goes.member written log taken
    | take idle unwritten => exact nomatch unwritten.symm.trans written
    | insert => exact List.mem_append_right _ taken
    | unshift => cases taken

theorem failed_moves (goes : pool.Goes caller phase' pool')
    (moves : Moves caller.input pool.shared caller.phase failed pool'.shared phase' false)
    (well : ∀ call ∈ pool.calls, call.phase.failed = false) :
    ∀ call ∈ pool'.calls, call.phase.failed = false := by
  intro call here
  rcases goes.back call here with there | ⟨-, same⟩
  · exact well call there
  · rw [same]
    generalize pool'.shared = after at moves
    cases moves <;> exact well caller goes.member

theorem mem_collection_moves
    (moves : Moves call state phase failed pool'.shared phase' failed') {log : AuditLog ν}
    (stored : log ∈ state.collection) : log ∈ pool'.shared.collection := by
  generalize pool'.shared = after at moves ⊢
  cases moves with
  | stay _ collection | fail _ collection => rwa [collection]
  | push | take | unshift => exact stored
  | insert => exact List.mem_append_left _ stored

theorem Stuck.moves (stuck : Stuck pool) (goes : pool.Goes caller phase' pool')
    (moves : Moves caller.input pool.shared caller.phase failed pool'.shared phase' failed') :
    Stuck pool' := by
  obtain ⟨self, here, -, rfl⟩ := goes.self
  obtain ⟨stored, among, place⟩ := stuck
  refine ⟨stored, mem_collection_moves moves among, ?_⟩
  rcases place with buffered | ⟨call, member, taken, vain⟩
  · generalize pool'.shared = after at moves ⊢
    generalize moved : self.phase = phase' at moves
    cases moves with
    | stay buffer | fail buffer =>
      rw [buffer]
      exact .inl buffered
    | push | unshift =>
      left
      rw [List.countP_append]
      omega
    | take idle unwritten =>
      refine .inr ⟨self, here, ?_⟩
      rw [moved]
      exact ⟨buffered, fun written => nomatch unwritten.symm.trans written⟩
    | insert => exact .inl buffered
  · rcases goes.forth call member with stays | rfl
    · exact .inr ⟨call, stays, taken, vain⟩
    · generalize pool'.shared = after at moves ⊢
      generalize moved : self.phase = phase' at moves
      cases moves with
      | stay | push =>
        refine .inr ⟨self, here, ?_⟩
        rw [moved]
        exact ⟨taken, vain⟩
      | take idle =>
        rw [idle] at taken
        cases taken
      | insert unwritten new =>
        have absent := List.countP_eq_zero.mp (countP_of_new new taken) stored among
        exact absurd (decide_eq_true rfl) absent
      | unshift =>
        left
        rw [List.countP_append]
        omega
      | fail =>
        refine .inr ⟨self, here, ?_⟩
        rw [moved]
        exact ⟨taken, fun _ => rfl⟩

theorem stuck_moves (accounted : Accounted ⟨pool, failed⟩) (goes : pool.Goes caller phase' pool')
    (moves : Moves caller.input pool.shared caller.phase failed pool'.shared phase' true) :
    Stuck pool' := by
  cases failed with
  | true => exact (accounted.stuck rfl).moves goes moves
  | false =>
    obtain ⟨self, here, -, moved⟩ := goes.self
    have stored (log : AuditLog ν) := @mem_collection_moves _ _ _ _ pool' _ _ _ moves log
    generalize pool'.shared = after at moves
    cases moves with
    | fail _ _ written busy =>
      obtain ⟨log, taken⟩ := List.exists_mem_of_ne_nil _ busy
      refine ⟨log, stored log (accounted.written caller goes.member written log taken), .inr
        ⟨self, here, ?_⟩⟩
      rw [moved]
      exact ⟨List.countP_pos_iff.mpr ⟨log, taken, decide_eq_true rfl⟩, fun _ => rfl⟩

theorem Accounted.moves (accounted : Accounted ⟨pool, failed⟩)
    (goes : pool.Goes caller phase' pool')
    (moves : Moves caller.input pool.shared caller.phase failed pool'.shared phase' failed') :
    Accounted ⟨pool', failed'⟩ where
  drawn auditId := (goes.countP_input (draws auditId)).trans_le (accounted.drawn auditId)
  conserved auditId := conserved_moves goes moves auditId (accounted.conserved auditId)
  stored := stored_moves accounted goes moves
  written := written_moves accounted goes moves
  calm := by
    rintro rfl
    have before : failed = false := by
      generalize pool'.shared = after at moves
      cases moves <;> rfl
    obtain ⟨well, kept⟩ := accounted.calm before
    exact ⟨failed_moves goes moves well, fun auditId =>
      pending_moves goes moves (well caller goes.member) auditId (kept auditId)⟩
  stuck := by
    rintro rfl
    exact stuck_moves accounted goes moves

theorem Accounted.start {current : Delivery ν} (accounted : Accounted current) {input : AuditCall ν}
    (fresh : Fresh current (.start input)) :
    Accounted ⟨current.pool.start (host settings) (fun _ => {}) input, current.history⟩ := by
  have listed (call : DeliveryCall ν)
      (here : call ∈ (current.pool.start (host settings) (fun _ => {}) input).calls) :
      call ∈ current.pool.calls ∨ call.phase = {} :=
    (List.mem_append.mp here).imp_right fun new =>
      congrArg Call.phase (List.mem_singleton.mp new)
  have silent (auditId : String) :
      ((current.pool.start (host settings) (fun _ => {}) input).calls.countP fun call =>
        draws auditId call.input && call.phase.logged) =
      current.pool.calls.countP fun call => draws auditId call.input && call.phase.logged := by
    simp [Pool.start]
  refine ⟨fun auditId => ?_, fun auditId => ?_, fun auditId => ?_, fun call here => ?_,
    fun calm => ⟨fun call here => ?_, fun auditId => ?_⟩, fun failed => ?_⟩
  · change (current.pool.calls ++ [_]).countP _ ≤ 1
    rw [List.countP_append, List.countP_singleton]
    split
    · rename_i new
      have none : current.pool.calls.countP (fun call => draws auditId call.input) = 0 :=
        List.countP_eq_zero.mpr fun call here =>
          mt of_decide_eq_true (fresh call here auditId (of_decide_eq_true new))
      omega
    · exact accounted.drawn auditId
  · rw [silent]
    simpa [Pool.start] using accounted.conserved auditId
  · rw [silent]
    exact accounted.stored auditId
  · rcases listed call here with there | fresh
    · exact accounted.written call there
    · rw [fresh]
      exact fun _ => List.forall_mem_nil _
  · rcases listed call here with there | fresh
    · exact (accounted.calm calm).1 call there
    · rw [fresh]
  · rw [silent]
    simpa [Pool.start, pending] using (accounted.calm calm).2 auditId
  · obtain ⟨stored, among, place⟩ := accounted.stuck failed
    refine ⟨stored, among, place.imp_right ?_⟩
    rintro ⟨call, here, taken⟩
    exact ⟨call, List.mem_append_left _ here, taken⟩

theorem accounted_run (now : Nat) {events : List (Event Circumstance Nat (AuditCall ν))}
    (fresh : (machine settings).Admits Fresh (newDelivery ν now) events) :
    ((machine settings).run (newDelivery ν now) events).pool.Respectful discipline ends ∧
      Accounted ((machine settings).run (newDelivery ν now) events) := by
  refine @Pool.Recorded.invariant _ _ _ _ _ _ _ _ _ (host settings) discipline (fun _ => {})
    failures ends Fresh Accounted body_respects ?_ ?_ ?_ _ _ fresh (List.forall_mem_nil _)
    ⟨?_, ?_, ?_, ?_, ?_, ?_⟩
  · exact fun current input accounted fresh => accounted.start fresh
  · exact fun current elapsed accounted _ => ⟨accounted.drawn, accounted.conserved,
      accounted.stored, accounted.written, accounted.calm, accounted.stuck⟩
  · intro current index circumstance call command next accounted _ _ present _ may
    exact ⟨trivial, fun _ => accounted.moves (Pool.goes_resume present) (moves_exec may _ _)⟩
  · exact fun _ => Nat.zero_le _
  · exact fun _ => rfl
  · exact fun _ => Nat.le_refl _
  · exact List.forall_mem_nil _
  · exact fun _ => ⟨List.forall_mem_nil _, fun _ => rfl⟩
  · exact nofun

end Accounting

section Flushing

variable {circumstance : Nat → Circumstance} {state : AuditState ν}

variable (circumstance state) in
def flushed : AuditState ν :=
  ((flushBatch : AuditProgram ν Unit).run (exec settings) circumstance 0 state).1

variable {settings} (calm : ∀ number, (circumstance number).fault = none)

include calm

theorem flushed_of_new (new : hasAny state.collection state.batchBuffer = false) :
    (flushed settings circumstance state).batchBuffer = [] ∧
      (flushed settings circumstance state).collection = state.collection ++ state.batchBuffer := by
  refine (@Program.ensures_iff_run _ _ _ _ _ _ _ _ _ _ fun (after : AuditState ν) _ =>
    after.batchBuffer = [] ∧ after.collection = state.collection ++ state.batchBuffer).mp ?_
  have taken : exec settings state .takeBatch (circumstance 0) =
      ({ state with batchBuffer := [] }, state.batchBuffer) := rfl
  refine ensures_command_bind taken ?_
  by_cases empty : state.batchBuffer.length = 0
  · rw [if_pos empty]
    refine ⟨rfl, ?_⟩
    rw [List.length_eq_zero_iff.mp empty, List.append_nil]
  · rw [if_neg empty]
    have inserted : exec settings { state with batchBuffer := [] } (.insertMany state.batchBuffer)
        (circumstance 1) = ({ state with
          batchBuffer := []
          collection := state.collection ++ state.batchBuffer }, .ok ()) := by
      simp [exec, calm 1, new]
    refine ensures_catching (ensures_command_bind inserted ?_)
    have caches (state : AuditState ν) (command : StringCommand String String)
        (circumstance : Circumstance) : exec settings state (.redis command) circumstance =
          AuditService.exec settings state (.redis command) circumstance := rfl
    refine (cacheLastHashes_ensures caches calm state.batchBuffer).mono
      fun _ after outcome done => ?_
    obtain ⟨rfl, redis, rfl⟩ := done
    exact ⟨rfl, rfl⟩

theorem flushed_of_stored (stored : hasAny state.collection state.batchBuffer = true) :
    (flushed settings circumstance state).batchBuffer ≠ [] := by
  have busy : state.batchBuffer ≠ [] := by
    intro empty
    rw [empty] at stored
    cases stored
  refine (@Program.ensures_iff_run _ _ _ _ _ _ _ _ _ _ fun (after : AuditState ν) _ =>
    after.batchBuffer ≠ []).mp ?_
  have taken : exec settings state .takeBatch (circumstance 0) =
      ({ state with batchBuffer := [] }, state.batchBuffer) := rfl
  refine ensures_command_bind taken ?_
  rw [if_neg (mt List.length_eq_zero_iff.mp busy)]
  have refused : exec settings { state with batchBuffer := [] } (.insertMany state.batchBuffer)
      (circumstance 1) = ({ state with batchBuffer := [] },
        .error "E11000 duplicate key error collection") := by
    simp [exec, calm 1, stored]
  refine ensures_catching (ensures_command_bind refused ?_)
  change state.batchBuffer ++ [] ≠ []
  rwa [List.append_nil]

end Flushing

section Delivering

variable {settings}

/-- An event has been logged under the id: it has been put into the buffer. -/
def Logged (pool : DeliveryPool ν) (auditId : String) : Prop :=
  ∃ call ∈ pool.calls, drawn call.input = some auditId ∧ call.phase.logged = true

/-- No event is stored twice, and every event that has been logged is stored, in the buffer or
in the batch of a flush that goes on; a call of `log` that has returned has logged its event. -/
structure Exact (pool : DeliveryPool ν) : Prop where
  once : ∀ auditId, pool.shared.collection.countP (named auditId) ≤ 1
  kept : ∀ auditId, Logged pool auditId →
    0 < pool.shared.collection.countP (named auditId) ∨
      0 < pool.shared.batchBuffer.countP (named auditId) ∨
        ∃ call ∈ pool.calls, call.program.outcome? = none ∧
          0 < call.phase.taken.countP (named auditId)
  returned : ∀ call ∈ pool.calls, ∀ auditId,
    call.program.outcome? = some (.ok (some auditId)) → Logged pool auditId

/-- A flush empties the buffer, and every event that has been logged is then stored once. -/
structure Recovers (settings : AuditSettings ν) (circumstance : Nat → Circumstance)
    (pool : DeliveryPool ν) : Prop where
  empties : (flushed settings circumstance pool.shared).batchBuffer = []
  once : ∀ auditId, Logged pool auditId →
    (flushed settings circumstance pool.shared).collection.countP (named auditId) = 1

variable {pool : DeliveryPool ν} {failed : Bool}

theorem logged_iff (auditId : String) : Logged pool auditId ↔
    0 < pool.calls.countP fun call => draws auditId call.input && call.phase.logged := by
  rw [List.countP_pos_iff]
  simp [Logged, draws]

theorem Accounted.logged_le (accounted : Accounted ⟨pool, failed⟩) (auditId : String) :
    (pool.calls.countP fun call => draws auditId call.input && call.phase.logged) ≤ 1 :=
  (List.countP_mono_left fun _ _ both => (Bool.and_eq_true_iff.mp both).1).trans
    (accounted.drawn auditId)

theorem Accounted.exact (accounted : Accounted ⟨pool, failed⟩)
    (respectful : pool.Respectful discipline ends) : Exact pool where
  once auditId := (accounted.stored auditId).trans (accounted.logged_le auditId)
  kept auditId logged := by
    have positive := (logged_iff auditId).mp logged
    have conserved := accounted.conserved auditId
    dsimp only at conserved
    rcases Nat.eq_zero_or_pos (pool.shared.batchBuffer.countP (named auditId)) with none | buffered
    · have taken : (pool.calls.map fun call => call.phase.taken.countP (named auditId)).sum ≠ 0 := by
        omega
      obtain ⟨weight, listed, heavy⟩ : ∃ weight ∈ pool.calls.map fun call =>
          call.phase.taken.countP (named auditId), weight ≠ 0 := by
        by_contra light
        push Not at light
        exact taken (List.sum_eq_zero light)
      obtain ⟨call, member, rfl⟩ := List.mem_map.mp listed
      cases ended : call.program.outcome? with
      | none => exact .inr (.inr ⟨call, member, ended, Nat.pos_of_ne_zero heavy⟩)
      | some outcome =>
        left
        rcases ((respectful call member).ends_of_outcome ended).1 with idle | ⟨written, -⟩
        · rw [idle] at heavy
          exact absurd rfl heavy
        · obtain ⟨log, taken, same⟩ := List.countP_pos_iff.mp (Nat.pos_of_ne_zero heavy)
          exact List.countP_pos_iff.mpr ⟨log, accounted.written call member written log taken, same⟩
    · exact .inr (.inl buffered)
  returned call member auditId ended := by
    obtain ⟨logged, own⟩ := ((respectful call member).ends_of_outcome ended).2 auditId rfl
    exact ⟨call, member, own, logged⟩

variable (rest : ∀ call ∈ pool.calls, call.program.outcome? ≠ none)

include rest

theorem pending_rest (respectful : pool.Respectful discipline ends) (auditId : String) :
    (pool.calls.map fun call => pending auditId call.phase).sum = 0 := by
  refine List.sum_eq_zero fun weight listed => ?_
  obtain ⟨call, member, rfl⟩ := List.mem_map.mp listed
  obtain ⟨outcome, ended⟩ := Option.ne_none_iff_exists'.mp (rest call member)
  rcases ((respectful call member).ends_of_outcome ended).1 with idle | ⟨written, -⟩
  · simp [pending, idle]
  · exact pending_written written auditId

theorem Accounted.recovers (accounted : Accounted ⟨pool, false⟩)
    (respectful : pool.Respectful discipline ends) {circumstance : Nat → Circumstance}
    (calm : ∀ number, (circumstance number).fault = none) :
    Recovers settings circumstance pool := by
  have places (auditId : String) : pool.shared.batchBuffer.countP (named auditId) +
      pool.shared.collection.countP (named auditId) =
        pool.calls.countP fun call => draws auditId call.input && call.phase.logged := by
    have conserved := (accounted.calm rfl).2 auditId
    rw [pending_rest rest respectful] at conserved
    exact conserved
  have new : hasAny pool.shared.collection pool.shared.batchBuffer = false := by
    refine List.any_eq_false.mpr fun log buffered => Bool.not_eq_true _ ▸ ?_
    refine List.any_eq_false.mpr fun stored collected same => ?_
    have once := places log.auditId
    have most := accounted.logged_le log.auditId
    have one : 0 < pool.shared.batchBuffer.countP (named log.auditId) :=
      List.countP_pos_iff.mpr ⟨log, buffered, decide_eq_true rfl⟩
    have other : 0 < pool.shared.collection.countP (named log.auditId) :=
      List.countP_pos_iff.mpr ⟨stored, collected, same⟩
    omega
  obtain ⟨empty, collection⟩ := @flushed_of_new _ settings _ _ calm new
  refine ⟨empty, fun auditId logged => ?_⟩
  rw [collection, List.countP_append, Nat.add_comm, places]
  exact Nat.le_antisymm (accounted.logged_le auditId) ((logged_iff auditId).mp logged)

theorem Accounted.not_recovers (accounted : Accounted ⟨pool, true⟩)
    (respectful : pool.Respectful discipline ends) {circumstance : Nat → Circumstance}
    (calm : ∀ number, (circumstance number).fault = none) :
    ¬ Recovers settings circumstance pool := by
  intro recovers
  obtain ⟨stored, among, buffered | ⟨call, member, taken, vain⟩⟩ := accounted.stuck rfl
  · obtain ⟨log, here, same⟩ := List.countP_pos_iff.mp buffered
    refine flushed_of_stored calm (List.any_eq_true.mpr ⟨log, here, ?_⟩) recovers.empties
    exact List.any_eq_true.mpr ⟨stored, among,
      decide_eq_true (of_decide_eq_true same).symm⟩
  · obtain ⟨outcome, ended⟩ := Option.ne_none_iff_exists'.mp (rest call member)
    rcases ((respectful call member).ends_of_outcome ended).1 with idle | ⟨written, well⟩
    · rw [idle] at taken
      cases taken
    · cases well.symm.trans (vain written)

omit rest in
/-- In every state no event is stored twice or lost. When all calls have ended and the stores
work, a flush stores every event once and empties the buffer, exactly when no cache update
has failed after the insertion of its flush. -/
theorem delivers_once_iff (settings : AuditSettings ν) (now : Nat)
    (events : List (Event Circumstance Nat (AuditCall ν)))
    (fresh : (machine settings).Admits Fresh (newDelivery ν now) events) :
    Exact ((machine settings).run (newDelivery ν now) events).pool ∧
      ((∀ call ∈ ((machine settings).run (newDelivery ν now) events).pool.calls,
          call.program.outcome? ≠ none) →
        ∀ circumstance : Nat → Circumstance, (∀ number, (circumstance number).fault = none) →
          (Recovers settings circumstance ((machine settings).run (newDelivery ν now) events).pool ↔
            ((machine settings).run (newDelivery ν now) events).history = false)) := by
  obtain ⟨respectful, accounted⟩ := accounted_run now fresh
  generalize (machine settings).run (newDelivery ν now) events = current at respectful accounted
  obtain ⟨pool, failed⟩ := current
  refine ⟨accounted.exact respectful, fun rest circumstance calm => ?_⟩
  cases failed with
  | false => exact iff_of_true (accounted.recovers rest respectful calm) rfl
  | true => exact iff_of_false (accounted.not_recovers rest respectful calm) nofun

end Delivering

section Sample

def sampleSettings : AuditSettings Empty := ⟨Empty.elim, Js.Buffer.framed, id⟩

def sampleEvents (update : Circumstance) : List (Event Circumstance Nat (AuditCall Empty)) :=
  .start (.log ⟨"t", none, "read", "document", none, .object []⟩ "1") ::
    List.replicate 6 (.run 0 {}) ++
      [.start .flushBatch, .run 1 {}, .run 1 {}, .run 1 update, .run 1 {}]

theorem fresh_sample (update : Circumstance) :
    (machine sampleSettings).Admits Fresh (newDelivery Empty 0) (sampleEvents update) :=
  ⟨fun _ absent => absurd absent List.not_mem_nil, trivial, trivial, trivial, trivial, trivial,
    trivial, fun _ _ _ same => (nomatch same), trivial, trivial, trivial, trivial, trivial⟩

theorem ended_sample (update : Circumstance)
    (ended : ((machine sampleSettings).run (newDelivery Empty 0) (sampleEvents update)).pool.calls.all
      (fun call => call.program.outcome?.isSome) = true) :
    ∀ call ∈ ((machine sampleSettings).run (newDelivery Empty 0) (sampleEvents update)).pool.calls,
      call.program.outcome? ≠ none := by
  intro call member
  exact Option.isSome_iff_ne_none.mp (List.all_eq_true.mp ended call member)

/-- When the update of the cache fails, no later flush empties the buffer. -/
theorem failed_update_sticks : ¬ ∀ events : List (Event Circumstance Nat (AuditCall Empty)),
      (machine sampleSettings).Admits Fresh (newDelivery Empty 0) events →
      (∀ call ∈ ((machine sampleSettings).run (newDelivery Empty 0) events).pool.calls,
        call.program.outcome? ≠ none) →
      Recovers sampleSettings (fun _ => {})
        ((machine sampleSettings).run (newDelivery Empty 0) events).pool := by
  intro recovers
  have emptied := (recovers _ (fresh_sample { fault := some "ECONNRESET" })
    (ended_sample _ (by decide +kernel))).empties
  exact absurd (congrArg List.length emptied) (by decide +kernel)

/-- When nothing fails, the event is stored once. -/
theorem sample_delivers :
    Exact ((machine sampleSettings).run (newDelivery Empty 0) (sampleEvents {})).pool ∧
      Recovers sampleSettings (fun _ => {})
        ((machine sampleSettings).run (newDelivery Empty 0) (sampleEvents {})).pool := by
  obtain ⟨exact', recovers⟩ := delivers_once_iff sampleSettings 0 _ (fresh_sample {})
  exact ⟨exact', (recovers (ended_sample _ (by decide +kernel)) (fun _ => {}) fun _ => rfl).mpr
    (by decide +kernel)⟩

end Sample

end Caas.Compliance.LogDelivery
