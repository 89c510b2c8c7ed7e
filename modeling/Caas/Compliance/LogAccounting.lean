import Caas.Compliance.AuditService

/-!
# Where the logs are

A log that has been pushed stays in the buffer, in a batch on its way or in the collection
until it is stored, through any failing flush and any interleaving. Its hash was computed
when the clock had an earlier reading.
-/

namespace Caas.Compliance.AuditService

open Js Async Program Redis HashChainService

variable {ν : Type} (settings : AuditSettings ν)

/-- Where a call stands: the last reading of the clock, whether it has logged, the batch it
has taken from the buffer, and what of it is in no other place. -/
structure Phase (ν : Type) where
  time : Int := 0
  logged : Bool := false
  taken : List (AuditLog ν) := []
  held : List (AuditLog ν) := []

def nextPhase (phase : Phase ν) : (command : AuditCommand ν) → command.Reply → Phase ν
  | .newDate, (time : Int) => { phase with time }
  | .push _, _ => { phase with logged := true }
  | .takeBatch, (batch : List (AuditLog ν)) => { phase with taken := batch, held := batch }
  | .insertMany _, (written : Except String Unit) =>
    match written with
    | .ok _ => { phase with held := [] }
    | .error _ => phase
  | .unshift _, _ => { phase with held := [] }
  | .redis _, _ | .findOne _, _ | .find _ _ _, _ => phase

def logsFor (tenantId : String) : AuditCall ν → Bool
  | .log event _ => event.tenantId = tenantId
  | .flushBatch => false

/-- The hash of the log was computed when the clock read `time`. -/
def HashedAt (time : Int) (log : AuditLog ν) : Prop :=
  log.hash = calculateHash settings log.toAuditData log.previousHash time

/-- A call pushes a log of its tenant, with a hash that it has just computed, and inserts or
returns the batch that it has taken. -/
def discipline (call : AuditCall ν) : Discipline (AuditCommand ν) AuditCommand.Reply (Phase ν) where
  next := nextPhase
  may phase
    | .push log => logsFor log.tenantId call = true ∧ HashedAt settings phase.time log
    | .insertMany batch | .unshift batch => batch = phase.taken
    | .takeBatch => phase.held = []
    | .newDate | .redis _ | .findOne _ => True
    | .find _ _ _ => False
  assumes _ _ := True

/-- A call that has ended holds nothing; it has pushed a log if it is one of `log` and
returns. -/
def ends (call : AuditCall ν) (phase : Phase ν)
    (outcome : Outcome (Option String)) : Prop :=
  phase.held = [] ∧
    match call, outcome with
    | .log _ _, .ok _ => phase.logged = true
    | _, _ => phase.logged = false

/-- Commands of the cache and of the database leave the phase alone. -/
inductive Reads : AuditCommand ν → Prop where
  | redis (command : StringCommand String String) : Reads (.redis command)
  | findOne (tenantId : String) : Reads (.findOne tenantId)

theorem redisGet_reads (key : String) :
    (redisGet key : AuditProgram ν _).Issues Reads fun _ _ => True :=
  ⟨.redis _, fun _ _ => issues_orThrow⟩

theorem redisSetex_reads (key : String) (seconds : Int) (value : String) :
    (redisSetex key seconds value : AuditProgram ν _).Issues Reads fun _ _ => True := by
  refine issues_command_bind (.redis _) ?_
  rintro (reply : Except String (Except String Unit)) _
  exact issues_bind issues_orThrow fun written => issues_orThrow

theorem getLastHash_reads (tenantId : String) :
    (getLastHash tenantId : AuditProgram ν _).Issues Reads fun _ _ => True := by
  refine issues_bind (redisGet_reads _) fun cached => ?_
  cases cached.filter (· ≠ "") with
  | some hash => exact issues_pure
  | none =>
    refine issues_command_bind (.findOne tenantId) fun reply _ => ?_
    exact issues_bind issues_orThrow fun last =>
      issues_bind (redisSetex_reads _ _ _) fun _ => issues_pure

theorem cacheLastHashes_reads (batch : List (AuditLog ν)) :
    (cacheLastHashes batch).Issues Reads fun _ _ => True := by
  induction batch with
  | nil => exact issues_pure
  | cons log rest ih => exact issues_bind (redisSetex_reads _ _ _) fun _ => ih

variable {settings}

theorem Reads.respects {call : AuditCall ν} {phase : Phase ν} {α : Type}
    {program : AuditProgram ν α}
    (reads : program.Issues Reads fun _ _ => True) :
    program.Respects (discipline settings call) (fun final _ => final = phase) phase := by
  refine Issues.respects reads (fun command read => ?_) fun command reply read => ?_
  · cases read <;> trivial
  · cases read <;> rfl

theorem flushBatch_respects {call : AuditCall ν} {phase : Phase ν} (idle : phase.held = []) :
    (flushBatch : AuditProgram ν Unit).Respects (discipline settings call)
      (fun final outcome => outcome = .ok () ∧ final.held = [] ∧ final.logged = phase.logged)
      phase := by
  refine respects_command_bind idle fun (batch : List (AuditLog ν)) _ after moved => ?_
  obtain rfl : { phase with taken := batch, held := batch } = after := moved
  by_cases empty : batch.length = 0
  · rw [if_pos empty]
    exact ⟨rfl, List.length_eq_zero_iff.mp empty, rfl⟩
  · rw [if_neg empty]
    refine respects_catching ?_
    refine respects_command_bind rfl fun (written : Except String Unit) _ after moved => ?_
    cases written with
    | error message =>
      obtain rfl : ({ phase with taken := batch, held := batch } : Phase ν) = after := moved
      exact ⟨rfl, fun _ _ => ⟨rfl, rfl, rfl⟩⟩
    | ok value =>
      obtain rfl : ({ phase with taken := batch, held := [] } : Phase ν) = after := moved
      refine (Reads.respects (cacheLastHashes_reads batch)).mono fun final outcome same => ?_
      subst same
      cases outcome with
      | ok _ => exact ⟨rfl, rfl, rfl⟩
      | error _ => exact ⟨rfl, fun _ _ => ⟨rfl, rfl, rfl⟩⟩

theorem body_respects (call : AuditCall ν) :
    (body settings call).Respects (discipline settings call) (ends call) {} := by
  cases call with
  | flushBatch =>
    refine respects_bind ((flushBatch_respects rfl).mono fun final outcome finished => ?_)
    obtain ⟨rfl, held, logged⟩ := finished
    exact ⟨held, logged⟩
  | log event auditId =>
    refine respects_bind ?_
    refine respects_command_bind trivial fun (createdAt : Int) _ after moved => ?_
    obtain rfl : ({ time := createdAt } : Phase ν) = after := moved
    refine respects_bind ((Reads.respects (getLastHash_reads _)).mono
      fun final outcome same => ?_)
    subst same
    cases outcome with
    | error message => exact ⟨rfl, rfl⟩
    | ok previousHash =>
      refine respects_command_bind trivial fun (time : Int) _ after moved => ?_
      obtain rfl : ({ time } : Phase ν) = after := moved
      refine respects_command_bind ⟨decide_eq_true rfl, rfl⟩
        fun (length : Nat) _ after moved => ?_
      obtain rfl : ({ time, logged := true } : Phase ν) = after := moved
      by_cases full : length ≥ 100
      · rw [if_pos full]
        refine respects_bind ((flushBatch_respects rfl).mono
          fun final outcome finished => ?_)
        obtain ⟨rfl, held, logged⟩ := finished
        exact ⟨held, logged⟩
      · rw [if_neg full]
        exact ⟨rfl, rfl⟩

abbrev AuditPool (ν : Type) :=
  Pool (AuditState ν) (AuditCommand ν) AuditCommand.Reply (AuditCall ν) (Phase ν) (Option String)

variable (settings) in
def machine : Transducer (AuditPool ν) (Event Circumstance Nat (AuditCall ν)) Unit :=
  Pool.machine (host settings) (discipline settings) fun _ => {}

/-- A service that has just been made, on an empty collection. -/
def newPool (ν : Type) (now : Nat) : AuditPool ν := ⟨⟨now, [], [], .empty⟩, []⟩

section Accounting

/-- The log is in the collection, in the buffer or in a batch that is on its way. -/
def Kept (pool : AuditPool ν) (log : AuditLog ν) : Prop :=
  log ∈ pool.shared.collection ∨ log ∈ pool.shared.batchBuffer ∨
    ∃ call ∈ pool.calls, log ∈ call.phase.held

/-- The log is in the collection, in the buffer or in a batch that a call has taken. -/
def Known (pool : AuditPool ν) (log : AuditLog ν) : Prop :=
  log ∈ pool.shared.collection ∨ log ∈ pool.shared.batchBuffer ∨
    ∃ call ∈ pool.calls, log ∈ call.phase.taken

/-- Every log has been hashed by now and pushed by a call, and no call has pushed in vain. -/
structure Accounted (settings : AuditSettings ν) (pool : AuditPool ν) : Prop where
  clock : ∀ call ∈ pool.calls, call.phase.time ≤ pool.shared.now
  taken : ∀ call ∈ pool.calls, ∀ log ∈ call.phase.held, log ∈ call.phase.taken
  hashed : ∀ log, Known pool log → ∃ time : Int, time ≤ pool.shared.now ∧ HashedAt settings time log
  source : ∀ log, Known pool log → ∃ call ∈ pool.calls, call.phase.logged = true ∧
    logsFor log.tenantId call.input = true
  kept : ∀ call ∈ pool.calls, call.phase.logged = true → ∀ tenantId,
    logsFor tenantId call.input = true → ∃ log, Kept pool log ∧ log.tenantId = tenantId

variable {state : AuditState ν} {circumstance : Circumstance}

theorem now_exec (command : AuditCommand ν) :
    state.now ≤ (exec settings state command circumstance).1.now := by
  cases command with
  | newDate => exact Nat.le_succ_of_le (Nat.le_add_right _ _)
  | redis _ | findOne _ | find _ _ _ | insertMany _ =>
    obtain ⟨_, _ | _, _⟩ := circumstance <;> exact Nat.le_refl _
  | push _ | takeBatch | unshift _ => exact Nat.le_refl _

theorem collection_exec (command : AuditCommand ν) :
    ∃ gained, (exec settings state command circumstance).1.collection = state.collection ++ gained ∧
      ∀ log ∈ gained, ∃ batch, command = .insertMany batch ∧ log ∈ batch := by
  cases command with
  | newDate | push _ | takeBatch | unshift _ => 
    exact ⟨[], (List.append_nil _).symm, fun _ absent => absurd absent List.not_mem_nil⟩
  | redis _ | findOne _ | find _ _ _ =>
    refine ⟨[], ?_, fun _ absent => absurd absent List.not_mem_nil⟩
    obtain ⟨_, _ | _, _⟩ := circumstance <;> exact (List.append_nil _).symm
  | insertMany batch =>
    obtain ⟨_, _ | _, _⟩ := circumstance
    · exact ⟨batch, rfl, fun log member => ⟨batch, rfl, member⟩⟩
    · exact ⟨_, rfl, fun log member => ⟨batch, rfl, List.mem_of_mem_take member⟩⟩

theorem batchBuffer_exec (command : AuditCommand ν) :
    (exec settings state command circumstance).1.batchBuffer =
      match command with
      | .push log => state.batchBuffer ++ [log]
      | .takeBatch => []
      | .unshift batch => batch ++ state.batchBuffer
      | _ => state.batchBuffer := by
  cases command with
  | newDate | push _ | takeBatch | unshift _ => rfl
  | redis _ | findOne _ | find _ _ _ | insertMany _ =>
    obtain ⟨_, _ | _, _⟩ := circumstance <;> rfl

variable {phase : Phase ν}

theorem taken_nextPhase {command : AuditCommand ν} {log : AuditLog ν}
    (taken : log ∈ (nextPhase phase command (exec settings state command circumstance).2).taken) :
    log ∈ phase.taken ∨ log ∈ state.batchBuffer := by
  cases command with
  | takeBatch => exact .inr taken
  | insertMany batch =>
    obtain ⟨_, _ | _, _⟩ := circumstance <;> exact .inl taken
  | _ => exact .inl taken

theorem held_nextPhase {command : AuditCommand ν} {call : AuditCall ν}
    (may : (discipline settings call).may phase command) {log : AuditLog ν}
    (taken : log ∈ phase.taken) (held : log ∈ phase.held) :
    log ∈ (nextPhase phase command (exec settings state command circumstance).2).held ∨
      log ∈ (exec settings state command circumstance).1.collection ∨
        log ∈ (exec settings state command circumstance).1.batchBuffer := by
  cases command with
  | takeBatch =>
    rw [show phase.held = [] from may] at held
    exact absurd held List.not_mem_nil
  | insertMany batch =>
    obtain rfl : batch = phase.taken := may
    obtain ⟨_, _ | _, _⟩ := circumstance
    · exact .inr (.inl (List.mem_append_right _ taken))
    · exact .inl held
  | unshift batch =>
    obtain rfl : batch = phase.taken := may
    exact .inr (.inr (List.mem_append_left _ taken))
  | _ => exact .inl held

theorem heldTaken_nextPhase {command : AuditCommand ν}
    (within : ∀ log ∈ phase.held, log ∈ phase.taken) :
    ∀ log ∈ (nextPhase phase command (exec settings state command circumstance).2).held,
      log ∈ (nextPhase phase command (exec settings state command circumstance).2).taken := by
  cases command with
  | takeBatch => exact fun log member => member
  | unshift batch => exact fun log absent => absurd absent List.not_mem_nil
  | insertMany batch =>
    obtain ⟨_, _ | _, _⟩ := circumstance
    · exact fun log absent => absurd absent List.not_mem_nil
    · exact within
  | _ => exact within

theorem logged_nextPhase {command : AuditCommand ν} {reply : command.Reply} :
    (nextPhase phase command reply).logged = true ↔
      phase.logged = true ∨ ∃ log, command = .push log := by
  cases command with
  | insertMany batch =>
    obtain _ | _ : Except String Unit := reply <;> simp [nextPhase]
  | _ => simp [nextPhase]

theorem time_nextPhase {command : AuditCommand ν} (clock : phase.time ≤ state.now) :
    (nextPhase phase command (exec settings state command circumstance).2).time ≤
      (exec settings state command circumstance).1.now := by
  cases command with
  | newDate => exact le_rfl
  | insertMany | redis | findOne | find => obtain ⟨_, _ | _, _⟩ := circumstance <;> exact clock
  | _ => exact clock

variable {pool : AuditPool ν} {index : Nat}
  {call : Call (AuditCommand ν) AuditCommand.Reply (AuditCall ν) (Phase ν) (Option String)}
  {command : AuditCommand ν} {next : command.Reply → AuditProgram ν (Option String)}

/-- A log that is known after a command was known, or has just been pushed. -/
theorem known_resume (present : pool.calls[index]? = some call)
    (may : (discipline settings call.input).may call.phase command) {log : AuditLog ν}
    (known : Known (pool.resume (discipline settings) index call command next
      (exec settings pool.shared command circumstance)) log) :
    Known pool log ∨ command = .push log := by
  have member := List.mem_of_getElem? present
  have own (taken : log ∈ call.phase.taken) : Known pool log := .inr (.inr ⟨call, member, taken⟩)
  rcases known with collected | buffered | ⟨other, here, taken⟩
  · obtain ⟨gained, same, inserted⟩ :=
      @collection_exec _ settings pool.shared circumstance command
    change log ∈ (exec settings pool.shared command circumstance).1.collection at collected
    rw [same, List.mem_append] at collected
    rcases collected with before | new
    · exact .inl (.inl before)
    · obtain ⟨batch, rfl, listed⟩ := inserted log new
      obtain rfl : batch = call.phase.taken := may
      exact .inl (own listed)
  · change log ∈ (exec settings pool.shared command circumstance).1.batchBuffer at buffered
    rw [batchBuffer_exec] at buffered
    cases command with
    | push pushed =>
      rcases List.mem_append.mp buffered with before | new
      · exact .inl (.inr (.inl before))
      · rw [List.mem_singleton.mp new]
        exact .inr rfl
    | takeBatch => exact absurd buffered List.not_mem_nil
    | unshift batch =>
      obtain rfl : batch = call.phase.taken := may
      rcases List.mem_append.mp buffered with returned | before
      · exact .inl (own returned)
      · exact .inl (.inr (.inl before))
    | _ => exact .inl (.inr (.inl buffered))
  · left
    rcases List.mem_or_eq_of_mem_set here with before | rfl
    · exact .inr (.inr ⟨other, before, taken⟩)
    · rcases taken_nextPhase taken with taken | buffered
      · exact own taken
      · exact .inr (.inl buffered)

theorem kept_resume (accounted : Accounted settings pool) (present : pool.calls[index]? = some call)
    (may : (discipline settings call.input).may call.phase command) {log : AuditLog ν}
    (kept : Kept pool log) : Kept (pool.resume (discipline settings) index call command next
      (exec settings pool.shared command circumstance)) log := by
  have moved := @Pool.mem_resume_self _ _ _ _ _ _ (discipline settings) pool index call command next
    (exec settings pool.shared command circumstance) present
  obtain ⟨gained, same, -⟩ := @collection_exec _ settings pool.shared circumstance command
  rcases kept with collected | buffered | ⟨other, here, held⟩
  · left
    change log ∈ (exec settings pool.shared command circumstance).1.collection
    rw [same]
    exact List.mem_append_left _ collected
  · by_cases takes : command = .takeBatch
    · subst takes
      exact .inr (.inr ⟨_, moved, buffered⟩)
    · right; left
      change log ∈ (exec settings pool.shared command circumstance).1.batchBuffer
      rw [batchBuffer_exec]
      cases command with
      | push pushed => exact List.mem_append_left _ buffered
      | unshift batch => exact List.mem_append_right _ buffered
      | takeBatch => exact absurd rfl takes
      | _ => exact buffered
  · rcases Pool.mem_resume_or_eq present here with stays | rfl
    · exact .inr (.inr ⟨other, stays, held⟩)
    · rcases held_nextPhase may (accounted.taken other here log held) held with held | elsewhere
      · exact .inr (.inr ⟨_, moved, held⟩)
      · exact elsewhere.imp_right .inl

theorem Accounted.resume (accounted : Accounted settings pool)
    (present : pool.calls[index]? = some call)
    (may : (discipline settings call.input).may call.phase command) :
    Accounted settings (pool.resume (discipline settings) index call command next
      (exec settings pool.shared command circumstance)) := by
  have member := List.mem_of_getElem? present
  have moved := @Pool.mem_resume_self _ _ _ _ _ _ (discipline settings) pool index call command next
    (exec settings pool.shared command circumstance) present
  have later : pool.shared.now ≤ (exec settings pool.shared command circumstance).1.now :=
    now_exec command
  have clock := accounted.clock call member
  -- What a pushed log says is what its call may push.
  have pushed (log : AuditLog ν) (pushes : command = .push log) :
      logsFor log.tenantId call.input = true ∧ HashedAt settings call.phase.time log := by
    subst pushes
    exact may
  refine ⟨fun other here => ?_, fun other here => ?_, fun log known => ?_, fun log known => ?_,
    fun other here logged tenantId own => ?_⟩
  · rcases List.mem_or_eq_of_mem_set here with before | rfl
    · exact (accounted.clock other before).trans (by exact_mod_cast later)
    · exact time_nextPhase clock
  · rcases List.mem_or_eq_of_mem_set here with before | rfl
    · exact accounted.taken other before
    · exact heldTaken_nextPhase (accounted.taken call member)
  · rcases known_resume present may known with before | pushes
    · obtain ⟨time, earlier, hashed⟩ := accounted.hashed log before
      exact ⟨time, earlier.trans (by exact_mod_cast later), hashed⟩
    · exact ⟨call.phase.time, clock.trans (by exact_mod_cast later), (pushed log pushes).2⟩
  · rcases known_resume present may known with before | pushes
    · obtain ⟨other, here, logged, own⟩ := accounted.source log before
      rcases Pool.mem_resume_or_eq present here with stays | rfl
      · exact ⟨other, stays, logged, own⟩
      · exact ⟨_, moved, logged_nextPhase.mpr (.inl logged), own⟩
    · exact ⟨_, moved, logged_nextPhase.mpr (.inr ⟨log, pushes⟩), (pushed log pushes).1⟩
  · rcases List.mem_or_eq_of_mem_set here with before | rfl
    · obtain ⟨log, kept, same⟩ := accounted.kept other before logged tenantId own
      exact ⟨log, kept_resume accounted present may kept, same⟩
    · rcases logged_nextPhase.mp logged with logged | ⟨log, rfl⟩
      · obtain ⟨log, kept, same⟩ := accounted.kept call member logged tenantId own
        exact ⟨log, kept_resume accounted present may kept, same⟩
      · refine ⟨log, .inr (.inl (List.mem_append_right _ (List.mem_singleton_self log))), ?_⟩
        have named := may.1
        cases input : call.input with
        | flushBatch =>
          rw [input] at named
          cases named
        | log event auditId =>
          rw [input] at named own
          exact (of_decide_eq_true named).symm.trans (of_decide_eq_true own)

theorem Accounted.start (accounted : Accounted settings pool) (input : AuditCall ν) :
    Accounted settings (pool.start (host settings) (fun _ => {}) input) := by
  have listed (other : Call (AuditCommand ν) AuditCommand.Reply (AuditCall ν) (Phase ν)
      (Option String)) (here : other ∈ (pool.start (host settings) (fun _ => {}) input).calls) :
      other ∈ pool.calls ∨ other.phase = {} := by
    rcases List.mem_append.mp here with before | new
    · exact .inl before
    · exact .inr (List.mem_singleton.mp new ▸ rfl)
  have known (log : AuditLog ν)
      (here : Known (pool.start (host settings) (fun _ => {}) input) log) : Known pool log := by
    rcases here with collected | buffered | ⟨other, here, taken⟩
    · exact .inl collected
    · exact .inr (.inl buffered)
    · rcases listed other here with before | fresh
      · exact .inr (.inr ⟨other, before, taken⟩)
      · rw [fresh] at taken
        exact absurd taken List.not_mem_nil
  refine ⟨fun other here => ?_, fun other here log held => ?_,
    fun log here => accounted.hashed log (known log here), fun log here => ?_,
    fun other here logged tenantId own => ?_⟩
  · rcases listed other here with before | fresh
    · exact accounted.clock other before
    · rw [fresh]
      exact Int.natCast_nonneg _
  · rcases listed other here with before | fresh
    · exact accounted.taken other before log held
    · rw [fresh] at held
      exact absurd held List.not_mem_nil
  · obtain ⟨other, before, facts⟩ := accounted.source log (known log here)
    exact ⟨other, List.mem_append_left _ before, facts⟩
  · rcases listed other here with before | fresh
    · obtain ⟨log, kept, same⟩ := accounted.kept other before logged tenantId own
      refine ⟨log, ?_, same⟩
      exact kept.imp_right (Or.imp_right fun ⟨holder, here, held⟩ =>
        ⟨holder, List.mem_append_left _ here, held⟩)
    · rw [fresh] at logged
      cases logged

theorem accounted_run (now : Nat) (events : List (Event Circumstance Nat (AuditCall ν))) :
    ((machine settings).run (newPool ν now) events).Respectful (discipline settings) ends ∧
      Accounted settings ((machine settings).run (newPool ν now) events) := by
  have none (log : AuditLog ν) : ¬ Known (newPool ν now) log := by
    simp [Known, newPool]
  refine @Pool.invariant _ _ _ _ _ _ _ _ (host settings) (discipline settings) (fun _ => {}) ends
    (fun _ _ => True) (Accounted settings) body_respects ?_ ?_ ?_ _ _
    (Transducer.admits_of_forall (fun _ _ => trivial) _ _) (fun _ absent => absurd absent
      List.not_mem_nil) ⟨?_, ?_, ?_, ?_, ?_⟩
  · exact fun pool input accounted _ => accounted.start input
  · intro pool elapsed accounted _
    refine ⟨fun call here => ?_, accounted.taken, fun log known => ?_, accounted.source,
      accounted.kept⟩
    · exact (accounted.clock call here).trans (by exact_mod_cast Nat.le_add_right _ _)
    · obtain ⟨time, earlier, hashed⟩ := accounted.hashed log known
      exact ⟨time, earlier.trans (by exact_mod_cast Nat.le_add_right _ _), hashed⟩
  · intro pool index circumstance call command next accounted _ present _ may
    exact ⟨trivial, accounted.resume present may⟩
  · exact fun _ absent => absurd absent List.not_mem_nil
  · exact fun _ absent => absurd absent List.not_mem_nil
  · exact fun log known => absurd known (none log)
  · exact fun log known => absurd known (none log)
  · exact fun _ absent => absurd absent List.not_mem_nil

end Accounting

end Caas.Compliance.AuditService
