import Caas.Compliance.LogAccounting

/-!
# Verifying the compliance log

`calculateHash` reads the clock, so a hash can only be computed again at the moment it was
computed first. Every log of a tenant is reported, whatever the buffer and the cache did;
only a tenant without logs verifies.
-/

namespace Caas.Compliance.AuditService

open Js Async Program Redis HashChainService

variable {ν : Type} {settings : AuditSettings ν} {circumstance : Nat → Circumstance}

section Flushing

variable (calm : ∀ number, (circumstance number).fault = none)

include calm

theorem flushBatch_ensures {number : Nat} {state : AuditState ν} :
    (flushBatch : AuditProgram ν Unit).Ensures (exec settings) circumstance
      (fun _ after _ => after.collection = state.collection ++ state.batchBuffer ∧
        after.now = state.now) number state := by
  have taken : exec settings state .takeBatch (circumstance number) =
      ({ state with batchBuffer := [] }, state.batchBuffer) := rfl
  refine ensures_command_bind taken ?_
  by_cases empty : state.batchBuffer.length = 0
  · rw [if_pos empty]
    refine ⟨?_, rfl⟩
    rw [List.length_eq_zero_iff.mp empty, List.append_nil]
  · rw [if_neg empty]
    have inserted : exec settings { state with batchBuffer := [] } (.insertMany state.batchBuffer)
        (circumstance (number + 1)) = ({ state with
          batchBuffer := []
          collection := state.collection ++ state.batchBuffer }, .ok ()) := by
      unfold exec
      simp [calm (number + 1)]
    refine ensures_catching (ensures_command_bind inserted ?_)
    refine (cacheLastHashes_ensures (fun _ _ _ => rfl) calm state.batchBuffer).mono
      fun _ after outcome done => ?_
    obtain ⟨rfl, redis, rfl⟩ := done
    exact ⟨rfl, rfl⟩

end Flushing

section Verifying

variable (calm : ∀ number, (circumstance number).fault = none)
  (injective : Function.Injective settings.digest) (numerals : Json.Numerals settings.digits)

include injective numerals

theorem verifyLogs_ensures {number : Nat} {state : AuditState ν} {logs : List (AuditLog ν)}
    (hashed : ∀ log ∈ logs, ∃ (time : Int) (data : AuditData ν), time ≤ state.now ∧
      log.hash = calculateHash settings data log.previousHash time)
    (previous : Option (AuditLog ν)) (errors : List String) (verified : Nat) :
    (verifyLogs settings previous errors verified logs).Ensures (exec settings) circumstance
      (fun _ _ outcome => outcome = .ok
        (errors ++ logs.map fun log => "Hash mismatch at audit_id: " ++ log.auditId, verified))
      number state := by
  induction logs generalizing number state previous errors with
  | nil => exact congrArg (fun list => Except.ok (list, verified)) (List.append_nil errors).symm
  | cons log rest ih =>
    have read : exec settings state .newDate (circumstance number) =
        ({ state with now := state.now + (circumstance number).elapsed + 1 },
          ((state.now + (circumstance number).elapsed + 1 : Nat) : Int)) := rfl
    refine ensures_command_bind read ?_
    obtain ⟨time, data, earlier, computed⟩ := hashed log List.mem_cons_self
    have differs : calculateHash settings log.toAuditData log.previousHash
        ((state.now + (circumstance number).elapsed + 1 : Nat) : Int) ≠ log.hash := by
      intro same
      have moment := time_of_calculateHash injective numerals (same.trans computed)
      push_cast at moment
      omega
    rw [if_pos differs]
    have later := @ih (number + 1)
      { state with now := state.now + (circumstance number).elapsed + 1 }
      (fun other member => by
        obtain ⟨time, data, earlier, computed⟩ := hashed other (List.mem_cons_of_mem _ member)
        exact ⟨time, data, by push_cast; omega, computed⟩)
      (some log) (errors ++ ["Hash mismatch at audit_id: " ++ log.auditId])
    refine later.mono fun _ _ outcome reported => ?_
    rw [reported, List.map_cons, List.append_assoc, List.singleton_append]

include calm

/-- The integrity report of a tenant all of whose logs were hashed before: nothing verifies. -/
theorem verifyIntegrity_ensures {number : Nat} {state : AuditState ν} (tenantId : String)
    (hashed : ∀ log ∈ state.collection, ∃ time : Int, time ≤ state.now ∧
      HashedAt settings time log) :
    (verifyIntegrity settings tenantId none none).Ensures (exec settings) circumstance
      (fun _ _ outcome => ∃ report, outcome = .ok report ∧
        report.totalLogs = (found state.collection tenantId none none).length ∧
        report.verifiedLogs = 0 ∧ (report.valid = true ↔ report.totalLogs = 0)) number state := by
  obtain ⟨logs, answered⟩ : ∃ logs, logs =
      (found state.collection tenantId none none).map (retrieved settings) := ⟨_, rfl⟩
  have executed : exec settings state (.find tenantId none none) (circumstance number) =
      (state, .ok logs) := by
    unfold exec
    simp [calm number, answered]
  have length : logs.length = (found state.collection tenantId none none).length := by
    rw [answered, List.length_map]
  refine ensures_command_bind executed ?_
  change (verifyLogs settings none [] 0 logs >>= _).Ensures _ _ _ _ _
  refine ensures_bind ?_
  refine (verifyLogs_ensures injective numerals ?_ none [] 0).mono fun _ _ outcome reported => ?_
  · intro log member
    rw [answered] at member
    obtain ⟨stored, listed, rfl⟩ := List.mem_map.mp member
    obtain ⟨time, earlier, computed⟩ :=
      hashed stored (List.mem_of_mem_filter (List.mem_mergeSort.mp listed))
    exact ⟨time, stored.toAuditData, earlier, computed⟩
  · subst reported
    exact ⟨_, rfl, length, rfl, by simp⟩

end Verifying

section Report

variable (settings) (circumstance : Nat → Circumstance) (state : AuditState ν)

def flushed : AuditState ν :=
  ((flushBatch : AuditProgram ν Unit).run (exec settings) circumstance 0 state).1

/-- What `verifyIntegrity` answers for a tenant. -/
def integrity (tenantId : String) : Outcome Report :=
  ((verifyIntegrity settings tenantId none none).run (exec settings) circumstance 0 state).2

/-- The report is valid, with every log verified. -/
def Verifies (answer : Outcome Report) : Prop :=
  ∃ report, answer = .ok report ∧ report.valid = true ∧ report.verifiedLogs = report.totalLogs

variable {settings} {circumstance} {state}

theorem verifies_iff {asked : Nat → Circumstance}
    (calm : ∀ number, (circumstance number).fault = none)
    (calm' : ∀ number, (asked number).fault = none)
    (injective : Function.Injective settings.digest) (numerals : Json.Numerals settings.digits)
    {pool : AuditPool ν} (respectful : pool.Respectful (discipline settings) ends)
    (accounted : Accounted settings pool) (rest : ∀ call ∈ pool.calls, call.program.outcome? ≠ none)
    (tenantId : String) :
    Verifies (integrity settings asked (flushed settings circumstance pool.shared) tenantId) ↔
      ∀ call ∈ pool.calls, logsFor tenantId call.input = true →
        ∀ result, call.program.outcome? ≠ some (.ok result) := by
  have stored := ensures_iff_run.mp (@flushBatch_ensures _ settings _ calm 0 pool.shared)
  have collection : (flushed settings circumstance pool.shared).collection =
      pool.shared.collection ++ pool.shared.batchBuffer := stored.1
  have clock : (flushed settings circumstance pool.shared).now = pool.shared.now := stored.2
  have places (log : AuditLog ν) :
      log ∈ (flushed settings circumstance pool.shared).collection ↔ Kept pool log := by
    rw [collection, List.mem_append]
    refine or_congr_right (or_iff_left_of_imp ?_).symm
    rintro ⟨call, member, held⟩
    obtain ⟨outcome, ended⟩ := Option.ne_none_iff_exists'.mp (rest call member)
    rw [((respectful call member).ends_of_outcome ended).1] at held
    exact absurd held List.not_mem_nil
  have known {log : AuditLog ν} (kept : Kept pool log) : Known pool log :=
    kept.imp_right (Or.imp_right fun ⟨call, member, held⟩ =>
      ⟨call, member, accounted.taken call member log held⟩)
  obtain ⟨report, answered, total, verified, valid⟩ := ensures_iff_run.mp
    (@verifyIntegrity_ensures _ settings _ calm' injective numerals 0
      (flushed settings circumstance pool.shared) tenantId fun log member => by
        obtain ⟨time, earlier, hashed⟩ := accounted.hashed log (known ((places log).mp member))
        exact ⟨time, by rwa [clock], hashed⟩)
  have reported : Verifies (integrity settings asked (flushed settings circumstance pool.shared)
      tenantId) ↔ report.totalLogs = 0 := by
    constructor
    · rintro ⟨report', same, holds, -⟩
      rw [integrity, answered, Except.ok.injEq] at same
      exact valid.mp (same ▸ holds)
    · exact fun nothing => ⟨report, answered, valid.mpr nothing, by rw [verified, nothing]⟩
  rw [reported, total, List.length_eq_zero_iff, List.eq_nil_iff_forall_not_mem]
  have listed (log : AuditLog ν) : log ∈ found (flushed settings circumstance
      pool.shared).collection tenantId none none ↔ Kept pool log ∧ log.tenantId = tenantId := by
    rw [found, List.mem_mergeSort, List.mem_filter, places]
    simp
  simp only [listed]
  constructor
  · intro empty call member own result returned
    have finished := (respectful call member).ends_of_outcome returned
    cases input : call.input with
    | flushBatch =>
      rw [input] at own
      cases own
    | log event auditId =>
      rw [input] at finished
      obtain ⟨log, kept, same⟩ := accounted.kept call member finished.2 tenantId own
      exact empty log ⟨kept, same⟩
  · rintro silent log ⟨kept, rfl⟩
    obtain ⟨call, member, logged, own⟩ := accounted.source log (known kept)
    obtain ⟨outcome, ended⟩ := Option.ne_none_iff_exists'.mp (rest call member)
    have finished := (respectful call member).ends_of_outcome ended
    cases outcome with
    | ok result => exact silent call member own result ended
    | error message =>
      cases input : call.input with
      | flushBatch =>
        rw [input] at own
        cases own
      | log event auditId =>
        rw [input] at finished
        exact Bool.false_ne_true (finished.2.symm.trans logged)

/-- After any interleaving of calls that have all ended, and a flush that does not fail, the
log of a tenant verifies exactly when no `log` for the tenant has returned. -/
theorem integrity_verifies_iff (settings : AuditSettings ν)
    (injective : Function.Injective settings.digest) (numerals : Json.Numerals settings.digits)
    (now : Nat) (events : List (Event Circumstance Nat (AuditCall ν)))
    (rest : ∀ call ∈ ((machine settings).run (newPool ν now) events).calls,
      call.program.outcome? ≠ none)
    (circumstance asked : Nat → Circumstance) (calm : ∀ number, (circumstance number).fault = none)
    (calm' : ∀ number, (asked number).fault = none) (tenantId : String) :
    Verifies (integrity settings asked
        (flushed settings circumstance ((machine settings).run (newPool ν now) events).shared)
        tenantId) ↔ ∀ call ∈ ((machine settings).run (newPool ν now) events).calls,
        logsFor tenantId call.input = true → ∀ result, call.program.outcome? ≠ some (.ok result) :=
  have facts := accounted_run now events
  verifies_iff calm calm' injective numerals facts.1 facts.2 rest tenantId

end Report

section Sample

def sampleSettings : AuditSettings Empty := ⟨Empty.elim, Buffer.framed, id⟩

theorem numerals_empty : Json.Numerals sampleSettings.digits where
  injective := fun value => value.elim
  nonempty := fun value => value.elim
  numeral := fun value => value.elim

def sampleEvents (tenantId : String) : List (Event Circumstance Nat (AuditCall Empty)) :=
  .start (.log ⟨tenantId, none, "read", "document", none, .object []⟩ "1") ::
    List.replicate 6 (.run 0 {})

theorem ended_sample (tenantId : String)
    (ended : ((machine sampleSettings).run (newPool Empty 0) (sampleEvents tenantId)).calls.all
      (fun call => call.program.outcome? = some (.ok (some "1"))) = true) :
    ∀ call ∈ ((machine sampleSettings).run (newPool Empty 0) (sampleEvents tenantId)).calls,
      call.program.outcome? = some (.ok (some "1")) := by
  intro call member
  exact of_decide_eq_true (List.all_eq_true.mp ended call member)

/-- A single log of the tenant does not verify. -/
theorem logged_tenant_fails :
    ¬ ∀ (events : List (Event Circumstance Nat (AuditCall Empty))) (tenantId : String),
      (∀ call ∈ ((machine sampleSettings).run (newPool Empty 0) events).calls,
        call.program.outcome? ≠ none) →
      Verifies (integrity sampleSettings (fun _ => {}) (flushed sampleSettings (fun _ => {})
        ((machine sampleSettings).run (newPool Empty 0) events).shared) tenantId) := by
  intro verifies
  have facts := @accounted_run _ sampleSettings 0 (sampleEvents "t")
  have ended := ended_sample "t" (by decide +kernel)
  have rest : ∀ call ∈ ((machine sampleSettings).run (newPool Empty 0) (sampleEvents "t")).calls,
      call.program.outcome? ≠ none := fun call member => by
    rw [ended call member]
    exact Option.some_ne_none _
  have silent := (verifies_iff (fun _ => rfl) (fun _ => rfl) Buffer.framed_injective numerals_empty
    facts.1 facts.2 rest "t").mp (verifies (sampleEvents "t") "t" rest)
  exact silent _ (List.mem_singleton_self _) rfl (some "1")
    (ended _ (List.mem_singleton_self _))

/-- Another tenant's log leaves a tenant without logs, which verifies. -/
theorem silent_tenant_verifies :
    Verifies (integrity sampleSettings (fun _ => {}) (flushed sampleSettings (fun _ => {})
      ((machine sampleSettings).run (newPool Empty 0) (sampleEvents "u")).shared) "t") := by
  refine (integrity_verifies_iff sampleSettings Buffer.framed_injective numerals_empty 0
    (sampleEvents "u") ?_ (fun _ => {}) (fun _ => {}) (fun _ => rfl) (fun _ => rfl) "t").mpr ?_
  · intro call member
    rw [ended_sample "u" (by decide +kernel) call member]
    exact Option.some_ne_none _
  · intro call member own
    rw [List.mem_singleton.mp member] at own
    exact absurd own (by decide)

end Sample

end Caas.Compliance.AuditService
