import Caas.Js.Buffer
import Caas.Js.Date
import Caas.Js.Json
import Caas.Js.Value
import Caas.Machine.LinkedRecords

/-!
# The hash chain of the audit log

`calculateHash` hashes the text of an object literal with `sha256`; two fields of an
entry, `metadata` and `created_at`, are not in it. `verifyChain` reports an intact list
of entries as valid, and no other.
-/

namespace Caas.Audit

open Js

inductive AuditResult where
  | success
  | failure
deriving DecidableEq

def AuditResult.text : AuditResult → String
  | .success => "success"
  | .failure => "failure"

structure Actor where
  userId : Option String
  ipAddress : String
  userAgent : String
  sessionId : Option String
deriving DecidableEq

structure Target where
  type : String
  id : String
deriving DecidableEq

structure AuditEvent where
  eventType : String
  actor : Actor
  target : Target
  action : String
  result : AuditResult
  metadata : Js.Record
  timestamp : Js.Date
deriving DecidableEq

structure AuditEntry extends AuditEvent where
  auditId : String
  tenantId : String
  hash : String
  previousHash : Option String
  createdAt : Js.Date
deriving DecidableEq

namespace HashChain

/-- There are no numbers in what is hashed. -/
def noDigits : Empty → List Char := Empty.elim

theorem numerals_noDigits : Json.Numerals noDigits where
  injective := fun value => value.elim
  nonempty := fun value => value.elim
  numeral := fun value => value.elim

def actorDocument (actor : Actor) : Json Empty :=
  .literal [("user_id", actor.userId.map .string), ("ip_address", some (.string actor.ipAddress)),
    ("user_agent", some (.string actor.userAgent)), ("session_id", actor.sessionId.map .string)]

def targetDocument (target : Target) : Json Empty :=
  .literal [("type", some (.string target.type)), ("id", some (.string target.id))]

/-- The object literal that is hashed; `timestamp` is the text of the entry's timestamp. -/
def document (entry : AuditEntry) (timestamp : String) : Json Empty :=
  .object [("audit_id", .string entry.auditId), ("tenant_id", .string entry.tenantId),
    ("event_type", .string entry.eventType), ("actor", actorDocument entry.actor),
    ("target", targetDocument entry.target), ("action", .string entry.action),
    ("result", .string entry.result.text), ("timestamp", .string timestamp),
    ("previous_hash", .string (entry.previousHash.getD ""))]

variable (sha256 : Buffer → Buffer)

def calculateHash (entry : AuditEntry) : Except String String := do
  let timestamp ← entry.timestamp.toISOString
  return Buffer.hexDigest sha256 ((document entry timestamp).stringify noDigits)

/-- What `verifyChain` returns. -/
structure Verification where
  valid : Bool
  brokenAt : Option Nat
  error : Option String
deriving DecidableEq

/-- The loop of `verifyChain` from index `i` on, after the entry `previous`. -/
def verifyFrom (previous : Option AuditEntry) (i : Nat) :
    List AuditEntry → Except String Verification
  | [] => .ok { valid := true, brokenAt := none, error := none }
  | entry :: rest => do
    let calculatedHash ← calculateHash sha256 entry
    if calculatedHash ≠ entry.hash then
      return { valid := false, brokenAt := some i
               error := some ("Hash mismatch at entry " ++ toString i) }
    else if previous.any fun previousEntry => entry.previousHash ≠ some previousEntry.hash then
      return { valid := false, brokenAt := some i
               error := some ("Chain broken at entry " ++ toString i) }
    else verifyFrom (some entry) (i + 1) rest

def verifyChain (entries : List AuditEntry) : Except String Verification :=
  if entries.length = 0 then .ok { valid := true, brokenAt := none, error := none }
  else verifyFrom sha256 none 0 entries

def sealing : Sealing AuditEntry String where
  digest entry := (calculateHash sha256 entry).toOption
  stamp entry := entry.hash
  previous entry := entry.previousHash

variable {sha256}

/-- What the hash of an entry says about it: every field but `metadata` and `createdAt`. -/
structure SameHashed (entry other : AuditEntry) : Prop where
  auditId : entry.auditId = other.auditId
  tenantId : entry.tenantId = other.tenantId
  eventType : entry.eventType = other.eventType
  actor : entry.actor = other.actor
  target : entry.target = other.target
  action : entry.action = other.action
  result : entry.result = other.result
  timestamp : entry.timestamp = other.timestamp
  previousHash : entry.previousHash.getD "" = other.previousHash.getD ""

theorem actorDocument_injective : Function.Injective actorDocument := by
  rintro ⟨userId, ip, agent, sessionId⟩ ⟨userId', ip', agent', sessionId'⟩ equal
  cases userId <;> cases userId' <;> cases sessionId <;> cases sessionId' <;>
    simp_all [actorDocument, Json.literal]

theorem targetDocument_injective : Function.Injective targetDocument := by
  rintro ⟨type, id⟩ ⟨type', id'⟩ equal
  simp_all [targetDocument, Json.literal]

theorem text_injective : Function.Injective AuditResult.text := by
  intro result result' equal
  cases result <;> cases result' <;> simp_all [AuditResult.text]

theorem calculateHash_eq_ok {entry : AuditEntry} {hash : String} :
    calculateHash sha256 entry = .ok hash ↔ ∃ timestamp,
      entry.timestamp.toISOString = .ok timestamp ∧
        Buffer.hexDigest sha256 ((document entry timestamp).stringify noDigits) = hash := by
  unfold calculateHash
  cases entry.timestamp.toISOString with
  | error message => simp [bind, Except.bind]
  | ok timestamp => simp [bind, Except.bind, pure, Except.pure]

theorem sameHashed_of_calculateHash (injective : Function.Injective sha256)
    {entry other : AuditEntry} {hash : String} (first : calculateHash sha256 entry = .ok hash)
    (second : calculateHash sha256 other = .ok hash) : SameHashed entry other := by
  obtain ⟨timestamp, written, hashed⟩ := calculateHash_eq_ok.mp first
  obtain ⟨timestamp', written', hashed'⟩ := calculateHash_eq_ok.mp second
  have documents := Json.stringify_injective numerals_noDigits
    (Buffer.hexDigest_injective injective (hashed.trans hashed'.symm))
  simp only [document, Json.object.injEq, List.cons.injEq, Prod.mk.injEq, Json.string.injEq,
    true_and, and_true] at documents
  obtain ⟨auditId, tenantId, eventType, actor, target, action, result, same, previousHash⟩ :=
    documents
  subst same
  exact { auditId, tenantId, eventType, action, previousHash
          actor := actorDocument_injective actor
          target := targetDocument_injective target
          result := text_injective result
          timestamp := Js.Date.toISOString_inj written written' }

theorem genuine_iff {entry : AuditEntry} :
    (sealing sha256).Genuine entry ↔ calculateHash sha256 entry = .ok entry.hash := by
  change (calculateHash sha256 entry).toOption = some entry.hash ↔ _
  cases calculateHash sha256 entry <;> simp [Except.toOption]

theorem calculateHash_of_dated {entry : AuditEntry} (dated : entry.timestamp ≠ none) :
    ∃ hash, calculateHash sha256 entry = .ok hash := by
  obtain ⟨time, valid⟩ := Option.ne_none_iff_exists'.mp dated
  exact ⟨_, calculateHash_eq_ok.mpr ⟨_, by rw [valid]; rfl, rfl⟩⟩

/-- The loop of `verifyChain` finds the list valid exactly when it goes on intact. -/
theorem verifyFrom_spec (previous : Option AuditEntry) (i : Nat) {entries : List AuditEntry}
    (dated : ∀ entry ∈ entries, entry.timestamp ≠ none) :
    ∃ verification, verifyFrom sha256 previous i entries = .ok verification ∧
      (verification.valid = true ↔ (∀ entry ∈ entries, (sealing sha256).Genuine entry) ∧
        (previous.toList ++ entries).IsChain (sealing sha256).Follows) := by
  induction entries generalizing previous i with
  | nil =>
    refine ⟨_, rfl, ?_⟩
    cases previous <;> simp
  | cons entry rest ih =>
    obtain ⟨hash, calculated⟩ :=
      @calculateHash_of_dated sha256 entry (dated entry List.mem_cons_self)
    have linked : (previous.toList ++ entry :: rest).IsChain (sealing sha256).Follows ↔
        (∀ before ∈ previous, (sealing sha256).Follows before entry) ∧
          (entry :: rest).IsChain (sealing sha256).Follows := by
      cases previous <;> simp [List.isChain_cons_cons]
    obtain ⟨verification, continued, valid⟩ := ih (some entry) (i + 1)
      fun other member => dated other (List.mem_cons_of_mem _ member)
    rw [Option.toList_some, List.singleton_append] at valid
    have broken : (previous.any fun before => entry.previousHash ≠ some before.hash) = true ↔
        ¬ ∀ before ∈ previous, (sealing sha256).Follows before entry := by
      cases previous <;> simp [Sealing.Follows, sealing]
    have genuine : (sealing sha256).Genuine entry ↔ hash = entry.hash := by
      rw [genuine_iff, calculated, Except.ok.injEq]
    simp only [verifyFrom, calculated, bind, Except.bind]
    rw [linked]
    by_cases right : hash = entry.hash
    · rw [if_neg (not_not.mpr right)]
      by_cases link : ∀ before ∈ previous, (sealing sha256).Follows before entry
      · rw [if_neg (not_not.mpr link ∘ broken.mp), continued]
        refine ⟨verification, rfl, ?_⟩
        rw [valid, List.forall_mem_cons, genuine]
        exact ⟨fun later => ⟨⟨right, later.1⟩, link, later.2⟩,
          fun whole => ⟨whole.1.2, whole.2.2⟩⟩
      · rw [if_pos (broken.mpr link)]
        exact ⟨_, rfl, iff_of_false Bool.false_ne_true fun whole => link whole.2.1⟩
    · rw [if_pos right]
      exact ⟨_, rfl, by simp [genuine, right]⟩

variable (sha256) in
/-- `verifyChain` reports exactly the intact lists as valid. -/
theorem verifyChain_spec {entries : List AuditEntry}
    (dated : ∀ entry ∈ entries, entry.timestamp ≠ none) :
    ∃ verification, verifyChain sha256 entries = .ok verification ∧
      (verification.valid = true ↔ (sealing sha256).Intact entries) := by
  unfold verifyChain
  by_cases nothing : entries.length = 0
  · rw [if_pos nothing, List.length_eq_zero_iff.mp nothing]
    exact ⟨_, rfl, by simp [Sealing.intact_nil]⟩
  · rw [if_neg nothing]
    exact verifyFrom_spec none 0 dated

end HashChain

end Caas.Audit
