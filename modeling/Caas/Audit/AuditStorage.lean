import Caas.Audit.HashChain
import Caas.Machine.Transducer

/-!
# Audit storage

`store` links every entry to the one stored before it, of whichever tenant, while
`verifyIntegrity` checks the links of one tenant's entries only. A tenant's entries
verify exactly when no other tenant's entry stands between two of them.

A call brings the bytes and the clock reading it draws.
-/

namespace Caas.Audit

open Js HashChain

structure AuditStorage where
  entries : OrderedMap String AuditEntry
  lastHash : Option String

/-- A call of `store`, with its `randomBytes(16)` and its `new Date()`. -/
structure StoreCall where
  event : AuditEvent
  tenantId : String
  bytes : Buffer
  now : Int

namespace AuditStorage

def new : AuditStorage := ⟨.empty, none⟩

def unhashed (storage : AuditStorage) (call : StoreCall) : AuditEntry :=
  { call.event with
    auditId := Buffer.toHex call.bytes
    tenantId := call.tenantId
    previousHash := storage.lastHash
    createdAt := some call.now
    hash := "" }

variable (sha256 : Buffer → Buffer)

def store (storage : AuditStorage) (call : StoreCall) : AuditStorage × Except String AuditEntry :=
  match calculateHash sha256 (storage.unhashed call) with
  | .ok hash =>
    let auditEntry := { storage.unhashed call with hash }
    ({ entries := storage.entries.set auditEntry.auditId auditEntry, lastHash := some hash },
      .ok auditEntry)
  | .error message => (storage, .error message)

/-- The comparator of `verifyIntegrity` does not put the second entry first. -/
def byCreation (entry other : AuditEntry) : Bool :=
  match entry.createdAt, other.createdAt with
  | some time, some time' => time ≤ time'
  | _, _ => true

def verifyIntegrity (storage : AuditStorage) (tenantId : String) : Except String Bool := do
  let entries := (storage.entries.values.filter fun entry => entry.tenantId = tenantId).mergeSort
    byCreation
  let result ← verifyChain sha256 entries
  return result.valid

/-- Calls of `store`, one after the other: nothing in one of them waits. -/
def machine : Transducer AuditStorage StoreCall (Except String AuditEntry) where
  step := store sha256

/-- The calls that store an entry: hashing an entry with an invalid timestamp throws. -/
def stored (calls : List StoreCall) : List StoreCall :=
  calls.filter fun call => call.event.timestamp ≠ none

/-- A storage holds the entries of these calls, linked in their order. -/
structure Recorded (storage : AuditStorage) (calls : List StoreCall) : Prop where
  keys : storage.entries.entries.map Prod.fst = calls.map fun call => Buffer.toHex call.bytes
  ids : storage.entries.values.map (·.auditId) = calls.map fun call => Buffer.toHex call.bytes
  tenants : storage.entries.values.map (·.tenantId) = calls.map (·.tenantId)
  times : storage.entries.values.map (·.createdAt) = calls.map fun call => some call.now
  intact : (sealing sha256).Intact storage.entries.values
  dated : ∀ entry ∈ storage.entries.values, entry.timestamp ≠ none
  rooted : ∀ entry ∈ storage.entries.values.head?, entry.previousHash = none
  last : storage.lastHash = storage.entries.values.getLast?.map (·.hash)

variable {sha256}

theorem recorded_new : Recorded sha256 new [] where
  keys := rfl
  ids := rfl
  tenants := rfl
  times := rfl
  intact := Sealing.intact_nil
  dated := fun _ absent => absurd absent List.not_mem_nil
  rooted := fun _ absent => nomatch absent
  last := rfl

/-- Storing an entry under a fresh id links it to the entries before. -/
theorem Recorded.store {storage : AuditStorage} {calls : List StoreCall}
    (recorded : Recorded sha256 storage calls) {call : StoreCall}
    (dated : call.event.timestamp ≠ none) (fresh : call.bytes ∉ calls.map (·.bytes)) :
    Recorded sha256 (storage.store sha256 call).1 (calls ++ [call]) := by
  obtain ⟨hash, calculated⟩ :=
    @calculateHash_of_dated sha256 (storage.unhashed call) dated
  have absent : Buffer.toHex call.bytes ∉ storage.entries.entries.map Prod.fst := by
    rw [recorded.keys]
    intro member
    obtain ⟨other, listed, same⟩ := List.mem_map.mp member
    exact fresh (List.mem_map.mpr ⟨other, listed, Buffer.toHex_injective same⟩)
  obtain ⟨entry, entryEq⟩ : ∃ entry, entry = { storage.unhashed call with hash } := ⟨_, rfl⟩
  have after : (storage.store sha256 call).1 =
      { entries := storage.entries.set (Buffer.toHex call.bytes) entry
        lastHash := some hash } := by
    rw [AuditStorage.store, calculated, entryEq]
    rfl
  have entries := OrderedMap.entries_set_of_absent entry absent
  have values : (storage.entries.set (Buffer.toHex call.bytes) entry).values =
      storage.entries.values ++ [entry] := by
    simp [OrderedMap.values, entries]
  have genuine : (sealing sha256).Genuine entry := by
    rw [genuine_iff, entryEq]
    exact calculated
  rw [after]
  refine ⟨?_, ?_, ?_, ?_, ?_, ?_, ?_, ?_⟩ <;> simp only [values]
  · simp [entries, recorded.keys]
  · simp [recorded.ids, entryEq, unhashed]
  · simp [recorded.tenants, entryEq, unhashed]
  · simp [recorded.times, entryEq, unhashed]
  · refine Sealing.intact_append_singleton.mpr ⟨recorded.intact, genuine, ?_⟩
    intro last final
    change entry.previousHash = some last.hash
    simp only [entryEq, unhashed, recorded.last, Option.mem_def.mp final, Option.map_some]
  · intro other member
    rcases List.mem_append.mp member with member | member
    · exact recorded.dated other member
    · rw [List.mem_singleton.mp member, entryEq]
      exact dated
  · intro first leading
    cases earlier : storage.entries.values with
    | nil =>
      rw [earlier, List.nil_append, List.head?_cons, Option.mem_some_iff] at leading
      simp [← leading, entryEq, unhashed, recorded.last, earlier]
    | cons other rest =>
      rw [earlier] at leading
      exact recorded.rooted first (by simpa [earlier] using leading)
  · simp [entryEq]

theorem store_of_undated {storage : AuditStorage} {call : StoreCall}
    (undated : call.event.timestamp = none) : (storage.store sha256 call).1 = storage := by
  have thrown : calculateHash sha256 (storage.unhashed call) =
    .error "RangeError: Invalid time value" := by
    simp [calculateHash, unhashed, undated, Js.Date.toISOString, bind, Except.bind]
  rw [store, thrown]

variable (sha256) in
/-- What a run with fresh ids leaves in the storage. -/
theorem recorded_run {calls : List StoreCall} (fresh : (calls.map (·.bytes)).Nodup) :
    Recorded sha256 ((machine sha256).run new calls) (stored calls) := by
  induction calls using List.reverseRecOn with
  | nil => exact recorded_new
  | append_singleton calls call ih =>
    rw [List.map_append, List.nodup_append] at fresh
    have recorded := ih fresh.1
    rw [Transducer.run_append, Transducer.run_cons, Transducer.run_nil]
    unfold stored
    rw [List.filter_append]
    by_cases dated : call.event.timestamp = none
    · rw [List.filter_cons_of_neg (by simp [dated]), List.filter_nil, List.append_nil]
      change Recorded sha256 (AuditStorage.store sha256 _ call).1 _
      rw [store_of_undated dated]
      exact recorded
    · rw [List.filter_cons_of_pos (by simp [dated]), List.filter_nil]
      refine recorded.store dated fun member => ?_
      obtain ⟨other, listed, same⟩ := List.mem_map.mp member
      exact fresh.2.2 _ (List.mem_map_of_mem (List.mem_of_mem_filter listed)) _
        (by simp) same

end AuditStorage

end Caas.Audit

/-!
## The chain of one tenant

`verifyIntegrity` sorts the entries of a tenant by their creation, which is the order they
were stored in, and checks the links between them. The entry of another tenant in between
carries the link away.
-/

namespace Caas.Audit

open Js HashChain

namespace AuditStorage

variable {sha256 : Buffer → Buffer} {storage : AuditStorage} {calls : List StoreCall}

theorem Recorded.sorted (recorded : Recorded sha256 storage calls)
    (clock : calls.Pairwise fun call later => call.now ≤ later.now) (tenantId : String) :
    (storage.entries.values.filter fun entry => entry.tenantId = tenantId).mergeSort byCreation =
      storage.entries.values.filter fun entry => entry.tenantId = tenantId := by
  have ordered : storage.entries.values.Pairwise fun entry later =>
    byCreation entry later = true := by
    have times : (storage.entries.values.map (·.createdAt)).Pairwise fun time later =>
        ∀ value ∈ time, ∀ value' ∈ later, value ≤ value' := by
      rw [recorded.times, List.pairwise_map]
      refine clock.imp fun inOrder value here value' here' => ?_
      rw [← Option.some.inj here, ← Option.some.inj here']
      exact inOrder
    refine (List.pairwise_map.mp times).imp fun {entry later} inOrder => ?_
    unfold byCreation
    split
    · rename_i time time' here here'
      exact decide_eq_true (inOrder time here time' here')
    · rfl
  exact List.mergeSort_of_pairwise (ordered.filter _)

theorem Recorded.apart (recorded : Recorded sha256 storage calls)
    (injective : Function.Injective sha256) {entry other : AuditEntry}
    (member : entry ∈ storage.entries.values) (member' : other ∈ storage.entries.values)
    (different : entry.tenantId ≠ other.tenantId) : entry.hash ≠ other.hash := by
  intro same
  have first := genuine_iff.mp (recorded.intact.genuine member)
  have second := genuine_iff.mp (recorded.intact.genuine member')
  rw [same] at first
  exact different (sameHashed_of_calculateHash injective first second).tenantId

theorem Recorded.verifyIntegrity_iff (recorded : Recorded sha256 storage calls)
    (injective : Function.Injective sha256)
    (clock : calls.Pairwise fun call later => call.now ≤ later.now) (tenantId : String) :
    storage.verifyIntegrity sha256 tenantId = .ok true ↔
      Sealing.OneBlock (fun tenant => decide (tenant = tenantId)) (calls.map (·.tenantId)) := by
  have dated : ∀ entry ∈ storage.entries.values.filter fun entry => entry.tenantId = tenantId,
      entry.timestamp ≠ none := fun entry member =>
    recorded.dated entry (List.mem_of_mem_filter member)
  obtain ⟨verification, verified, valid⟩ := verifyChain_spec sha256 dated
  have answer : storage.verifyIntegrity sha256 tenantId = .ok verification.valid := by
    rw [verifyIntegrity, recorded.sorted clock, verified]
    rfl
  have genuine : ∀ entry ∈ storage.entries.values.filter fun entry => entry.tenantId = tenantId,
      (sealing sha256).Genuine entry := fun entry member =>
    recorded.intact.genuine (List.mem_of_mem_filter member)
  rw [answer, Except.ok.injEq, valid, ← recorded.tenants, Sealing.oneBlock_map]
  rw [← Sealing.isChain_filter_iff recorded.intact.2 fun entry member other member' own foreign =>
    recorded.apart injective member member' ?_]
  · exact and_iff_right genuine
  · rw [of_decide_eq_true own]
    exact Ne.symm (of_decide_eq_false foreign)

/-- After any calls of `store`, under a clock that does not run backwards and with ids
that do not repeat, the chain of a tenant verifies exactly when no other tenant's entry
was stored between two of its own. -/
theorem verifyIntegrity_iff_oneBlock (injective : Function.Injective sha256)
    (clock : calls.Pairwise fun call later => call.now ≤ later.now)
    (fresh : (calls.map (·.bytes)).Nodup) (tenantId : String) :
    ((machine sha256).run new calls).verifyIntegrity sha256 tenantId = .ok true ↔
      Sealing.OneBlock (fun tenant => decide (tenant = tenantId))
        ((stored calls).map (·.tenantId)) :=
  (recorded_run sha256 fresh).verifyIntegrity_iff injective (clock.filter _) tenantId

/-- An entry of the tenant `tenantId`, stored at `now` under the id `id`. -/
def sampleCall (tenantId : String) (id : Fin 256) (now : Int) : StoreCall where
  event := { eventType := "data.read", actor := ⟨some "u", "10.0.0.1", "curl", none⟩
             target := ⟨"document", "d"⟩, action := "read", result := .success
             metadata := .empty, timestamp := some now }
  tenantId
  bytes := [id]
  now

/-- Two entries of one tenant around an entry of another. -/
theorem chain_of_first_tenant_broken :
    ¬ ∀ calls : List StoreCall, calls.Pairwise (fun call later => call.now ≤ later.now) →
      (calls.map (·.bytes)).Nodup → ∀ tenantId,
        ((machine Buffer.framed).run new calls).verifyIntegrity Buffer.framed tenantId =
        .ok true := by
  intro verifies
  have recorded := @recorded_run Buffer.framed
    [sampleCall "a" 1 1, sampleCall "b" 2 2, sampleCall "a" 3 3] (by decide)
  have broken := recorded.verifyIntegrity_iff Buffer.framed_injective (by decide) "a"
  exact absurd (broken.mp (verifies _ (by decide) (by decide) "a")) (by decide)

/-- Two tenants whose entries do not mix. -/
theorem chain_of_first_tenant_whole : ((machine Buffer.framed).run new
      [sampleCall "a" 1 1, sampleCall "a" 2 2, sampleCall "b" 3 2]).verifyIntegrity
      Buffer.framed "a" = .ok true :=
  (verifyIntegrity_iff_oneBlock Buffer.framed_injective (by decide) (by decide) "a").mpr (by decide)

end AuditStorage

end Caas.Audit
