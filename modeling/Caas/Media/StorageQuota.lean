import Caas.Media.UploadPhases

/-!
# The storage quota of a tenant

An upload stores its file in one step and counts it in a later one. What the record of a tenant
says is used, together with what uploads still owe it, grows by what is stored. Neither does a
chunked upload look at the record nor is its file counted, and a check that comes before the file
has been read, or before another file is stored, does not bound what is stored.
-/

namespace Caas.Media

open Js Async Redis UploadRoutes UploadServer OrderedMap

def UploadServer.filesSize (server : UploadServer) (tenantId : String) : Nat :=
  ((server.media.filter fun file => file.tenantId = tenantId).map (·.size)).sum

/-- The step does not take the files of the tenant beyond the limit. -/
def Within (settings : UploadSettings) (tenantId : String) (limit : Nat) (pool : UploadPool)
    (event : UploadEvent) : Prop :=
  let after := ((machine settings).step pool event).1.shared.filesSize tenantId
  after ≤ limit ∨ after ≤ pool.shared.filesSize tenantId

/-- The request is an upload in which the check has counted the file, and all that is stored. -/
def Covered (stored : Nat) (file : MediaFile) (call : UploadCall) : Prop :=
  ∃ caller uploaded fileId quota, call.input = .upload caller (some uploaded) fileId ∧
    call.phase = .admitted quota ∧
      stored + file.size ≤ (quota.elim 0 (·.storageUsed)) + uploaded.bytesRead

/-- A file of the tenant is stored by an upload whose check has covered it, and counting it does
not fail; files without content are free. -/
def Counted (tenantId : String) (pool : UploadPool) : UploadEvent → Prop
  | .run index fault => ∀ call command, pool.awaited? index = some (call, command) →
    match command with
    | .insertFile file => fault = none → pool.shared.hasFile file.tenantId file.id = false →
      file.tenantId = tenantId → 0 < file.size →
        Covered (pool.shared.filesSize tenantId) file call
    | .incQuota owner size => owner = tenantId → 0 < size → fault = none
    | _ => True
  | .start _ | .change _ => True

/-- Every request has been answered. -/
def AtRest (pool : UploadPool) : Prop :=
  ∀ call ∈ pool.calls, call.program.outcome?.isSome = true

instance decidableAtRest (pool : UploadPool) : Decidable (AtRest pool) :=
  List.decidableBAll _ pool.calls

instance decidableWithin (settings : UploadSettings) (tenantId : String) (limit : Nat)
    (pool : UploadPool) (event : UploadEvent) :
    Decidable (Within settings tenantId limit pool event) :=
  inferInstanceAs (Decidable (_ ∨ _))

section Accounting

/-- What the record of a tenant says is used. -/
def UploadServer.used (server : UploadServer) (tenantId : String) : Nat :=
  (get server.quotas tenantId).elim 0 (·.storageUsed)

/-- What an upload has stored for the tenant and not counted. -/
def owed (tenantId : String) : UploadRequest → Phase → Nat
  | .upload caller (some file) _, .owing =>
    if caller.tenantId = tenantId then file.content.length else 0
  | _, _ => 0

variable {settings : UploadSettings} {request : UploadRequest} {phase : Phase}
  {command : UploadCommand} {tenantId : String}

theorem owed_of_ne (other : phase ≠ .owing) : owed tenantId request phase = 0 := by
  unfold owed
  split
  · exact absurd rfl other
  · rfl

theorem owed_error (command : UploadCommand) (error : String) :
    owed tenantId request (nextPhase request phase command (.error error)) = 0 :=
  owed_of_ne (nextPhase_error_ne_owing request phase command error)

variable (server : UploadServer)

theorem filesSize_append (file : MediaFile) :
    { server with media := server.media ++ [file] }.filesSize tenantId =
      server.filesSize tenantId + if file.tenantId = tenantId then file.size else 0 := by
  simp only [UploadServer.filesSize, List.filter_append, List.map_append, List.sum_append]
  by_cases own : file.tenantId = tenantId <;> simp [own]

theorem used_increased (owner : String) (size : Nat) :
    (server.answer (.incQuota owner size)).1.used tenantId =
      server.used tenantId + if owner = tenantId then size else 0 := by
  simp only [UploadServer.used, UploadServer.answer, get_set]
  by_cases own : owner = tenantId
  · subst own
    simp only [if_true]
    cases get server.quotas owner with
    | none => exact (Nat.zero_add size).symm
    | some quota => rfl
  · simp only [if_neg own]
    rfl

theorem owes_incQuota (awaits : Awaits settings request .owing command) :
    ∃ caller file fileId, request = .upload caller (some file) fileId ∧
      command = .incQuota caller.tenantId file.content.length := by
  cases awaits with
  | incQuota caller file fileId => exact ⟨caller, file, fileId, rfl, rfl⟩
  | requestFile before | setProgress _ _ before | publish _ _ before =>
    rcases before with before | ⟨_, before⟩ <;> cases before
  | readStream before => rcases before with ⟨_, before⟩ | ⟨_, before⟩ <;> cases before

/-- The command leaves files and quotas as they are. -/
def leavesAlone : UploadCommand → Bool
  | .insertFile _ | .incQuota _ _ => false
  | _ => true

theorem answer_of_leavesAlone (alone : leavesAlone command = true) :
    (server.answer command).1.media = server.media ∧
      (server.answer command).1.quotas = server.quotas := by
  cases command <;> first | exact ⟨rfl, rfl⟩ | cases alone

theorem calm_of_leavesAlone (awaits : Awaits settings request phase command)
    (alone : leavesAlone command = true) : phase ≠ .owing := by
  rintro rfl
  obtain ⟨_, _, _, _, rfl⟩ := owes_incQuota awaits
  cases alone

theorem succeeded_ne_owing (calm : phase ≠ .owing) (alone : leavesAlone command = true)
    (result : command.Result) : succeeded request phase command result ≠ .owing := by
  unfold succeeded
  split
  · exact opened_ne_owing request _
  · nofun
  · exact checked_ne_owing request _
  · nofun
  · nofun
  · nofun
  · nofun
  · cases alone
  · nofun
  · exact calm

/-- What is used and what is owed has grown by what is stored. -/
def Balances (tenantId : String) (server after : UploadServer) (owing owing' : Nat) : Prop :=
  after.used tenantId + owing' + server.filesSize tenantId =
    server.used tenantId + owing + after.filesSize tenantId

/-- A file is stored by an upload, or is without content. -/
def StoredByUpload (tenantId : String) (request : UploadRequest) (server : UploadServer)
    (fault : Option String) : UploadCommand → Prop
  | .insertFile file => fault = none → server.hasFile file.tenantId file.id = false →
    file.tenantId = tenantId → 0 < file.size →
      ∃ caller uploaded fileId, request = .upload caller uploaded fileId
  | .incQuota owner size => owner = tenantId → 0 < size → fault = none
  | _ => True

theorem balances_of_fault (awaits : Awaits settings request phase command) (server : UploadServer)
    (error : String) (stored : StoredByUpload tenantId request server (some error) command) :
    Balances tenantId server server (owed tenantId request phase)
      (owed tenantId request (nextPhase request phase command (.error error))) := by
  have nothing : owed tenantId request phase = 0 := by
    by_cases owes : phase = .owing
    · subst owes
      obtain ⟨caller, file, fileId, rfl, rfl⟩ := owes_incQuota awaits
      by_cases own : caller.tenantId = tenantId
      · by_cases content : 0 < file.content.length
        · cases stored own content
        · simp only [owed, if_pos own]
          omega
      · exact if_neg own
    · exact owed_of_ne owes
  rw [Balances, nothing, owed_error]

theorem balances_insert (file : MediaFile) {after : Phase} (calm : owed tenantId request phase = 0)
    (moved : succeeded request phase (.insertFile file) () = after)
    (owes : server.hasFile file.tenantId file.id = false →
      owed tenantId request after = if file.tenantId = tenantId then file.size else 0) :
    Balances tenantId server (server.answer (.insertFile file)).1 (owed tenantId request phase)
      (owed tenantId request
        (nextPhase request phase (.insertFile file) (server.answer (.insertFile file)).2)) := by
  subst moved
  by_cases taken : server.hasFile file.tenantId file.id = true
  · simp only [UploadServer.answer, if_pos taken]
    rw [Balances, calm, owed_error]
  · simp only [UploadServer.answer, if_neg taken]
    have next : nextPhase request phase (.insertFile file) (.ok ()) =
        succeeded request phase (.insertFile file) () := rfl
    rw [Balances, calm, next, owes (Bool.eq_false_of_not_eq_true taken), filesSize_append]
    have used : { server with media := server.media ++ [file] }.used tenantId =
      server.used tenantId := rfl
    omega

theorem balances_of_leavesAlone (awaits : Awaits settings request phase command)
    (server : UploadServer) (alone : leavesAlone command = true) :
    Balances tenantId server (server.answer command).1 (owed tenantId request phase)
      (owed tenantId request (nextPhase request phase command (server.answer command).2)) := by
  obtain ⟨media, quotas⟩ := answer_of_leavesAlone server alone
  have calm := calm_of_leavesAlone awaits alone
  have still : nextPhase request phase command (server.answer command).2 ≠ .owing := by
    cases (server.answer command).2 with
    | error error => exact nextPhase_error_ne_owing request phase command error
    | ok result => exact succeeded_ne_owing calm alone result
  rw [Balances, owed_of_ne calm, owed_of_ne still]
  simp [UploadServer.used, UploadServer.filesSize, media, quotas]

theorem balances_answer (awaits : Awaits settings request phase command) (server : UploadServer)
    (stored : StoredByUpload tenantId request server none command) :
    Balances tenantId server (server.answer command).1 (owed tenantId request phase)
      (owed tenantId request (nextPhase request phase command (server.answer command).2)) := by
  cases alone : leavesAlone command with
  | true => exact balances_of_leavesAlone awaits server alone
  | false =>
    cases awaits with
    | insert caller uploadId session valid filename mimetype content =>
      refine balances_insert server _ rfl rfl fun new => ?_
      split
      · rename_i own
        by_contra content
        obtain ⟨_, _, _, ⟨⟩⟩ := stored rfl new own (Nat.pos_of_ne_zero (Ne.symm content))
      · rfl
    | insertUpload caller file fileId quota =>
      exact balances_insert server _ rfl rfl fun _ => rfl
    | incQuota caller file fileId =>
      rw [Balances, used_increased]
      have files : (server.answer (.incQuota caller.tenantId file.content.length)).1.filesSize
        tenantId = server.filesSize tenantId := rfl
      have settled : owed tenantId (.upload caller (some file) fileId)
          (nextPhase (.upload caller (some file) fileId) .owing
            (.incQuota caller.tenantId file.content.length)
            (server.answer (.incQuota caller.tenantId file.content.length)).2) = 0 := rfl
      have owes : owed tenantId (.upload caller (some file) fileId) .owing =
        if caller.tenantId = tenantId then file.content.length else 0 := rfl
      omega
    | _ => cases alone

theorem balances_exec (awaits : Awaits settings request phase command) (server : UploadServer)
    (fault : Option String) (stored : StoredByUpload tenantId request server fault command) :
    Balances tenantId server (server.exec command fault).1 (owed tenantId request phase)
      (owed tenantId request (nextPhase request phase command (server.exec command fault).2)) := by
  cases fault with
  | none => exact balances_answer awaits server stored
  | some error => exact balances_of_fault awaits server error stored

end Accounting

section Checks

variable {settings : UploadSettings} {request : UploadRequest} {phase : Phase}
  {command : UploadCommand} {tenantId : String} {limit : Option Nat}

def Limited (tenantId : String) (limit : Option Nat) (server : UploadServer) : Prop :=
  ∃ quota, get server.quotas tenantId = some quota ∧ quota.storageLimit = limit

/-- An upload of the tenant goes on with a record of this limit, which has room. -/
def Checked (tenantId : String) (limit : Option Nat) : UploadRequest → Phase → Prop
  | .upload caller (some file) _, .admitted read => caller.tenantId = tenantId →
    ∃ quota, read = some quota ∧ quota.storageLimit = limit ∧ exceeds read file.bytesRead = false
  | _, _ => True

theorem checked_of_ne (other : ∀ read, phase ≠ .admitted read) :
    Checked tenantId limit request phase := by
  unfold Checked
  split
  · exact absurd rfl (other _)
  · trivial

theorem opened_ne_admitted (request : UploadRequest) (found : Option (Option UploadSession))
    (read : Option Quota) : opened request found ≠ .admitted read := by
  rcases opened_cases request found with ⟨_, same⟩ | ⟨_, same⟩ | same <;> rw [same] <;> nofun

variable {server : UploadServer}

theorem checked_answer (awaits : Awaits settings request phase command)
    (limited : Limited tenantId limit server) (checked : Checked tenantId limit request phase) :
    Checked tenantId limit request (nextPhase request phase command (server.answer command).2) := by
  cases awaits with
  | findQuota caller file fileId =>
    cases file with
    | none => trivial
    | some file =>
      change Checked tenantId limit _
        (Media.checked (.upload caller (some file) fileId)
          (get server.quotas caller.tenantId))
      cases full : exceeds (get server.quotas caller.tenantId) file.bytesRead with
      | true =>
        rw [Media.checked, if_pos full]
        trivial
      | false =>
        rw [Media.checked, if_neg (by rw [full]; nofun)]
        rintro rfl
        obtain ⟨quota, stored, same⟩ := limited
        exact ⟨quota, stored, same, full⟩
  | insertUpload | insert =>
    simp only [UploadServer.answer]
    split <;> exact checked_of_ne nofun
  | requestFile before | setProgress _ _ before | publish _ _ before =>
    obtain rfl | ⟨_, rfl⟩ := before <;> exact checked
  | readStream before =>
    obtain ⟨_, rfl⟩ | ⟨_, rfl⟩ := before <;> exact checked
  | putUpload => exact checked
  | openChunk | openFile => exact checked_of_ne (opened_ne_admitted _ _)
  | _ => exact checked_of_ne nofun

theorem checked_next (awaits : Awaits settings request phase command)
    (limited : Limited tenantId limit server) (checked : Checked tenantId limit request phase)
    (fault : Option String) : Checked tenantId limit request
      (nextPhase request phase command (server.exec command fault).2) := by
  cases fault with
  | none => exact checked_answer awaits limited checked
  | some error =>
    refine checked_of_ne fun read => ?_
    cases phase <;> exact nofun

theorem limited_exec (limited : Limited tenantId limit server) (command : UploadCommand)
    (fault : Option String) : Limited tenantId limit (server.exec command fault).1 := by
  obtain ⟨quota, stored, same⟩ := limited
  cases fault with
  | some error => exact ⟨quota, stored, same⟩
  | none =>
    cases alone : leavesAlone command with
    | true => exact ⟨quota, (answer_of_leavesAlone server alone).2.symm ▸ stored, same⟩
    | false =>
      cases command with
      | incQuota owner size =>
        simp only [Limited, UploadServer.exec, UploadServer.answer, get_set]
        by_cases own : owner = tenantId
        · subst own
          rw [stored, if_pos rfl]
          exact ⟨_, rfl, same⟩
        · rw [if_neg own]
          exact ⟨quota, stored, same⟩
      | insertFile file =>
        simp only [Limited, UploadServer.exec, UploadServer.answer]
        split <;> exact ⟨quota, stored, same⟩
      | _ => cases alone

end Checks

section Runs

variable {settings : UploadSettings} {tenantId : String} {quota : Quota} {stored : Nat}
  {pool : UploadPool}

/-- The account of a tenant balances since it had this quota and this much stored. -/
structure Balanced (tenantId : String) (quota : Quota) (stored : Nat) (pool : UploadPool) :
    Prop where
  total : pool.shared.used tenantId +
      (pool.calls.map fun call => owed tenantId call.input call.phase).sum + stored =
    quota.storageUsed + pool.shared.filesSize tenantId
  limited : Limited tenantId quota.storageLimit pool.shared
  checked : ∀ call ∈ pool.calls, Checked tenantId quota.storageLimit call.input call.phase

theorem balanced_new {server : UploadServer} (record : get server.quotas tenantId = some quota) :
    Balanced tenantId quota (server.filesSize tenantId) (newPool server) := by
  refine ⟨?_, ⟨quota, record, rfl⟩, List.forall_mem_nil _⟩
  simp only [newPool, UploadServer.used, record, List.map_nil, List.sum_nil]
  rfl

theorem Balanced.start (balanced : Balanced tenantId quota stored pool) (request : UploadRequest) :
    Balanced tenantId quota stored (pool.start (host settings) (fun _ => .start) request) := by
  have nothing : owed tenantId request .start = 0 := owed_of_ne (by decide)
  refine ⟨?_, balanced.limited, fun call here => ?_⟩
  · simp only [Pool.start, List.map_append, List.sum_append, List.map_cons, List.map_nil,
      List.sum_singleton, nothing]
    exact balanced.total
  · rcases Pool.mem_start here with earlier | rfl
    · exact balanced.checked call earlier
    · refine checked_of_ne fun read same => ?_
      cases same

variable {call : UploadCall} {command : UploadCommand} {fault : Option String}

theorem Balanced.resume (balanced : Balanced tenantId quota stored pool) {index : Nat}
    {next : command.Reply → UploadProgram UploadReply} (present : pool.calls[index]? = some call)
    (awaits : Awaits settings call.input call.phase command)
    (counted : StoredByUpload tenantId call.input pool.shared fault command) :
    Balanced tenantId quota stored (pool.resume (discipline settings) index call command next
      (pool.shared.exec command fault)) := by
  have goes := @Pool.goes_resume _ _ _ _ _ _ (discipline settings) pool index call command next
    (pool.shared.exec command fault) present
  refine ⟨?_, limited_exec balanced.limited command fault, ?_⟩
  · have moved := balances_exec awaits pool.shared fault counted
    have owing := goes.sum (owed tenantId)
    have total := balanced.total
    simp only [Balances] at moved
    simp only [discipline] at owing
    simp only [Pool.resume] at owing ⊢
    omega
  · exact goes.forall (checked_next awaits balanced.limited
      (balanced.checked call goes.member) fault) balanced.checked

theorem storedByUpload_of_counted {index : Nat} (counted : Counted tenantId pool (.run index fault))
    (awaited : pool.awaited? index = some (call, command)) :
    StoredByUpload tenantId call.input pool.shared fault command := by
  have covered := counted call command awaited
  cases command with
  | insertFile file =>
    intro calm new own content
    obtain ⟨caller, uploaded, fileId, _, input, _⟩ := covered calm new own content
    exact ⟨caller, uploaded, fileId, input⟩
  | incQuota owner size => exact covered
  | _ => trivial

theorem balanced_run {events : List UploadEvent}
    (counted : (machine settings).Admits (Counted tenantId) pool events)
    (respectful : Respectful settings pool) (balanced : Balanced tenantId quota stored pool) :
    Respectful settings ((machine settings).run pool events) ∧
      Balanced tenantId quota stored ((machine settings).run pool events) := by
  refine @Pool.invariant _ _ _ _ _ _ _ _ (host settings) (discipline settings) (fun _ => .start)
    ends (Counted tenantId) (Balanced tenantId quota stored) handle_respects ?_ ?_ ?_ _ _ counted
    respectful balanced
  · exact fun pool request balanced _ => balanced.start request
  · exact fun pool elapsed balanced _ => ⟨balanced.total, balanced.limited, balanced.checked⟩
  · exact fun pool index fault call command next balanced counted present awaits may =>
      ⟨trivial, balanced.resume present may
        (storedByUpload_of_counted counted (Pool.awaited?_of_await present awaits))⟩

/-- Storing a file that the check of its upload has covered stays within the limit. -/
theorem within_exec {limit : Nat} (awaits : Awaits settings call.input call.phase command)
    (checked : Checked tenantId (some limit) call.input call.phase) {server : UploadServer}
    (covered : ∀ file, command = .insertFile file → fault = none →
      server.hasFile file.tenantId file.id = false → file.tenantId = tenantId → 0 < file.size →
        Covered (server.filesSize tenantId) file call) :
    (server.exec command fault).1.filesSize tenantId ≤ limit ∨
      (server.exec command fault).1.filesSize tenantId ≤ server.filesSize tenantId := by
  cases fault with
  | some error => exact .inr (Nat.le_refl _)
  | none =>
    cases command with
    | insertFile file =>
      by_cases taken : server.hasFile file.tenantId file.id = true
      · right
        simp only [exec, answer, if_pos taken]
        exact Nat.le_refl _
      · simp only [exec, answer, if_neg taken, filesSize_append]
        by_cases counts : file.tenantId = tenantId ∧ 0 < file.size
        · obtain ⟨caller, uploaded, fileId, read, input, phase, bound⟩ :=
            covered file rfl rfl (Bool.eq_false_of_not_eq_true taken) counts.1 counts.2
          rw [input, phase] at awaits checked
          left
          cases awaits
          obtain ⟨quota, rfl, same, room⟩ := checked counts.1
          have within : ¬ limit < quota.storageUsed + uploaded.bytesRead := by
            simpa [exceeds, same] using room
          rw [if_pos counts.1]
          exact bound.trans (Nat.le_of_not_lt within)
        · right
          split
          · rename_i own
            have nothing : file.size = 0 :=
              Nat.eq_zero_of_not_pos fun content => counts ⟨own, content⟩
            exact Nat.le_of_eq (by rw [nothing, Nat.add_zero])
          · exact Nat.le_refl _
    | _ => exact .inr (Nat.le_refl _)

theorem within_step {limit : Nat} (same : quota.storageLimit = some limit) {event : UploadEvent}
    (respectful : Respectful settings pool) (balanced : Balanced tenantId quota stored pool)
    (counted : Counted tenantId pool event) : Within settings tenantId limit pool event := by
  cases event with
  | start | change => exact .inr (Nat.le_refl _)
  | run index fault =>
    rcases @Pool.step_run_or_await _ _ _ _ _ _ _ _ (host settings) (discipline settings)
      (fun _ => .start) pool index fault with idle | ⟨call, command, next, present, awaits⟩
    · have unchanged : ((machine settings).step pool (.run index fault)).1 = pool := idle
      right
      rw [unchanged]
    · have respects := respectful call (List.mem_of_getElem? present)
      rw [awaits] at respects
      rw [Within, step_of_await present awaits]
      refine within_exec respects.1
        (same ▸ balanced.checked call (List.mem_of_getElem? present)) fun file inserts => ?_
      subst inserts
      exact counted call _ (Pool.awaited?_of_await present awaits)

theorem owed_of_atRest (respectful : Respectful settings pool) (atRest : AtRest pool) :
    (pool.calls.map fun call => owed tenantId call.input call.phase).sum = 0 := by
  refine List.sum_eq_zero_iff_forall_eq_nat.mpr fun owing here => ?_
  obtain ⟨call, member, rfl⟩ := List.mem_map.mp here
  obtain ⟨outcome, ended⟩ := Option.isSome_iff_exists.mp (atRest call member)
  have answered := (respectful call member).ends_of_outcome ended
  exact owed_of_ne answered.1.1

/-- If every file of a tenant is stored by an upload whose check has covered it, and counting
files does not fail, no accepted upload takes the tenant beyond its limit, and at rest its record
has grown by what has been stored. -/
theorem counted_uploads_keep_quota {server : UploadServer} {events : List UploadEvent}
    (record : get server.quotas tenantId = some quota)
    (counted : (machine settings).Admits (Counted tenantId) (newPool server) events) :
    (∀ limit, quota.storageLimit = some limit →
      (machine settings).Admits (Within settings tenantId limit) (newPool server) events) ∧
    (AtRest ((machine settings).run (newPool server) events) →
      ∃ final, get ((machine settings).run (newPool server) events).shared.quotas
          tenantId = some final ∧
        final.storageUsed + server.filesSize tenantId = quota.storageUsed +
          ((machine settings).run (newPool server) events).shared.filesSize tenantId) := by
  have respectful : Respectful settings (newPool server) := List.forall_mem_nil _
  have balanced := balanced_new record
  constructor
  · intro limit same
    refine Transducer.Admits.imp_of_run (fun pool events counted (both : Respectful settings pool ∧
      Balanced tenantId quota (server.filesSize tenantId) pool) => ?_)
      (fun pool event both counted => ?_) counted (And.intro respectful balanced)
    · exact balanced_run counted both.1 both.2
    · exact within_step same both.1 both.2 counted
  · intro atRest
    obtain ⟨respectful, balanced⟩ := balanced_run counted respectful balanced
    obtain ⟨final, stored, _⟩ := balanced.limited
    refine ⟨final, stored, ?_⟩
    have total := balanced.total
    rw [owed_of_atRest respectful atRest, used, stored] at total
    exact total

/-- A file of two bytes, read before it is checked. -/
def sampleFile : UploadedFile :=
  ⟨"a.bin", "application/octet-stream", [1, 2], 2, 2, by decide, by decide⟩

/-- An upload that fills the quota, from its first command to its last. -/
def oneUpload : List UploadEvent :=
  .start (.upload sampleCaller (some sampleFile) sampleId) :: goesOn 0 9

/-- The upload is covered by its check, and counted. -/
theorem one_upload_keeps_quota :
    (machine sampleSettings).Admits (Within sampleSettings "t" 2) (newPool sampleServer)
        oneUpload ∧ ∃ final, get ((machine sampleSettings).run (newPool sampleServer)
        oneUpload).shared.quotas "t" = some final ∧ final.storageUsed = 2 := by
  have counted : (machine sampleSettings).Admits (Counted "t") (newPool sampleServer)
      oneUpload := by
    refine ⟨trivial, ?_, ?_, ?_, ?_, ?_, ?_, ?_, ?_, ?_, trivial⟩
    all_goals rintro _ _ ⟨⟩
    any_goals trivial
    · exact fun _ _ _ _ => ⟨sampleCaller, sampleFile, sampleId, some ⟨0, some 2⟩, rfl, rfl, by decide⟩
  obtain ⟨within, atRest⟩ := @counted_uploads_keep_quota sampleSettings "t" ⟨0, some 2⟩
    sampleServer oneUpload (by decide) counted
  refine ⟨within 2 rfl, ?_⟩
  obtain ⟨final, stored, grown⟩ := atRest (by decide +kernel)
  exact ⟨final, stored, grown.trans (by decide +kernel)⟩

/-- A chunked upload goes beyond the limit, and is not counted. -/
theorem chunked_upload_exceeds_quota :
    ¬ ∀ (server : UploadServer) (events : List UploadEvent) (tenantId : String) (quota : Quota),
      get server.quotas tenantId = some quota → (∀ limit, quota.storageLimit = some limit →
        (machine sampleSettings).Admits (Within sampleSettings tenantId limit) (newPool server)
          events) ∧ (AtRest ((machine sampleSettings).run (newPool server) events) →
        ∃ final, get ((machine sampleSettings).run (newPool server) events).shared.quotas
            tenantId = some final ∧
          final.storageUsed + server.filesSize tenantId = quota.storageUsed +
            ((machine sampleSettings).run (newPool server) events).shared.filesSize tenantId) := by
  intro keeps
  have within := (keeps sampleServer (chunkedUpload sampleCaller) "t" ⟨0, some 2⟩ (by decide)).1 2 rfl
  exact absurd within (by decide +kernel)

end Runs

end Caas.Media
