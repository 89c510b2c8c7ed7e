import Caas.Crypto.KeyRotation

/-!
# Encryption under retired keys

When a rotation has completed, its old key is inactive and Redis has no copy of it; both stay so
unless a lookup from before stores a copy again. A key that has expired is refused by every
lookup that finds no copy, but copies do not know when their key expires.
-/

namespace Caas.Crypto

open Js Async Redis EncryptionService

def rotates (keyId : String) : KeyCall → Bool
  | .rotateKey oldKeyId _ _ => oldKeyId = keyId
  | _ => false

def Rotated (pool : KeyPool) (keyId : String) : Prop :=
  ∃ call ∈ pool.calls, rotates keyId call.input = true ∧
    ∃ answer, call.program.outcome? = some (.ok answer)

def Expired (server : KeyServer) (keyId : String) : Prop :=
  ∃ key ∈ server.keys, key.keyId = keyId ∧ key.expiresAt < server.now

/-- No call stores a copy of the key once a rotation of it has completed. -/
def Timely (keyId : String) (pool : KeyPool) : Event Unit Nat KeyCall → Prop
  | .run index _ => ∀ call seconds keyData,
    pool.awaited? index = some (call, .redis (.setex keyId seconds keyData)) → ¬ Rotated pool keyId
  | .start _ | .change _ => True

/-- The lookup of the call at `index` finds no copy of the key. -/
def Uncopied (keyId : String) (index : Nat) (pool : KeyPool) : Event Unit Nat KeyCall → Prop
  | .run running _ => running = index → ∀ call,
    pool.awaited? index = some (call, .redis (.get keyId)) → ¬ Copied pool.shared keyId
  | .start _ | .change _ => True

section Retirement

variable {cipher : Cipher} {keyId : String} {pool : KeyPool}

/-- A rotation of the key has come to its end. -/
def Retired (keyId : String) (pool : KeyPool) : Prop :=
  ∃ call ∈ pool.calls, rotates keyId call.input = true ∧ call.phase = .retired

theorem rotated_iff
    (respectful : pool.Respectful discipline fun call phase => ends cipher phase call) :
    Rotated pool keyId ↔ Retired keyId pool := by
  constructor
  · rintro ⟨call, here, own, answer, ended⟩
    have finished := (respectful call here).ends_of_outcome ended
    refine ⟨call, here, own, ?_⟩
    cases input : call.input with
    | rotateKey =>
      rw [input] at finished
      exact finished
    | _ =>
      rw [input] at own
      cases own
  · rintro ⟨call, here, own, phase⟩
    have respects := respectful call here
    rw [phase] at respects
    refine ⟨call, here, own, ?_⟩
    cases program : call.program with
    | result answer => exact ⟨answer, rfl⟩
    | await command next =>
      rw [program] at respects
      exact absurd respects.1 not_awaits_retired
    | failure error =>
      rw [program] at respects
      cases input : call.input with
      | rotateKey =>
        rw [input] at respects
        exact absurd rfl respects
      | _ =>
        rw [input] at own
        cases own

/-- No call stores a copy of the key once a rotation of it has come to its end. -/
def TimelyPhase (keyId : String) (pool : KeyPool) : Event Unit Nat KeyCall → Prop
  | .run index _ => ∀ call seconds keyData,
    pool.awaited? index = some (call, .redis (.setex keyId seconds keyData)) → ¬ Retired keyId pool
  | .start _ | .change _ => True

theorem respectful_step {cipher : Cipher} (pool : KeyPool) (event : Event Unit Nat KeyCall)
    (respectful : pool.Respectful discipline fun call phase => ends cipher phase call) :
    ((machine cipher).step pool event).1.Respectful discipline fun call phase =>
      ends cipher phase call :=
  Pool.respectful_run body_respects (fun _ _ _ _ => trivial) respectful [event]

theorem timely_phase {events : List (Event Unit Nat KeyCall)}
    (respectful : pool.Respectful discipline fun call phase => ends cipher phase call)
    (timely : (machine cipher).Admits (Timely keyId) pool events) :
    (machine cipher).Admits (TimelyPhase keyId) pool events := by
  refine Transducer.Admits.imp (fun pool event respectful _ => respectful_step pool event respectful)
    (fun pool event respectful timely => ?_) timely respectful
  cases event with
  | run index =>
    exact fun call seconds keyData awaits =>
      mt (rotated_iff respectful).mpr (timely call seconds keyData awaits)
  | start | change => trivial

end Retirement

section Withdrawal

/-- The rotation has found its old key. -/
def hasFound : Phase → Bool
  | .rotating _ | .dated | .inserted _ | .generated | .deactivated | .retired => true
  | _ => false

/-- The rotation has marked its old key inactive. -/
def hasMarked : Phase → Bool
  | .deactivated | .retired => true
  | _ => false

/-- What rotations of the key have left of it. -/
structure Withdrawn (keyId : String) (pool : KeyPool) : Prop where
  sound : Sound pool
  found : ∀ call ∈ pool.calls, rotates keyId call.input = true → hasFound call.phase = true →
    0 < pool.shared.keys.countP (named keyId)
  inactive : ∀ call ∈ pool.calls, rotates keyId call.input = true → hasMarked call.phase = true →
    ∀ key ∈ pool.shared.keys, key.keyId = keyId → key.isActive = false
  uncopied : Retired keyId pool → ∀ time, pool.shared.copies.lookup time keyId = none

section Moving

variable {server after : KeyServer} {call : KeyCall} {phase phase' : Phase} {keyId : String}

theorem hasFound_of_hasMarked (marked : hasMarked phase = true) : hasFound phase = true := by
  cases phase <;> first | rfl | cases marked

theorem found_moves (moves : Moves server call phase after phase')
    (own : rotates keyId call = true) (found : hasFound phase' = true) :
    hasFound phase = true ∨ 0 < server.keys.countP (named keyId) := by
  cases moves with
  | rotates stored =>
    exact .inr (List.countP_pos_iff.mpr ⟨_, stored, own⟩)
  | datesNew | inserts | copies | deactivates | retires => exact .inl rfl
  | dates => cases own
  | hits | misses | finds | fails | passes | caches => cases found

theorem marked_moves (moves : Moves server call phase after phase')
    (own : rotates keyId call = true) (marked : hasMarked phase' = true) :
    hasMarked phase = true ∨ after.keys = server.keys.lookmap (deactivated keyId) := by
  cases moves with
  | deactivates =>
    obtain rfl := of_decide_eq_true own
    exact .inr rfl
  | retires => exact .inl rfl
  | _ => cases marked

theorem retired_moves (moves : Moves server call phase after .retired)
    (own : rotates keyId call = true) (time : Nat) : after.copies.lookup time keyId = none := by
  cases moves with
  | retires =>
    obtain rfl := of_decide_eq_true own
    exact ExpiringMap.lookup_delete.trans (if_pos rfl)

theorem countP_keys_le (moves : Moves server call phase after phase') (keyId : String) :
    server.keys.countP (named keyId) ≤ after.keys.countP (named keyId) := by
  cases moves with
  | inserts =>
    rw [List.countP_append]
    exact Nat.le_add_right _ _
  | deactivates => exact Nat.le_of_eq countP_named_lookmap.symm
  | _ => exact Nat.le_refl _

theorem inactive_lookmap {keys : List EncryptionKey} (single : keys.countP (named keyId) ≤ 1) :
    ∀ key ∈ keys.lookmap (deactivated keyId), key.keyId = keyId → key.isActive = false := by
  induction keys with
  | nil => exact nofun
  | cons head rest ih =>
    intro key stored own
    by_cases same : head.keyId = keyId
    · rw [lookmap_marks same] at stored
      rcases List.mem_cons.mp stored with rfl | later
      · rfl
      · have none : 0 < rest.countP (named keyId) :=
          List.countP_pos_iff.mpr ⟨key, later, named_of own⟩
        rw [List.countP_cons_of_pos (named_of same)] at single
        omega
    · rw [lookmap_skips same] at stored
      have below : rest.countP (named keyId) ≤ 1 :=
        (List.sublist_cons_self head rest).countP_le.trans single
      rcases List.mem_cons.mp stored with rfl | later
      · exact absurd own same
      · exact ih below key later own

theorem mem_of_active {keys : List EncryptionKey} {oldKeyId : String} {key : EncryptionKey}
    (stored : key ∈ keys.lookmap (deactivated oldKeyId)) (active : key.isActive = true) :
    key ∈ keys := by
  induction keys with
  | nil => cases stored
  | cons head rest ih =>
    by_cases same : head.keyId = oldKeyId
    · rw [lookmap_marks same] at stored
      rcases List.mem_cons.mp stored with rfl | later
      · cases active
      · exact List.mem_cons_of_mem _ later
    · rw [lookmap_skips same] at stored
      rcases List.mem_cons.mp stored with rfl | later
      · exact List.mem_cons_self
      · exact List.mem_cons_of_mem _ (ih later)

theorem active_moves (moves : Moves server call phase after phase') {key : EncryptionKey}
    (stored : key ∈ after.keys) (active : key.isActive = true) :
    key ∈ server.keys ∨ after.keys = server.keys ++ [key] := by
  cases moves with
  | inserts =>
    refine (List.mem_append.mp stored).imp_right fun new => ?_
    rw [List.mem_singleton.mp new]
  | deactivates => exact .inl (mem_of_active stored active)
  | _ => exact .inl stored

theorem uncopied_exec {command : KeyCommand}
    (uncopied : ∀ time, server.copies.lookup time keyId = none)
    (other : ∀ seconds keyData, command ≠ .redis (.setex keyId seconds keyData)) (time : Nat) :
    (server.exec command).1.copies.lookup time keyId = none := by
  cases command with
  | redis command =>
    refine Option.eq_none_iff_forall_ne_some.mpr fun keyData found => ?_
    rcases lookup_redis found with before | ⟨seconds, rfl⟩
    · cases (uncopied time).symm.trans before
    · exact other seconds keyData rfl
  | newDate | insertOne | findOne | deactivate => exact uncopied time

end Moving

variable {cipher : Cipher} {keyId : String} {pool : KeyPool} {index : Nat} {call : KeyCallState}
  {command : KeyCommand} {next : command.Reply → KeyProgram KeyAnswer}

theorem Withdrawn.resume (withdrawn : Withdrawn keyId pool)
    (present : pool.calls[index]? = some call) (awaits : Awaits call.input call.phase command)
    (timely : Retired keyId pool →
      ∀ seconds keyData, command ≠ .redis (.setex keyId seconds keyData)) :
    Withdrawn keyId (pool.resume discipline index call command next
      (pool.shared.exec command)) := by
  have goes := @Pool.goes_resume _ _ _ _ _ _ discipline pool index call command next
    (pool.shared.exec command) present
  have moves := moves_exec awaits pool.shared
  have sound := withdrawn.sound.moves goes moves
  have kept := countP_keys_le moves keyId
  refine ⟨sound, ?_, ?_, ?_⟩
  · refine @Pool.Goes.forall _ _ _ _ _ _ _ _ _ _ goes (fun input phase =>
      rotates keyId input = true → hasFound phase = true →
        0 < (pool.shared.exec command).1.keys.countP (named keyId)) ?_ ?_
    · intro own found
      rcases found_moves moves own found with before | stored
      · exact (withdrawn.found call goes.member own before).trans_le kept
      · exact stored.trans_le kept
    · exact fun other here own found => (withdrawn.found other here own found).trans_le kept
  · -- A key that is inserted later would have the id of one that is stored.
    have stays (stored : 0 < pool.shared.keys.countP (named keyId))
        (inactive : ∀ key ∈ pool.shared.keys, key.keyId = keyId → key.isActive = false) :
        ∀ key ∈ (pool.shared.exec command).1.keys, key.keyId = keyId → key.isActive = false := by
      intro key here own
      by_contra active
      rcases active_moves moves here (Bool.eq_true_of_not_eq_false active) with before | new
      · exact active (inactive key before own)
      · have single : (pool.shared.exec command).1.keys.countP (named keyId) ≤ 1 :=
          sound.single keyId
        rw [new, List.countP_append, List.countP_singleton, if_pos (named_of own)] at single
        omega
    refine @Pool.Goes.forall _ _ _ _ _ _ _ _ _ _ goes (fun input phase =>
      rotates keyId input = true → hasMarked phase = true →
        ∀ key ∈ (pool.shared.exec command).1.keys, key.keyId = keyId → key.isActive = false) ?_ ?_
    · intro own marked
      rcases marked_moves moves own marked with before | same
      · exact stays (withdrawn.found call goes.member own (hasFound_of_hasMarked before))
          (withdrawn.inactive call goes.member own before)
      · rw [same]
        exact inactive_lookmap (withdrawn.sound.single keyId)
    · exact fun other here own marked =>
        stays (withdrawn.found other here own (hasFound_of_hasMarked marked))
          (withdrawn.inactive other here own marked)
  · rintro ⟨other, here, own, phase⟩ time
    rcases goes.back other here with there | ⟨input, phase'⟩
    · have retired : Retired keyId pool := ⟨other, there, own, phase⟩
      exact uncopied_exec (withdrawn.uncopied retired) (timely retired) time
    · have moved : nextPhase call.phase command (pool.shared.exec command).2 = .retired :=
        phase'.symm.trans phase
      rw [moved] at moves
      exact retired_moves moves (input ▸ own) time

theorem Withdrawn.start (withdrawn : Withdrawn keyId pool) {input : KeyCall}
    (fresh : Fresh pool (.start input)) :
    Withdrawn keyId (pool.start (host cipher) (fun _ => .start) input) := by
  have listed (call : KeyCallState)
      (here : call ∈ (pool.start (host cipher) (fun _ => .start) input).calls) :
      call ∈ pool.calls ∨ call.phase = .start :=
    (List.mem_append.mp here).imp_right fun new =>
      congrArg Call.phase (List.mem_singleton.mp new)
  refine ⟨withdrawn.sound.start fresh, fun call here own found => ?_,
    fun call here own marked => ?_, fun ⟨call, here, own, phase⟩ => ?_⟩
  · rcases listed call here with there | new
    · exact withdrawn.found call there own found
    · rw [new] at found
      cases found
  · rcases listed call here with there | new
    · exact withdrawn.inactive call there own marked
    · rw [new] at marked
      cases marked
  · rcases listed call here with there | new
    · exact withdrawn.uncopied ⟨call, there, own, phase⟩
    · cases new.symm.trans phase

theorem Withdrawn.change (withdrawn : Withdrawn keyId pool) (now : Nat) :
    Withdrawn keyId { pool with shared := { pool.shared with now } } :=
  ⟨withdrawn.sound.change now, withdrawn.found, withdrawn.inactive, withdrawn.uncopied⟩

end Withdrawal

section Denial

/-- An encryption that can no longer succeed with what it has found. -/
inductive Denied (now : Nat) : Phase → Prop where
  | start : Denied now .start
  | missed : Denied now .missed
  | failed : Denied now .failed
  | found (key : EncryptionKey) (expired : key.expiresAt < now) : Denied now (.found key)

/-- No key of the id is active, or every one has expired. -/
def Useless (keyId : String) (server : KeyServer) : Prop :=
  (∀ key ∈ server.keys, key.keyId = keyId → key.isActive = false) ∨
    ∀ key ∈ server.keys, key.keyId = keyId → key.expiresAt < server.now

theorem Denied.moves {server after : KeyServer} {keyId plaintext : String} {iv : Buffer}
    {phase phase' : Phase} (denied : Denied server.now phase)
    (moves : Moves server (.encrypt keyId plaintext iv) phase after phase')
    (useless : Useless keyId server) (uncopied : phase = .start → ¬ Copied server keyId) :
    Denied after.now phase' := by
  cases moves with
  | hits looks cached nonempty =>
    cases looks
    exact absurd ⟨_, cached, nonempty⟩ (uncopied rfl)
  | misses => exact .missed
  | finds looks stored active =>
    cases looks
    rcases useless with inactive | expired
    · cases (inactive _ stored rfl).symm.trans active
    · exact .found _ (expired _ stored rfl)
  | fails => exact .failed
  | passes looks current =>
    cases denied with
    | found _ expired => omega
  | caches | inserts | copies => cases denied

variable {cipher : Cipher} {keyId plaintext : String} {iv : Buffer} {index : Nat} {pool : KeyPool}

/-- The call at `index` is an encryption that can no longer succeed. -/
def Barred (keyId plaintext : String) (iv : Buffer) (index : Nat) (pool : KeyPool) : Prop :=
  ∃ call, pool.calls[index]? = some call ∧ call.input = .encrypt keyId plaintext iv ∧
    Denied pool.shared.now call.phase

theorem now_exec (server : KeyServer) (command : KeyCommand) :
    (server.exec command).1.now = server.now := by
  cases command <;> rfl

theorem Denied.later {now later : Nat} {phase : Phase} (denied : Denied now phase)
    (le : now ≤ later) : Denied later phase := by
  cases denied with
  | start => exact .start
  | missed => exact .missed
  | failed => exact .failed
  | found key expired => exact .found key (expired.trans_le le)

section

variable (barred : Barred keyId plaintext iv index pool)
include barred

theorem Barred.start (input : KeyCall) :
    Barred keyId plaintext iv index (pool.start (host cipher) (fun _ => .start) input) := by
  obtain ⟨call, present, facts⟩ := barred
  obtain ⟨bound, _⟩ := List.getElem?_eq_some_iff.mp present
  exact ⟨call, (List.getElem?_append_left bound).trans present, facts⟩

theorem Barred.change (elapsed : Nat) : Barred keyId plaintext iv index
      { pool with shared := (host cipher).change pool.shared elapsed } :=
  let ⟨call, present, input, denied⟩ := barred
  ⟨call, present, input, denied.later (Nat.le_add_right _ _)⟩

theorem Barred.resume {running : Nat} {call : KeyCallState} {command : KeyCommand}
    {next : command.Reply → KeyProgram KeyAnswer} (present : pool.calls[running]? = some call)
    (awaits : Awaits call.input call.phase command) (useless : Useless keyId pool.shared)
    (uncopied : running = index → command = .redis (.get keyId) → ¬ Copied pool.shared keyId) :
    Barred keyId plaintext iv index
      (pool.resume discipline running call command next (pool.shared.exec command)) := by
  obtain ⟨encryption, found, input, denied⟩ := barred
  by_cases same : running = index
  · subst same
    cases present.symm.trans found
    refine ⟨_, (Pool.getElem?_resume present running).trans (if_pos rfl), input, ?_⟩
    have moves := moves_exec awaits pool.shared
    rw [input] at moves awaits
    refine denied.moves moves useless fun start => uncopied rfl ?_
    rw [start] at awaits
    cases awaits with
    | get looks =>
      cases looks
      rfl
  · refine ⟨encryption, ?_, input, ?_⟩
    · rw [Pool.getElem?_resume present, if_neg same]
      exact found
    · change Denied (pool.shared.exec command).1.now encryption.phase
      rwa [now_exec]

theorem Barred.not_ok
    (respectful : pool.Respectful discipline fun call phase => ends cipher phase call)
    (answer : KeyAnswer) : pool.outcome? index ≠ some (.ok answer) := by
  intro succeeded
  obtain ⟨call, present, input, denied⟩ := barred
  rw [Pool.outcome?, present, Option.bind_some] at succeeded
  have finished := respectful.ends_of_outcome present succeeded
  rw [input] at finished
  obtain ⟨keyData, _, phase, _⟩ := finished
  rw [phase] at denied
  cases denied

end

end Denial

section Runs

variable {cipher : Cipher} {keyId plaintext : String} {iv : Buffer} {index : Nat} {pool : KeyPool}
  {events : List (Event Unit Nat KeyCall)}

theorem withdrawn_run (now : Nat) (fresh : (machine cipher).Admits Fresh (newPool now) events)
    (timely : (machine cipher).Admits (Timely keyId) (newPool now) events) :
    ((machine cipher).run (newPool now) events).Respectful discipline
        (fun call phase => ends cipher phase call) ∧
      Withdrawn keyId ((machine cipher).run (newPool now) events) := by
  have idle : (newPool now).Respectful discipline fun call phase => ends cipher phase call :=
    fun _ absent => absurd absent List.not_mem_nil
  refine @Pool.invariant _ _ _ _ _ _ _ _ (host cipher) discipline (fun _ => .start)
    (fun call phase => ends cipher phase call)
    (fun pool event => Fresh pool event ∧ TimelyPhase keyId pool event) (Withdrawn keyId)
    body_respects ?_ ?_ ?_ _ _ (fresh.and (timely_phase idle timely)) idle
    ⟨(@sound_run cipher now [] trivial).2, ?_, ?_, ?_⟩
  · exact fun pool input withdrawn guarded => withdrawn.start guarded.1
  · exact fun pool elapsed withdrawn _ => withdrawn.change _
  · intro pool index _ call command next withdrawn guarded present program awaits
    refine ⟨trivial, withdrawn.resume present awaits fun retired seconds keyData same => ?_⟩
    subst same
    exact guarded.2 call seconds keyData (Pool.awaited?_of_await present program) retired
  · exact fun _ absent => absurd absent List.not_mem_nil
  · exact fun _ absent => absurd absent List.not_mem_nil
  · exact fun ⟨_, absent, _⟩ => absurd absent List.not_mem_nil

/-- After a rotation has completed, an encryption that starts does not succeed. -/
theorem barred_of_retired (withdrawn : Withdrawn keyId pool) (retired : Retired keyId pool)
    (barred : Barred keyId plaintext iv index pool)
    (respectful : pool.Respectful discipline fun call phase => ends cipher phase call)
    (fresh : (machine cipher).Admits Fresh pool events)
    (timely : (machine cipher).Admits (TimelyPhase keyId) pool events) :
    ((machine cipher).run pool events).Respectful discipline
        (fun call phase => ends cipher phase call) ∧
      Withdrawn keyId ((machine cipher).run pool events) ∧
        Retired keyId ((machine cipher).run pool events) ∧
          Barred keyId plaintext iv index ((machine cipher).run pool events) := by
  refine @Pool.invariant _ _ _ _ _ _ _ _ (host cipher) discipline (fun _ => .start)
    (fun call phase => ends cipher phase call)
    (fun pool event => Fresh pool event ∧ TimelyPhase keyId pool event)
    (fun pool => Withdrawn keyId pool ∧ Retired keyId pool ∧ Barred keyId plaintext iv index pool)
    body_respects ?_ ?_ ?_ _ _ (fresh.and timely) respectful ⟨withdrawn, retired, barred⟩
  · rintro pool input ⟨withdrawn, ⟨call, here, facts⟩, barred⟩ guarded
    exact ⟨withdrawn.start guarded.1, ⟨call, List.mem_append_left _ here, facts⟩,
      barred.start input⟩
  · rintro pool elapsed ⟨withdrawn, retired, barred⟩ _
    exact ⟨withdrawn.change _, retired, barred.change elapsed⟩
  · rintro pool running _ call command next ⟨withdrawn, retired, barred⟩ guarded present program
      awaits
    have uncopied := withdrawn.uncopied retired
    obtain ⟨rotation, here, own, phase⟩ := retired
    refine ⟨trivial, withdrawn.resume present awaits fun retired seconds keyData same => ?_,
      ⟨rotation, ?_, own, phase⟩, barred.resume present awaits (.inl ?_) fun _ _ => ?_⟩
    · subst same
      exact guarded.2 call seconds keyData (Pool.awaited?_of_await present program) retired
    · rcases Pool.mem_resume_or_eq present here with stays | rfl
      · exact stays
      · rw [phase] at awaits
        exact absurd awaits not_awaits_retired
    · refine withdrawn.inactive rotation here own ?_
      rw [phase]
      rfl
    · rintro ⟨keyData, found, _⟩
      cases (uncopied _).symm.trans found

/-- An encryption that starts under an expired key, and finds no copy of it, does not succeed. -/
theorem barred_of_expired (sound : Sound pool) (expired : Expired pool.shared keyId)
    (barred : Barred keyId plaintext iv index pool)
    (respectful : pool.Respectful discipline fun call phase => ends cipher phase call)
    (fresh : (machine cipher).Admits Fresh pool events)
    (uncopied : (machine cipher).Admits (Uncopied keyId index) pool events) :
    ((machine cipher).run pool events).Respectful discipline
        (fun call phase => ends cipher phase call) ∧
      Sound ((machine cipher).run pool events) ∧
        Expired ((machine cipher).run pool events).shared keyId ∧
          Barred keyId plaintext iv index ((machine cipher).run pool events) := by
  refine @Pool.invariant _ _ _ _ _ _ _ _ (host cipher) discipline (fun _ => .start)
    (fun call phase => ends cipher phase call)
    (fun pool event => Fresh pool event ∧ Uncopied keyId index pool event)
    (fun pool => Sound pool ∧ Expired pool.shared keyId ∧ Barred keyId plaintext iv index pool)
    body_respects ?_ ?_ ?_ _ _ (fresh.and uncopied) respectful ⟨sound, expired, barred⟩
  · rintro pool input ⟨sound, expired, barred⟩ guarded
    exact ⟨sound.start guarded.1, expired, barred.start input⟩
  · rintro pool elapsed ⟨sound, ⟨key, stored, own, expired⟩, barred⟩ _
    exact ⟨sound.change _, ⟨key, stored, own, expired.trans_le (Nat.le_add_right _ _)⟩,
      barred.change elapsed⟩
  · rintro pool running _ call command next ⟨sound, ⟨key, stored, own, expired⟩, barred⟩ guarded
      present program awaits
    have moves := moves_exec awaits pool.shared
    refine ⟨trivial, sound.moves (Pool.goes_resume present) moves, ?_,
      barred.resume present awaits (.inr fun other here same => ?_) fun runs asks => ?_⟩
    · obtain ⟨kept, there, same⟩ := mem_facts_moves moves stored
      simp only [facts, Prod.mk.injEq] at same
      refine ⟨kept, there, same.1.trans own, ?_⟩
      change kept.expiresAt < (pool.shared.exec command).1.now
      rwa [same.2.2, now_exec]
    · rw [eq_of_countP_le_one (sound.single keyId) here stored same own]
      exact expired
    · subst runs asks
      exact guarded.2 rfl call (Pool.awaited?_of_await present program)

/-- A run from a service that has just been made. -/
def runs (cipher : Cipher) (now : Nat) (events : List (Event Unit Nat KeyCall)) : KeyPool :=
  (machine cipher).run (newPool now) events

/-- In every run in which no call stores a copy of the key after a rotation of it has completed:
an encryption that starts when a rotation of its key has completed does not succeed, nor does one
that starts when its key has expired, if its lookup finds no copy. -/
theorem retired_key_encrypts_nothing (cipher : Cipher) (now : Nat)
    (before after : List (Event Unit Nat KeyCall)) (keyId plaintext : String) (iv : Buffer)
    (fresh : (machine cipher).Admits Fresh (newPool now)
      (before ++ .start (.encrypt keyId plaintext iv) :: after))
    (timely : (machine cipher).Admits (Timely keyId) (newPool now)
      (before ++ .start (.encrypt keyId plaintext iv) :: after))
    (uncopied : ¬ Rotated (runs cipher now before) keyId →
      (machine cipher).Admits (Uncopied keyId (runs cipher now before).calls.length)
        (runs cipher now (before ++ [.start (.encrypt keyId plaintext iv)])) after)
    (retired : Rotated (runs cipher now before) keyId ∨
      Expired (runs cipher now before).shared keyId) (answer : KeyAnswer) :
    (runs cipher now (before ++ .start (.encrypt keyId plaintext iv) :: after)).outcome?
      (runs cipher now before).calls.length ≠ some (.ok answer) := by
  obtain ⟨freshBefore, freshStart, freshAfter⟩ := Transducer.admits_append.mp fresh
  obtain ⟨timelyBefore, -, timelyAfter⟩ := Transducer.admits_append.mp timely
  obtain ⟨respectful, withdrawn⟩ := withdrawn_run now freshBefore timelyBefore
  unfold runs at uncopied retired ⊢
  rw [Transducer.run_append] at uncopied ⊢
  generalize (machine cipher).run (newPool now) before = pool at *
  have respectful' : (pool.start (host cipher) (fun _ => .start)
      (.encrypt keyId plaintext iv)).Respectful discipline fun call phase =>
        ends cipher phase call := respectful.start (body_respects _)
  have barred : Barred keyId plaintext iv pool.calls.length
      (pool.start (host cipher) (fun _ => .start) (.encrypt keyId plaintext iv)) :=
    ⟨_, List.getElem?_concat_length, rfl, .start⟩
  by_cases rotated : Rotated pool keyId
  · obtain ⟨rotation, here, facts⟩ := (rotated_iff respectful).mp rotated
    obtain ⟨respectful, -, -, barred⟩ := barred_of_retired (withdrawn.start freshStart)
      ⟨rotation, List.mem_append_left _ here, facts⟩ barred respectful' freshAfter
      (timely_phase respectful' timelyAfter)
    exact barred.not_ok respectful answer
  · obtain ⟨respectful, -, -, barred⟩ := barred_of_expired (withdrawn.sound.start freshStart)
      (retired.resolve_left rotated) barred respectful' freshAfter (uncopied rotated)
    exact barred.not_ok respectful answer

def sampleRotation : List (Event Unit Nat KeyCall) :=
  [.start (.generateKey "t" .data ⟨"k", [7]⟩), .run 0 (), .run 0 (), .run 0 (),
    .start (.rotateKey "k" "t" ⟨"l", [8]⟩)] ++ List.replicate 6 (.run 1 ())

/-- After its rotation, the key encrypts nothing. -/
theorem sample_encrypts_nothing : (runs authenticating 0
        (sampleRotation ++ [.start (.encrypt "k" "secret" [1]), .run 2 (), .run 2 ()])).outcome?
      (runs authenticating 0 sampleRotation).calls.length ≠ some (.ok (.encrypted sampleData)) := by
  have rotated : Rotated (runs authenticating 0 sampleRotation) "k" :=
    ⟨_, List.mem_of_getElem? (i := 1) rfl, rfl, _, rfl⟩
  refine retired_key_encrypts_nothing authenticating 0 sampleRotation [.run 2 (), .run 2 ()] "k"
    "secret" [1] ?_ ?_ (fun fresh => absurd rotated fresh) (.inl rotated) (.encrypted
    sampleData)
  · refine ⟨fun _ _ _ absent => absurd absent List.not_mem_nil, trivial, trivial, trivial, ?_,
      trivial, trivial, trivial, trivial, trivial, trivial, fun _ draws => (nomatch draws),
      trivial, trivial, trivial⟩
    rintro _ ⟨⟩ call here other drawn
    cases List.mem_singleton.mp here
    cases drawn
    decide
  · -- Only two commands store a copy: one of the key before the rotation, one of its successor.
    refine ⟨trivial, ?_, ?_, ?_, trivial, ?_, ?_, ?_, ?_, ?_, ?_, trivial, ?_, ?_, trivial⟩
    all_goals intro call seconds keyData awaits
    · cases awaits
    · cases awaits
    · rintro ⟨call, here, own, _⟩
      cases List.mem_singleton.mp here
      cases own
    · cases awaits
    · cases awaits
    · cases awaits
    · injection awaits with awaits
      injection awaits with _ awaits
      injection awaits with awaits
      injection awaits with other
      exact absurd other (by decide)
    all_goals cases awaits

/-- A lookup of the key, which finds no copy, overlaps a rotation and stores a copy after it. -/
def overlap : List (Event Unit Nat KeyCall) :=
  [.start (.generateKey "t" .data ⟨"k", [7]⟩), .run 0 (), .run 0 (), .run 0 (), .change 3600000,
      .start (.encrypt "k" "early" [1]), .run 1 (), .run 1 (), .run 1 ()] ++
    rotation ++ [.run 1 ()]

/-- After the rotation, the key still encrypts. -/
theorem stale_copy_encrypts :
    ¬ ∀ (before after : List (Event Unit Nat KeyCall)) (keyId plaintext : String) (iv : Buffer),
      (machine authenticating).Admits Fresh (newPool 0)
        (before ++ .start (.encrypt keyId plaintext iv) :: after) →
      (Rotated (runs authenticating 0 before) keyId ∨
        Expired (runs authenticating 0 before).shared keyId) → ∀ answer, (runs authenticating 0
          (before ++ .start (.encrypt keyId plaintext iv) :: after)).outcome?
        (runs authenticating 0 before).calls.length ≠ some (.ok answer) := by
  intro never
  refine never overlap [.run 3 ()] "k" "secret" [1] ?_ (.inl ?_)
    (.encrypted sampleData) ?_
  · refine ⟨fun _ _ _ absent => absurd absent List.not_mem_nil, trivial, trivial, trivial, trivial,
      fun _ draws => (nomatch draws), trivial, trivial, trivial, ?_, trivial, trivial, trivial,
      trivial, trivial, trivial, trivial, fun _ draws => (nomatch draws), trivial, trivial⟩
    rintro _ ⟨⟩ call here other drawn
    rcases List.mem_cons.mp here with rfl | later
    · cases drawn
      decide
    · rw [List.mem_singleton.mp later] at drawn
      cases drawn
  · exact ⟨_, List.mem_of_getElem? (i := 2) rfl, rfl, _, rfl⟩
  · decide +kernel

end Runs

end Caas.Crypto
