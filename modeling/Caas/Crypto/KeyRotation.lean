import Caas.Crypto.EncryptionService
import Caas.Async.Fallible

/-!
# Decryption after rotations

A copy of a key, in Redis or in a call, always has the data of the one key with its id, so a
ciphertext can only fail to decrypt when no copy is found at all: when a rotation has marked the
key inactive and the copy in Redis is gone.
-/

namespace Caas.Crypto

open Js Async Program Redis EncryptionService

section Keys

/-- What a rotation leaves of a key. -/
def facts (key : EncryptionKey) : String × String × Nat := (key.keyId, key.keyData, key.expiresAt)

def Stores (keys : List EncryptionKey) (keyId keyData : String) : Prop :=
  ∃ key ∈ keys, key.keyId = keyId ∧ key.keyData = keyData

variable {keys : List EncryptionKey} {keyId oldKeyId keyData : String}

theorem lookmap_marks {head : EncryptionKey} (same : head.keyId = oldKeyId)
    (rest : List EncryptionKey) : (head :: rest).lookmap (deactivated oldKeyId) =
      { head with isActive := false } :: rest :=
  List.lookmap_cons_some _ _ (if_pos same)

theorem lookmap_skips {head : EncryptionKey} (different : head.keyId ≠ oldKeyId)
    (rest : List EncryptionKey) : (head :: rest).lookmap (deactivated oldKeyId) =
      head :: rest.lookmap (deactivated oldKeyId) :=
  List.lookmap_cons_none _ _ (if_neg different)

theorem facts_lookmap (oldKeyId : String) (keys : List EncryptionKey) :
    (keys.lookmap (deactivated oldKeyId)).map facts = keys.map facts := by
  refine List.lookmap_map_eq (deactivated oldKeyId) facts (fun key after changed => ?_) keys
  rw [Option.mem_def, deactivated] at changed
  split at changed
  · cases changed
    rfl
  · cases changed

theorem mem_facts_lookmap {key : EncryptionKey} (stored : key ∈ keys) (oldKeyId : String) :
    ∃ after ∈ keys.lookmap (deactivated oldKeyId), facts after = facts key := by
  rw [← List.mem_map, facts_lookmap, List.mem_map]
  exact ⟨key, stored, rfl⟩

def named (keyId : String) (key : EncryptionKey) : Bool := key.keyId = keyId

theorem named_of {key : EncryptionKey} (own : key.keyId = keyId) : named keyId key = true :=
  decide_eq_true own

theorem countP_named_lookmap :
    (keys.lookmap (deactivated oldKeyId)).countP (named keyId) = keys.countP (named keyId) := by
  have counted (list : List EncryptionKey) :
      list.countP (named keyId) = (list.map facts).countP fun fact => fact.1 = keyId := by
    rw [List.countP_map]
    rfl
  rw [counted, counted, facts_lookmap]

theorem eq_of_countP_le_one {key other : EncryptionKey} (single : keys.countP (named keyId) ≤ 1)
    (stored : key ∈ keys) (stored' : other ∈ keys) (own : key.keyId = keyId)
    (own' : other.keyId = keyId) : key = other :=
  Pool.eq_of_countP_le_one single stored stored' (named_of own) (named_of own')

end Keys

section Soundness

def draws (keyId : String) (call : KeyCall) : Bool :=
  call.draw?.any fun draw => draw.keyId = keyId

def hasInserted : Phase → Bool
  | .inserted _ | .generated | .deactivated | .retired => true
  | _ => false

/-- The id and the data of the key that a call has a copy of. -/
def held? : KeyCall → Phase → Option (String × String)
  | call, .found key | call, .caching key => call.lookedUp.map fun keyId => (keyId, key.keyData)
  | call, .holding keyData => call.lookedUp.map fun keyId => (keyId, keyData)
  | _, .inserted key => some (key.keyId, key.keyData)
  | _, _ => none

/-- Every key has its own id, and every copy has the data of its key. -/
structure Sound (pool : KeyPool) : Prop where
  drawn : ∀ keyId, pool.calls.countP (fun call => draws keyId call.input) ≤ 1
  inserted : ∀ keyId, pool.shared.keys.countP (named keyId) =
    pool.calls.countP fun call => draws keyId call.input && hasInserted call.phase
  copied : ∀ time keyId keyData, pool.shared.copies.lookup time keyId = some keyData →
    Stores pool.shared.keys keyId keyData
  held : ∀ call ∈ pool.calls, ∀ keyId keyData,
    held? call.input call.phase = some (keyId, keyData) → Stores pool.shared.keys keyId keyData

theorem Sound.single {pool : KeyPool} (sound : Sound pool) (keyId : String) :
    pool.shared.keys.countP (named keyId) ≤ 1 :=
  (sound.inserted keyId).trans_le ((List.countP_mono_left fun _ _ both =>
    (Bool.and_eq_true_iff.mp both).1).trans (sound.drawn keyId))

section Moving

variable {server after : KeyServer} {call : KeyCall} {phase phase' : Phase}
  {keyId keyData : String}

theorem mem_facts_moves (moves : Moves server call phase after phase') {key : EncryptionKey}
    (stored : key ∈ server.keys) : ∃ kept ∈ after.keys, facts kept = facts key := by
  cases moves with
  | inserts => exact ⟨key, List.mem_append_left _ stored, rfl⟩
  | deactivates oldKeyId => exact mem_facts_lookmap stored oldKeyId
  | _ => exact ⟨key, stored, rfl⟩

theorem Stores.moves (stores : Stores server.keys keyId keyData)
    (moves : Moves server call phase after phase') : Stores after.keys keyId keyData := by
  obtain ⟨key, stored, rfl, rfl⟩ := stores
  obtain ⟨kept, here, same⟩ := mem_facts_moves moves stored
  simp only [facts, Prod.mk.injEq] at same
  exact ⟨kept, here, same.1, same.2.1⟩

theorem countP_keys_moves (moves : Moves server call phase after phase') (keyId : String) :
    after.keys.countP (named keyId) + (if draws keyId call && hasInserted phase then 1 else 0) =
      server.keys.countP (named keyId) +
        (if draws keyId call && hasInserted phase' then 1 else 0) := by
  cases moves with
  | @inserts _ draw own tenantId keyType createdAt =>
    have same : named keyId (newKey tenantId keyType draw createdAt) = draws keyId call := by
      rw [draws, own]
      rfl
    rw [List.countP_append, List.countP_singleton, same]
    simp [hasInserted]
  | deactivates oldKeyId =>
    rw [countP_named_lookmap]
    rfl
  | fails _ early =>
    rcases early with rfl | rfl | ⟨key, rfl⟩ <;> rfl
  | _ => rfl

theorem lookup_redis {command : StringCommand String String} {time : Nat}
    (found : (server.exec (.redis command)).1.copies.lookup time keyId = some keyData) :
    server.copies.lookup time keyId = some keyData ∨
      ∃ seconds, command = .setex keyId seconds keyData :=
  StringCommand.lookup_exec found

theorem lookup_moves (moves : Moves server call phase after phase') {time : Nat}
    (found : after.copies.lookup time keyId = some keyData) :
    server.copies.lookup time keyId = some keyData ∨
      held? call phase = some (keyId, keyData) := by
  cases moves with
  | caches looks key =>
    rcases lookup_redis found with before | ⟨seconds, written⟩
    · exact .inl before
    · cases written
      right
      simp [held?, looks]
  | copies own key =>
    rcases lookup_redis found with before | ⟨seconds, written⟩
    · exact .inl before
    · cases written
      exact .inr rfl
  | retires oldKeyId tenantId draw =>
    rcases lookup_redis found with before | ⟨seconds, written⟩
    · exact .inl before
    · cases written
  | _ => exact .inl found

theorem held_moves (moves : Moves server call phase after phase')
    (holds : held? call phase' = some (keyId, keyData)) :
    held? call phase = some (keyId, keyData) ∨ Stores after.keys keyId keyData ∨
      server.copies.lookup server.now keyId = some keyData := by
  cases moves with
  | hits looks cached =>
    simp only [held?, looks, Option.map_some, Option.some.injEq, Prod.mk.injEq] at holds
    obtain ⟨rfl, rfl⟩ := holds
    exact .inr (.inr cached)
  | finds looks stored =>
    simp only [held?, looks, Option.map_some, Option.some.injEq, Prod.mk.injEq] at holds
    exact .inr (.inl ⟨_, stored, holds⟩)
  | passes | caches => exact .inl holds
  | inserts =>
    simp only [held?, Option.some.injEq, Prod.mk.injEq] at holds
    exact .inr (.inl ⟨_, List.mem_append_right _ (List.mem_singleton_self _), holds⟩)
  | misses | fails | rotates | dates | datesNew | copies | deactivates | retires => cases holds

end Moving

variable {pool pool' : KeyPool} {caller : KeyCallState} {phase' : Phase}

theorem Sound.moves (sound : Sound pool) (goes : pool.Goes caller phase' pool')
    (moves : Moves pool.shared caller.input caller.phase pool'.shared phase') : Sound pool' where
  drawn keyId := (goes.countP_input (draws keyId)).trans_le (sound.drawn keyId)
  inserted keyId := by
    have keys := countP_keys_moves moves keyId
    have calls := goes.countP fun input phase => draws keyId input && hasInserted phase
    have before := sound.inserted keyId
    omega
  copied time keyId keyData found := by
    refine Stores.moves ?_ moves
    rcases lookup_moves moves found with before | held
    · exact sound.copied time keyId keyData before
    · exact sound.held caller goes.member keyId keyData held
  held := by
    refine @Pool.Goes.forall _ _ _ _ _ _ _ _ _ _ goes (fun input phase => ∀ keyId keyData,
      held? input phase = some (keyId, keyData) → Stores pool'.shared.keys keyId keyData) ?_ ?_
    · intro keyId keyData holds
      rcases held_moves moves holds with before | stored | copied
      · exact (sound.held caller goes.member keyId keyData before).moves moves
      · exact stored
      · exact (sound.copied _ keyId keyData copied).moves moves
    · exact fun call here keyId keyData holds =>
        (sound.held call here keyId keyData holds).moves moves

theorem Sound.start {cipher : Cipher} (sound : Sound pool) {input : KeyCall}
    (fresh : Fresh pool (.start input)) :
    Sound (pool.start (host cipher) (fun _ => .start) input) := by
  refine ⟨fun keyId => ?_, fun keyId => ?_, sound.copied, fun call here => ?_⟩
  · change (pool.calls ++ [_]).countP _ ≤ 1
    rw [List.countP_append, List.countP_singleton]
    split
    · rename_i new
      obtain ⟨draw, own, same⟩ := (Option.any_eq_true _ _).mp new
      have none : pool.calls.countP (fun call => draws keyId call.input) = 0 := by
        refine List.countP_eq_zero.mpr fun call here again => ?_
        obtain ⟨other, drawn, same'⟩ := (Option.any_eq_true _ _).mp again
        exact fresh draw own call here other drawn
          ((of_decide_eq_true same').trans (of_decide_eq_true same).symm)
      omega
    · exact sound.drawn keyId
  · refine (sound.inserted keyId).trans ?_
    simp [Pool.start, hasInserted]
  · rcases Pool.mem_start here with there | rfl
    · exact sound.held call there
    · intro keyId key same
      cases same

theorem Sound.change (sound : Sound pool) (now : Nat) :
    Sound { pool with shared := { pool.shared with now } } :=
  ⟨sound.drawn, sound.inserted, sound.copied, sound.held⟩

theorem sound_run (cipher : Cipher) (now : Nat) {events : List (Event Unit Nat KeyCall)}
    (fresh : (machine cipher).Admits Fresh (newPool now) events) :
    ((machine cipher).run (newPool now) events).Respectful discipline
        (fun call phase => ends cipher phase call) ∧
      Sound ((machine cipher).run (newPool now) events) := by
  refine @Pool.invariant _ _ _ _ _ _ _ _ (host cipher) discipline (fun _ => .start)
    (fun call phase => ends cipher phase call) Fresh Sound body_respects ?_ ?_ ?_ _ _ fresh
    (fun _ absent => absurd absent List.not_mem_nil) ⟨?_, ?_, ?_, ?_⟩
  · exact fun pool input sound fresh => sound.start fresh
  · exact fun pool elapsed sound _ => sound.change _
  · intro pool index _ call command next sound _ present _ awaits
    exact ⟨trivial, sound.moves (Pool.goes_resume present) (moves_exec awaits _)⟩
  · exact fun _ => Nat.zero_le _
  · exact fun _ => rfl
  · exact nofun
  · exact fun _ absent => absurd absent List.not_mem_nil

end Soundness

section Decryption

variable {cipher : Cipher} {server : KeyServer} {keyId : String} {data : Ciphertext}

/-- The key has not reached its expiry. -/
def Current (server : KeyServer) (keyId : String) : Prop :=
  ∀ key ∈ server.keys, key.keyId = keyId → server.now < key.expiresAt

/-- A lookup finds a copy of the key in Redis. -/
def Copied (server : KeyServer) (keyId : String) : Prop :=
  ∃ keyData, server.copies.lookup server.now keyId = some keyData ∧ keyData ≠ ""

/-- The key is stored, and no rotation has marked it inactive. -/
def Active (server : KeyServer) (keyId : String) : Prop :=
  ∃ key ∈ server.keys, key.keyId = keyId ∧ key.isActive = true

/-- Running a command of the service alone. -/
def exec (server : KeyServer) (command : KeyCommand) (_ : Unit) : KeyServer × command.Reply :=
  server.exec command

/-- A lookup answers with the data of the one key of the id, or finds no key. -/
theorem getKey_ensures (current : Current server keyId) {keyData : String}
    (only : ∀ key ∈ server.keys, key.keyId = keyId → key.keyData = keyData)
    (copied : ∀ other, server.copies.lookup server.now keyId = some other → other = keyData)
    {number : Nat} :
    (getKey keyId).Ensures exec (fun _ => ())
      (fun _ _ outcome => outcome = .ok (Buffer.ofBase64 keyData) ∧
          (Active server keyId ∨ Copied server keyId) ∨
        outcome = .error "Key not found or inactive" ∧
          ¬ (Active server keyId ∨ Copied server keyId)) number server := by
  have asked : exec server (.redis (.get keyId)) () =
      (server, server.copies.lookup server.now keyId) := rfl
  refine ensures_command_bind asked ?_
  cases cached : (server.copies.lookup server.now keyId).filter (· ≠ "") with
  | some other =>
    obtain ⟨found, nonempty⟩ := Option.filter_eq_some_iff.mp cached
    obtain rfl := copied other found
    exact .inl ⟨rfl, .inr ⟨other, found, of_decide_eq_true nonempty⟩⟩
  | none =>
    have uncopied : ¬ Copied server keyId := by
      rintro ⟨other, found, nonempty⟩
      rw [found, Option.filter_some, decide_eq_true nonempty] at cached
      cases cached
    have searched : exec server (.findOne keyId true) () = (server, server.keys.find? fun key =>
      key.keyId = keyId && (!true || key.isActive)) := rfl
    refine ensures_command_bind searched ?_
    cases found : server.keys.find? fun key => key.keyId = keyId && (!true || key.isActive) with
    | none =>
      refine .inr ⟨rfl, ?_⟩
      rintro (⟨key, stored, own, active⟩ | copy)
      · refine List.find?_eq_none.mp found key stored ?_
        simp [own, active]
      · exact uncopied copy
    | some key =>
      have matching := List.find?_some found
      have stored := List.mem_of_find?_eq_some found
      simp only [Bool.not_true, Bool.false_or, Bool.and_eq_true, decide_eq_true_eq] at matching
      obtain ⟨own, active⟩ := matching
      obtain rfl := only key stored own
      have dated : exec server .newDate () = (server, server.now) := rfl
      refine ensures_command_bind dated ?_
      rw [if_neg (Nat.not_lt.mpr (Nat.le_of_lt (current key stored own)))]
      have written : (exec server (.redis (.setex keyId 3600 key.keyData)) ()).2 = .ok () := rfl
      refine ensures_command_bind (Prod.ext rfl written) ?_
      exact .inl ⟨rfl, .inl ⟨key, stored, own, active⟩⟩

/-- What `decrypt` answers when it runs alone. -/
def decrypted (cipher : Cipher) (server : KeyServer) (keyId : String) (data : Ciphertext) :
    Outcome String :=
  ((decrypt cipher keyId data).run exec (fun _ => ()) 0 server).2

theorem decrypted_eq_iff (current : Current server keyId) {keyData plaintext : String}
    (only : ∀ key ∈ server.keys, key.keyId = keyId → key.keyData = keyData)
    (copied : ∀ other, server.copies.lookup server.now keyId = some other → other = keyData)
    (opens : cipher.decipher (Buffer.ofBase64 keyData) (Buffer.ofBase64 data.iv)
      (Buffer.ofBase64 data.authTag) data.ciphertext = .ok plaintext) :
    decrypted cipher server keyId data = .ok plaintext ↔
      Active server keyId ∨ Copied server keyId := by
  have ensured : (decrypt cipher keyId data).Ensures exec (fun _ => ())
      (fun _ _ outcome => outcome = .ok plaintext ↔ Active server keyId ∨ Copied server keyId)
      0 server := by
    refine ensures_bind ((getKey_ensures current only copied).mono ?_)
    rintro _ _ _ (⟨rfl, holds⟩ | ⟨rfl, fails⟩)
    · dsimp only
      rw [opens]
      exact iff_of_true rfl holds
    · exact iff_of_false nofun fails
  exact (@Program.ensures_iff_run _ _ _ _ _ _ _ _ _ _ fun _ outcome => outcome = .ok plaintext ↔
    Active server keyId ∨ Copied server keyId).mp ensured

/-- In every run, a ciphertext of a key that has not reached its expiry decrypts to its
plaintext exactly when the key is still active or Redis still has its copy. -/
theorem decrypts_iff (cipher : Cipher) (faithful : cipher.Faithful) (now : Nat)
    (events : List (Event Unit Nat KeyCall))
    (fresh : (machine cipher).Admits Fresh (newPool now) events) (index : Nat)
    (keyId plaintext : String) (iv : Buffer) (data : Ciphertext)
    (encrypted : ∃ call, ((machine cipher).run (newPool now) events).calls[index]? = some call ∧
      call.input = .encrypt keyId plaintext iv ∧
        call.program.outcome? = some (.ok (.encrypted data)))
    (current : Current ((machine cipher).run (newPool now) events).shared keyId) :
    decrypted cipher ((machine cipher).run (newPool now) events).shared keyId data = .ok plaintext ↔
      Active ((machine cipher).run (newPool now) events).shared keyId ∨
        Copied ((machine cipher).run (newPool now) events).shared keyId := by
  obtain ⟨respectful, sound⟩ := sound_run cipher now fresh
  generalize (machine cipher).run (newPool now) events = pool at *
  obtain ⟨call, present, input, ended⟩ := encrypted
  have finished := respectful.ends_of_outcome present ended
  rw [input] at finished
  obtain ⟨keyData, data', phase, same, sealed⟩ := finished
  cases same
  have stores : Stores pool.shared.keys keyId keyData := by
    refine sound.held call (List.mem_of_getElem? present) keyId keyData ?_
    rw [input, phase]
    rfl
  obtain ⟨key, stored, rfl, rfl⟩ := stores
  refine decrypted_eq_iff current (fun other here own => ?_) (fun other found => ?_)
    (decipher_sealing faithful sealed)
  · rw [eq_of_countP_le_one (sound.single _) here stored own rfl]
  · obtain ⟨source, here, own, rfl⟩ := sound.copied _ _ _ found
    rw [eq_of_countP_le_one (sound.single _) here stored own rfl]

/-- What `encrypt` has returned in the sample. -/
def sampleData : Ciphertext :=
  ⟨"secret", Buffer.toBase64 [1], Buffer.toBase64 (Buffer.ofBase64 (Buffer.toBase64 [7]) ++ [1])⟩

/-- After a rotation, a ciphertext of the old key no longer decrypts. -/
theorem rotated_key_decrypts_nothing :
    ¬ ∀ (events : List (Event Unit Nat KeyCall)) (index : Nat) (keyId plaintext : String)
      (iv : Buffer) (data : Ciphertext), (machine authenticating).Admits Fresh (newPool 0) events →
      (∃ call, ((machine authenticating).run (newPool 0) events).calls[index]? = some call ∧
        call.input = .encrypt keyId plaintext iv ∧
          call.program.outcome? = some (.ok (.encrypted data))) →
      Current ((machine authenticating).run (newPool 0) events).shared keyId →
      decrypted authenticating ((machine authenticating).run (newPool 0) events).shared keyId
        data = .ok plaintext := by
  intro decrypts
  have current : Current ((machine authenticating).run (newPool 0)
      (sampleEvents ++ rotation)).shared "k" := by
    unfold Current
    decide +kernel
  have opened := decrypts _ 1 "k" "secret" [1] sampleData fresh_rotation ⟨_, rfl, rfl, rfl⟩ current
  exact absurd opened (by decide +kernel)

/-- As long as the key is active, its ciphertext decrypts. -/
theorem active_key_decrypts :
    decrypted authenticating ((machine authenticating).run (newPool 0) sampleEvents).shared "k"
      sampleData = .ok "secret" := by
  refine (decrypts_iff authenticating authenticating_faithful 0 sampleEvents fresh_sample 1 "k"
    "secret" [1] sampleData ⟨_, rfl, rfl, rfl⟩ ?_).mpr (.inl ?_)
  · unfold Current
    decide +kernel
  · unfold Active
    decide +kernel

end Decryption

end Caas.Crypto
