import Caas.Js.OrderedMap
import Caas.Async.Program

/-!
# Redis keys with expiry

The part of a Redis key space that holds one type of values, with the commands on
it. Times are in milliseconds, the arguments and replies of commands in seconds;
`TTL` rounds to the nearest second, so it can answer 0 for a key that still exists.

Key spaces of different prefixes are different maps here.
-/

namespace Redis

open Js OrderedMap

universe u v

/-- A stored value with its time of expiry. -/
structure Entry (ν : Type v) where
  value : ν
  expiresAt : Option Nat := none
deriving DecidableEq

/-- The entry has not expired at `now`. -/
def Entry.live {ν : Type v} (now : Nat) (entry : Entry ν) : Bool := entry.expiresAt.all (now < ·)

/-- Values by key, each with its expiry. -/
abbrev ExpiringMap (κ : Type u) (ν : Type v) := OrderedMap κ (Entry ν)

namespace ExpiringMap

variable {κ : Type u} {ν : Type v} [DecidableEq κ]

/-- The entry of a key that exists at `now`. -/
def liveEntry (map : ExpiringMap κ ν) (now : Nat) (key : κ) : Option (Entry ν) :=
  (get map key).filter (Entry.live now)

/-- The value of a key that exists at `now`. -/
def lookup (map : ExpiringMap κ ν) (now : Nat) (key : κ) : Option ν :=
  (map.liveEntry now key).map (·.value)

/-- The answer of `TTL`. -/
def ttl (map : ExpiringMap κ ν) (now : Nat) (key : κ) : Int :=
  match map.liveEntry now key with
  | none => -2
  | some ⟨_, none⟩ => -1
  | some ⟨_, some expiresAt⟩ => ((expiresAt - now + 500) / 1000 : Nat)

def store (map : ExpiringMap κ ν) (now : Nat) (key : κ) (seconds : Nat) (value : ν) :
    ExpiringMap κ ν :=
  set map key ⟨value, some (now + 1000 * seconds)⟩

/-- Replace the value of a key, keeping the expiry of a key that exists. -/
def replace (map : ExpiringMap κ ν) (now : Nat) (key : κ) (value : ν) : ExpiringMap κ ν :=
  set map key ⟨value, (map.liveEntry now key).bind (·.expiresAt)⟩

/-- Let a key that exists expire in a number of seconds; no time left deletes it. -/
def expire (map : ExpiringMap κ ν) (now : Nat) (key : κ) (seconds : Int) : ExpiringMap κ ν :=
  match map.liveEntry now key with
  | none => map
  | some entry =>
    if seconds ≤ 0 then delete map key
    else set map key ⟨entry.value, some (now + 1000 * seconds.toNat)⟩

variable {map : ExpiringMap κ ν} {now now' : Nat} {key other : κ} {value : ν}

/-- A key that exists later existed before, unchanged. -/
theorem lookup_of_later (later : now ≤ now') (found : map.lookup now' key = some value) :
    map.lookup now key = some value := by
  simp only [lookup, liveEntry, Option.map_eq_some_iff, Option.filter_eq_some_iff] at found ⊢
  obtain ⟨entry, ⟨stored, live⟩, rfl⟩ := found
  refine ⟨entry, ⟨stored, ?_⟩, rfl⟩
  unfold Entry.live at live ⊢
  cases expiry : entry.expiresAt with
  | none => rfl
  | some expiresAt =>
    rw [expiry] at live
    simp only [Option.all_some, decide_eq_true_eq] at live ⊢
    omega

theorem lookup_eq_of_get {τ : Type} {found : Option τ} {stored : τ → ν} {ending : τ → Nat}
    (same : get map key = found.map fun made => ⟨stored made, some (ending made)⟩) :
    map.lookup now key =
      found.bind fun made => if now < ending made then some (stored made) else none := by
  simp only [lookup, liveEntry, same]
  cases found with
  | none => rfl
  | some made => by_cases live : now < ending made <;> simp [Option.filter, Entry.live, live]

theorem lookup_set_of_ne {entry : Entry ν} (different : key ≠ other) :
    lookup (set map key entry) now other = map.lookup now other := by
  simp [lookup, liveEntry, get_set_of_ne map entry different]

theorem lookup_set_self {entry : Entry ν} : lookup (set map key entry) now key =
      if entry.live now then some entry.value else none := by
  simp only [lookup, liveEntry, get_set_self, Option.filter_some]
  split <;> rfl

theorem lookup_store {seconds : Nat} (positive : 0 < seconds) :
    lookup (store map now key seconds value) now other =
      if key = other then some value else map.lookup now other := by
  split
  · rename_i same
    subst same
    have live : now < now + 1000 * seconds := by omega
    rw [store, lookup_set_self]
    exact if_pos (decide_eq_true live)
  · rename_i different
    exact lookup_set_of_ne different

theorem lookup_replace : lookup (replace map now key value) now other =
      if key = other then some value else map.lookup now other := by
  split
  · rename_i same
    subst same
    -- the expiry kept is that of an entry which has not expired
    have live : Entry.live now ⟨value, (map.liveEntry now key).bind (·.expiresAt)⟩ = true := by
      cases found : map.liveEntry now key with
      | none => rfl
      | some entry => exact (Option.filter_eq_some_iff.mp found).2
    rw [replace, lookup_set_self]
    exact if_pos live
  · rename_i different
    exact lookup_set_of_ne different

theorem lookup_delete : lookup (delete map key) now other =
      if key = other then none else map.lookup now other := by
  simp only [lookup, liveEntry, get_delete]
  split <;> rfl

end ExpiringMap

/-- A command on keys that hold strings; the strings are serialised values. -/
inductive StringCommand (κ ν : Type) where
  | get (key : κ)
  | setex (key : κ) (seconds : Int) (value : ν)
  | ttl (key : κ)
  | del (key : κ)

namespace StringCommand

variable {κ ν : Type} [DecidableEq κ]

def Reply : StringCommand κ ν → Type
  | .get _ => Option ν
  | .setex _ _ _ => Except String Unit
  | .ttl _ => Int
  | .del _ => Nat

/-- Execute a command at `now`. -/
def exec (map : ExpiringMap κ ν) (now : Nat) :
    (command : StringCommand κ ν) → ExpiringMap κ ν × command.Reply
  | .get key => (map, map.lookup now key)
  | .setex key seconds value =>
    if 0 < seconds then (map.store now key seconds.toNat value, .ok ())
    else (map, .error "ERR invalid expire time in 'setex' command")
  | .ttl key => (map, map.ttl now key)
  | .del key =>
    (delete map key, if map.lookup now key = none then (0 : Nat) else (1 : Nat))

variable {map : ExpiringMap κ ν} {now : Nat} {key : κ} {value : ν}

/-- Only `SETEX` makes a value visible that was not. -/
theorem lookup_exec {now' : Nat} {command : StringCommand κ ν}
    (found : (exec map now command).1.lookup now' key = some value) :
    map.lookup now' key = some value ∨ ∃ seconds, command = .setex key seconds value := by
  cases command with
  | get other | ttl other => exact .inl found
  | del other =>
    rw [exec, ExpiringMap.lookup_delete] at found
    split at found
    · cases found
    · exact .inl found
  | setex other seconds written =>
    by_cases positive : 0 < seconds
    · simp only [exec, if_pos positive] at found
      by_cases same : other = key
      · subst same
        rw [ExpiringMap.store, ExpiringMap.lookup_set_self] at found
        split at found
        · cases found
          exact .inr ⟨seconds, rfl⟩
        · cases found
      · rw [ExpiringMap.store, ExpiringMap.lookup_set_of_ne same] at found
        exact .inl found
    · simp only [exec, if_neg positive] at found
      exact .inl found

/-- What `SETEX` leaves under the keys. -/
theorem get_setex (map : ExpiringMap κ ν) (now : Nat) (key other : κ) (seconds : Int) (value : ν) :
    OrderedMap.get (exec map now (.setex key seconds value)).1 other =
      if key = other ∧ 0 < seconds then some ⟨value, some (now + 1000 * seconds.toNat)⟩
      else OrderedMap.get map other := by
  by_cases positive : 0 < seconds
  · simp [exec, if_pos positive, ExpiringMap.store, OrderedMap.get_set, and_iff_left positive]
  · rw [if_neg fun both => positive both.2]
    simp [exec, if_neg positive]

/-- What exists after `SETEX`. -/
theorem lookup_setex (map : ExpiringMap κ ν) (now : Nat) (key other : κ) {seconds : Int} (value : ν)
    (positive : 0 < seconds) : (exec map now (.setex key seconds value)).1.lookup now other =
      if key = other then some value else map.lookup now other := by
  simp only [exec, if_pos positive, ExpiringMap.store]
  by_cases same : key = other
  · subst same
    have live : (⟨value, some (now + 1000 * seconds.toNat)⟩ : Entry ν).live now = true := by
      simp only [Entry.live, Option.all_some, decide_eq_true_eq]
      omega
    rw [ExpiringMap.lookup_set_self, if_pos live, if_pos rfl]
  · rw [ExpiringMap.lookup_set_of_ne same, if_neg same]

/-- `SETEX` succeeds when it leaves time to live. -/
theorem setex_succeeds {map : ExpiringMap κ ν} {now : Nat} {key : κ} {seconds : Int} {value : ν}
    (positive : 0 < seconds) : (exec map now (.setex key seconds value)).2 = .ok () := by
  simp only [exec, if_pos positive]
  rfl

/-- A successful `SETEX` leaves only the written value visible. -/
theorem lookup_setex_self {now' : Nat} {seconds : Int} {written : ν}
    (succeeded : (exec map now (.setex key seconds written)).2 = .ok ())
    (found : (exec map now (.setex key seconds written)).1.lookup now' key = some value) :
    value = written := by
  by_cases positive : 0 < seconds
  · simp only [exec, if_pos positive, ExpiringMap.store, ExpiringMap.lookup_set_self] at found
    split at found
    · exact (Option.some.inj found).symm
    · cases found
  · simp only [exec, if_neg positive] at succeeded
    cases succeeded

/-- `SETEX` hides no key that exists. -/
theorem lookup_setex_ne_none {other : κ} {seconds : Int} (found : map.lookup now other ≠ none) :
    (exec map now (.setex key seconds value)).1.lookup now other ≠ none := by
  by_cases positive : 0 < seconds
  · rw [lookup_setex map now key other value positive]
    split
    · exact Option.some_ne_none value
    · exact found
  · simpa only [exec, if_neg positive] using found

end StringCommand

/-- A command on keys that hold sets; a set is listed in insertion order. -/
inductive SetCommand (κ α : Type) where
  | sadd (key : κ) (member : α)
  | smembers (key : κ)
  | expire (key : κ) (seconds : Int)

namespace SetCommand

variable {κ α : Type} [DecidableEq κ] [DecidableEq α]

def Reply : SetCommand κ α → Type
  | .sadd _ _ | .expire _ _ => Nat
  | .smembers _ => List α

/-- Execute a command at `now`. -/
def exec (map : ExpiringMap κ (List α)) (now : Nat) :
    (command : SetCommand κ α) → ExpiringMap κ (List α) × command.Reply
  | .sadd key member =>
    let members := (map.lookup now key).getD []
    if member ∈ members then (map, (0 : Nat))
    else (map.replace now key (members ++ [member]), (1 : Nat))
  | .smembers key => (map, (map.lookup now key).getD [])
  | .expire key seconds =>
    (map.expire now key seconds, if map.lookup now key = none then (0 : Nat) else (1 : Nat))

end SetCommand

end Redis
