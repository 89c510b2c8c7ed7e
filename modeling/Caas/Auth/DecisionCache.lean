import Caas.Async.Pool
import Caas.Redis.ExpiringMap
import Caas.Redis.Glob

/-!
# The cache of authorization decisions

`DecisionCache` over an `LRUCache` in memory and Redis. The code between two awaits works
on the memory alone; each such piece is a command of its own here, so that calls can
interleave where they await Redis. Serialisation is left out: a stored value is the
cached decision itself. The statistics are left out, and the timestamps of the
`LRUCache`, which nothing reads.
-/

namespace Caas.Auth

open Js Async Redis OrderedMap

/-- The `cache` of an `LRUCache`, oldest first, with its `maxSize`. -/
structure LRUCache (α : Type) where
  maxSize : Int
  cache : OrderedMap String α

namespace LRUCache

variable {α : Type}

/-- `new LRUCache(maxSize)`. -/
def new (maxSize : Int) : LRUCache α := ⟨maxSize, .empty⟩

/-- A value that is read becomes the most recently used. -/
def get (lru : LRUCache α) (key : String) : LRUCache α × Option α :=
  match OrderedMap.get lru.cache key with
  | none => (lru, none)
  | some value =>
    ({ lru with cache := OrderedMap.set (OrderedMap.delete lru.cache key) key value }, some value)

/-- Delete the oldest entry of a cache that is full. -/
def evict (maxSize : Int) (cache : OrderedMap String α) : OrderedMap String α :=
  if maxSize ≤ cache.size then
    match cache.entries.head? with
    | some oldest => delete cache oldest.1
    | none => cache
  else cache

def set (lru : LRUCache α) (key : String) (value : α) : LRUCache α :=
  { lru with
    cache := OrderedMap.set (evict lru.maxSize (OrderedMap.delete lru.cache key)) key value }

def clear (lru : LRUCache α) : LRUCache α := { lru with cache := .empty }

variable {lru : LRUCache α} {key other : String} {value found : α}

theorem get_cache_get (key other : String) :
    OrderedMap.get (lru.get key).1.cache other = OrderedMap.get lru.cache other := by
  unfold get
  cases stored : OrderedMap.get lru.cache key with
  | none => rfl
  | some value =>
    rw [OrderedMap.get_set]
    split
    · next same => rw [← same, stored]
    · next different => rw [OrderedMap.get_delete, if_neg different]

theorem get_get (key : String) : (lru.get key).2 = OrderedMap.get lru.cache key := by
  unfold get
  cases OrderedMap.get lru.cache key <;> rfl

theorem get_evict {maxSize : Int} {cache : OrderedMap String α}
    (stored : OrderedMap.get (evict maxSize cache) other = some found) :
    OrderedMap.get cache other = some found := by
  unfold evict at stored
  split at stored
  · split at stored
    · rw [OrderedMap.get_delete] at stored
      split at stored
      · cases stored
      · exact stored
    · exact stored
  · exact stored

theorem get_cache_set (stored : OrderedMap.get (lru.set key value).cache other = some found) :
    key = other ∧ found = value ∨ OrderedMap.get lru.cache other = some found := by
  unfold set at stored
  rw [OrderedMap.get_set] at stored
  split at stored
  · next same => exact .inl ⟨same, (Option.some.inj stored).symm⟩
  · next different =>
    have kept := get_evict stored
    rw [OrderedMap.get_delete, if_neg different] at kept
    exact .inr kept

end LRUCache

structure CacheKeyComponents where
  tenantId : String
  userId : String
  resourceType : String
  resourceId : Option String
  action : String
deriving DecidableEq

/-- What an invalidation is about; an empty id counts as none. -/
structure InvalidationPattern where
  tenantId : Option String := none
  userId : Option String := none
  resourceType : Option String := none
  resourceId : Option String := none
deriving DecidableEq

structure CachedDecision (Decision : Type) where
  decision : Decision
  cachedAt : Nat
  ttl : Int
deriving DecidableEq

structure DecisionCacheSettings where
  l1MaxSize : Int := 1000
  defaultTTL : Int := 60

structure DecisionStore (Decision : Type) where
  now : Nat
  l1 : LRUCache (CachedDecision Decision)
  l2 : ExpiringMap String (CachedDecision Decision)

def DecisionStore.new (Decision : Type) (settings : DecisionCacheSettings) (now : Nat) :
    DecisionStore Decision := ⟨now, .new settings.l1MaxSize, .empty⟩

/-- What the methods of the cache await, and what they do in between. -/
inductive CacheCommand (Decision : Type) where
  | lookupL1 (key : String)
  | promote (key : String) (cached : CachedDecision Decision)
  | storeL1 (key : String) (decision : Decision) (ttl : Option Int)
  | clearL1
  | l2 (command : StringCommand String (CachedDecision Decision))
  | keys (pattern : String)
  | del (keys : List String)

namespace CacheCommand

variable {Decision : Type}

/-- The reply of a command; of a piece of code, what it goes on with. -/
def Reply : CacheCommand Decision → Type
  | .lookupL1 _ | .promote _ _ => Option Decision
  | .storeL1 _ _ _ => CachedDecision Decision
  | .clearL1 => Unit
  | .l2 command => command.Reply
  | .keys _ => List String
  | .del _ => Nat

end CacheCommand

namespace DecisionCache

variable {Decision : Type}

def nonEmpty (text : Option String) : Option String := text.filter (· ≠ "")

def generateKey (components : CacheKeyComponents) : String :=
  "authz:" ++ components.tenantId ++ ":" ++ components.userId ++ ":" ++ components.resourceType ++
    ":" ++ (nonEmpty components.resourceId).getD "*" ++ ":" ++ components.action

def generatePatternKey (pattern : InvalidationPattern) : String :=
  "authz" ++ ":" ++ (nonEmpty pattern.tenantId).getD "*" ++ ":" ++
    (nonEmpty pattern.userId).getD "*" ++ ":" ++ (nonEmpty pattern.resourceType).getD "*" ++ ":" ++
    (nonEmpty pattern.resourceId).getD "*"

/-- The age, in seconds, is above the time to live. -/
def isExpired (now : Nat) (cached : CachedDecision Decision) : Bool :=
  1000 * cached.ttl < (now : Int) - cached.cachedAt

/-- What `KEYS` answers. -/
def matching (store : DecisionStore Decision) (pattern : String) : List String :=
  (store.l2.entries.map Prod.fst).filter fun key =>
    Glob.glob pattern key && (store.l2.lookup store.now key).isSome

/-- Execute a command. A missing time to live, and zero, are the default. -/
def exec (settings : DecisionCacheSettings) (store : DecisionStore Decision) :
    (command : CacheCommand Decision) → DecisionStore Decision × command.Reply
  | .lookupL1 key =>
    let (l1, found) := store.l1.get key
    ({ store with l1 }, (found.filter fun cached => !isExpired store.now cached).map (·.decision))
  | .promote key cached =>
    if isExpired store.now cached then (store, none)
    else ({ store with l1 := store.l1.set key cached }, some cached.decision)
  | .storeL1 key decision ttl =>
    let cached : CachedDecision Decision :=
      { decision, cachedAt := store.now, ttl := (ttl.filter (· ≠ 0)).getD settings.defaultTTL }
    ({ store with l1 := store.l1.set key cached }, cached)
  | .clearL1 => ({ store with l1 := store.l1.clear }, ())
  | .l2 command =>
    let (l2, reply) := command.exec store.l2 store.now
    ({ store with l2 }, reply)
  | .keys pattern => (store, matching store pattern)
  | .del keys =>
    ({ store with l2 := keys.foldl delete store.l2 },
      (keys.filter fun key => (store.l2.lookup store.now key).isSome).length)

/-- An `async` method of the cache. -/
abbrev CacheProgram (Decision : Type) :=
  Program (CacheCommand Decision) CacheCommand.Reply

/-- `await`, or the code up to the next one. -/
def await (command : CacheCommand Decision) : CacheProgram Decision command.Reply :=
  Program.command command

def get (components : CacheKeyComponents) : CacheProgram Decision (Option Decision) := do
  let key := generateKey components
  let l1Result : Option Decision ← await (.lookupL1 key)
  match l1Result with
  | some decision => return some decision
  | none =>
    let l2Result : Option (CachedDecision Decision) ← await (.l2 (.get key))
    match l2Result with
    | none => return none
    | some cached => await (.promote key cached)

/-- A rejected write is only logged. -/
def set (components : CacheKeyComponents) (decision : Decision) (ttl : Option Int) :
    CacheProgram Decision (Option Decision) := do
  let key := generateKey components
  let cached : CachedDecision Decision ← await (.storeL1 key decision ttl)
  let _ ← await (.l2 (.setex key cached.ttl cached))
  return none

/-- Without a pattern only the memory is cleared. -/
def invalidate (pattern : Option InvalidationPattern) :
    CacheProgram Decision (Option Decision) := do
  let _ ← await .clearL1
  match pattern with
  | none => return none
  | some pattern =>
    let keys : List String ← await (.keys (generatePatternKey pattern ++ "*"))
    if keys.length > 0 then
      let _ ← await (.del keys)
    return none

inductive CacheCall (Decision : Type) where
  | get (components : CacheKeyComponents)
  | set (components : CacheKeyComponents) (decision : Decision) (ttl : Option Int)
  | invalidate (pattern : Option InvalidationPattern)
deriving DecidableEq

/-- What a call runs; only `get` has a result. -/
def body : CacheCall Decision → CacheProgram Decision (Option Decision)
  | .get components => get components
  | .set components decision ttl => set components decision ttl
  | .invalidate pattern => invalidate pattern

/-- Concurrent calls; outside of them only time passes, by a number of milliseconds. -/
def host (settings : DecisionCacheSettings) :
    Host (DecisionStore Decision) (CacheCommand Decision) CacheCommand.Reply Unit Nat
      (CacheCall Decision) (Option Decision) where
  exec store command _ := exec settings store command
  change store elapsed := { store with now := store.now + elapsed }
  body := body

/-- The ids that a pattern names are those of the key. -/
def Matches (pattern : InvalidationPattern) (components : CacheKeyComponents) : Prop :=
  (∀ id ∈ nonEmpty pattern.tenantId, id = components.tenantId) ∧
    (∀ id ∈ nonEmpty pattern.userId, id = components.userId) ∧
      (∀ id ∈ nonEmpty pattern.resourceType, id = components.resourceType) ∧
        ∀ id ∈ nonEmpty pattern.resourceId, nonEmpty components.resourceId = some id

/-- A text that pattern keys take as it stands. -/
def PlainId (id : Option String) : Prop := ∀ text ∈ nonEmpty id, Glob.Plain text.toList

theorem covers_id {id : Option String} {text : String} (plain : PlainId id)
    (named : ∀ other ∈ nonEmpty id, other = text) :
    Glob.Covers ((nonEmpty id).getD "*").toList text.toList := by
  cases given : nonEmpty id with
  | none => exact Glob.Covers.star text.toList
  | some other =>
    obtain rfl := named other given
    exact Glob.Covers.self (plain other given)

theorem glob_of_matches {pattern : InvalidationPattern} {components : CacheKeyComponents}
    (tenantId : PlainId pattern.tenantId) (userId : PlainId pattern.userId)
    (resourceType : PlainId pattern.resourceType) (resourceId : PlainId pattern.resourceId)
    (same : Matches pattern components) :
    Glob.glob (generatePatternKey pattern ++ "*") (generateKey components) = true := by
  have resource : Glob.Covers ((nonEmpty pattern.resourceId).getD "*").toList
      ((nonEmpty components.resourceId).getD "*").toList := by
    refine covers_id resourceId fun other given => ?_
    rw [same.2.2.2 other given, Option.getD_some]
  have colon : Glob.Covers ":".toList ":".toList := Glob.Covers.self (by simp [Glob.Plain])
  have authz : Glob.Covers "authz".toList "authz".toList := Glob.Covers.self (by simp [Glob.Plain])
  have whole := authz.append (colon.append ((covers_id tenantId same.1).append (colon.append
    ((covers_id userId same.2.1).append (colon.append ((covers_id resourceType same.2.2.1).append
      (colon.append (resource.append (Glob.Covers.star (":" ++ components.action).toList)))))))))
  have fit := whole.fit
  unfold Glob.glob generatePatternKey generateKey
  simpa [String.toList_append, List.append_assoc] using fit

end DecisionCache

end Caas.Auth
