import Caas.Auth.DecisionCache

/-!
# What survives the invalidation of a decision

One invalidation is watched, and the decisions for one key. A decision is fresh when a
`set` that had not completed when the invalidation started stores it; every other one
should be gone when the invalidation has completed. It is not when Redis keeps it, or when
a `get` that has read it from Redis brings it back to the memory. If neither happens, only
fresh decisions are returned from then on.
-/

namespace Caas.Auth.DecisionCache

open Js Async Program Redis ExpiringMap OrderedMap

variable {Decision : Type}

/-- Where a call stands: a `get` waits for Redis or holds its answer, a `set` has stored in
memory, an invalidation has cleared the memory or listed the keys to delete. -/
inductive Phase (Decision : Type) where
  | start
  | asked
  | holding (cached : CachedDecision Decision)
  | storing (cached : CachedDecision Decision)
  | cleared
  | listed (keys : List String)
  | finished (result : Option Decision)
deriving DecidableEq

/-- An invalidation has cleared the memory and is not completed. -/
def Phase.working : Phase Decision → Bool
  | .cleared | .listed _ => true
  | _ => false

def nextPhase : CacheCall Decision → Phase Decision → (command : CacheCommand Decision) →
    command.Reply → Phase Decision
  | _, .start, .lookupL1 _, (reply : Option Decision) =>
    match reply with
    | some decision => .finished (some decision)
    | none => .asked
  | _, .asked, .l2 (.get _), (reply : Option (CachedDecision Decision)) =>
    match reply with
    | some cached => .holding cached
    | none => .finished none
  | _, .holding _, .promote _ _, (reply : Option Decision) => .finished reply
  | _, .start, .storeL1 _ _ _, (cached : CachedDecision Decision) => .storing cached
  | _, .storing _, .l2 _, _ => .finished none
  | .invalidate (some _), .start, .clearL1, _ => .cleared
  | _, .start, .clearL1, _ => .finished none
  | _, .cleared, .keys _, (keys : List String) =>
    if keys.length > 0 then .listed keys else .finished none
  | _, .listed _, .del _, _ => .finished none
  | _, phase, _, _ => phase

inductive Awaits : CacheCall Decision → Phase Decision → CacheCommand Decision → Prop where
  | lookup (components : CacheKeyComponents) :
      Awaits (.get components) .start (.lookupL1 (generateKey components))
  | ask (components : CacheKeyComponents) :
      Awaits (.get components) .asked (.l2 (.get (generateKey components)))
  | promote (components : CacheKeyComponents) (cached : CachedDecision Decision) :
      Awaits (.get components) (.holding cached) (.promote (generateKey components) cached)
  | store (components : CacheKeyComponents) (decision : Decision) (ttl : Option Int) :
      Awaits (.set components decision ttl) .start
        (.storeL1 (generateKey components) decision ttl)
  | write (components : CacheKeyComponents) (cached : CachedDecision Decision)
      (ttl : Option Int) :
      Awaits (.set components cached.decision ttl) (.storing cached)
        (.l2 (.setex (generateKey components) cached.ttl cached))
  | clear (pattern : Option InvalidationPattern) : Awaits (.invalidate pattern) .start .clearL1
  | list (pattern : InvalidationPattern) :
      Awaits (.invalidate (some pattern)) .cleared (.keys (generatePatternKey pattern ++ "*"))
  | delete (pattern : InvalidationPattern) (keys : List String) :
      Awaits (.invalidate (some pattern)) (.listed keys) (.del keys)

/-- The calls await what their phases say, and replies are about what was asked. -/
def discipline (call : CacheCall Decision) :
    Discipline (CacheCommand Decision) CacheCommand.Reply (Phase Decision) where
  next := nextPhase call
  may := Awaits call
  assumes
    | .storeL1 _ decision _, (cached : CachedDecision Decision) => cached.decision = decision
    | _, _ => True

def ends (_call : CacheCall Decision) (phase : Phase Decision)
    (outcome : Outcome (Option Decision)) : Prop :=
  ∃ result, outcome = .ok result ∧ phase = .finished result

theorem body_respects (call : CacheCall Decision) :
    (body call).Respects (discipline call) (ends call) .start := by
  cases call with
  | get components =>
    refine respects_command_bind (.lookup components)
      fun (found : Option Decision) _ after moved => ?_
    cases found with
    | some decision => exact ⟨some decision, rfl, moved.symm⟩
    | none =>
      obtain rfl : Phase.asked = after := moved
      refine respects_command_bind (.ask components)
        fun (found : Option (CachedDecision Decision)) _ after moved => ?_
      cases found with
      | none => exact ⟨none, rfl, moved.symm⟩
      | some cached =>
        obtain rfl : Phase.holding cached = after := moved
        exact ⟨.promote components cached, fun reply _ => ⟨reply, rfl, rfl⟩⟩
  | set components decision ttl =>
    refine respects_command_bind (.store components decision ttl)
      fun (cached : CachedDecision Decision) stored after moved => ?_
    obtain rfl : Phase.storing cached = after := moved
    obtain rfl : cached.decision = decision := stored
    exact ⟨.write components cached ttl, fun reply _ => ⟨none, rfl, rfl⟩⟩
  | invalidate pattern =>
    refine respects_command_bind (.clear pattern) fun _ _ after moved => ?_
    cases pattern with
    | none => exact ⟨none, rfl, moved.symm⟩
    | some pattern =>
      obtain rfl : Phase.cleared = after := moved
      refine respects_command_bind (.list pattern)
        fun (keys : List String) _ after moved => ?_
      by_cases some_key : keys.length > 0
      · obtain rfl : Phase.listed keys = after := (if_pos some_key).symm.trans moved
        simp only [some_key, if_true]
        exact ⟨.delete pattern keys, fun reply _ => ⟨none, rfl, rfl⟩⟩
      · obtain rfl : Phase.finished none = after := (if_neg some_key).symm.trans moved
        simp only [some_key, if_false]
        exact ⟨none, rfl, rfl⟩

abbrev CachePool (Decision : Type) :=
  Pool (DecisionStore Decision) (CacheCommand Decision) CacheCommand.Reply (CacheCall Decision)
    (Phase Decision) (Option Decision)

abbrev CacheEvent (Decision : Type) := Event Unit Nat (CacheCall Decision)

def machine (settings : DecisionCacheSettings) :
    Transducer (CachePool Decision) (CacheEvent Decision) Unit :=
  Pool.machine (host settings) discipline fun _ => .start

def newPool (settings : DecisionCacheSettings) (now : Nat) : CachePool Decision :=
  ⟨.new Decision settings now, []⟩

abbrev CacheCallState (Decision : Type) :=
  Call (CacheCommand Decision) CacheCommand.Reply (CacheCall Decision) (Phase Decision)
    (Option Decision)

/-- The call at `index` has ended. -/
def hasEnded (pool : CachePool Decision) (index : Nat) : Bool := (pool.outcome? index).isSome

theorem not_awaits_finished {call : CacheCall Decision} {result : Option Decision}
    {command : CacheCommand Decision} : ¬ Awaits call (.finished result) command := nofun

section Watching

variable [DecidableEq Decision] (ended : Nat → Bool) (key : String)

def stores (decision : Decision) : CacheCall Decision → Bool
  | .set components stored _ => stored = decision && generateKey components = key
  | _ => false

def reads : CacheCall Decision → Bool
  | .get components => generateKey components = key
  | _ => false

/-- A `set` outside `ended` stores the decision for the key. -/
def Fresh (pool : CachePool Decision) (decision : Decision) : Prop :=
  ∃ entry ∈ pool.calls.zipIdx, ended entry.2 = false ∧ stores key decision entry.1.input = true

/-- What a `get` for the key has been answered by Redis and not yet promoted. -/
def held (call : CacheCallState Decision) : Option (CachedDecision Decision) :=
  match call.input, call.phase with
  | .get components, .holding cached => if generateKey components = key then some cached else none
  | _, _ => none

/-- What Redis holds for the key and a `get` would take. -/
def readable (store : DecisionStore Decision) : Option (CachedDecision Decision) :=
  (store.l2.lookup store.now key).filter fun cached => !isExpired store.now cached

/-- The condition on a command of the call at `index`, when the one at `watched` is the
invalidation. When it clears the memory no `get` for the key holds an answer that is not
fresh, and without a pattern Redis has no such answer to give; from then until it has
completed no `get` reads one. -/
def CarefulCommand (watched : Nat) (pool : CachePool Decision) (index : Nat)
    (call : CacheCallState Decision) : CacheCommand Decision → Prop
  | .clearL1 => index = watched →
      (∀ other ∈ pool.calls, ∀ cached ∈ held key other, isExpired pool.shared.now cached = false →
        Fresh ended key pool cached.decision) ∧
      (call.input = .invalidate none → ∀ cached ∈ readable key pool.shared,
        Fresh ended key pool cached.decision)
  | .l2 (.get other) => other = key →
      ∀ invalidation ∈ pool.calls[watched]?, invalidation.phase.working = true →
        ∀ cached ∈ readable key pool.shared, Fresh ended key pool cached.decision
  | _ => True

def Careful (watched : Nat) (pool : CachePool Decision) : CacheEvent Decision → Prop
  | .run index _ => ∀ awaiting ∈ pool.awaited? index,
      CarefulCommand ended key watched pool index awaiting.1 awaiting.2
  | _ => True

end Watching

section Execution

variable {settings : DecisionCacheSettings} {store : DecisionStore Decision} {key : String}
  {cached : CachedDecision Decision}

theorem isExpired_later {now now' : Nat} (later : now ≤ now')
    (unexpired : isExpired now' cached = false) : isExpired now cached = false := by
  simp only [isExpired, decide_eq_false_iff_not] at unexpired ⊢
  omega

theorem mem_readable : cached ∈ readable key store ↔
    store.l2.lookup store.now key = some cached ∧ isExpired store.now cached = false := by
  simp [readable, Option.filter_eq_some_iff]

theorem readable_later {elapsed : Nat}
    (found : cached ∈ readable key { store with now := store.now + elapsed }) :
    cached ∈ readable key store := by
  obtain ⟨stored, unexpired⟩ := mem_readable.mp found
  exact mem_readable.mpr ⟨lookup_of_later (Nat.le_add_right _ _) stored,
    isExpired_later (Nat.le_add_right _ _) unexpired⟩

theorem exec_promote (settings : DecisionCacheSettings) (store : DecisionStore Decision)
    (key : String) (cached : CachedDecision Decision) : isExpired store.now cached = true ∧
        exec settings store (.promote key cached) = (store, (none : Option Decision)) ∨
      isExpired store.now cached = false ∧ exec settings store (.promote key cached) =
          ({ store with l1 := store.l1.set key cached }, some cached.decision) := by
  cases expired : isExpired store.now cached with
  | true => exact .inl ⟨rfl, if_pos expired⟩
  | false => exact .inr ⟨rfl, if_neg (by simp [expired])⟩

theorem assumes_exec (settings : DecisionCacheSettings) (store : DecisionStore Decision)
    (call : CacheCall Decision) (command : CacheCommand Decision) :
    (discipline call).assumes command (exec settings store command).2 := by
  cases command <;> first | rfl | trivial

theorem now_exec (store : DecisionStore Decision) (command : CacheCommand Decision) :
    (exec settings store command).1.now = store.now := by
  cases command with
  | promote key cached =>
    obtain ⟨-, same⟩ | ⟨-, same⟩ := exec_promote settings store key cached <;> rw [same]
  | _ => rfl

theorem mem_matching {pattern : String} (matches' : Glob.glob pattern key = true)
    (found : cached ∈ readable key store) : key ∈ matching store pattern := by
  obtain ⟨stored, -⟩ := mem_readable.mp found
  obtain ⟨entry, live, -⟩ := Option.map_eq_some_iff.mp stored
  obtain ⟨present, -⟩ := Option.filter_eq_some_iff.mp live
  have listed : key ∈ store.l2.entries.map Prod.fst :=
    List.mem_map.mpr ⟨(key, entry), get_eq_some_iff.mp present, rfl⟩
  exact List.mem_filter.mpr ⟨listed, by simp [matches', stored]⟩

theorem lookup_foldl_delete {map : ExpiringMap String (CachedDecision Decision)} {now : Nat}
    (keys : List String) : lookup (keys.foldl delete map) now key =
      if key ∈ keys then none else map.lookup now key := by
  induction keys generalizing map with
  | nil => simp
  | cons first rest ih =>
    rw [List.foldl_cons, ih, lookup_delete]
    by_cases member : key ∈ rest
    · simp [member]
    · simp [member, eq_comm]

theorem readable_del (settings : DecisionCacheSettings) {keys : List String}
    (found : cached ∈ readable key (exec settings store (.del keys)).1) :
    key ∉ keys ∧ cached ∈ readable key store := by
  obtain ⟨stored, unexpired⟩ := mem_readable.mp found
  rw [show (exec settings store (.del keys)).1.l2 =
    keys.foldl delete store.l2 from rfl, lookup_foldl_delete] at stored
  split at stored
  · cases stored
  · next remains => exact ⟨remains, mem_readable.mpr ⟨stored, unexpired⟩⟩

theorem lookup_answers {input : CacheCall Decision} {decision : Decision}
    (moved : nextPhase input .start (.lookupL1 key) (exec settings store (.lookupL1 key)).2 =
      .finished (some decision)) :
    ∃ cached, OrderedMap.get store.l1.cache key = some cached ∧ cached.decision = decision := by
  have reply : (exec settings store (.lookupL1 key)).2 =
      ((OrderedMap.get store.l1.cache key).filter fun cached => !isExpired store.now cached).map
        (·.decision) := by
    rw [← LRUCache.get_get]
    rfl
  rw [reply] at moved
  cases found : OrderedMap.get store.l1.cache key with
  | none =>
    rw [found] at moved
    cases moved
  | some cached =>
    refine ⟨cached, rfl, ?_⟩
    rw [found, Option.filter_some] at moved
    split at moved <;> cases moved
    rfl

end Execution

section Steps

variable [DecidableEq Decision] {ended : Nat → Bool} {key : String}
  {pool pool' : CachePool Decision} {settings : DecisionCacheSettings} {decision : Decision}

theorem fresh_iff : Fresh ended key pool decision ↔
    ∃ index call, pool.calls[index]? = some call ∧ ended index = false ∧
      stores key decision call.input = true := by
  constructor
  · rintro ⟨⟨call, index⟩, member, outside, stored⟩
    exact ⟨index, call, List.mem_zipIdx_iff_getElem?.mp member, outside, stored⟩
  · rintro ⟨index, call, present, outside, stored⟩
    exact ⟨(call, index), List.mem_zipIdx_iff_getElem?.mpr present, outside, stored⟩

/-- The calls of a pool are still there, on the same inputs. -/
def Extends (pool pool' : CachePool Decision) : Prop :=
  ∀ (index : Nat) (call : CacheCallState Decision), pool.calls[index]? = some call →
    ∃ call', pool'.calls[index]? = some call' ∧ call'.input = call.input

theorem Fresh.extend (fresh : Fresh ended key pool decision) (extended : Extends pool pool') :
    Fresh ended key pool' decision := by
  obtain ⟨index, call, present, outside, stored⟩ := fresh_iff.mp fresh
  obtain ⟨call', present', same⟩ := extended index call present
  exact fresh_iff.mpr ⟨index, call', present', outside, same ▸ stored⟩

omit [DecidableEq Decision] in
theorem extends_start (pool : CachePool Decision) (input : CacheCall Decision) :
    Extends pool (pool.start (host settings) (fun _ => .start) input) := by
  intro index call present
  obtain ⟨bound, -⟩ := List.getElem?_eq_some_iff.mp present
  exact ⟨call, (List.getElem?_append_left bound).trans present, rfl⟩

variable {index : Nat} {call : CacheCallState Decision} {command : CacheCommand Decision}
  {cached : CachedDecision Decision}

omit [DecidableEq Decision] in
theorem extends_resume {next : command.Reply → CacheProgram Decision _}
    {effect : DecisionStore Decision × command.Reply} (present : pool.calls[index]? = some call) :
    Extends pool (pool.resume discipline index call command next effect) := by
  intro other call' present'
  rw [Pool.getElem?_resume present]
  by_cases same : index = other
  · subst same
    cases present.symm.trans present'
    exact ⟨_, if_pos rfl, rfl⟩
  · exact ⟨call', (if_neg same).trans present', rfl⟩

theorem readable_exec (present : pool.calls[index]? = some call) (outside : ended index = false)
    (awaits : Awaits call.input call.phase command)
    (found : cached ∈ readable key (exec settings pool.shared command).1) :
    cached ∈ readable key pool.shared ∨ Fresh ended key pool cached.decision := by
  obtain ⟨stored, unexpired⟩ := mem_readable.mp found
  rw [now_exec] at stored unexpired
  have before (same : (exec settings pool.shared command).1.l2 = pool.shared.l2) :
      cached ∈ readable key pool.shared :=
    mem_readable.mpr ⟨same ▸ stored, unexpired⟩
  obtain ⟨input, phase, program⟩ := call
  cases awaits with
  | lookup | ask | store | clear | list => exact .inl (before rfl)
  | promote components held =>
    left
    obtain ⟨-, same⟩ | ⟨-, same⟩ :=
      exec_promote settings pool.shared (generateKey components) held
    · exact before (by rw [same])
    · exact before (by rw [same])
  | write components written ttl =>
    have stored : (StringCommand.exec pool.shared.l2 pool.shared.now
        (.setex (generateKey components) written.ttl written)).1.lookup pool.shared.now key =
          some cached := stored
    obtain kept | ⟨seconds, same⟩ := StringCommand.lookup_exec stored
    · exact .inl (mem_readable.mpr ⟨kept, unexpired⟩)
    · right
      cases same
      exact fresh_iff.mpr ⟨index, _, present, outside, by simp [stores]⟩
  | delete pattern keys => exact .inl (readable_del settings found).2

/-- A call that awaits a command adds to the memory decisions that are fresh if those that
are held are. -/
theorem l1_exec (present : pool.calls[index]? = some call) (outside : ended index = false)
    (awaits : Awaits call.input call.phase command)
    (holds : ∀ cached ∈ held key call, isExpired pool.shared.now cached = false →
      Fresh ended key pool cached.decision)
    (found : OrderedMap.get (exec settings pool.shared command).1.l1.cache key = some cached) :
    OrderedMap.get pool.shared.l1.cache key = some cached ∨
      Fresh ended key pool cached.decision := by
  obtain ⟨input, phase, program⟩ := call
  cases awaits with
  | ask | write | list | delete => exact .inl found
  | lookup components => exact .inl ((LRUCache.get_cache_get _ key).symm.trans found)
  | clear => cases found
  | promote components held =>
    obtain ⟨-, same⟩ | ⟨unexpired, same⟩ :=
      exec_promote settings pool.shared (generateKey components) held
    · rw [same] at found
      exact .inl found
    · rw [same] at found
      obtain ⟨own, rfl⟩ | kept := LRUCache.get_cache_set found
      · exact .inr (holds cached (by simp [DecisionCache.held, own]) unexpired)
      · exact .inl kept
  | store components decision ttl =>
    obtain ⟨own, rfl⟩ | kept := LRUCache.get_cache_set found
    · exact .inr (fresh_iff.mpr ⟨index, _, present, outside, by simp [stores, own]⟩)
    · exact .inl kept

omit [DecidableEq Decision] in
theorem held_iff : cached ∈ held key call ↔ ∃ components, call.input = .get components ∧
      call.phase = .holding cached ∧ generateKey components = key := by
  obtain ⟨input, phase, program⟩ := call
  cases input with
  | set | invalidate => simp [held]
  | get components =>
    cases phase with
    | holding other =>
      by_cases own : generateKey components = key
      · simp [held, own]
      · simp [held, own]
    | _ => simp [held]

omit [DecidableEq Decision] in
/-- A call holds what Redis has just answered. -/
theorem nextPhase_holding {input : CacheCall Decision} {phase : Phase Decision}
    {store : DecisionStore Decision} {components : CacheKeyComponents}
    (awaits : Awaits input phase command) (reads : input = .get components)
    (moved : nextPhase input phase command (exec settings store command).2 = .holding cached) :
    command = .l2 (.get (generateKey components)) ∧
      store.l2.lookup store.now (generateKey components) = some cached := by
  subst reads
  cases awaits with
  | promote => cases moved
  | lookup =>
    generalize (exec settings store (.lookupL1 (generateKey components))).2 = reply at moved
    cases reply <;> cases moved
  | ask =>
    refine ⟨rfl, ?_⟩
    change (match store.l2.lookup store.now (generateKey components) with
      | some cached => Phase.holding cached
      | none => .finished none) = _ at moved
    split at moved
    · next found =>
      cases moved
      exact found
    · cases moved

omit [DecidableEq Decision] in
/-- What is held after a step was held before, or has just been read from Redis. -/
theorem held_resume {call' : CacheCallState Decision}
    {next : command.Reply → CacheProgram Decision _} (present : pool.calls[index]? = some call)
    (awaits : Awaits call.input call.phase command)
    (member : call' ∈ (pool.resume discipline index call command next
      (exec settings pool.shared command)).calls) (holds : cached ∈ held key call') :
    (∃ other ∈ pool.calls, cached ∈ held key other) ∨
      command = .l2 (.get key) ∧ pool.shared.l2.lookup pool.shared.now key = some cached := by
  obtain ⟨other, present'⟩ := List.getElem?_of_mem member
  rw [Pool.getElem?_resume present] at present'
  split at present'
  · cases present'
    right
    obtain ⟨components, input, phase, own⟩ := held_iff.mp holds
    obtain ⟨same, found⟩ := nextPhase_holding awaits input phase
    exact ⟨own ▸ same, own ▸ found⟩
  · exact .inl ⟨call', List.mem_of_getElem? present', holds⟩

end Steps

section Runs

variable [DecidableEq Decision] (ended settled : Nat → Bool) (key : String)
  (pattern : Option InvalidationPattern) (watched : Nat)

/-- After the memory has been cleared it holds, and calls hold for it, only fresh
decisions. -/
structure Cleaned (pool : CachePool Decision) : Prop where
  l1 : ∀ cached, OrderedMap.get pool.shared.l1.cache key = some cached →
    Fresh ended key pool cached.decision
  inFlight : ∀ call ∈ pool.calls, ∀ cached ∈ held key call,
    isExpired pool.shared.now cached = false → Fresh ended key pool cached.decision

/-- What Redis holds when the invalidation is in the given phase. -/
def Swept (pool : CachePool Decision) : Phase Decision → Prop
  | .listed keys => ∀ cached ∈ readable key pool.shared, key ∉ keys →
      Fresh ended key pool cached.decision
  | .finished _ => ∀ cached ∈ readable key pool.shared, Fresh ended key pool cached.decision
  | _ => True

/-- The invalidation is under way, or finished; then the calls outside `settled` have answered
with fresh decisions only. -/
structure Watched (pool : CachePool Decision) : Prop where
  apart : pool.Apart (ended · = true) fun _ => True
  progress : ∃ call, pool.calls[watched]? = some call ∧ call.input = .invalidate pattern ∧
    (call.phase = .start ∨ Cleaned ended key pool ∧
      (call.phase.working = true ∨ ∃ result, call.phase = .finished result)) ∧
    Swept ended key pool call.phase
  answered : ∀ index, settled index = false →
    (∀ call, pool.calls[watched]? = some call → ∃ result, call.phase = .finished result) ∧
      ∀ call, pool.calls[index]? = some call → ∀ components, call.input = .get components →
        generateKey components = key → ∀ decision, call.phase = .finished (some decision) →
          Fresh ended key pool decision

variable {ended settled key pattern watched} {pool : CachePool Decision}
  {settings : DecisionCacheSettings} {index : Nat} {call : CacheCallState Decision}
  {command : CacheCommand Decision} {next : command.Reply → CacheProgram Decision (Option Decision)}

theorem Cleaned.step {pool' : CachePool Decision} (cleaned : Cleaned ended key pool)
    (extended : Extends pool pool')
    (l1 : ∀ cached, OrderedMap.get pool'.shared.l1.cache key = some cached →
      OrderedMap.get pool.shared.l1.cache key = some cached ∨ Fresh ended key pool cached.decision)
    (holds : ∀ call ∈ pool'.calls, ∀ cached ∈ held key call,
      isExpired pool'.shared.now cached = false → (∃ other ∈ pool.calls, cached ∈ held key other ∧
          isExpired pool.shared.now cached = false) ∨ Fresh ended key pool cached.decision) :
    Cleaned ended key pool' where
  l1 cached found := by
    obtain kept | fresh := l1 cached found
    · exact (cleaned.l1 cached kept).extend extended
    · exact fresh.extend extended
  inFlight call member cached has unexpired := by
    obtain ⟨other, member, has, unexpired⟩ | fresh := holds call member cached has unexpired
    · exact (cleaned.inFlight other member cached has unexpired).extend extended
    · exact fresh.extend extended

theorem Cleaned.resume (cleaned : Cleaned ended key pool) (present : pool.calls[index]? = some call)
    (outside : ended index = false) (awaits : Awaits call.input call.phase command)
    (reads : command = .l2 (.get key) → ∀ cached ∈ readable key pool.shared,
      Fresh ended key pool cached.decision) :
    Cleaned ended key (pool.resume discipline index call command next
      (exec settings pool.shared command)) := by
  refine cleaned.step (extends_resume present) (fun cached found => ?_)
    fun call' member cached has unexpired => ?_
  · have inFlight := cleaned.inFlight call (List.mem_of_getElem? present)
    exact l1_exec present outside awaits inFlight found
  · have unexpired : isExpired pool.shared.now cached = false :=
      now_exec pool.shared command ▸ unexpired
    obtain ⟨other, member, has⟩ | ⟨asks, found⟩ := held_resume present awaits member has
    · exact .inl ⟨other, member, has, unexpired⟩
    · exact .inr (reads asks cached (mem_readable.mpr ⟨found, unexpired⟩))

theorem Swept.step {pool' : CachePool Decision} {phase : Phase Decision}
    (swept : Swept ended key pool phase) (extended : Extends pool pool')
    (reads : ∀ cached ∈ readable key pool'.shared,
      cached ∈ readable key pool.shared ∨ Fresh ended key pool cached.decision) :
    Swept ended key pool' phase := by
  cases phase with
  | listed keys =>
    intro cached found remains
    obtain kept | fresh := reads cached found
    · exact (swept cached kept remains).extend extended
    · exact fresh.extend extended
  | finished result =>
    intro cached found
    obtain kept | fresh := reads cached found
    · exact (swept cached kept).extend extended
    · exact fresh.extend extended
  | _ => trivial

theorem Swept.resume {phase : Phase Decision} (swept : Swept ended key pool phase)
    (present : pool.calls[index]? = some call) (outside : ended index = false)
    (awaits : Awaits call.input call.phase command) :
    Swept ended key (pool.resume discipline index call command next
      (exec settings pool.shared command)) phase :=
  swept.step (extends_resume present) fun _ found => readable_exec present outside awaits found

/-- When the memory has been cleaned a `get` for the key answers with fresh decisions. -/
theorem Cleaned.answers (cleaned : Cleaned ended key pool)
    (present : pool.calls[index]? = some call) (awaits : Awaits call.input call.phase command)
    {components : CacheKeyComponents} (reads : call.input = .get components)
    (own : generateKey components = key) {decision : Decision}
    (moved : nextPhase call.input call.phase command (exec settings pool.shared command).2 =
      .finished (some decision)) : Fresh ended key pool decision := by
  obtain ⟨input, phase, program⟩ := call
  subst reads own
  cases awaits with
  | lookup =>
    obtain ⟨cached, stored, rfl⟩ := lookup_answers moved
    exact cleaned.l1 cached stored
  | ask =>
    change (match pool.shared.l2.lookup pool.shared.now (generateKey components) with
      | some cached => Phase.holding cached
      | none => .finished none) = _ at moved
    split at moved <;> cases moved
  | promote components cached =>
    obtain ⟨-, same⟩ | ⟨unexpired, same⟩ :=
      exec_promote settings pool.shared (generateKey components) cached
    · rw [same] at moved
      cases moved
    · rw [same] at moved
      cases moved
      exact cleaned.inFlight _ (List.mem_of_getElem? present) cached
        (held_iff.mpr ⟨components, rfl, rfl, rfl⟩) unexpired

theorem Watched.start (under : Watched ended settled key pattern watched pool)
    (input : CacheCall Decision) : Watched ended settled key pattern watched
      (pool.start (host settings) (fun _ => .start) input) := by
  have extended : Extends pool (pool.start (host settings) (fun _ => .start) input) :=
    extends_start pool input
  obtain ⟨invalidation, present, given, stands, swept⟩ := under.progress
  obtain ⟨bound, -⟩ := List.getElem?_eq_some_iff.mp present
  have present' : (pool.start (host settings) (fun _ => .start) input).calls[watched]? =
      some invalidation := (List.getElem?_append_left bound).trans present
  refine ⟨under.apart.start trivial, ⟨invalidation, present', given, ?_, ?_⟩, ?_⟩
  · refine stands.imp_right fun ⟨cleaned, running⟩ => ⟨?_, running⟩
    refine cleaned.step extended (fun cached found => .inl found) fun call member cached has
      unexpired => ?_
    obtain earlier | new := List.mem_append.mp member
    · exact .inl ⟨call, earlier, has, unexpired⟩
    · cases List.mem_singleton.mp new
      obtain ⟨-, -, phase, -⟩ := held_iff.mp has
      cases phase
  · exact swept.step extended fun cached found => .inl found
  · intro index unsettled
    obtain ⟨completed, answers⟩ := under.answered index unsettled
    refine ⟨fun call found => completed call (present.trans (present'.symm.trans found)), ?_⟩
    intro call found components reads own decision phase
    obtain earlier | rfl := Pool.getElem?_start found
    · exact (answers call earlier components reads own decision phase).extend extended
    · cases phase

theorem Watched.elapse (under : Watched ended settled key pattern watched pool) (elapsed : Nat) :
    Watched ended settled key pattern watched
      { pool with shared := { pool.shared with now := pool.shared.now + elapsed } } := by
  have extended : Extends pool
      { pool with shared := { pool.shared with now := pool.shared.now + elapsed } } :=
    fun _ call present => ⟨call, present, rfl⟩
  obtain ⟨invalidation, present, given, stands, swept⟩ := under.progress
  refine ⟨under.apart.change _, ⟨invalidation, present, given, ?_, ?_⟩, ?_⟩
  · refine stands.imp_right fun ⟨cleaned, running⟩ => ⟨?_, running⟩
    exact cleaned.step extended (fun cached found => .inl found) fun call member cached has
      unexpired => .inl ⟨call, member, has, isExpired_later (Nat.le_add_right _ _) unexpired⟩
  · exact swept.step extended fun cached found => .inl (readable_later found)
  · intro index unsettled
    obtain ⟨completed, answers⟩ := under.answered index unsettled
    exact ⟨completed, fun call found components reads own decision phase =>
      (answers call found components reads own decision phase).extend extended⟩

theorem Watched.outside (under : Watched ended settled key pattern watched pool)
    (present : pool.calls[index]? = some call) (program : call.program = .await command next) :
    ended index = false := by
  refine Bool.eq_false_iff.mpr fun member => ?_
  obtain ⟨same, stopped⟩ := under.apart.ended index member
  cases present.symm.trans stopped.present
  exact stopped.not_await program

/-- The memory is clean when the invalidation has cleared it, if no call holds what is not
fresh. -/
theorem cleaned_clear (present : pool.calls[index]? = some call)
    (awaits : Awaits call.input call.phase .clearL1)
    {next : (CacheCommand.clearL1 : CacheCommand Decision).Reply → CacheProgram Decision _}
    (fresh : ∀ other ∈ pool.calls, ∀ cached ∈ held key other,
      isExpired pool.shared.now cached = false → Fresh ended key pool cached.decision) :
    Cleaned ended key (pool.resume discipline index call .clearL1 next
      (exec settings pool.shared .clearL1)) where
  l1 cached found := by cases found
  inFlight call' member cached has unexpired := by
    obtain ⟨other, member, has⟩ | ⟨asks, -⟩ := held_resume present awaits member has
    · exact (fresh other member cached has unexpired).extend (extends_resume present)
    · cases asks

theorem Watched.resume_other (under : Watched ended settled key pattern watched pool)
    (careful : CarefulCommand ended key watched pool index call command)
    (present : pool.calls[index]? = some call) (program : call.program = .await command next)
    (awaits : Awaits call.input call.phase command) (different : index ≠ watched) :
    Watched ended settled key pattern watched (pool.resume discipline index call command next
      (exec settings pool.shared command)) := by
  have outside := under.outside present program
  obtain ⟨invalidation, present₀, given, stands, swept⟩ := under.progress
  have extended : Extends pool (pool.resume discipline index call command next
    (exec settings pool.shared command)) := extends_resume present
  have kept : (pool.resume discipline index call command next
      (exec settings pool.shared command)).calls[watched]? = some invalidation := by
    rw [Pool.getElem?_resume present, if_neg different, present₀]
  refine ⟨under.apart.resume present program (fun _ _ => trivial) trivial,
    ⟨invalidation, kept, given, ?_, swept.resume present outside awaits⟩, ?_⟩
  · refine stands.imp_right fun ⟨cleaned, running⟩ => ⟨?_, running⟩
    refine cleaned.resume present outside awaits fun asks cached found => ?_
    obtain working | ⟨result, finished⟩ := running
    · subst asks
      exact careful rfl invalidation present₀ working cached found
    · rw [finished] at swept
      exact swept cached found
  · intro other unsettled
    obtain ⟨completed, answers⟩ := under.answered other unsettled
    obtain ⟨result, finished⟩ := completed invalidation present₀
    have cleaned : Cleaned ended key pool := by
      obtain start | ⟨cleaned, -⟩ := stands
      · cases start.symm.trans finished
      · exact cleaned
    refine ⟨fun call found => ⟨result, ?_⟩,
      fun call' found components reads own decision phase => ?_⟩
    · cases kept.symm.trans found
      exact finished
    · rw [Pool.getElem?_resume present] at found
      split at found
      · cases found
        exact (cleaned.answers present awaits reads own phase).extend extended
      · exact (answers call' found components reads own decision phase).extend extended

variable (settings next) in
/-- What a step of the invalidation leaves. -/
theorem sweep (covered : ∀ given ∈ pattern, Glob.glob (generatePatternKey given ++ "*") key = true)
    (careful : CarefulCommand ended key watched pool watched call command)
    (present : pool.calls[watched]? = some call)
    (awaits : Awaits call.input call.phase command) (given : call.input = .invalidate pattern)
    (outside : ended watched = false) (stands : call.phase = .start ∨ Cleaned ended key pool)
    (swept : Swept ended key pool call.phase) :
    let pool' := pool.resume discipline watched call command next
      (exec settings pool.shared command)
    let phase := nextPhase call.input call.phase command (exec settings pool.shared command).2
    (Cleaned ended key pool' ∧ (phase.working = true ∨ ∃ result, phase = .finished result)) ∧
      Swept ended key pool' phase := by
  intro pool' phase
  have extended : Extends pool pool' := extends_resume present
  have cleaned (stays : Cleaned ended key pool) (other : command ≠ .l2 (.get key)) :
      Cleaned ended key pool' :=
    stays.resume present outside awaits fun same => (other same).elim
  obtain ⟨input, was, program⟩ := call
  cases awaits with
  | lookup | ask | promote | store | write => cases given
  | clear =>
    obtain ⟨inFlight, stored⟩ := careful rfl
    refine ⟨⟨cleaned_clear present (.clear _) inFlight, ?_⟩, ?_⟩
    · cases given
      cases pattern with
      | none => exact .inr ⟨none, rfl⟩
      | some pattern => exact .inl rfl
    · cases given
      cases pattern with
      | none => exact fun cached found => (stored rfl cached found).extend extended
      | some pattern => trivial
  | list pattern =>
    cases given
    have listed (cached : CachedDecision Decision) (found : cached ∈ readable key pool'.shared) :
        key ∈ matching pool.shared (generatePatternKey pattern ++ "*") :=
      mem_matching (covered pattern rfl) found
    have stays := cleaned (stands.resolve_left nofun) nofun
    have next : phase = if (matching pool.shared (generatePatternKey pattern ++ "*")).length > 0
      then .listed (matching pool.shared (generatePatternKey pattern ++ "*"))
      else .finished none := rfl
    split at next
    · rw [next]
      exact ⟨⟨stays, .inl rfl⟩, fun cached found missed => (missed (listed cached found)).elim⟩
    · next empty =>
      rw [next]
      exact ⟨⟨stays, .inr ⟨none, rfl⟩⟩, fun cached found =>
        (empty (List.length_pos_of_mem (listed cached found))).elim⟩
  | delete pattern keys =>
    refine ⟨⟨cleaned (stands.resolve_left nofun) nofun, .inr ⟨none, rfl⟩⟩, fun cached found => ?_⟩
    obtain ⟨remains, stored⟩ := readable_del settings found
    exact (swept cached stored remains).extend extended

theorem Watched.resume_self (under : Watched ended settled key pattern watched pool)
    (covered : ∀ given ∈ pattern, Glob.glob (generatePatternKey given ++ "*") key = true)
    (careful : CarefulCommand ended key watched pool watched call command)
    (present : pool.calls[watched]? = some call) (program : call.program = .await command next)
    (awaits : Awaits call.input call.phase command) :
    Watched ended settled key pattern watched (pool.resume discipline watched call command next
      (exec settings pool.shared command)) := by
  have outside := under.outside present program
  obtain ⟨invalidation, present₀, given, stands, swept⟩ := under.progress
  cases present.symm.trans present₀
  have moved : (pool.resume discipline watched call command next
      (exec settings pool.shared command)).calls[watched]? = some { call with
        phase := nextPhase call.input call.phase command (exec settings pool.shared command).2
        program := next (exec settings pool.shared command).2 } := by
    rw [Pool.getElem?_resume present, if_pos rfl]
    rfl
  refine ⟨under.apart.resume present program (fun _ _ => trivial) trivial,
    ⟨_, moved, given, ?_⟩, fun other unsettled => ?_⟩
  · obtain ⟨stays, sweeps⟩ := sweep settings next covered careful present awaits given outside
      (stands.imp_right And.left) swept
    exact ⟨.inr stays, sweeps⟩
  · obtain ⟨completed, -⟩ := under.answered other unsettled
    obtain ⟨result, finished⟩ := completed call present
    rw [finished] at awaits
    exact (not_awaits_finished awaits).elim

theorem Watched.resume (under : Watched ended settled key pattern watched pool)
    (covered : ∀ given ∈ pattern, Glob.glob (generatePatternKey given ++ "*") key = true)
    (careful : CarefulCommand ended key watched pool index call command)
    (present : pool.calls[index]? = some call) (program : call.program = .await command next)
    (awaits : Awaits call.input call.phase command) :
    Watched ended settled key pattern watched (pool.resume discipline index call command next
      (exec settings pool.shared command)) := by
  by_cases same : index = watched
  · subst same
    exact under.resume_self covered careful present program awaits
  · exact under.resume_other careful present program awaits same

theorem watched_start (settings : DecisionCacheSettings) (key : String)
    (pool : CachePool Decision) (pattern : Option InvalidationPattern) :
    Watched (hasEnded pool) (fun _ => true) key pattern pool.calls.length
      (pool.start (host settings) (fun _ => .start) (.invalidate pattern)) := by
  refine ⟨⟨fun index member => ?_, fun _ _ _ _ => trivial⟩,
    ⟨⟨.invalidate pattern, .start, invalidate pattern⟩, ?_, rfl, .inl rfl, trivial⟩, nofun⟩
  · obtain ⟨outcome, found⟩ := Option.isSome_iff_exists.mp member
    obtain ⟨call, present, found⟩ := Option.bind_eq_some_iff.mp found
    have stopped : pool.Ended index call := ⟨present, by simp [found]⟩
    exact ⟨call, stopped.start (.invalidate pattern)⟩
  · exact (List.getElem?_append_right le_rfl).trans (by rw [Nat.sub_self]; rfl)

theorem Watched.settle (under : Watched ended settled key pattern watched pool)
    (respectful : pool.Respectful discipline ends) (completed : hasEnded pool watched = true) :
    Watched ended (hasEnded pool) key pattern watched pool := by
  refine ⟨under.apart, under.progress, fun index pending => ⟨fun call present => ?_, ?_⟩⟩
  · obtain ⟨outcome, found⟩ := Option.isSome_iff_exists.mp completed
    simp only [Pool.outcome?, present, Option.bind_some] at found
    obtain ⟨result, -, finished⟩ := respectful.ends_of_outcome present found
    exact ⟨result, finished⟩
  · intro call present components reads own decision phase
    have respects := respectful call (List.mem_of_getElem? present)
    exfalso
    simp only [hasEnded, Pool.outcome?, present, Option.bind_some] at pending
    cases program : call.program with
    | await command next =>
      rw [program, phase] at respects
      exact not_awaits_finished respects.1
    | result | failure =>
      rw [program] at pending
      cases pending

theorem Watched.run (under : Watched ended settled key pattern watched pool)
    (covered : ∀ given ∈ pattern, Glob.glob (generatePatternKey given ++ "*") key = true)
    (respectful : pool.Respectful discipline ends) {events : List (CacheEvent Decision)}
    (careful : (machine settings).Admits (Careful ended key watched) pool events) :
    ((machine settings).run pool events).Respectful discipline ends ∧
      Watched ended settled key pattern watched ((machine settings).run pool events) := by
  refine Pool.invariant body_respects ?_ ?_ ?_ careful respectful under
  · intro pool input under _
    exact under.start input
  · intro pool elapsed under _
    exact under.elapse elapsed
  · intro pool index oracle call command next under guarded present program may
    have careful := guarded _ (Pool.awaited?_of_await present program)
    exact ⟨assumes_exec settings pool.shared call.input command,
      under.resume covered careful present program may⟩

end Runs

section Invalidation

variable [DecidableEq Decision] (settings : DecisionCacheSettings) (now : Nat)
  (before : List (CacheEvent Decision)) (pattern : Option InvalidationPattern)
  (during after : List (CacheEvent Decision)) (key : String)

def reached (events : List (CacheEvent Decision)) : CachePool Decision :=
  (machine settings).run (newPool settings now) events

/-- The `get` at `index`, for the key, has returned the decision. -/
def Returned (pool : CachePool Decision) (index : Nat) (decision : Decision) : Prop :=
  ∃ call ∈ pool.calls[index]?, reads key call.input = true ∧
    call.program.outcome? = some (.ok (some decision))

/-- When an invalidation has completed after the events `during`, every decision that a `get`
for the key returns from then on has been given to a `set` that had not completed when the
invalidation started. -/
def Effective : Prop :=
  let started := reached settings now before
  let swept := (machine settings).run started (.start (.invalidate pattern) :: during)
  let later := (machine settings).run swept after
  hasEnded swept started.calls.length = true → ∀ index decision,
    Returned key later index decision → hasEnded swept index = false →
      Fresh (hasEnded started) key later decision

/-- An invalidation is effective when its commands, and those of the reads that run with it,
are careful. -/
theorem invalidation_is_effective
    (covered : ∀ given ∈ pattern, Glob.glob (generatePatternKey given ++ "*") key = true)
    (careful : (machine settings).Admits (Careful (hasEnded (reached settings now before)) key
        (reached settings now before).calls.length)
      (reached settings now before) (.start (.invalidate pattern) :: (during ++ after))) :
    Effective settings now before pattern during after key := by
  intro completed index decision returned pending
  have respectful : (reached settings now before).Respectful discipline ends :=
    Pool.respectful_run body_respects
      (fun call store command _ => assumes_exec settings store call command)
      (fun _ member => by cases member) before
  generalize reached settings now before = started
    at careful completed returned pending respectful ⊢
  have under := watched_start settings key started pattern
  obtain ⟨careful, careful'⟩ := Transducer.admits_append.mp careful.2
  obtain ⟨respectful, under⟩ :=
    under.run covered (respectful.start (body_respects (.invalidate pattern))) careful
  obtain ⟨respectful, under⟩ :=
    (under.settle respectful completed).run covered respectful careful'
  obtain ⟨call, present, reading, ended⟩ := returned
  obtain ⟨result, same, finished⟩ := respectful.ends_of_outcome present ended
  cases same
  have answered := (under.answered index pending).2 call present
  cases input : call.input with
  | get components =>
    rw [input] at reading
    exact answered components input (of_decide_eq_true reading) decision finished
  | set | invalidate =>
    rw [input] at reading
    cases reading

instance {ended : Nat → Bool} {pool : CachePool Decision} {decision : Decision} :
    Decidable (Fresh ended key pool decision) :=
  inferInstanceAs (Decidable (∃ entry ∈ _, _))

instance {ended : Nat → Bool} {watched : Nat} {pool : CachePool Decision} {index : Nat}
    {call : CacheCallState Decision} (command : CacheCommand Decision) :
    Decidable (CarefulCommand ended key watched pool index call command) :=
  match command with
  | .clearL1 =>
    inferInstanceAs (Decidable (_ → (∀ other ∈ _, ∀ cached ∈ _, _) ∧ (_ → ∀ cached ∈ _, _)))
  | .l2 (.get _) => inferInstanceAs (Decidable (_ → ∀ invalidation ∈ _, _ → ∀ cached ∈ _, _))
  | .lookupL1 _ | .promote _ _ | .storeL1 _ _ _ | .keys _ | .del _ | .l2 (.setex _ _ _)
  | .l2 (.ttl _) | .l2 (.del _) => .isTrue trivial

instance {ended : Nat → Bool} {watched : Nat} (pool : CachePool Decision)
    (event : CacheEvent Decision) : Decidable (Careful ended key watched pool event) :=
  match event with
  | .run _ _ => inferInstanceAs (Decidable (∀ awaiting ∈ _, _))
  | .start _ | .change _ => .isTrue trivial

instance {pool : CachePool Decision} {index : Nat} {decision : Decision} :
    Decidable (Returned key pool index decision) :=
  inferInstanceAs (Decidable (∃ call ∈ _, _))

end Invalidation

section Sample

def sampleKey : CacheKeyComponents := ⟨"t", "u", "doc", none, "read"⟩

def stored : List (CacheEvent Bool) :=
  [.start (.set sampleKey true none), .run 0 (), .run 0 ()]

def deniedLater : List (CacheEvent Bool) :=
  [.start (.set sampleKey false none), .start (.get sampleKey), .run 2 (), .run 2 (), .run 3 ()]

/-- A decision that was stored before is not returned when its tenant has been invalidated. -/
theorem sample_invalidation_is_effective :
    Effective {} 0 stored (some { tenantId := some "t" }) [.run 1 (), .run 1 (), .run 1 ()]
      deniedLater (generateKey sampleKey) := by
  refine invalidation_is_effective {} 0 stored _ _ deniedLater _ ?_ (by decide +kernel)
  rintro given ⟨⟩
  exact glob_of_matches (by simp [PlainId, nonEmpty, Glob.Plain]) nofun nofun nofun
    ⟨by simp [nonEmpty, sampleKey], nofun, nofun, nofun⟩

/-- The invalidation of everything leaves Redis as it is, and a `get` brings the decision
back. -/
theorem permission_survives_invalidation :
    ¬ ∀ (settings : DecisionCacheSettings) (now : Nat) (before : List (CacheEvent Bool))
      (pattern : Option InvalidationPattern) (during after : List (CacheEvent Bool)) (key : String),
      (∀ given ∈ pattern, Glob.glob (generatePatternKey given ++ "*") key = true) →
        Effective settings now before pattern during after key := by
  intro effective
  have fresh := effective {} 0 stored none [.run 1 ()]
    [.start (.get sampleKey), .run 2 (), .run 2 (), .run 2 ()] (generateKey sampleKey) nofun
    (by decide +kernel) 2 true (by decide +kernel) (by decide +kernel)
  revert fresh
  decide +kernel

end Sample

end Caas.Auth.DecisionCache
