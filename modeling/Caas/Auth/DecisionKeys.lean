import Caas.Auth.DecisionInvalidation

/-!
# Whose decision a key finds

A key of the decision cache is as good as the list of the texts between its colons
(`generateKey_eq_iff`), and a `get` returns what some `set` has stored for its key
(`Traced.run`). Two components share their decisions exactly when these texts are the same.
-/

namespace Caas.Auth.DecisionCache

open Js Async Redis

section Keys

/-- The texts between colons, component after component, as they stand in the key. A resource
id that is missing or empty counts as `*`. -/
def parts (components : CacheKeyComponents) : List (List Char) :=
  [components.tenantId, components.userId, components.resourceType,
    (nonEmpty components.resourceId).getD "*", components.action].flatMap fun component =>
      component.toList.splitOn ':'

theorem generateKey_eq (components : CacheKeyComponents) : generateKey components =
    "authz:" ++ components.tenantId ++ ":" ++ components.userId ++ ":" ++
      components.resourceType ++ ":" ++ (nonEmpty components.resourceId).getD "*" ++ ":" ++
        components.action := rfl

theorem splitOn_generateKey (components : CacheKeyComponents) :
    (generateKey components).toList.splitOn ':' = "authz".toList :: parts components := by
  have colon : ":".toList = [':'] := rfl
  have authz : "authz:".toList = "authz".toList ++ [':'] := rfl
  have start : "authz".toList.splitOn ':' = ["authz".toList] := by decide
  simp only [generateKey_eq, parts, String.toList_append, colon, authz, List.append_assoc,
    List.cons_append, List.nil_append, List.splitOn_append_cons_self, start, List.flatMap_cons,
    List.flatMap_nil, List.append_nil]

theorem generateKey_eq_iff {components other : CacheKeyComponents} :
    generateKey components = generateKey other ↔ parts components = parts other := by
  constructor
  · intro same
    have split := congrArg (fun key : String => key.toList.splitOn ':') same
    simp only [splitOn_generateKey] at split
    exact List.tail_eq_of_cons_eq split
  · intro same
    have split : (generateKey components).toList.splitOn ':' =
        (generateKey other).toList.splitOn ':' := by
      rw [splitOn_generateKey, splitOn_generateKey, same]
    have joined := congrArg (fun texts => [':'].intercalate texts) split
    simp only [List.intercalate_splitOn] at joined
    exact String.toList_inj.mp joined

end Keys

section Tracing

variable {Decision : Type} [DecidableEq Decision] {key : String} {pool : CachePool Decision}
  {settings : DecisionCacheSettings}

/-- Some `set` of the pool is for the key and this decision. -/
abbrev Given (key : String) (pool : CachePool Decision) (decision : Decision) : Prop :=
  Fresh (fun _ => false) key pool decision

variable (key pool) in
/-- All that can be read for the key, and all that a `get` for it has returned, was given to
a `set` for it. -/
structure Traced : Prop where
  memory : Cleaned (fun _ => false) key pool
  redis : ∀ cached ∈ readable key pool.shared, Given key pool cached.decision
  answered : ∀ call ∈ pool.calls, ∀ components, call.input = .get components →
    generateKey components = key → ∀ decision, call.phase = .finished (some decision) →
      Given key pool decision

theorem traced_new (settings : DecisionCacheSettings) (key : String) (now : Nat) :
    Traced key (newPool settings now : CachePool Decision) where
  memory := by
    constructor
    · intro cached found
      cases found
    · intro call member
      cases member
  redis cached found := by
    obtain ⟨stored, -⟩ := mem_readable.mp found
    cases stored
  answered call member := by cases member

theorem Traced.start (traced : Traced key pool) (input : CacheCall Decision) :
    Traced key (pool.start (host settings) (fun _ => .start) input) := by
  have extended : Extends pool (pool.start (host settings) (fun _ => .start) input) :=
    extends_start pool input
  refine ⟨?_, fun cached found => (traced.redis cached found).extend extended, ?_⟩
  · refine traced.memory.step extended (fun _ found => .inl found)
      fun call member cached has unexpired => ?_
    obtain earlier | rfl := Pool.mem_start member
    · exact .inl ⟨call, earlier, has, unexpired⟩
    · obtain ⟨-, -, phase, -⟩ := held_iff.mp has
      cases phase
  · intro call member components reads own decision phase
    obtain earlier | rfl := Pool.mem_start member
    · exact (traced.answered call earlier components reads own decision phase).extend extended
    · cases phase

theorem Traced.elapse (traced : Traced key pool) (elapsed : Nat) :
    Traced key { pool with shared := { pool.shared with now := pool.shared.now + elapsed } } := by
  have extended : Extends pool
      { pool with shared := { pool.shared with now := pool.shared.now + elapsed } } :=
    fun _ call present => ⟨call, present, rfl⟩
  refine ⟨?_, fun cached found => ?_, fun call member components reads own decision phase => ?_⟩
  · exact traced.memory.step extended (fun _ found => .inl found)
      fun call member cached has unexpired =>
        .inl ⟨call, member, has, isExpired_later (Nat.le_add_right _ _) unexpired⟩
  · exact (traced.redis cached (readable_later found)).extend extended
  · exact (traced.answered call member components reads own decision phase).extend extended

theorem Traced.resume {index : Nat} {call : CacheCallState Decision}
    {command : CacheCommand Decision}
    {next : command.Reply → CacheProgram Decision (Option Decision)} (traced : Traced key pool)
    (present : pool.calls[index]? = some call) (awaits : Awaits call.input call.phase command) :
    Traced key (pool.resume discipline index call command next
      (exec settings pool.shared command)) := by
  have extended : Extends pool (pool.resume discipline index call command next
    (exec settings pool.shared command)) := extends_resume present
  have outside : (fun _ : Nat => false) index = false := rfl
  refine ⟨traced.memory.resume present outside awaits fun _ => traced.redis,
    fun cached found => ?_, fun call' member components reads own decision phase => ?_⟩
  · have either : cached ∈ readable key pool.shared ∨ Given key pool cached.decision :=
      readable_exec present outside awaits found
    obtain kept | given := either
    · exact (traced.redis cached kept).extend extended
    · exact given.extend extended
  · obtain ⟨other, present'⟩ := List.getElem?_of_mem member
    rw [Pool.getElem?_resume present] at present'
    split at present'
    · cases present'
      exact (traced.memory.answers present awaits reads own phase).extend extended
    · exact (traced.answered call' (List.mem_of_getElem? present') components reads own decision
        phase).extend extended

theorem Traced.run (settings : DecisionCacheSettings) (key : String) (now : Nat)
    (events : List (CacheEvent Decision)) :
    (reached settings now events).Respectful discipline ends ∧
      Traced key (reached settings now events) := by
  have admits : (machine settings).Admits (fun _ _ => True) (newPool settings now) events :=
    Transducer.admits_of_forall (fun _ _ => trivial) _ events
  refine Pool.invariant body_respects ?_ ?_ ?_ admits (fun _ member => by cases member)
    (traced_new settings key now)
  · intro pool input traced _
    exact traced.start input
  · intro pool elapsed traced _
    exact traced.elapse elapsed
  · intro pool index oracle call command next traced _ present _ may
    exact ⟨assumes_exec settings pool.shared call.input command, traced.resume present may⟩

end Tracing

section Sharing

variable {Decision : Type}

/-- In a run in which the decision is given to `set`s for `stored` only, no `get` for `read`
returns it. -/
def Kept (settings : DecisionCacheSettings) (decision : Decision)
    (stored read : CacheKeyComponents) : Prop :=
  ∀ (now : Nat) (events : List (CacheEvent Decision)),
    (∀ components ttl, .start (.set components decision ttl) ∈ events → components = stored) →
    ∀ call ∈ (reached settings now events).calls, call.input = .get read →
      call.program.outcome? ≠ some (.ok (some decision))

theorem kept_of_parts_ne {settings : DecisionCacheSettings} {decision : Decision}
    {stored read : CacheKeyComponents} (different : parts stored ≠ parts read) :
    Kept settings decision stored read := by
  classical
  intro now events only call member reads answered
  obtain ⟨respectful, traced⟩ := Traced.run settings (generateKey read) now events
  obtain ⟨result, same, finished⟩ := (respectful call member).ends_of_outcome answered
  cases same
  obtain ⟨index, giver, present, -, given⟩ :=
    fresh_iff.mp (traced.answered call member read reads rfl decision finished)
  obtain ⟨input, phase, program⟩ := giver
  cases input with
  | get | invalidate => cases given
  | set components value ttl =>
    simp only [stores, Bool.and_eq_true, decide_eq_true_eq] at given
    obtain ⟨rfl, own⟩ := given
    obtain ⟨_, none, -⟩ | started := Pool.input_of_mem_run (List.mem_of_getElem? present)
    · cases none
    · rw [only components ttl started] at own
      exact different (generateKey_eq_iff.mp own)

/-- A `set` whose key is that of a later `get` hands it the decision. -/
theorem not_kept_of_parts_eq (settings : DecisionCacheSettings) (decision : Decision)
    {stored read : CacheKeyComponents} (same : parts stored = parts read) :
    ¬ Kept settings decision stored read := by
  intro kept
  have key := generateKey_eq_iff.mpr same
  let cached : CachedDecision Decision := ⟨decision, 0, 60⟩
  let store : DecisionStore Decision :=
    ⟨0, (LRUCache.new settings.l1MaxSize).set (generateKey stored) cached, .empty⟩
  have found : OrderedMap.get store.l1.cache (generateKey read) = some cached := by
    rw [← key]
    exact OrderedMap.get_set_self _ _ _
  have unexpired : isExpired 0 cached = false := rfl
  have reply : (exec settings store (.lookupL1 (generateKey read))).2 = some decision := by
    change ((store.l1.get (generateKey read)).2.filter _).map _ = _
    rw [LRUCache.get_get, found, Option.filter_some, unexpired]
    rfl
  let events : List (CacheEvent Decision) :=
    [.start (.set stored decision (some 60)), .run 0 (), .start (.get read), .run 1 ()]
  have only (components : CacheKeyComponents) (ttl : Option Int)
      (member : .start (.set components decision ttl) ∈ events) : components = stored := by
    simp only [events, List.mem_cons, List.not_mem_nil, Event.start.injEq, CacheCall.set.injEq,
      reduceCtorEq, or_false] at member
    exact member.1
  have member : (⟨.get read, _, _⟩ : CacheCallState Decision) ∈
      (reached settings 0 events).calls :=
    List.mem_of_getElem? (i := 1) rfl
  refine kept 0 events only _ member rfl ?_
  -- the memory has the decision, so the `get` does not go on to Redis
  dsimp only [Program.bind]
  split
  · next answer told =>
    obtain rfl : answer = decision := Option.some.inj (told.symm.trans reply)
    rfl
  · next told => cases told.symm.trans reply

/-- A decision stays with its components exactly as far as the texts between colons tell them
apart. -/
theorem kept_iff_parts_ne (settings : DecisionCacheSettings) (decision : Decision)
    (stored read : CacheKeyComponents) :
    Kept settings decision stored read ↔ parts stored ≠ parts read :=
  ⟨fun kept same => not_kept_of_parts_eq settings decision same kept, kept_of_parts_ne⟩

/-- The user `eu:bob` of one tenant and `bob` of another. -/
theorem other_tenant_is_answered :
    ¬ ∀ stored read : CacheKeyComponents, stored ≠ read → Kept {} true stored read := by
  intro kept
  refine not_kept_of_parts_eq {} true ?_ (kept ⟨"acme", "eu:bob", "doc", some "7", "read"⟩
    ⟨"acme:eu", "bob", "doc", some "7", "read"⟩ (by decide))
  decide

end Sharing

end Caas.Auth.DecisionCache
