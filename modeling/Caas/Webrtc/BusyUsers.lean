import Caas.Webrtc.BusyChecks

/-!
# Busy users

A user should take part in at most one one-to-one call that goes on, and whoever is refused as busy
should be in such a call. The check says nothing about calls that are stored after it has looked,
so users are engaged twice when initiations overlap, or when a call that is over is answered by
somebody who has read it before. It counts a missed call as active, so a call that nobody has
answered makes its users busy until its record expires.

The history is which calls others have stored since an initiation has begun to look.
-/

namespace Caas.Webrtc.BusyUsers

open Async hiding Call
open Js Redis

abbrev BusyPool :=
  Pool CallState CallCommand CallCommand.Reply ManagerOperation BusyPhase (Option Call)

abbrev BusyHistory :=
  Pool.Recorded CallState CallCommand CallCommand.Reply ManagerOperation BusyPhase (Option Call)
    (Nat → List String)

abbrev BusyEvent := Event CallOracle Nat ManagerOperation

abbrev Operation :=
  Async.Call CallCommand CallCommand.Reply ManagerOperation BusyPhase (Option Call)

/-- Nothing is new when an initiation begins to look; then, whatever others store. -/
def meanwhile : Pool.Recorder CallCommand CallCommand.Reply ManagerOperation BusyPhase
    (Option Call) (Nat → List String) where
  started newer _ _ := newer
  ran newer index operation command _ _ :=
    match command with
    | .keys =>
      match operation.phase with
      | .ready [] _ => Function.update newer index []
      | _ => newer
    | .set call => fun other => if other = index then newer other else call.id :: newer other
    | _ => newer

def history : Transducer BusyHistory BusyEvent Unit :=
  Pool.Recorded.machine managerHost discipline firstPhase meanwhile

def newHistory (state : CallState) : BusyHistory := ⟨⟨state, []⟩, fun _ => []⟩

/-- The other call is one that goes on, of one of the users. -/
structure Clash (call other : Call) : Prop where
  different : other.id ≠ call.id
  live : other.Live
  type : other.type = .oneToOne
  shared : ∃ userId, call.TakesPart userId ∧ other.TakesPart userId

/-- Each user takes part in at most one one-to-one call that goes on. -/
def AtMostOne (state : CallState) : Prop :=
  ∀ callId otherId call other, stored? state callId = some call →
    stored? state otherId = some other → call.Live → call.type = .oneToOne → ¬ Clash call other

/-- The user takes part in a call that goes on. -/
def Engaged (state : CallState) (userId : String) : Prop :=
  ∃ callId call, stored? state callId = some call ∧ call.Live ∧ call.TakesPart userId

/-- Whoever is refused as busy is engaged. -/
def Founded (current : BusyHistory) (event : BusyEvent) : Prop :=
  ∀ index oracle operation command callerId calleeId mediaType tenantId,
    event = .run index oracle → current.pool.awaited? index = some (operation, command) →
      operation.input = .initiateCall callerId calleeId mediaType tenantId →
        ((history.step current event).1.pool.outcome? index =
            some (.error "User is already in an active call") →
          Engaged current.pool.shared callerId) ∧
        ((history.step current event).1.pool.outcome? index = some (.error "Callee is busy") →
          Engaged current.pool.shared calleeId)

/-- The call goes on, with the same users. -/
def GoesOn (state : CallState) (call : Call) : Prop :=
  ∃ copy, stored? state call.id = some copy ∧ copy.Live ∧ SameUsers copy call

/-- When an initiation stores its call, no call that others have stored meanwhile engages one of
its users; when an answer stores a call that does not go on any more, nor does any other call. -/
def Unrivalled (state : CallState) (newer : List String) (call : Call) : ManagerOperation → Prop
  | .initiateCall _ _ _ _ =>
    ∀ callId ∈ newer, ∀ other, stored? state callId = some other → ¬ Clash call other
  | .answerCall _ _ => call.type = .oneToOne → GoesOn state call ∨
    ∀ callId other, stored? state callId = some other → ¬ Clash call other
  | _ => True

/-- A call that a check has found goes on until the check is over. -/
def StaysFound (pool : BusyPool) (call : Call) : Prop :=
  ∀ operation ∈ pool.calls, ∀ cleared userId keys found later,
    operation.phase = .checking cleared userId keys found later → call.id ∈ found →
      call.Live ∧ call.TakesPart userId

/-- A check reads no missed call of its user. -/
def NotMissed (state : CallState) (phase : BusyPhase) (callId : String) : Prop :=
  ∀ cleared userId keys found later call, phase = .checking cleared userId keys found later →
    stored? state callId = some call → call.TakesPart userId → call.status ≠ .missed

/-- No record that a check has found expires before the check is over. -/
def Lasting (pool : BusyPool) (elapsed : Nat) : Prop :=
  ∀ operation ∈ pool.calls, ∀ cleared userId keys found later,
    operation.phase = .checking cleared userId keys found later → ∀ callId ∈ found,
      pool.shared.calls.lookup (pool.shared.now + elapsed) callId ≠ none

def Steady (current : BusyHistory) : BusyEvent → Prop
  | .start _ => True
  | .change elapsed => Lasting current.pool elapsed
  | .run index _ => ∀ operation command,
    current.pool.awaited? index = some (operation, command) →
      match command with
      | .get callId => NotMissed current.pool.shared operation.phase callId
      | .set call => Unrivalled current.pool.shared (current.history index) call operation.input ∧
        StaysFound current.pool call
      | _ => True

/-- What a check has seen: every call of a cleared user that goes on has been stored meanwhile, and
every one of the user who is looked for too, or is still to be read, or has been found. -/
def Seen (state : CallState) (newer : List String) : BusyPhase → Prop
  | .ready cleared _ => ∀ callId call, stored? state callId = some call → call.Live →
    ∀ userId ∈ cleared, call.TakesPart userId → callId ∈ newer
  | .checking cleared userId keys found _ => ∀ callId call, stored? state callId = some call →
    call.Live → (∀ userId ∈ cleared, call.TakesPart userId → callId ∈ newer) ∧
      (call.TakesPart userId → callId ∈ newer ∨ callId ∈ keys ∨ callId ∈ found)
  | _ => True

/-- These are calls of the user that go on. -/
def AllLive (state : CallState) (userId : String) (found : List String) : Prop :=
  ∀ callId ∈ found, ∃ call, stored? state callId = some call ∧ call.Live ∧ call.TakesPart userId

/-- What a check has found are calls of its user that go on. -/
def FoundLive (state : CallState) : BusyPhase → Prop
  | .checking _ userId _ found _ => AllLive state userId found
  | _ => True

/-- Records are stored under their ids, no user is engaged twice, and checks see what there is. -/
structure Busy (current : BusyHistory) : Prop where
  owned : ∀ callId call, stored? current.pool.shared callId = some call → call.id = callId
  single : AtMostOne current.pool.shared
  seen : ∀ (index : Nat) (operation : Operation), current.pool.calls[index]? = some operation →
    Seen current.pool.shared (current.history index) operation.phase
  found : ∀ operation ∈ current.pool.calls, FoundLive current.pool.shared operation.phase

section Checks

variable {state : CallState} {newer keys found cleared later : List String} {userId : String}

theorem settle_seen (seen : Seen state newer (.checking cleared userId keys found later)) :
    Seen state newer (settle cleared userId keys found later) := by
  cases keys with
  | cons key keys => exact seen
  | nil =>
    cases found with
    | cons callId found => trivial
    | nil =>
      intro callId call stored live user among takesPart
      have here := seen callId call stored live
      rcases List.mem_cons.mp among with rfl | before
      · rcases here.2 takesPart with new | none | none
        · exact new
        · cases none
        · cases none
      · exact here.1 user before takesPart

theorem settle_found (live : AllLive state userId found) :
    FoundLive state (settle cleared userId keys found later) := by
  cases keys with
  | cons key keys => exact live
  | nil => cases found <;> trivial

theorem found_of_refused {refused : String}
    (settled : settle cleared userId keys found later = .refused refused) :
    userId = refused ∧ ∃ callId, callId ∈ found := by
  cases keys with
  | cons key keys => cases settled
  | nil =>
    cases found with
    | nil => cases settled
    | cons callId found =>
      cases settled
      exact ⟨rfl, callId, List.mem_cons_self⟩

variable {callId : String} {call : Call}

theorem mem_keys (stored : stored? state callId = some call) :
    callId ∈ (state.calls.entries.filter fun entry => entry.2.live state.now).map Prod.fst := by
  obtain ⟨entry, found, _⟩ := Option.map_eq_some_iff.mp stored
  obtain ⟨here, live⟩ := Option.filter_eq_some_iff.mp found
  refine List.mem_map.mpr ⟨(callId, entry), List.mem_filter.mpr ⟨?_, live⟩, rfl⟩
  exact OrderedMap.get_eq_some_iff.mp here

theorem mem_activeIds {data : Option Call} : callId ∈ activeIds userId data ↔
      ∃ call, data = some call ∧ CallStore.isActiveFor userId call = true ∧ call.id = callId := by
  cases data with
  | none => simp [activeIds]
  | some call =>
    simp only [activeIds, Option.toList_some, List.mem_map, List.mem_filter, List.mem_singleton,
      Option.some.injEq]
    constructor
    · rintro ⟨_, ⟨rfl, active⟩, own⟩
      exact ⟨_, rfl, active, own⟩
    · rintro ⟨_, rfl, active, own⟩
      exact ⟨_, ⟨rfl, active⟩, own⟩

theorem isActiveFor_of_live (live : call.Live) (takesPart : call.TakesPart userId) :
    CallStore.isActiveFor userId call = true := by
  refine CallStore.isActiveFor_iff.mpr ⟨fun ended => live ?_, fun rejected => live ?_, takesPart⟩
  · rw [ended]
    trivial
  · rw [rejected]
    trivial

theorem live_of_isActiveFor (active : CallStore.isActiveFor userId call = true)
    (notMissed : call.status ≠ .missed) : call.Live := by
  obtain ⟨notEnded, notRejected, _⟩ := CallStore.isActiveFor_iff.mp active
  intro terminal
  cases status : call.status with
  | ended => exact notEnded status
  | rejected => exact notRejected status
  | missed => exact notMissed status
  | initiating | ringing | answered | connected =>
    rw [status] at terminal
    cases terminal

theorem AllLive.read (live : AllLive state userId found)
    (owned : ∀ call, stored? state callId = some call → call.id = callId)
    (notMissed : ∀ call, stored? state callId = some call → call.TakesPart userId →
      call.status ≠ .missed) :
    AllLive state userId (found ++ activeIds userId (stored? state callId)) := by
  intro other here
  rcases List.mem_append.mp here with before | new
  · exact live other before
  · obtain ⟨call, stored, active, own⟩ := mem_activeIds.mp new
    have takesPart := (CallStore.isActiveFor_iff.mp active).2.2
    obtain rfl := (owned call stored).symm.trans own
    exact ⟨call, stored, live_of_isActiveFor active (notMissed call stored takesPart), takesPart⟩

end Checks

section Steps

variable {current : BusyHistory} {index : Nat} {operation : Operation} {command : CallCommand}
  {next : command.Reply → CallProgram (Option Call)}

theorem Busy.pass (busy : Busy current) {effect : CallState × command.Reply}
    {newer : Nat → List String} (present : current.pool.calls[index]? = some operation)
    (same : effect.1 = current.pool.shared)
    (others : ∀ other, other ≠ index → newer other = current.history other)
    (seen : Seen current.pool.shared (newer index) (nextPhase operation.phase command effect.2))
    (found : FoundLive current.pool.shared (nextPhase operation.phase command effect.2)) :
    Busy ⟨current.pool.resume discipline index operation command next effect, newer⟩ := by
  obtain ⟨shared, reply⟩ := effect
  subst same
  refine ⟨busy.owned, busy.single, fun other operation' present' => ?_, fun operation' here => ?_⟩
  · rw [Pool.getElem?_resume present] at present'
    split at present'
    · rename_i self
      subst self
      cases present'
      exact seen
    · rename_i different
      change Seen _ (newer other) _
      rw [others other (Ne.symm different)]
      exact busy.seen other operation' present'
  · rcases List.mem_or_eq_of_mem_set here with before | rfl
    · exact busy.found operation' before
    · exact found

variable {call : Call}

theorem Seen.store {state after : CallState} {newer : List String} {phase : BusyPhase}
    (seen : Seen state newer phase) (stored : ∀ {callId found}, stored? after callId = some found →
      call.id = callId ∧ found = call ∨ call.id ≠ callId ∧ stored? state callId = some found) :
    Seen after (call.id :: newer) phase := by
  cases phase with
  | ready cleared later =>
    intro callId found here live userId among takesPart
    rcases stored here with ⟨rfl, _⟩ | ⟨_, before⟩
    · exact List.mem_cons_self
    · exact List.mem_cons_of_mem _ (seen callId found before live userId among takesPart)
  | checking cleared user keys ids later =>
    intro callId found here live
    rcases stored here with ⟨rfl, _⟩ | ⟨_, before⟩
    · exact ⟨fun _ _ _ => List.mem_cons_self, fun _ => .inl List.mem_cons_self⟩
    · obtain ⟨others, own⟩ := seen callId found before live
      exact ⟨fun userId among takesPart => List.mem_cons_of_mem _ (others userId among takesPart),
        fun takesPart => (own takesPart).imp_left (List.mem_cons_of_mem _)⟩
  | idle | refused | holding => trivial

theorem FoundLive.store {state after : CallState} {phase : BusyPhase}
    (found : FoundLive state phase) (now : ∀ callId, stored? after callId =
      if call.id = callId then some call else stored? state callId)
    (awaited : ∀ cleared userId keys ids later, phase = .checking cleared userId keys ids later →
      call.id ∈ ids → call.Live ∧ call.TakesPart userId) : FoundLive after phase := by
  cases phase with
  | checking cleared userId keys ids later =>
    intro callId among
    rw [now]
    split
    · rename_i own
      subst own
      exact ⟨call, rfl, awaited cleared userId keys ids later rfl among⟩
    · exact found callId among
  | idle | ready | refused | holding => trivial

theorem Busy.unrivalled (busy : Busy current)
    (present : current.pool.calls[index]? = some operation)
    (awaits : Awaits operation.input operation.phase (.set call))
    (unrivalled : Unrivalled current.pool.shared (current.history index) call operation.input)
    (live : call.Live) (oneToOne : call.type = .oneToOne) {callId : String} {other : Call}
    (stored : stored? current.pool.shared callId = some other) : ¬ Clash call other := by
  have seen := busy.seen index operation present
  obtain ⟨input, phase, program⟩ := operation
  cases awaits with
  | create cleared _ users initiates =>
    obtain ⟨callerId, calleeId, mediaType, tenantId, rfl⟩ := initiates
    intro clash
    obtain ⟨userId, mine, theirs⟩ := clash.shared
    have new := seen callId other stored clash.live userId (users userId mine) theirs
    exact unrivalled callId new other stored clash
  | change copy _ own users answers =>
    obtain ⟨answered, userId, rfl⟩ := answers live
    rcases unrivalled oneToOne with ⟨before, storedBefore, liveBefore, same⟩ | none
    · intro clash
      have ownBefore := busy.owned call.id before storedBefore
      refine busy.single call.id callId before other storedBefore stored liveBefore
        (same.type.trans oneToOne) ⟨ownBefore ▸ clash.different, clash.live, clash.type, ?_⟩
      obtain ⟨userId, mine, theirs⟩ := clash.shared
      refine ⟨userId, ?_, theirs⟩
      rw [Call.TakesPart, same.users, same.caller]
      exact mine
    · exact none callId other stored

theorem Busy.store (busy : Busy current)
    {next : CallCommand.Reply (.set call) → CallProgram (Option Call)} (oracle : CallOracle)
    (present : current.pool.calls[index]? = some operation)
    (unrivalled : call.Live → call.type = .oneToOne → ∀ callId other,
      stored? current.pool.shared callId = some other → ¬ Clash call other)
    (staysFound : StaysFound current.pool call) :
    Busy ⟨current.pool.resume discipline index operation (.set call) next
        (exec current.pool.shared (.set call) oracle),
      fun other => if other = index then current.history other
        else call.id :: current.history other⟩ := by
  have now (callId : String) : stored? (exec current.pool.shared (.set call) oracle).1 callId =
      if call.id = callId then some call else stored? current.pool.shared callId := stored?_set
  have after {callId : String} {found : Call}
      (stored : stored? (exec current.pool.shared (.set call) oracle).1 callId = some found) :
      call.id = callId ∧ found = call ∨ call.id ≠ callId ∧
        stored? current.pool.shared callId = some found := by
    rw [now] at stored
    split at stored
    · rename_i own
      cases stored
      exact .inl ⟨own, rfl⟩
    · rename_i different
      exact .inr ⟨different, stored⟩
  refine ⟨fun callId found stored => ?_, ?_, fun other operation' present' => ?_,
    fun operation' here => ?_⟩
  · rcases after stored with ⟨own, rfl⟩ | ⟨_, before⟩
    · exact own
    · exact busy.owned callId found before
  · intro callId otherId found other stored stored' live oneToOne clash
    rcases after stored with ⟨_, rfl⟩ | ⟨_, before⟩
    · rcases after stored' with ⟨_, rfl⟩ | ⟨_, before'⟩
      · exact clash.different rfl
      · exact unrivalled live oneToOne otherId other before' clash
    · rcases after stored' with ⟨_, rfl⟩ | ⟨_, before'⟩
      · obtain ⟨userId, mine, theirs⟩ := clash.shared
        exact unrivalled clash.live clash.type callId found before
          ⟨Ne.symm clash.different, live, oneToOne, userId, theirs, mine⟩
      · exact busy.single callId otherId found other before before' live oneToOne clash
  · rw [Pool.getElem?_resume present] at present'
    split at present'
    · cases present'
      trivial
    · rename_i different
      change Seen _ (if other = index then _ else _) _
      rw [if_neg (Ne.symm different)]
      exact (busy.seen other operation' present').store fun stored => after stored
  · rcases List.mem_or_eq_of_mem_set here with before | rfl
    · exact (busy.found operation' before).store now fun _ _ _ _ _ phase among =>
        staysFound operation' before _ _ _ _ _ phase among
    · trivial

theorem Busy.resume (busy : Busy current) (oracle : CallOracle)
    (present : current.pool.calls[index]? = some operation)
    (program : operation.program = .await command next)
    (awaits : Awaits operation.input operation.phase command)
    (steady : Steady current (.run index oracle)) :
    Busy ⟨current.pool.resume discipline index operation command next
        (exec current.pool.shared command oracle),
      meanwhile.ran current.history index operation command
        (exec current.pool.shared command oracle).2
        (next (exec current.pool.shared command oracle).2)⟩ := by
  have steady := steady operation command (Pool.awaited?_of_await present program)
  have seen := busy.seen index operation present
  have found := busy.found operation (List.mem_of_getElem? present)
  obtain ⟨input, phase, rest⟩ := operation
  cases command with
  | set call =>
    exact busy.store oracle present (busy.unrivalled present awaits steady.1) steady.2
  | keys =>
    cases awaits with
    | look cleared userId later =>
      refine busy.pass present rfl (fun other different => ?_) (settle_seen ?_)
        (settle_found fun _ none => absurd none List.not_mem_nil)
      · cases cleared with
        | nil => exact Function.update_of_ne different _ _
        | cons _ _ => rfl
      · intro callId call stored live
        refine ⟨fun user among takesPart => ?_, fun _ => .inr (.inl (mem_keys stored))⟩
        cases cleared with
        | nil => cases among
        | cons _ _ => exact seen callId call stored live user among takesPart
  | get callId =>
    cases awaits with
    | read cleared userId _ keys ids later =>
      refine busy.pass present rfl (fun _ _ => rfl) (settle_seen fun other call stored live => ?_)
        (settle_found (found.read (busy.owned callId) fun call stored takesPart =>
          steady cleared userId _ ids later call rfl stored takesPart))
      obtain ⟨others, own⟩ := seen other call stored live
      refine ⟨others, fun takesPart => ?_⟩
      rcases own takesPart with new | among | before
      · exact .inl new
      · rcases List.mem_cons.mp among with rfl | left
        · refine .inr (.inr (List.mem_append_right ids (mem_activeIds.mpr ⟨call, stored, ?_, ?_⟩)))
          · exact isActiveFor_of_live live takesPart
          · exact busy.owned other call stored
        · exact .inr (.inl left)
      · exact .inr (.inr (List.mem_append_left _ before))
    | fetch _ =>
      have unchecked (data : Option Call) (now : Nat) :
          Seen current.pool.shared (current.history index)
            (nextPhase .idle (.get callId) (data, now)) ∧
          FoundLive current.pool.shared (nextPhase .idle (.get callId) (data, now)) := by
        cases data <;> exact ⟨trivial, trivial⟩
      exact busy.pass present rfl (fun _ _ => rfl) (unchecked _ _).1 (unchecked _ _).2
  | randomUUID => exact busy.pass present rfl (fun _ _ => rfl) seen found
  | del | insertOne | emit => cases awaits

/-- Whoever is refused takes part in a call that has been found, and that goes on. -/
theorem Busy.engaged (busy : Busy current) (oracle : CallOracle) {userId : String}
    (present : current.pool.calls[index]? = some operation)
    (program : operation.program = .await command next)
    (awaits : Awaits operation.input operation.phase command)
    (steady : Steady current (.run index oracle))
    (refused : nextPhase operation.phase command (exec current.pool.shared command oracle).2 =
      .refused userId) : Engaged current.pool.shared userId := by
  have steady := steady operation command (Pool.awaited?_of_await present program)
  have found := busy.found operation (List.mem_of_getElem? present)
  obtain ⟨input, phase, rest⟩ := operation
  cases awaits with
  | look cleared user later =>
    obtain ⟨_, callId, none⟩ := found_of_refused refused
    cases none
  | read cleared user key keys ids later =>
    obtain ⟨rfl, callId, among⟩ := found_of_refused refused
    have live := found.read (busy.owned key) fun call stored takesPart =>
      steady cleared user _ ids later call rfl stored takesPart
    obtain ⟨call, goesOn⟩ := live callId among
    exact ⟨callId, call, goesOn⟩
  | fetch callId =>
    have unchecked (data : Option Call) (now : Nat) :
        nextPhase .idle (.get callId) (data, now) ≠ .refused userId := by
      cases data <;> rintro ⟨⟩
    exact absurd refused (unchecked _ _)
  | draw | create | change => cases refused

abbrev Respectful (pool : BusyPool) : Prop :=
  pool.Respectful discipline fun operation => Refuses operation

theorem Busy.founded (busy : Busy current) (respectful : Respectful current.pool)
    {event : BusyEvent} (steady : Steady current event) : Founded current event := by
  rintro index oracle operation command callerId calleeId mediaType tenantId rfl awaited initiates
  obtain ⟨next, present, program⟩ := Pool.await_of_awaited? awaited
  have respects := respectful operation (List.mem_of_getElem? present)
  rw [program] at respects
  obtain ⟨awaits, onward⟩ := respects
  have refused {message : String}
      (failed : (history.step current (.run index oracle)).1.pool.outcome? index =
        some (.error message)) :
      Refuses operation.input
        (nextPhase operation.phase command (exec current.pool.shared command oracle).2)
        (.error message : Program.Outcome (Option Call)) := by
    rw [history, Pool.Recorded.step_run_of_await current oracle present program] at failed
    simp only [Pool.outcome?, Pool.getElem?_resume present, if_true, Option.bind_some] at failed
    exact (onward _ trivial).ends_of_outcome failed
  refine ⟨fun failed => ?_, fun failed => ?_⟩
  · exact busy.engaged oracle present program awaits steady
      ((refused failed _ _ _ _ initiates).1 rfl)
  · exact busy.engaged oracle present program awaits steady
      ((refused failed _ _ _ _ initiates).2 rfl)

theorem Busy.elapse (busy : Busy current) {elapsed : Nat} (lasting : Lasting current.pool elapsed) :
    Busy { current with pool.shared := managerHost.change current.pool.shared elapsed } := by
  have earlier {callId : String} {call : Call}
      (stored : stored? (managerHost.change current.pool.shared elapsed) callId = some call) :
      stored? current.pool.shared callId = some call :=
    ExpiringMap.lookup_of_later (Nat.le_add_right _ elapsed) stored
  refine ⟨fun callId call stored => busy.owned callId call (earlier stored), ?_,
    fun index operation present => ?_, fun operation here => ?_⟩
  · intro callId otherId call other stored stored'
    exact busy.single callId otherId call other (earlier stored) (earlier stored')
  · have seen := busy.seen index operation present
    cases phase : operation.phase with
    | ready | checking =>
      rw [phase] at seen
      exact fun callId call stored => seen callId call (earlier stored)
    | idle | refused | holding => trivial
  · have found := busy.found operation here
    cases phase : operation.phase with
    | checking cleared userId keys ids later =>
      rw [phase] at found
      intro callId among
      obtain ⟨call, stored, goesOn⟩ := found callId among
      obtain ⟨same, still⟩ := Option.ne_none_iff_exists'.mp
        (lasting operation here cleared userId keys ids later phase callId among)
      cases stored.symm.trans (earlier still)
      exact ⟨call, still, goesOn⟩
    | idle | ready | refused | holding => trivial

theorem Busy.start (busy : Busy current) (input : ManagerOperation) :
    Busy ⟨current.pool.start managerHost firstPhase input, current.history⟩ := by
  have first (newer : List String) : Seen current.pool.shared newer (firstPhase input) ∧
      FoundLive current.pool.shared (firstPhase input) := by
    cases input with
    | initiateCall => exact ⟨fun _ _ _ _ _ none => absurd none List.not_mem_nil, trivial⟩
    | answerCall | rejectCall | ringingTimeout => exact ⟨trivial, trivial⟩
  refine ⟨busy.owned, busy.single, fun index operation present => ?_,
    Pool.forall_start (first []).2 busy.found⟩
  rcases Pool.getElem?_start present with before | rfl
  · exact busy.seen index operation before
  · exact (first _).1

theorem Busy.run {events : List BusyEvent} (busy : Busy current)
    (respectful : Respectful current.pool) (steady : history.Admits Steady current events) :
    Respectful (history.run current events).pool ∧ Busy (history.run current events) := by
  refine Pool.Recorded.invariant operation_respects ?_ ?_ ?_ steady respectful busy
  · exact fun current input busy _ => busy.start input
  · exact fun current elapsed busy lasting => busy.elapse lasting
  · intro current index oracle operation command next busy steady _ present program awaits
    exact ⟨trivial, fun _ => busy.resume oracle present program awaits steady⟩

end Steps

/-- Users call each other, answer and reject calls, and calls time out, in any order and interleaved
in any way, while time passes. As long as initiations do not overtake each other, nobody answers a
call that is over while its users have taken part in another one, and no check reads a missed call
or finds one that is over before the check is, each user takes part in at most one one-to-one call
that goes on, and whoever is refused as busy takes part in a call that goes on. -/
theorem busy_means_busy (state : CallState)
    (owned : ∀ callId call, stored? state callId = some call → call.id = callId)
    (single : AtMostOne state) (events : List BusyEvent)
    (steady : history.Admits Steady (newHistory state) events) :
    AtMostOne (history.run (newHistory state) events).pool.shared ∧
      history.Admits Founded (newHistory state) events := by
  have none {operation : Operation} : operation ∉ ([] : List Operation) := List.not_mem_nil
  have start : Busy (newHistory state) := by
    refine ⟨owned, single, fun index operation present => ?_, fun _ here => absurd here none⟩
    cases present
  have respectful : Respectful (newHistory state).pool := fun _ here => absurd here none
  refine ⟨(start.run respectful steady).2.single, ?_⟩
  refine Transducer.Admits.imp_of_run (fun current events steady
    (both : Respectful current.pool ∧ Busy current) => ?_) (fun current event both steady => ?_)
    steady ⟨respectful, start⟩
  · exact both.2.run both.1 steady
  · exact both.2.founded both.1 steady

section Sample

def continues (index count : Nat) : List BusyEvent :=
  List.replicate count (.run index sampleOracle)

theorem not_stored {callId : String} {call : Call} :
    stored? sampleState callId ≠ some call := by
  intro found
  have none : stored? sampleState callId = none := rfl
  cases none.symm.trans found

theorem atMostOne_sample : AtMostOne sampleState :=
  fun _ _ _ _ stored => absurd stored not_stored

def bothCallBob : List BusyEvent :=
  .start (.initiateCall "alice" "bob" .audio "t") :: continues 0 4 ++
    .start (.initiateCall "carol" "bob" .audio "t") :: continues 1 4

theorem callee_is_busy : AtMostOne (history.run (newHistory sampleState) bothCallBob).pool.shared ∧
      history.Admits Founded (newHistory sampleState) bothCallBob := by
  refine busy_means_busy sampleState (fun _ _ stored => absurd stored not_stored) atMostOne_sample
    bothCallBob ⟨trivial, ?_, ?_, ?_, ?_, trivial, ?_, ?_, ?_, ?_, trivial⟩
  all_goals rintro _ _ ⟨⟩
  · trivial
  · trivial
  · trivial
  · refine ⟨fun _ new => absurd new List.not_mem_nil, ?_⟩
    rintro _ (_ | ⟨_, ⟨⟩⟩) _ _ _ _ _ ⟨⟩
  · trivial
  · rintro _ _ _ _ _ _ ⟨⟩ ⟨⟩ _ ⟨⟩
  · trivial
  · rintro _ _ _ _ _ _ ⟨⟩ ⟨⟩ _ ⟨⟩

def callsAgain : List BusyEvent :=
  .start (.initiateCall "alice" "bob" .audio "t") :: continues 0 4 ++
    .start (.ringingTimeout "c1") :: continues 1 2 ++
      .start (.initiateCall "alice" "carol" .audio "t") :: continues 2 1

theorem missed_call_keeps_busy : ¬ ∀ (state : CallState) (events : List BusyEvent),
      (∀ callId call, stored? state callId = some call → call.id = callId) → AtMostOne state →
        AtMostOne (history.run (newHistory state) events).pool.shared ∧
          history.Admits Founded (newHistory state) events := by
  intro busy
  have founded := (busy sampleState (callsAgain ++ continues 2 1)
    (fun _ _ stored => absurd stored not_stored) atMostOne_sample).2
  have last := (Transducer.admits_append.mp founded).2.1
  have engaged := (last 2 sampleOracle _ _ "alice" "carol" .audio "t" rfl rfl rfl).1 rfl
  obtain ⟨callId, call, stored, live, _⟩ := engaged
  have only : ((history.run (newHistory sampleState) callsAgain).pool.shared.calls.entries.filter
      fun entry => entry.2.live (history.run (newHistory sampleState)
        callsAgain).pool.shared.now).map Prod.fst = ["c1"] := by decide +kernel
  have here := mem_keys stored
  rw [only] at here
  cases List.mem_singleton.mp here
  have missed : (stored? (history.run (newHistory sampleState) callsAgain).pool.shared "c1").map
      (·.status) = some .missed := by decide +kernel
  rw [stored] at missed
  refine live ?_
  rw [show call.status = .missed from Option.some.inj missed]
  trivial

end Sample

end Caas.Webrtc.BusyUsers
