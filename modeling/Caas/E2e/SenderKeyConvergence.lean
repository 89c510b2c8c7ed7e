import Caas.E2e.GroupEncryption

/-!
# Agreement on sender keys

When all calls have ended, each member should last have received the stored key of each
other member. A call sends the keys that it makes to the members it has been given, and
the keys that it reads to the member who joins. So nobody misses a key that is stored
while everyone who has not been given to its call is still to read it, and no stale key
comes last that is sent only while it is stored, unless it is to be stored again.
-/

namespace Caas.E2e.GroupEncryption

open Js Async Redis

/-- What a sender key tells those who receive it. -/
def told (senderKey : SenderKey) : String × Nat := (senderKey.chainKey, senderKey.generation)

/-- What an emission tells a member of the key of a sender. -/
def received (member sender : String) : GroupEmission → Option (String × Nat)
  | .distribute memberId senderId _ chainKey generation _ =>
    if memberId = member ∧ senderId = sender then some (chainKey, generation) else none
  | .keyUpdate _ _ _ => none

def lastReceived (sent : List GroupEmission) (member sender : String) : Option (String × Nat) :=
  sent.reverse.findSome? (received member sender)

/-- The members whose keys a call is still to store. -/
def storesLater : GroupCall → Phase → List String
  | .leave _ remainingMemberIds, .deleting => remainingMemberIds
  | .leave _ _, .generating memberId _ rest => memberId :: rest
  | .leave _ _, .distributing _ rest => rest
  | .join newMemberId _, .reading _ _ => [newMemberId]
  | .join _ _, .generating memberId _ _ => [memberId]
  | _, _ => []

/-- The call of the member who joins is still to read the key of the sender. -/
def Reads (member sender : String) : GroupCall → Phase → Prop
  | .join newMemberId _, .reading rest _ => newMemberId = member ∧ sender ∈ rest
  | _, _ => False

/-- The call will send the member the key of its sender that it has, or that it reads. -/
def WillSend (member : String) (senderKey : SenderKey) (call : GroupCall) : Phase → Prop
  | .distributing made _ => made.userId = senderKey.userId ∧ told made = told senderKey ∧
    member ∈ call.memberIds
  | .reading rest senderKeys => (∃ existingMemberIds, call = .join member existingMemberIds) ∧
    (senderKey.userId ∈ rest ∨
      ∃ copy ∈ senderKeys, copy.userId = senderKey.userId ∧ told copy = told senderKey)
  | _ => False

section Conditions

variable (conversationId : String) (initial : List String)

/-- Everyone has last received the stored key of everyone else. -/
def Converged (members : List String) (store : GroupStore) : Prop :=
  ∀ member ∈ members, ∀ sender ∈ members, member ≠ sender →
    ∀ senderKey, senderKey? conversationId store sender = some senderKey →
      lastReceived store.sent member sender = some (told senderKey)

/-- Each sender key is stored under its own user. -/
def Owned (store : GroupStore) : Prop :=
  ∀ member senderKey, senderKey? conversationId store member = some senderKey →
    senderKey.userId = member

/-- A key of a member is stored only while each other member is among those it will be sent to
or still to read it, unless another one is to be stored; and it is sent to a member only while
it is the one stored, unless another one is to be stored. -/
def Timely (pool : GroupPool) (index : Nat) (call : GroupCallState) : GroupCommand → Prop
  | .setex _ _ made => made.userId ∈ members initial pool →
    (∃ other call', other ≠ index ∧ pool.calls[other]? = some call' ∧
        made.userId ∈ storesLater call'.input call'.phase) ∨
      made.userId ∈ storesLater call.input (.distributing made (match call.phase with
        | .generating _ _ rest => rest
        | _ => [])) ∨
      ∀ member ∈ members initial pool, member ≠ made.userId →
        member ∈ call.input.memberIds ∨
          ∃ reader ∈ pool.calls, Reads member made.userId reader.input reader.phase
  | .emit emissions => ∀ member ∈ members initial pool, ∀ sender ∈ members initial pool,
    member ≠ sender → ∀ senderKey,
      senderKey? conversationId pool.shared sender = some senderKey →
        ∀ emission ∈ emissions pool.shared.now, ∀ news,
          received member sender emission = some news →
            news = told senderKey ∨
              ∃ other ∈ pool.calls, sender ∈ storesLater other.input other.phase
  | _ => True

/-- A call is given the members at its start, and no sender key expires. -/
def Given (pool : GroupPool) : GroupEvent → Prop
  | .start call => GivenMembers (members initial pool) call
  | .change elapsed => ∀ key, pool.shared.senderKeys.lookup (pool.shared.now + elapsed) key =
    pool.shared.senderKeys.lookup pool.shared.now key
  | .run _ _ => True

/-- Every command that stores or sends a key is timely. -/
def InTime (pool : GroupPool) : GroupEvent → Prop
  | .run index _ => ∀ call command, pool.awaited? index = some (call, command) →
    Timely conversationId initial pool index call command
  | _ => True

/-- The member has last received the key, or a call will see to it. -/
def Covered (pool : GroupPool) (member : String) (senderKey : SenderKey) : Prop :=
  lastReceived pool.shared.sent member senderKey.userId = some (told senderKey) ∨
    ∃ call ∈ pool.calls, senderKey.userId ∈ storesLater call.input call.phase ∨
      WillSend member senderKey call.input call.phase

/-- Every stored key of a member is covered for every other member. -/
structure Covering (pool : GroupPool) : Prop where
  owned : Owned conversationId pool.shared
  covered : ∀ member ∈ members initial pool, ∀ sender ∈ members initial pool, member ≠ sender →
    ∀ senderKey, senderKey? conversationId pool.shared sender = some senderKey →
      Covered pool member senderKey

end Conditions

section Receiving

variable {member sender : String} {sent emissions : List GroupEmission} {news : String × Nat}

theorem lastReceived_append : lastReceived (sent ++ emissions) member sender =
      (lastReceived emissions member sender).or (lastReceived sent member sender) := by
  simp [lastReceived, List.findSome?_append]

theorem lastReceived_of_emitted
    (alike : ∀ emission ∈ emissions, ∀ other, received member sender emission = some other →
      other = news) (told : lastReceived sent member sender = some news ∨
      ∃ emission ∈ emissions, received member sender emission = some news) :
    lastReceived (sent ++ emissions) member sender = some news := by
  rw [lastReceived_append]
  cases last : lastReceived emissions member sender with
  | some other =>
    obtain ⟨emission, here, tells⟩ := List.exists_of_findSome?_eq_some last
    rw [alike emission (List.mem_reverse.mp here) other tells]
    rfl
  | none =>
    rcases told with earlier | ⟨emission, here, tells⟩
    · exact earlier
    · have nothing := List.findSome?_eq_none_iff.mp last emission (List.mem_reverse.mpr here)
      cases nothing.symm.trans tells

theorem received_distributions {made : SenderKey} {memberIds : List String} {timestamp : Nat}
    (among : member ∈ memberIds) (other : member ≠ made.userId) :
    ∃ emission ∈ distributions made memberIds timestamp,
      received member made.userId emission = some (told made) := by
  refine ⟨_, List.mem_map.mpr ⟨member, List.mem_filter.mpr ⟨among, bne_iff_ne.mpr other⟩, rfl⟩, ?_⟩
  simp [received, told]

theorem received_welcomes {conversationId : String} {senderKeys : List SenderKey}
    {copy : SenderKey} {timestamp : Nat} (among : copy ∈ senderKeys) :
    ∃ emission ∈ welcomes conversationId member senderKeys timestamp,
      received member copy.userId emission = some (told copy) := by
  refine ⟨_, List.mem_map.mpr ⟨copy, among, rfl⟩, ?_⟩
  simp [received, told]

end Receiving

section Steps

variable {conversationId : String} {initial : List String} {pool : GroupPool} {index : Nat}
  {call : GroupCallState} {command : GroupCommand}
  {next : command.Reply → GroupProgram Unit} {effect : GroupStore × command.Reply}
  {member sender : String} {senderKey : SenderKey}

/-- A call sees to it that the member receives the key, or another one. -/
def SeesTo (member : String) (senderKey : SenderKey) (call : GroupCall) (phase : Phase) : Prop :=
  senderKey.userId ∈ storesLater call phase ∨ WillSend member senderKey call phase

theorem Covered.resume (covered : Covered pool member senderKey)
    (present : pool.calls[index]? = some call)
    (last : lastReceived pool.shared.sent member senderKey.userId = some (told senderKey) →
      lastReceived effect.1.sent member senderKey.userId = some (told senderKey))
    (own : SeesTo member senderKey call.input call.phase →
      SeesTo member senderKey call.input (nextPhase call.input call.phase command effect.2) ∨
        lastReceived effect.1.sent member senderKey.userId = some (told senderKey)) :
    Covered (pool.resume (discipline conversationId) index call command next effect) member
      senderKey := by
  rcases covered with received | ⟨other, here, sees⟩
  · exact .inl (last received)
  · rcases Pool.mem_resume_or_eq present here with kept | rfl
    · exact .inr ⟨other, kept, sees⟩
    · rcases own sees with after | received
      · exact .inr ⟨_, Pool.mem_resume_self present, after⟩
      · exact .inl received

theorem Covering.pass (covering : Covering conversationId initial pool)
    (present : pool.calls[index]? = some call) (sent : effect.1.sent = pool.shared.sent)
    (fewer : ∀ member senderKey, senderKey? conversationId effect.1 member = some senderKey →
      senderKey? conversationId pool.shared member = some senderKey) (own : ∀ member senderKey,
      senderKey? conversationId pool.shared senderKey.userId = some senderKey →
        SeesTo member senderKey call.input call.phase →
          SeesTo member senderKey call.input (nextPhase call.input call.phase command effect.2)) :
    Covering conversationId initial
      (pool.resume (discipline conversationId) index call command next effect) := by
  constructor
  · intro member senderKey stored
    exact covering.owned member senderKey (fewer member senderKey stored)
  · rw [members_resume present]
    intro member among sender among' different senderKey stored
    have before := fewer sender senderKey stored
    obtain rfl := covering.owned sender senderKey before
    refine (covering.covered member among _ among' different senderKey before).resume present
      (fun received => sent ▸ received) fun sees => .inl (own member senderKey before sees)

/-- Sending keys that are stored, or to be stored again, leaves everything covered, when what
the call has to send is sent. -/
theorem Covering.emit (covering : Covering conversationId initial pool)
    {emissions : Nat → List GroupEmission} {next : GroupCommand.Reply (.emit emissions) →
      GroupProgram Unit} (bytes : String) (present : pool.calls[index]? = some call)
    (timely : Timely conversationId initial pool index call (.emit emissions))
    (stores : storesLater call.input (nextPhase call.input call.phase (.emit emissions) ()) =
      storesLater call.input call.phase) (sends : ∀ member senderKey, member ≠ senderKey.userId →
      WillSend member senderKey call.input call.phase → ∃ emission ∈ emissions pool.shared.now,
          received member senderKey.userId emission = some (told senderKey)) :
    Covering conversationId initial
      (pool.resume (discipline conversationId) index call (.emit emissions) next
        (exec pool.shared (.emit emissions) bytes)) := by
  refine ⟨covering.owned, ?_⟩
  rw [members_resume present]
  intro member among sender among' different senderKey stored
  obtain rfl := covering.owned sender senderKey stored
  have covered := covering.covered member among _ among' different senderKey stored
  by_cases again : ∃ other ∈ pool.calls, senderKey.userId ∈ storesLater other.input other.phase
  · obtain ⟨other, here, later⟩ := again
    right
    rcases Pool.mem_resume_or_eq present here with kept | rfl
    · exact ⟨other, kept, .inl later⟩
    · exact ⟨_, Pool.mem_resume_self present, .inl (stores ▸ later)⟩
  · have alike : ∀ emission ∈ emissions pool.shared.now, ∀ other,
        received member senderKey.userId emission = some other → other = told senderKey := by
      intro emission here other tells
      exact (timely member among _ among' different senderKey stored emission here other
        tells).resolve_right again
    refine covered.resume present (fun received => ?_) fun sees => ?_
    · exact lastReceived_of_emitted alike (.inl received)
    · right
      rcases sees with later | sending
      · exact absurd ⟨call, List.mem_of_getElem? present, later⟩ again
      · exact lastReceived_of_emitted alike (.inr (sends member senderKey different sending))

theorem storesLater_rotating (leavingMemberId : String) (remainingMemberIds rest : List String) :
    storesLater (.leave leavingMemberId remainingMemberIds) (rotating rest) = rest := by
  cases rest <;> rfl

/-- Storing a key covers it when the others are to be sent it, or to read it. -/
theorem Covering.store (covering : Covering conversationId initial pool) {made : SenderKey}
    {rest : List String} {seconds : Nat} {program : GroupProgram Unit} {input : GroupCall}
    {next : GroupCommand.Reply (.setex (senderKeyName conversationId made.userId) seconds made) →
      GroupProgram Unit} (bytes : String) (positive : 0 < seconds) (present : pool.calls[index]? =
      some ⟨input, .generating made.userId (some made.generation) rest, program⟩)
    (timely : Timely conversationId initial pool index
      ⟨input, .generating made.userId (some made.generation) rest, program⟩
      (.setex (senderKeyName conversationId made.userId) seconds made)) :
    Covering conversationId initial (pool.resume (discipline conversationId) index
        ⟨input, .generating made.userId (some made.generation) rest, program⟩
        (.setex (senderKeyName conversationId made.userId) seconds made) next
        (exec pool.shared (.setex (senderKeyName conversationId made.userId) seconds made)
          bytes)) := by
  constructor
  · intro sender senderKey stored
    change senderKey? conversationId (exec pool.shared (.setex _ _ made) bytes).1 sender =
      some senderKey at stored
    rw [senderKey?_setex positive] at stored
    split at stored
    · rename_i same
      cases stored
      exact same.symm
    · exact covering.owned sender senderKey stored
  · rw [members_resume present]
    intro member among sender among' different senderKey stored
    change senderKey? conversationId (exec pool.shared (.setex _ _ made) bytes).1 sender =
      some senderKey at stored
    rw [senderKey?_setex positive] at stored
    by_cases same : sender = made.userId
    · subst same
      rw [if_pos rfl] at stored
      cases stored
      right
      rcases timely among' with ⟨other, call', apart, found, later⟩ | later | reached
      · refine ⟨call', List.mem_of_getElem? (i := other) ?_, .inl later⟩
        rw [Pool.getElem?_resume present, if_neg (Ne.symm apart)]
        exact found
      · exact ⟨_, Pool.mem_resume_self present, .inl later⟩
      · rcases reached member among different with given | ⟨reader, here, reads⟩
        · exact ⟨_, Pool.mem_resume_self present, .inr ⟨rfl, rfl, given⟩⟩
        · rcases Pool.mem_resume_or_eq present here with kept | rfl
          · refine ⟨reader, kept, .inr ?_⟩
            obtain ⟨input', phase, _⟩ := reader
            cases input' with
            | leave => exact reads.elim
            | join newMemberId existingMemberIds =>
              cases phase with
              | reading rest senderKeys =>
                obtain ⟨rfl, unread⟩ := reads
                exact ⟨⟨_, rfl⟩, .inl unread⟩
              | _ => exact reads.elim
          · cases input <;> exact reads.elim
    · rw [if_neg same] at stored
      obtain rfl := covering.owned sender senderKey stored
      refine (covering.covered member among _ among' different senderKey stored).resume present
        id fun sees => .inl ?_
      rcases sees with later | sending
      · left
        cases input with
        | join newMemberId existingMemberIds =>
          exact absurd (List.mem_singleton.mp later) same
        | leave leavingMemberId remainingMemberIds =>
          exact (List.mem_cons.mp later).resolve_left same
      · exact sending.elim

theorem Covering.resume (covering : Covering conversationId initial pool) (bytes : String)
    (present : pool.calls[index]? = some call)
    (awaits : Awaits conversationId call.input call.phase command)
    (timely : Timely conversationId initial pool index call command) :
    Covering conversationId initial (pool.resume (discipline conversationId) index call command
      next (exec pool.shared command bytes)) := by
  obtain ⟨input, phase, program⟩ := call
  cases awaits with
  | delete leavingMemberId remainingMemberIds =>
    refine covering.pass present rfl (fun member senderKey stored => ?_)
      fun member senderKey _ sees => ?_
    · rw [senderKey?_del] at stored
      split at stored
      · cases stored
      · exact stored
    · refine sees.imp (fun later => ?_) False.elim
      change _ ∈ storesLater _ (rotating remainingMemberIds)
      rw [storesLater_rotating]
      exact later
  | read _ memberId rest senderKeys =>
    refine covering.pass present rfl (fun _ _ => id) fun member senderKey stored sees => ?_
    refine sees.imp (fun later => ?_) ?_
    · cases input <;> exact later
    · rintro ⟨joins, unread | ⟨copy, here, same⟩⟩
      · refine ⟨joins, ?_⟩
        rcases List.mem_cons.mp unread with rfl | unread
        · refine .inr ⟨senderKey, ?_, rfl, rfl⟩
          refine List.mem_append_right _ (Option.mem_toList.mpr ?_)
          exact stored
        · exact .inl unread
      · exact ⟨joins, .inr ⟨copy, List.mem_append_left _ here, same⟩⟩
  | welcome newMemberId existingMemberIds senderKeys =>
    refine covering.emit bytes present timely rfl fun member senderKey _ sends => ?_
    obtain ⟨⟨_, joins⟩, unread | ⟨copy, here, same, tells⟩⟩ := sends
    · cases unread
    · cases joins
      rw [← same, ← tells]
      exact received_welcomes here
  | draw | renew | date => exact covering.pass present rfl (fun _ _ => id) fun _ _ _ => id
  | count _ memberId rest =>
    refine covering.pass present rfl (fun _ _ => id) fun member senderKey _ sees => ?_
    cases input <;> exact sees
  | store _ senderKey rest seconds positive =>
    exact covering.store bytes positive present timely
  | distribute _ made rest =>
    refine covering.emit bytes present timely ?_ fun member senderKey different sends => ?_
    · cases input with
      | join => rfl
      | leave leavingMemberId remainingMemberIds => exact storesLater_rotating _ _ rest
    · obtain ⟨same, tells, given⟩ := sends
      rw [← same, ← tells]
      exact received_distributions given (same ▸ different)
  | notify leavingMemberId remainingMemberIds =>
    exact covering.emit bytes present timely rfl fun _ _ _ sends => sends.elim

theorem Covering.start (covering : Covering conversationId initial pool)
    (rotationIntervalHours : Nat) {input : GroupCall}
    (given : GivenMembers (members initial pool) input) : Covering conversationId initial
      (pool.start (host rotationIntervalHours conversationId) firstPhase input) := by
  refine ⟨covering.owned, ?_⟩
  rw [members_start]
  intro member among sender among' different senderKey stored
  obtain rfl := covering.owned sender senderKey stored
  have earlier : member ∈ members initial pool → senderKey.userId ∈ members initial pool →
      Covered (pool.start (host rotationIntervalHours conversationId) firstPhase input) member
        senderKey := by
    intro among among'
    refine (covering.covered member among _ among' different senderKey stored).imp_right ?_
    rintro ⟨call, here, sees⟩
    exact ⟨call, List.mem_append_left _ here, sees⟩
  have new : (⟨input, firstPhase input, (host rotationIntervalHours conversationId).body input⟩ :
      GroupCallState) ∈
        (pool.start (host rotationIntervalHours conversationId) firstPhase input).calls :=
    List.mem_append_right _ (List.mem_singleton.mpr rfl)
  cases input with
  | leave leavingMemberId remainingMemberIds =>
    exact earlier (List.mem_filter.mp among).1 (List.mem_filter.mp among').1
  | join newMemberId existingMemberIds =>
    by_cases own : senderKey.userId = newMemberId
    · refine .inr ⟨_, new, .inl ?_⟩
      exact List.mem_singleton.mpr own
    · have known := (List.mem_cons.mp among').resolve_left own
      rcases List.mem_cons.mp among with rfl | old
      · refine .inr ⟨_, new, .inr ⟨⟨_, rfl⟩, .inl ?_⟩⟩
        exact (given senderKey.userId own).mpr known
      · exact earlier old known

end Steps

section Runs

variable {conversationId : String} {initial : List String} {rotationIntervalHours : Nat}

theorem covering_run {pool : GroupPool} {events : List GroupEvent}
    (given : (machine rotationIntervalHours conversationId).Admits (Given initial) pool events)
    (inTime : (machine rotationIntervalHours conversationId).Admits (InTime conversationId initial)
      pool events) (respectful : pool.Respectful (discipline conversationId) ends)
    (covering : Covering conversationId initial pool) :
    ((machine rotationIntervalHours conversationId).run pool events).Respectful
        (discipline conversationId) ends ∧ Covering conversationId initial
        ((machine rotationIntervalHours conversationId).run pool events) := by
  refine Pool.invariant (groupCall_respects rotationIntervalHours) ?_ ?_ ?_ (given.and inTime)
    respectful covering
  · intro pool input covering guarded
    exact covering.start rotationIntervalHours guarded.1
  · intro pool elapsed covering guarded
    have same : ∀ member, senderKey? conversationId
        { pool.shared with now := pool.shared.now + elapsed } member =
          senderKey? conversationId pool.shared member := fun member => guarded.1 _
    constructor
    · intro member senderKey stored
      exact covering.owned member senderKey ((same member).symm.trans stored)
    · intro member among sender among' different senderKey stored
      exact covering.covered member among sender among' different senderKey
        ((same sender).symm.trans stored)
  · intro pool index bytes call command next covering guarded present program awaits
    refine ⟨trivial, covering.resume bytes present awaits ?_⟩
    exact guarded.2 call command (Pool.awaited?_of_await present program)

theorem not_seesTo_finished {member : String} {senderKey : SenderKey} {call : GroupCall} :
    ¬ SeesTo member senderKey call .finished := by
  rintro (later | sends)
  · cases call <;> cases later
  · exact sends

def newPool (store : GroupStore) : GroupPool := ⟨store, []⟩

end Runs

/-- In a group whose members agree on the sender keys that are stored, joins and leaves overlap
in any way, each given the members at its start, and no sender key expires. When every key is
stored and sent in time, each member has last received the stored key of each other member,
as soon as all calls have ended. -/
theorem sender_keys_converge (rotationIntervalHours : Nat) (conversationId : String)
    (initial : List String) (store : GroupStore) (owned : Owned conversationId store)
    (agreed : Converged conversationId initial store) (events : List GroupEvent)
    (given : (machine rotationIntervalHours conversationId).Admits (Given initial) (newPool store)
      events)
    (inTime : (machine rotationIntervalHours conversationId).Admits (InTime conversationId initial)
      (newPool store) events)
    (ended : ∀ call ∈ ((machine rotationIntervalHours conversationId).run (newPool store)
      events).calls, call.program.outcome? ≠ none) : Converged conversationId
      (members initial ((machine rotationIntervalHours conversationId).run (newPool store) events))
      ((machine rotationIntervalHours conversationId).run (newPool store) events).shared := by
  have start : Covering conversationId initial (newPool store) := by
    refine ⟨owned, fun member among sender among' different senderKey stored => ?_⟩
    obtain rfl := owned sender senderKey stored
    exact .inl (agreed member among _ among' different senderKey stored)
  obtain ⟨respectful, covering⟩ := covering_run given inTime nofun start
  intro member among sender among' different senderKey stored
  obtain rfl := covering.owned sender senderKey stored
  rcases covering.covered member among _ among' different senderKey stored with
    received | ⟨call, here, sees⟩
  · exact received
  · obtain ⟨outcome, ended⟩ := Option.ne_none_iff_exists'.mp (ended call here)
    have finished := ((respectful call here).ends_of_outcome ended).1
    rw [finished] at sees
    exact absurd sees not_seesTo_finished

section Sample

def sampleStore : GroupStore := ⟨0, .empty, .empty, []⟩

def commands (index count : Nat) (bytes : String) : List GroupEvent :=
  List.replicate count (.run index bytes)

theorem admits_commands {State : Type} {machine : Transducer State GroupEvent Unit}
    {guard : State → GroupEvent → Prop}
    (runs : ∀ state index bytes, guard state (.run index bytes)) (index count : Nat)
    (bytes : String) (state : State) : machine.Admits guard state (commands index count bytes) := by
  induction count generalizing state with
  | zero => trivial
  | succ count ih => exact ⟨runs state index bytes, ih _⟩

def joined : List GroupEvent := .start (.join "b" ["a"]) :: commands 0 8 "k"

theorem joined_members_converge :
    Converged "c" (members ["a"] ((machine 168 "c").run (newPool sampleStore) joined))
      ((machine 168 "c").run (newPool sampleStore) joined).shared := by
  refine sender_keys_converge 168 "c" ["a"] sampleStore nofun (fun _ _ _ _ _ _ stored =>
    (nomatch stored)) joined ?_ ?_ (by decide +kernel)
  · exact ⟨fun _ _ => Iff.rfl, admits_commands (fun _ _ _ => trivial) 0 8 "k" _⟩
  · refine ⟨trivial, ?_, ?_, ?_, ?_, ?_, ?_, ?_, ?_, trivial⟩
    all_goals rintro _ _ ⟨⟩
    any_goals trivial
    · exact fun _ _ _ _ _ _ _ _ here => nomatch here
    · refine fun _ => .inr (.inr fun member among different => .inl ?_)
      exact (List.mem_cons.mp among).resolve_left different
    · intro member among sender among' different senderKey stored emission here news tells
      left
      cases List.mem_singleton.mp here
      obtain ⟨⟨rfl, rfl⟩, told⟩ := Option.ite_none_right_eq_some.mp tells
      have made : senderKey? "c" ((machine 168 "c").run (newPool sampleStore)
          (.start (.join "b" ["a"]) :: commands 0 7 "k")).shared "b" =
            some ⟨"b", "c", "k", 1, 0⟩ := by decide +kernel
      cases made.symm.trans stored
      exact (Option.some.inj told).symm

def overlapping : List GroupEvent :=
  .start (.join "x" ["a"]) :: .start (.join "y" ["x", "a"]) :: commands 1 9 "k" ++ commands 0 8 "l"

/-- The second member never receives the key of the first one. -/
theorem overlapping_join_misses_key :
    ¬ ∀ events, (machine 168 "c").Admits (Given ["a"]) (newPool sampleStore) events →
      (∀ call ∈ ((machine 168 "c").run (newPool sampleStore) events).calls,
        call.program.outcome? ≠ none) →
      Converged "c" (members ["a"] ((machine 168 "c").run (newPool sampleStore) events))
        ((machine 168 "c").run (newPool sampleStore) events).shared := by
  intro converges
  have stored : senderKey? "c" ((machine 168 "c").run (newPool sampleStore) overlapping).shared
      "x" = some ⟨"x", "c", "l", 1, 0⟩ := by decide +kernel
  have nothing : lastReceived ((machine 168 "c").run (newPool sampleStore)
      overlapping).shared.sent "y" "x" = none := by decide +kernel
  have given : (machine 168 "c").Admits (Given ["a"]) (newPool sampleStore) overlapping := by
    refine ⟨fun _ _ => Iff.rfl, fun _ _ => Iff.rfl, ?_⟩
    refine Transducer.admits_append.mpr ⟨?_, ?_⟩
    · exact admits_commands (fun _ _ _ => trivial) 1 9 "k" _
    · exact admits_commands (fun _ _ _ => trivial) 0 8 "l" _
  have told := converges overlapping given (by decide +kernel) "y" (by decide +kernel) "x"
    (by decide +kernel) (by decide) _ stored
  cases nothing.symm.trans told

end Sample

end Caas.E2e.GroupEncryption
