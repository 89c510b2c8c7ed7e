import Caas.Async.Histories
import Caas.E2e.SenderKeyConvergence

/-!
# What a member who has left learns

Calls run one after the other, each given the members at its start. From a leave on, and
until the member joins again, nothing is sent to the member who has left, and what is
stored for the others has been made since. A generation counts on from the one before,
unless its counter has expired, a year after the last key.
-/

namespace Caas.E2e.GroupEncryption

open Js Async Redis

/-- The sender keys that are stored, in their order. -/
def madeKeys :
    Pool.Recorder GroupCommand GroupCommand.Reply GroupCall Phase Unit (List SenderKey) where
  started made _ _ := made
  ran made _ _ command _ _ :=
    match command with
    | .setex _ _ senderKey => made ++ [senderKey]
    | _ => made

abbrev GroupHistory :=
  Pool.Recorded GroupStore GroupCommand GroupCommand.Reply GroupCall Phase Unit (List SenderKey)

/-- The calls on a group, with the sender keys that have been stored. -/
def history (rotationIntervalHours : Nat) (conversationId : String) :
    Transducer GroupHistory GroupEvent Unit :=
  Pool.Recorded.machine (host rotationIntervalHours conversationId) (discipline conversationId)
    firstPhase madeKeys

def newHistory (store : GroupStore) : GroupHistory := ⟨⟨store, []⟩, []⟩

/-- A call starts when all others have ended, and is given the members. -/
def InTurn (initial : List String) (current : GroupHistory) : GroupEvent → Prop
  | .start call => (∀ other ∈ current.pool.calls, other.program.outcome? ≠ none) ∧
    GivenMembers (members initial current.pool) call
  | _ => True

def GenerationsStay (current : GroupHistory) : GroupEvent → Prop
  | .change elapsed => ∀ key,
    current.pool.shared.generations.lookup (current.pool.shared.now + elapsed) key =
      current.pool.shared.generations.lookup current.pool.shared.now key
  | _ => True

/-- The user that a sender key is sent to. -/
def recipient? : GroupEmission → Option String
  | .distribute memberId _ _ _ _ _ => some memberId
  | .keyUpdate _ _ _ => none

def NotJoining (member : String) : GroupEvent → Prop
  | .start (.join newMemberId _) => newMemberId ≠ member
  | _ => True

instance (member : String) : (event : GroupEvent) → Decidable (NotJoining member event)
  | .start (.join newMemberId _) => inferInstanceAs (Decidable (newMemberId ≠ member))
  | .start (.leave _ _) => .isTrue trivial
  | .change _ => .isTrue trivial
  | .run _ _ => .isTrue trivial

section Counting

variable {conversationId : String} {pool : GroupPool}

/-- Generations are no further than their counters. -/
structure Counted (conversationId : String) (pool : GroupPool) : Prop where
  stored : ∀ member senderKey,
    senderKey? conversationId pool.shared member = some senderKey →
      senderKey.generation ≤ generation conversationId pool.shared member
  made : ∀ call ∈ pool.calls, ∀ member reached rest,
    call.phase = .generating member (some reached) rest →
      reached ≤ generation conversationId pool.shared member

theorem Counted.start (counted : Counted conversationId pool) (rotationIntervalHours : Nat)
    (input : GroupCall) : Counted conversationId
      (pool.start (host rotationIntervalHours conversationId) firstPhase input) := by
  refine ⟨counted.stored, fun call here member reached rest generating => ?_⟩
  rcases Pool.mem_start here with earlier | rfl
  · exact counted.made call earlier member reached rest generating
  · cases input <;> cases generating

variable {index : Nat} {call : GroupCallState} {command : GroupCommand}
  {next : command.Reply → GroupProgram Unit}

/-- A step in which no counter falls, no key is stored beyond its counter, and the call has
counted no further than its counter. -/
theorem Counted.step (counted : Counted conversationId pool) {effect : GroupStore × command.Reply}
    (grows : ∀ member, generation conversationId pool.shared member ≤
      generation conversationId effect.1 member)
    (stored : ∀ member senderKey, senderKey? conversationId effect.1 member = some senderKey →
      senderKey? conversationId pool.shared member = some senderKey ∨
        senderKey.generation ≤ generation conversationId effect.1 member)
    (own : ∀ member reached rest, nextPhase call.input call.phase command effect.2 =
      .generating member (some reached) rest →
        reached ≤ generation conversationId effect.1 member) : Counted conversationId
      (pool.resume (discipline conversationId) index call command next effect) := by
  constructor
  · intro member senderKey found
    rcases stored member senderKey found with before | counts
    · exact Nat.le_trans (counted.stored member senderKey before) (grows member)
    · exact counts
  · intro other here member reached rest generating
    rcases List.mem_or_eq_of_mem_set here with kept | rfl
    · exact Nat.le_trans (counted.made other kept member reached rest generating) (grows member)
    · exact own member reached rest generating

theorem rotating_ne_counted {rest : List String} {member : String} {reached : Nat}
    {later : List String} : rotating rest ≠ .generating member (some reached) later := by
  cases rest <;> nofun

theorem Counted.resume (counted : Counted conversationId pool) (bytes : String)
    (present : pool.calls[index]? = some call)
    (awaits : Awaits conversationId call.input call.phase command) :
    Counted conversationId (pool.resume (discipline conversationId) index call command next
      (exec pool.shared command bytes)) := by
  have made := counted.made call (List.mem_of_getElem? present)
  obtain ⟨input, phase, program⟩ := call
  cases awaits with
  | delete leavingMemberId remainingMemberIds =>
    refine counted.step (fun _ => Nat.le_refl _) (fun member senderKey found => ?_)
      fun _ _ _ generating => absurd generating rotating_ne_counted
    rw [senderKey?_del] at found
    split at found
    · cases found
    · exact .inl found
  | read | draw | welcome | notify =>
    exact counted.step (fun _ => Nat.le_refl _) (fun _ _ => .inl) nofun
  | date _ memberId reached rest =>
    refine counted.step (fun _ => Nat.le_refl _) (fun _ _ => .inl) ?_
    exact made
  | distribute _ senderKey rest =>
    refine counted.step (fun _ => Nat.le_refl _) (fun _ _ => .inl) ?_
    intro member reached later generating
    cases input with
    | join => cases generating
    | leave => exact absurd generating rotating_ne_counted
  | renew _ memberId reached rest seconds positive =>
    refine counted.step (fun member => ?_) (fun _ _ => .inl) ?_
    · exact Nat.le_of_eq (generation_expire positive).symm
    · intro member reached' rest' generating
      rw [generation_expire positive]
      exact made member reached' rest' generating
  | count _ memberId rest =>
    refine counted.step (fun member => ?_) (fun _ _ => .inl) ?_
    · rw [generation_incr]
      split
      · rename_i same
        rw [same]
        exact Nat.le_succ _
      · exact Nat.le_refl _
    · intro member reached later generating
      cases generating
      rw [generation_incr, if_pos rfl]
      exact Nat.le_refl _
  | store _ senderKey rest seconds positive =>
    refine counted.step (fun _ => Nat.le_refl _) (fun member found stored => ?_) nofun
    rw [senderKey?_setex positive] at stored
    split at stored
    · rename_i same
      cases stored
      right
      rw [same]
      exact made _ _ rest rfl
    · exact .inl stored

end Counting

section Since

variable {conversationId : String} {initial : List String} {leaver : String}
  {remaining : List String} {floor : String → Nat} {opening : GroupHistory}
  {current : GroupHistory} {rotationIntervalHours : Nat}

/-- The call neither gives the member keys nor sends keys to it. -/
def Excludes (leaver : String) : GroupCall → Prop
  | .join newMemberId existingMemberIds => newMemberId ≠ leaver ∧ leaver ∉ existingMemberIds
  | .leave _ remainingMemberIds => leaver ∉ remainingMemberIds

/-- The call at `index` is still to store a key of the member. -/
def Rotates (pool : GroupPool) (index : Nat) (member : String) : Prop :=
  ∃ call, pool.calls[index]? = some call ∧ member ∈ storesLater call.input call.phase

/-- A key of the member has been made, and what is stored is one that has, of a generation from
`floor` on. -/
def Renewed (conversationId : String) (store : GroupStore) (made : List SenderKey) (floor : Nat)
    (member : String) : Prop :=
  (∃ senderKey ∈ made, senderKey.userId = member) ∧
    ∀ senderKey, senderKey? conversationId store member = some senderKey →
      senderKey ∈ made ∧ floor ≤ senderKey.generation

/-- What has come about since the call that removed `leaver` from the group in `opening`, after
which `remaining` are left. Keys of a member that are made since are of generations from
`floor` on. -/
structure Since (conversationId : String) (initial : List String) (leaver : String)
    (remaining : List String) (floor : String → Nat) (opening current : GroupHistory) : Prop where
  outside : leaver ∉ members initial current.pool
  ended : ∀ index < opening.pool.calls.length, ∃ call, current.pool.Ended index call
  excludes : ∀ index call, opening.pool.calls.length ≤ index →
    current.pool.calls[index]? = some call → Excludes leaver call.input
  sent : ∃ new, current.pool.shared.sent = opening.pool.shared.sent ++ new ∧
    ∀ emission ∈ new, recipient? emission ≠ some leaver
  counter : ∀ member, floor member ≤ generation conversationId current.pool.shared member + 1
  counted : ∀ index call member reached rest, opening.pool.calls.length ≤ index →
    current.pool.calls[index]? = some call →
      call.phase = .generating member (some reached) rest → floor member ≤ reached
  made : ∃ new, current.history = opening.history ++ new ∧ ∀ member ∈ remaining,
    Rotates current.pool opening.pool.calls.length member ∨
      Renewed conversationId current.pool.shared new (floor member) member

/-- No counter falls below the floor as time passes. -/
def KeepsFloor (conversationId : String) (floor : String → Nat) (current : GroupHistory) :
    GroupEvent → Prop
  | .change elapsed => ∀ member,
    floor member ≤ generation conversationId current.pool.shared member + 1 →
      floor member ≤ generation conversationId
        { current.pool.shared with now := current.pool.shared.now + elapsed } member + 1
  | _ => True

theorem Since.start (since : Since conversationId initial leaver remaining floor opening current)
    {input : GroupCall} (given : GivenMembers (members initial current.pool) input)
    (notJoining : NotJoining leaver (.start input)) :
    Since conversationId initial leaver remaining floor opening
      ⟨current.pool.start (host rotationIntervalHours conversationId) firstPhase input,
        current.history⟩ := by
  constructor
  · rw [members_start]
    cases input with
    | join newMemberId existingMemberIds =>
      intro among
      rcases List.mem_cons.mp among with rfl | old
      · exact notJoining rfl
      · exact since.outside old
    | leave => exact fun among => since.outside (List.mem_filter.mp among).1
  · intro index earlier
    obtain ⟨call, ended⟩ := since.ended index earlier
    exact ⟨call, ended.start input⟩
  · intro index call later present
    rcases Pool.getElem?_start present with before | rfl
    · exact since.excludes index call later before
    · cases input with
      | join newMemberId existingMemberIds =>
        refine ⟨notJoining, fun among => since.outside ?_⟩
        exact (given leaver (Ne.symm notJoining)).mp among
      | leave => exact fun among => since.outside ((given leaver).mp among).1
  · exact since.sent
  · exact since.counter
  · intro index call member reached rest later present generating
    rcases Pool.getElem?_start present with before | rfl
    · exact since.counted index call member reached rest later before generating
    · cases input <;> cases generating
  · obtain ⟨new, same, stored⟩ := since.made
    refine ⟨new, same, fun member among => (stored member among).imp_left ?_⟩
    rintro ⟨call, present, later⟩
    obtain ⟨bound, _⟩ := List.getElem?_eq_some_iff.mp present
    exact ⟨call, (List.getElem?_append_left bound).trans present, later⟩

theorem Since.change (since : Since conversationId initial leaver remaining floor opening current)
    {elapsed : Nat} (keeps : KeepsFloor conversationId floor current (.change elapsed)) :
    Since conversationId initial leaver remaining floor opening
      { current with pool.shared :=
          { current.pool.shared with now := current.pool.shared.now + elapsed } } := by
  constructor
  · exact since.outside
  · intro index earlier
    obtain ⟨call, ended⟩ := since.ended index earlier
    exact ⟨call, ended.present, ended.outcome⟩
  · exact since.excludes
  · exact since.sent
  · exact fun member => keeps member (since.counter member)
  · exact since.counted
  · obtain ⟨new, same, stored⟩ := since.made
    refine ⟨new, same, fun member among => (stored member among).imp_right ?_⟩
    refine And.imp_right fun within senderKey found => within senderKey ?_
    exact ExpiringMap.lookup_of_later (Nat.le_add_right _ elapsed) found

variable {index : Nat} {call : GroupCallState} {command : GroupCommand}
  {next : command.Reply → GroupProgram Unit}

section

variable (since : Since conversationId initial leaver remaining floor opening current)
include since

theorem Since.later (present : current.pool.calls[index]? = some call)
    (program : call.program = .await command next) :
    opening.pool.calls.length ≤ index := by
  by_contra earlier
  obtain ⟨call', ended⟩ := since.ended index (by omega)
  cases present.symm.trans ended.present
  exact ended.not_await program

/-- A step that sends nothing to the leaver, lets no counter fall, stores keys from the floor on
only, and stores a key where the call had one to store. -/
theorem Since.step {effect : GroupStore × command.Reply} {keys made : List SenderKey}
    {emissions : List GroupEmission} (present : current.pool.calls[index]? = some call)
    (program : call.program = .await command next) (appended : keys = current.history ++ made)
    (sent : effect.1.sent = current.pool.shared.sent ++ emissions)
    (sends : ∀ emission ∈ emissions, recipient? emission ≠ some leaver)
    (grows : ∀ member, generation conversationId current.pool.shared member ≤
      generation conversationId effect.1 member)
    (counted : ∀ member reached rest, nextPhase call.input call.phase command effect.2 =
      .generating member (some reached) rest → floor member ≤ reached)
    (stored : ∀ member senderKey, senderKey? conversationId effect.1 member = some senderKey →
      senderKey? conversationId current.pool.shared member = some senderKey ∨
        (senderKey ∈ made ∧ floor member ≤ senderKey.generation))
    (own : ∀ member ∈ storesLater call.input call.phase,
      member ∈ storesLater call.input (nextPhase call.input call.phase command effect.2) ∨
        Renewed conversationId effect.1 made (floor member) member) :
    Since conversationId initial leaver remaining floor opening
      ⟨current.pool.resume (discipline conversationId) index call command next effect, keys⟩ := by
  have later := since.later present program
  constructor
  · rw [members_resume present]
    exact since.outside
  · intro other earlier
    obtain ⟨call', ended⟩ := since.ended other earlier
    exact ⟨call', ended.resume present program⟩
  · intro other call' later' found
    rw [Pool.getElem?_resume present] at found
    split at found
    · cases found
      exact since.excludes index call later present
    · exact since.excludes other call' later' found
  · obtain ⟨new, same, toOthers⟩ := since.sent
    refine ⟨new ++ emissions, ?_, fun emission here => ?_⟩
    · rw [← List.append_assoc, ← same]
      exact sent
    · rcases List.mem_append.mp here with before | now
      · exact toOthers emission before
      · exact sends emission now
  · intro member
    exact Nat.le_trans (since.counter member) (Nat.succ_le_succ (grows member))
  · intro other call' member reached rest later' found generating
    rw [Pool.getElem?_resume present] at found
    split at found
    · cases found
      exact counted member reached rest generating
    · exact since.counted other call' member reached rest later' found generating
  · obtain ⟨new, same, before⟩ := since.made
    refine ⟨new ++ made, ?_, fun member among => ?_⟩
    · rw [appended, ← List.append_assoc, ← same]
    · rcases before member among with ⟨rotator, there, rotates⟩ | ⟨⟨key, here, owns⟩, within⟩
      · by_cases own' : index = opening.pool.calls.length
        · subst own'
          cases present.symm.trans there
          rcases own member rotates with still | ⟨⟨key, here, owns⟩, within⟩
          · exact .inl ⟨_, (Pool.getElem?_resume present _).trans (if_pos rfl), still⟩
          · refine .inr ⟨⟨key, List.mem_append_right _ here, owns⟩, fun senderKey found => ?_⟩
            exact (within senderKey found).imp_left (List.mem_append_right _)
        · refine .inl ⟨rotator, ?_, rotates⟩
          rw [Pool.getElem?_resume present, if_neg own']
          exact there
      · refine .inr ⟨⟨key, List.mem_append_left _ here, owns⟩, fun senderKey found => ?_⟩
        rcases stored member senderKey found with old | new
        · exact (within senderKey old).imp_left (List.mem_append_left _)
        · exact new.imp_left (List.mem_append_right _)

theorem Since.quiet {effect : GroupStore × command.Reply}
    (present : current.pool.calls[index]? = some call)
    (program : call.program = .await command next)
    (silent : effect.1.sent = current.pool.shared.sent)
    (grows : ∀ member, generation conversationId current.pool.shared member ≤
      generation conversationId effect.1 member)
    (counted : ∀ member reached rest, nextPhase call.input call.phase command effect.2 =
      .generating member (some reached) rest → floor member ≤ reached)
    (kept : ∀ member senderKey, senderKey? conversationId effect.1 member = some senderKey →
      senderKey? conversationId current.pool.shared member = some senderKey)
    (own : ∀ member ∈ storesLater call.input call.phase,
      member ∈ storesLater call.input (nextPhase call.input call.phase command effect.2)) :
    Since conversationId initial leaver remaining floor opening
      ⟨current.pool.resume (discipline conversationId) index call command next effect,
        current.history⟩ :=
  since.step present program (List.append_nil _).symm (silent.trans (List.append_nil _).symm)
    (List.forall_mem_nil _) grows counted
    (fun member senderKey found => .inl (kept member senderKey found))
    fun member rotates => .inl (own member rotates)

end

theorem recipient?_distributions {made : SenderKey} {memberIds : List String} {timestamp : Nat}
    {emission : GroupEmission} (here : emission ∈ distributions made memberIds timestamp)
    (outside : leaver ∉ memberIds) : recipient? emission ≠ some leaver := by
  obtain ⟨member, among, rfl⟩ := List.mem_map.mp here
  intro same
  cases same
  exact outside (List.mem_filter.mp among).1

theorem recipient?_welcomes {newMemberId : String} {senderKeys : List SenderKey} {timestamp : Nat}
    {emission : GroupEmission}
    (here : emission ∈ welcomes conversationId newMemberId senderKeys timestamp)
    (other : newMemberId ≠ leaver) : recipient? emission ≠ some leaver := by
  obtain ⟨senderKey, _, rfl⟩ := List.mem_map.mp here
  intro same
  cases same
  exact other rfl

theorem Since.resume (since : Since conversationId initial leaver remaining floor opening current)
    (bytes : String) (present : current.pool.calls[index]? = some call)
    (program : call.program = .await command next)
    (awaits : Awaits conversationId call.input call.phase command) :
    Since conversationId initial leaver remaining floor opening
      ⟨current.pool.resume (discipline conversationId) index call command next
          (exec current.pool.shared command bytes),
        madeKeys.ran current.history index call command (exec current.pool.shared command bytes).2
          (next (exec current.pool.shared command bytes).2)⟩ := by
  have later := since.later present program
  have excludes := since.excludes index call later present
  have counted := fun member reached rest =>
    since.counted index call member reached rest later present
  obtain ⟨input, phase, body⟩ := call
  have unmade : current.history = current.history ++ [] := (List.append_nil _).symm
  cases awaits with
  | delete leavingMemberId remainingMemberIds =>
    refine since.quiet present program rfl (fun _ => Nat.le_refl _)
      (fun _ _ _ generating => absurd generating rotating_ne_counted)
      (fun member senderKey found => ?_) fun member rotates => ?_
    · rw [senderKey?_del] at found
      split at found
      · cases found
      · exact found
    · change member ∈ storesLater _ (rotating remainingMemberIds)
      rw [storesLater_rotating]
      exact rotates
  | read _ memberId rest senderKeys =>
    refine since.quiet present program rfl (fun _ => Nat.le_refl _) nofun (fun _ _ => id)
      fun member rotates => ?_
    cases input <;> exact rotates
  | welcome newMemberId existingMemberIds senderKeys =>
    refine since.step present program unmade rfl (fun emission here => ?_)
      (fun _ => Nat.le_refl _) nofun (fun _ _ => .inl) fun member rotates => .inl rotates
    exact recipient?_welcomes here excludes.1
  | draw =>
    exact since.quiet present program rfl (fun _ => Nat.le_refl _) nofun (fun _ _ => id)
      fun _ => id
  | count _ memberId rest =>
    refine since.quiet present program rfl (fun member => ?_) ?_ (fun _ _ => id)
      fun member rotates => ?_
    · rw [generation_incr]
      split
      · rename_i same
        rw [same]
        exact Nat.le_succ _
      · exact Nat.le_refl _
    · intro member reached later generating
      cases generating
      exact since.counter memberId
    · cases input <;> exact rotates
  | renew _ memberId reached rest seconds positive =>
    refine since.quiet present program rfl (fun member => ?_) counted (fun _ _ => id) fun _ => id
    exact Nat.le_of_eq (generation_expire positive).symm
  | date =>
    exact since.quiet present program rfl (fun _ => Nat.le_refl _) counted (fun _ _ => id)
      fun _ => id
  | store _ senderKey rest seconds positive =>
    have above := counted _ _ _ rfl
    refine since.step present program rfl (List.append_nil _).symm (List.forall_mem_nil _)
      (fun _ => Nat.le_refl _) nofun (fun member found stored => ?_) fun member rotates => ?_
    · rw [senderKey?_setex positive] at stored
      split at stored
      · rename_i same
        cases stored
        exact .inr ⟨List.mem_singleton.mpr rfl, same ▸ above⟩
      · exact .inl stored
    · by_cases same : member = senderKey.userId
      · refine .inr ⟨⟨senderKey, List.mem_singleton.mpr rfl, same.symm⟩, ?_⟩
        intro found stored
        rw [senderKey?_setex positive, if_pos same] at stored
        cases stored
        exact ⟨List.mem_singleton.mpr rfl, same ▸ above⟩
      · left
        cases input with
        | join => exact absurd (List.mem_singleton.mp rotates) same
        | leave => exact (List.mem_cons.mp rotates).resolve_left same
  | distribute _ senderKey rest =>
    refine since.step present program unmade rfl (fun emission here => ?_)
      (fun _ => Nat.le_refl _) ?_ (fun _ _ => .inl) fun member rotates => .inl ?_
    · refine recipient?_distributions here ?_
      cases input with
      | join => exact excludes.2
      | leave => exact excludes
    · intro member reached later generating
      cases input with
      | join => cases generating
      | leave => exact absurd generating rotating_ne_counted
    · cases input with
      | join => exact rotates
      | leave leavingMemberId remainingMemberIds =>
        change member ∈ storesLater _ (rotating rest)
        rw [storesLater_rotating]
        exact rotates
  | notify leavingMemberId remainingMemberIds =>
    refine since.step present program unmade rfl (fun emission here => ?_)
      (fun _ => Nat.le_refl _) nofun (fun _ _ => .inl) fun member rotates => .inl rotates
    cases List.mem_singleton.mp here
    nofun

theorem Since.opened (ended : ∀ other ∈ opening.pool.calls, other.program.outcome? ≠ none)
    (given : GivenMembers (members initial opening.pool) (.leave leaver remaining))
    (below : ∀ member, floor member ≤ generation conversationId opening.pool.shared member + 1) :
    Since conversationId initial leaver remaining floor opening
      ⟨opening.pool.start (host rotationIntervalHours conversationId) firstPhase
        (.leave leaver remaining), opening.history⟩ := by
  have last (index : Nat) (call : GroupCallState) (later : opening.pool.calls.length ≤ index)
      (present : (opening.pool.start (host rotationIntervalHours conversationId) firstPhase
        (.leave leaver remaining)).calls[index]? = some call) :
      call.input = .leave leaver remaining ∧ call.phase = .deleting := by
    rcases Pool.getElem?_start present with before | rfl
    · obtain ⟨bound, _⟩ := List.getElem?_eq_some_iff.mp before
      omega
    · exact ⟨rfl, rfl⟩
  constructor
  · rw [members_start]
    intro among
    exact absurd rfl (bne_iff_ne.mp (List.mem_filter.mp among).2)
  · intro index earlier
    have ended' : opening.pool.Ended index opening.pool.calls[index] :=
      ⟨List.getElem?_eq_getElem earlier, ended _ (List.getElem_mem earlier)⟩
    exact ⟨_, ended'.start _⟩
  · intro index call later present
    rw [(last index call later present).1]
    exact fun among => ((given leaver).mp among).2 rfl
  · exact ⟨[], (List.append_nil _).symm, nofun⟩
  · exact below
  · intro index call member reached rest later present generating
    cases (last index call later present).2.symm.trans generating
  · refine ⟨[], (List.append_nil _).symm, fun member among => .inl ?_⟩
    exact ⟨⟨.leave leaver remaining, .deleting, (host rotationIntervalHours conversationId).body
      (.leave leaver remaining)⟩, List.getElem?_concat_length, among⟩

end Since

section Runs

variable {conversationId : String} {initial : List String} {rotationIntervalHours : Nat}
  {current : GroupHistory} {events : List GroupEvent}

theorem storesLater_finished (input : GroupCall) : storesLater input .finished = [] := by
  cases input <;> rfl

theorem keepsFloor_zero {event : GroupEvent} :
    KeepsFloor conversationId (fun _ => 0) current event := by
  cases event with
  | change elapsed => exact fun _ _ => Nat.zero_le _
  | _ => trivial

theorem keepsFloor_of_stays {floor : String → Nat} {event : GroupEvent}
    (stays : GenerationsStay current event) : KeepsFloor conversationId floor current event := by
  cases event with
  | change elapsed =>
    intro member above
    have same : generation conversationId
        { current.pool.shared with now := current.pool.shared.now + elapsed } member =
          generation conversationId current.pool.shared member :=
      congrArg (·.getD 0) (stays _)
    rw [same]
    exact above
  | _ => trivial

theorem since_run {leaver : String} {remaining : List String} {floor : String → Nat}
    {opening : GroupHistory}
    (inTurn : (history rotationIntervalHours conversationId).Admits (InTurn initial) current events)
    (notJoining : ∀ event ∈ events, NotJoining leaver event)
    (keeps : (history rotationIntervalHours conversationId).Admits
      (KeepsFloor conversationId floor) current events)
    (respectful : current.pool.Respectful (discipline conversationId) ends)
    (since : Since conversationId initial leaver remaining floor opening current) :
    ((history rotationIntervalHours conversationId).run current events).pool.Respectful
        (discipline conversationId) ends ∧
      Since conversationId initial leaver remaining floor opening
        ((history rotationIntervalHours conversationId).run current events) := by
  refine Pool.Recorded.invariant (groupCall_respects rotationIntervalHours) ?_ ?_ ?_
    ((inTurn.and_of_forall notJoining).and keeps) respectful since
  · intro current input since guarded
    exact since.start guarded.1.1.2 guarded.1.2
  · intro current elapsed since guarded
    exact since.change guarded.2
  · intro current index bytes call command next since _ _ present program awaits
    exact ⟨trivial, fun _ => since.resume bytes present program awaits⟩

/-- While no generation expires, generations are no further than their counters. -/
theorem counted_run
    (stay : (history rotationIntervalHours conversationId).Admits GenerationsStay current events)
    (respectful : current.pool.Respectful (discipline conversationId) ends)
    (counted : Counted conversationId current.pool) :
    ((history rotationIntervalHours conversationId).run current events).pool.Respectful
        (discipline conversationId) ends ∧ Counted conversationId
        ((history rotationIntervalHours conversationId).run current events).pool := by
  refine @Pool.Recorded.invariant _ _ _ _ _ _ _ _ _ _ _ _ _ _ _
    (fun current => Counted conversationId current.pool)
    (groupCall_respects rotationIntervalHours) ?_ ?_ ?_ _ _ stay respectful counted
  · intro current input counted _
    exact counted.start rotationIntervalHours input
  · intro current elapsed counted stays
    have same (member : String) : generation conversationId
        { current.pool.shared with now := current.pool.shared.now + elapsed } member =
          generation conversationId current.pool.shared member :=
      congrArg (·.getD 0) (stays _)
    constructor
    · intro member senderKey found
      refine Nat.le_trans (counted.stored member senderKey ?_) (Nat.le_of_eq (same member).symm)
      exact ExpiringMap.lookup_of_later (Nat.le_add_right _ elapsed) found
    · intro call here member reached rest generating
      exact Nat.le_trans (counted.made call here member reached rest generating)
        (Nat.le_of_eq (same member).symm)
  · intro current index bytes call command next counted _ _ present _ awaits
    exact ⟨trivial, fun _ => counted.resume bytes present awaits⟩

end Runs

/-- Joins and leaves run one after the other, each given the members at its start. From a leave
on, and until the member joins again, nothing is sent to the member who has left. When the
leave has completed, a key of every remaining member has been made, and what is stored for the
member has been made since; while no generation expires, it is of a later generation than what
was stored before. -/
theorem leaver_learns_nothing (rotationIntervalHours : Nat) (conversationId : String)
    (initial : List String) (store : GroupStore) (before after : List GroupEvent)
    (leaver : String) (remaining : List String)
    (inTurn : (history rotationIntervalHours conversationId).Admits (InTurn initial)
      (newHistory store) (before ++ .start (.leave leaver remaining) :: after))
    (notJoining : ∀ event ∈ after, NotJoining leaver event) (left now : GroupHistory)
    (ran : (history rotationIntervalHours conversationId).run (newHistory store) before = left)
    (came : (history rotationIntervalHours conversationId).run left
      (.start (.leave leaver remaining) :: after) = now) :
    (∃ new, now.pool.shared.sent = left.pool.shared.sent ++ new ∧
      ∀ emission ∈ new, recipient? emission ≠ some leaver) ∧
    (now.pool.outcome? left.pool.calls.length = some (.ok ()) →
      ∃ new, now.history = left.history ++ new ∧ ∀ member ∈ remaining,
        (∃ senderKey ∈ new, senderKey.userId = member) ∧
        ∀ senderKey, senderKey? conversationId now.pool.shared member = some senderKey →
          senderKey ∈ new ∧ ((history rotationIntervalHours conversationId).Admits GenerationsStay
              (newHistory store) (before ++ .start (.leave leaver remaining) :: after) →
            (∀ user key, senderKey? conversationId store user = some key →
              key.generation ≤ generation conversationId store user) →
            ∀ earlier, senderKey? conversationId left.pool.shared member = some earlier →
              earlier.generation < senderKey.generation)) := by
  obtain ⟨inTurn, ⟨ended, given⟩, inTurn'⟩ := Transducer.admits_append.mp inTurn
  rw [ran] at ended given inTurn'
  have nobody : (newHistory store).pool.Respectful (discipline conversationId) ends :=
    fun call here => absurd here List.not_mem_nil
  have respectful : left.pool.Respectful (discipline conversationId) ends := by
    rw [← ran]
    change (Transducer.run (Pool.Recorded.machine _ _ _ _) _ _).pool.Respectful _ _
    rw [Pool.Recorded.pool_run]
    exact Pool.respectful_run (groupCall_respects rotationIntervalHours)
      (fun _ _ _ _ => trivial) nobody before
  have since {floor : String → Nat}
      (below : ∀ member, floor member ≤ generation conversationId left.pool.shared member + 1)
      (keeps : (history rotationIntervalHours conversationId).Admits
        (KeepsFloor conversationId floor) left (.start (.leave leaver remaining) :: after)) :
      now.pool.Respectful (discipline conversationId) ends ∧
        Since conversationId initial leaver remaining floor left now := by
    rw [← came, Transducer.run_cons]
    exact since_run inTurn' notJoining keeps.2 (respectful.start (groupCall_respects _ _))
      (Since.opened ended given below)
  obtain ⟨respectful', always⟩ := @since (fun _ => 0) (fun _ => Nat.zero_le _)
    (Transducer.admits_of_forall (fun _ _ => keepsFloor_zero) _ _)
  refine ⟨always.sent, fun completed => ?_⟩
  have unrotated {member : String} : ¬ Rotates now.pool left.pool.calls.length member := by
    rintro ⟨call, present, rotates⟩
    obtain ⟨call', present', outcome⟩ := Option.bind_eq_some_iff.mp completed
    cases present.symm.trans present'
    have finished := ((respectful' call (List.mem_of_getElem? present)).ends_of_outcome outcome).1
    rw [finished, storesLater_finished] at rotates
    cases rotates
  obtain ⟨new, same, made⟩ := always.made
  refine ⟨new, same, fun member among => ?_⟩
  obtain ⟨renewed, within⟩ := (made member among).resolve_left unrotated
  refine ⟨renewed, fun senderKey found => ⟨(within senderKey found).1, ?_⟩⟩
  intro stay counted earlier before'
  obtain ⟨stay, stay'⟩ := Transducer.admits_append.mp stay
  rw [ran] at stay'
  have counts : Counted conversationId left.pool := by
    rw [← ran]
    exact (counted_run stay nobody
      ⟨counted, fun call here => absurd here List.not_mem_nil⟩).2
  obtain ⟨_, counting⟩ := @since (fun member => generation conversationId left.pool.shared member + 1)
    (fun _ => Nat.le_refl _) (@Transducer.Admits.imp _ _ _ _ _ _ (fun _ => True)
      (fun _ _ _ _ => trivial) (fun _ _ _ => keepsFloor_of_stays) _ _ stay' trivial)
  obtain ⟨_, _, made'⟩ := counting.made
  have above := (((made' member among).resolve_left unrotated).2 senderKey found).2
  have below := counts.stored member earlier before'
  omega

section Sample

def joinedTwo : List GroupEvent := .start (.join "b" ["a", "x"]) :: commands 0 9 "k"

def leftBoth : List GroupEvent := commands 1 14 "l"

theorem inTurn_left : (history 168 "c").Admits (InTurn ["a", "x"]) (newHistory sampleStore)
    (joinedTwo ++ .start (.leave "x" ["b", "a"]) :: leftBoth) := by
  refine Transducer.admits_append.mpr ⟨⟨⟨nofun, fun _ _ => Iff.rfl⟩, ?_⟩, ⟨?_, ?_⟩, ?_⟩
  · exact admits_commands (fun _ _ _ => trivial) 0 9 "k" _
  · decide +kernel
  · intro member
    have among : members ["a", "x"] ((history 168 "c").run (newHistory sampleStore)
        joinedTwo).pool = ["b", "a", "x"] := by decide +kernel
    rw [among]
    grind
  · exact admits_commands (fun _ _ _ => trivial) 1 14 "l" _

theorem left_member_learns_nothing : (∃ new, ((history 168 "c").run (newHistory sampleStore)
        (joinedTwo ++ .start (.leave "x" ["b", "a"]) :: leftBoth)).pool.shared.sent =
      ((history 168 "c").run (newHistory sampleStore) joinedTwo).pool.shared.sent ++ new ∧
      ∀ emission ∈ new, recipient? emission ≠ some "x") ∧
    ∀ senderKey, senderKey? "c" ((history 168 "c").run (newHistory sampleStore)
        (joinedTwo ++ .start (.leave "x" ["b", "a"]) :: leftBoth)).pool.shared "b" =
      some senderKey → 1 < senderKey.generation := by
  have learnt := leaver_learns_nothing 168 "c" ["a", "x"] sampleStore joinedTwo leftBoth "x"
    ["b", "a"] inTurn_left (by decide +kernel) _ _ rfl rfl
  rw [Transducer.run_append]
  refine ⟨learnt.1, fun senderKey found => ?_⟩
  obtain ⟨new, _, made⟩ := learnt.2 (by decide +kernel)
  have before : senderKey? "c" ((history 168 "c").run (newHistory sampleStore)
      joinedTwo).pool.shared "b" = some ⟨"b", "c", "k", 1, 0⟩ := by decide +kernel
  refine (((made "b" (by decide)).2 senderKey found).2 ?_ nofun) _ before
  refine Transducer.admits_append.mpr ⟨⟨trivial, ?_⟩, trivial, ?_⟩
  · exact admits_commands (fun _ _ _ => trivial) 0 9 "k" _
  · exact admits_commands (fun _ _ _ => trivial) 1 14 "l" _

def leftLater : List GroupEvent :=
  leftBoth ++ .change 31536000001 :: .start (.leave "a" ["b"]) :: commands 2 8 "m"

/-- The generations start again from one. -/
theorem generation_restarts_after_year :
    ¬ ∀ (before after : List GroupEvent) (leaver : String) (remaining : List String)
      (left now : GroupHistory),
      (history 168 "c").Admits (InTurn ["a", "x"]) (newHistory sampleStore)
        (before ++ .start (.leave leaver remaining) :: after) →
      (∀ event ∈ after, NotJoining leaver event) →
      (history 168 "c").run (newHistory sampleStore) before = left →
      (history 168 "c").run left (.start (.leave leaver remaining) :: after) = now →
      now.pool.outcome? left.pool.calls.length = some (.ok ()) →
      ∀ member ∈ remaining, ∀ earlier senderKey,
        senderKey? "c" left.pool.shared member = some earlier →
        senderKey? "c" now.pool.shared member = some senderKey →
        earlier.generation < senderKey.generation := by
  intro further
  have inTurn : (history 168 "c").Admits (InTurn ["a", "x"]) (newHistory sampleStore)
      (joinedTwo ++ .start (.leave "x" ["b", "a"]) :: leftLater) := by
    obtain ⟨joins, start, leaves⟩ := Transducer.admits_append.mp inTurn_left
    refine Transducer.admits_append.mpr ⟨joins, start, ?_⟩
    refine Transducer.admits_append.mpr ⟨leaves, trivial, ⟨by decide +kernel, ?_⟩, ?_⟩
    · have among : members ["a", "x"] ((history 168 "c").step ((history 168 "c").run
          ((history 168 "c").step ((history 168 "c").run (newHistory sampleStore) joinedTwo)
            (.start (.leave "x" ["b", "a"]))).1 leftBoth) (.change 31536000001)).1.pool =
              ["b", "a"] := by decide +kernel
      rw [among]
      intro member
      grind
    · exact admits_commands (fun _ _ _ => trivial) 2 8 "m" _
  have before : senderKey? "c" ((history 168 "c").run (newHistory sampleStore)
      joinedTwo).pool.shared "b" = some ⟨"b", "c", "k", 1, 0⟩ := by decide +kernel
  have now : senderKey? "c" ((history 168 "c").run ((history 168 "c").run (newHistory sampleStore)
      joinedTwo) (.start (.leave "x" ["b", "a"]) :: leftLater)).pool.shared "b" =
        some ⟨"b", "c", "m", 1, 31536000001⟩ := by decide +kernel
  have later := further joinedTwo leftLater "x" ["b", "a"] _ _ inTurn (by decide +kernel) rfl rfl
    (by decide +kernel) "b" (by decide) _ _ before now
  exact absurd later (by decide)

end Sample

end Caas.E2e.GroupEncryption
