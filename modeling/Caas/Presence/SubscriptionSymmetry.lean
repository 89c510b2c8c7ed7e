import Caas.Presence.PresenceSubscriber

/-!
# Subscriptions are symmetric and bounded

Whom a subscriber has subscribed to and who has subscribed to a user should be the same relation.
It is stored twice and changed one set at a time, so calls of one subscriber that overlap can
leave the two apart; and calls that count the subscriptions before either adds its own can exceed
the limit together.
-/

namespace Caas.Presence.PresenceSubscriber

open Async Program Redis

/-- What an operation has still to do: to count, to add the subscriber to the sets of targets, to
remove them, or to remove them and then to delete the subscriptions. -/
inductive SubscriptionPhase where
  | idle
  | counted (currentCount : Nat)
  | adding (remaining : List String)
  | removing (remaining : List String)
  | clearing (remaining : List String)
  | done

def nextPhase (operation : SubscriptionOperation) (phase : SubscriptionPhase) :
    (command : SetCommand) → command.Reply → SubscriptionPhase
  | .sCard _, count => .counted count
  | .sAdd (.subscriptions _) members, .ok _ => .adding members
  | .sAdd (.subscriptions _) _, .error _ => .done
  | .sRem (.subscriptions _) members, .ok _ => .removing members
  | .sRem (.subscriptions _) _, .error _ => .done
  | .sAdd (.subscribers _) _, _ | .sRem (.subscribers _) _, _ =>
    match phase with
    | .adding remaining => .adding remaining.tail
    | .removing remaining => .removing remaining.tail
    | .clearing remaining => .clearing remaining.tail
    | phase => phase
  | .sMembers _, (members : List String) =>
    match operation, members with
    | .unsubscribeAll _, _ :: _ => .clearing members
    | _, _ => .done
  | .del _, _ => .done

inductive Awaits : SubscriptionOperation → SubscriptionPhase → SetCommand → Prop where
  | count subscriberId targetUserIds :
    Awaits (.subscribe subscriberId targetUserIds) .idle (.sCard (.subscriptions subscriberId))
  | subscribe subscriberId targetUserIds count :
    Awaits (.subscribe subscriberId targetUserIds) (.counted count)
      (.sAdd (.subscriptions subscriberId) targetUserIds)
  | addSubscriber subscriberId targetUserIds target rest :
    Awaits (.subscribe subscriberId targetUserIds) (.adding (target :: rest))
      (.sAdd (.subscribers target) [subscriberId])
  | unsubscribe subscriberId targetUserIds :
    Awaits (.unsubscribe subscriberId targetUserIds) .idle
      (.sRem (.subscriptions subscriberId) targetUserIds)
  | removeSubscriber subscriberId targetUserIds target rest :
    Awaits (.unsubscribe subscriberId targetUserIds) (.removing (target :: rest))
      (.sRem (.subscribers target) [subscriberId])
  | members subscriberId :
    Awaits (.unsubscribeAll subscriberId) .idle (.sMembers (.subscriptions subscriberId))
  | clear subscriberId target rest :
    Awaits (.unsubscribeAll subscriberId) (.clearing (target :: rest))
      (.sRem (.subscribers target) [subscriberId])
  | delete subscriberId :
    Awaits (.unsubscribeAll subscriberId) (.clearing []) (.del (.subscriptions subscriberId))
  | getSubscriptions subscriberId :
    Awaits (.getSubscriptions subscriberId) .idle (.sMembers (.subscriptions subscriberId))
  | getSubscribers targetUserId :
    Awaits (.getSubscribers targetUserId) .idle (.sMembers (.subscribers targetUserId))

/-- Adding and removing members succeeds when there are any. -/
def assumes : (command : SetCommand) → command.Reply → Prop
  | .sAdd _ (_ :: _), reply | .sRem _ (_ :: _), reply => reply = .ok ()
  | _, _ => True

def discipline (operation : SubscriptionOperation) :
    Discipline SetCommand SetCommand.Reply SubscriptionPhase where
  next := nextPhase operation
  may := Awaits operation
  assumes := assumes

def SubscriptionPhase.AtRest : SubscriptionPhase → Prop
  | .adding remaining | .removing remaining => remaining = []
  | .clearing _ => False
  | .idle | .counted _ | .done => True

/-- An operation ends when it has nothing left to do. -/
def ends {α : Type} (phase : SubscriptionPhase) (_ : Outcome α) : Prop := phase.AtRest

variable (subscriberId : String) (targetUserIds remaining : List String)

theorem addSubscriber_respects : (addSubscriber subscriberId remaining).Respects
      (discipline (.subscribe subscriberId targetUserIds)) ends (.adding remaining) := by
  induction remaining with
  | nil => rfl
  | cons target rest ih =>
    refine ⟨.addSubscriber _ _ _ _,
      fun (added : Outcome Unit) (succeeded : added = .ok ()) => ?_⟩
    subst succeeded
    exact ih

theorem removeSubscriber_respects : (removeSubscriber subscriberId remaining).Respects
      (discipline (.unsubscribe subscriberId targetUserIds)) ends (.removing remaining) := by
  induction remaining with
  | nil => rfl
  | cons target rest ih =>
    refine ⟨.removeSubscriber _ _ _ _, fun (removed : Outcome Unit)
      (succeeded : removed = .ok ()) => ?_⟩
    subst succeeded
    exact ih

theorem clearSubscriber_respects :
    (do
      removeSubscriber subscriberId remaining
      RedisClient.del (.subscriptions subscriberId) : SubscriptionProgram Unit).Respects
        (discipline (.unsubscribeAll subscriberId)) ends (.clearing remaining) := by
  induction remaining with
  | nil => exact ⟨.delete _, fun _ _ => trivial⟩
  | cons target rest ih =>
    refine ⟨.clear _ _ _, fun (removed : Outcome Unit) (succeeded : removed = .ok ()) => ?_⟩
    subst succeeded
    exact ih

theorem getSubscriptionCount_respects {subscriberId : String} {targetUserIds : List String}
    {next : Nat → SubscriptionProgram Unit}
    (later : ∀ count, (next count).Respects (discipline (.subscribe subscriberId targetUserIds)) ends
      (.counted count)) : (getSubscriptionCount subscriberId >>= next).Respects
      (discipline (.subscribe subscriberId targetUserIds)) ends .idle :=
  ⟨.count _ _, fun (count : Nat) _ => later count⟩

theorem subscribe_respects : (subscribe subscriberId targetUserIds).Respects
      (discipline (.subscribe subscriberId targetUserIds)) ends .idle := by
  refine getSubscriptionCount_respects fun count => ?_
  split
  · trivial
  · refine ⟨.subscribe _ _ _, fun (added : Outcome Unit) _ => ?_⟩
    cases added with
    | error error => trivial
    | ok _ => exact addSubscriber_respects subscriberId targetUserIds targetUserIds

theorem unsubscribe_respects : (unsubscribe subscriberId targetUserIds).Respects
      (discipline (.unsubscribe subscriberId targetUserIds)) ends .idle := by
  refine ⟨.unsubscribe _ _, fun (removed : Outcome Unit) _ => ?_⟩
  cases removed with
  | error error => trivial
  | ok _ => exact removeSubscriber_respects subscriberId targetUserIds targetUserIds

theorem unsubscribeAll_respects :
    (unsubscribeAll subscriberId).Respects (discipline (.unsubscribeAll subscriberId)) ends
      .idle := by
  refine ⟨.members _, fun (members : List String) _ => ?_⟩
  cases members with
  | nil => trivial
  | cons target rest => exact clearSubscriber_respects subscriberId (target :: rest)

theorem finishing_respects {operation : SubscriptionOperation} {program : SubscriptionProgram Unit}
    {phase : SubscriptionPhase} (respects : program.Respects (discipline operation) ends phase) :
    (finishing program).Respects (discipline operation) ends phase := by
  refine respects_bind (respects.mono fun phase outcome rest => ?_)
  cases outcome <;> exact rest

theorem operation_respects (operation : SubscriptionOperation) :
    (host.body operation).Respects (discipline operation) ends .idle := by
  cases operation with
  | subscribe subscriberId targetUserIds =>
    exact finishing_respects (subscribe_respects subscriberId targetUserIds)
  | unsubscribe subscriberId targetUserIds =>
    exact finishing_respects (unsubscribe_respects subscriberId targetUserIds)
  | unsubscribeAll subscriberId => exact finishing_respects (unsubscribeAll_respects subscriberId)
  | getSubscriptions subscriberId => exact ⟨.getSubscriptions _, fun _ _ => trivial⟩
  | getSubscribers targetUserId => exact ⟨.getSubscribers _, fun _ _ => trivial⟩

abbrev SubscriptionEvent := Event Unit Empty SubscriptionOperation

abbrev SubscriptionPool :=
  Pool PresenceSets SetCommand SetCommand.Reply SubscriptionOperation SubscriptionPhase
    (List String)

def subscriptionMachine : Transducer SubscriptionPool SubscriptionEvent Unit :=
  Pool.machine host discipline fun _ => .idle

/-- What `getSubscriptions` returns. -/
def subscriptionsOf (sets : PresenceSets) (subscriberId : String) : List String :=
  sets.members (.subscriptions subscriberId)

/-- What `getSubscribers` returns. -/
def subscribersOf (sets : PresenceSets) (targetUserId : String) : List String :=
  sets.members (.subscribers targetUserId)

/-- The operation has still to add the subscriber to the set of the target. -/
def Adds (subscriberId target : String) : SubscriptionOperation → SubscriptionPhase → Prop
  | .subscribe other _, .adding remaining => other = subscriberId ∧ target ∈ remaining
  | _, _ => False

/-- The operation has still to remove the subscriber from the set of the target. -/
def Removes (subscriberId target : String) : SubscriptionOperation → SubscriptionPhase → Prop
  | .unsubscribe other _, .removing remaining | .unsubscribeAll other, .clearing remaining =>
    other = subscriberId ∧ target ∈ remaining
  | _, _ => False

/-- The operation has still to delete the subscriptions. -/
def Clears (subscriberId : String) : SubscriptionOperation → SubscriptionPhase → Prop
  | .unsubscribeAll other, .clearing _ => other = subscriberId
  | _, _ => False

/-- Some operation is in such a phase. -/
def InProgress (pool : SubscriptionPool)
    (kind : SubscriptionOperation → SubscriptionPhase → Prop) : Prop :=
  ∃ call ∈ pool.calls, kind call.input call.phase

/-- The command agrees with what others have done: subscriptions are added only as far as the
limit still allows; a subscriber is added to the set of a target to whom they are still
subscribed, removed from that of one to whom they still are not, and none of the subscriptions
that are deleted has them as a subscriber, unless an operation in progress will see to that. -/
def Agrees (pool : SubscriptionPool) (operation : SubscriptionOperation) : SetCommand → Prop
  | .sAdd (.subscriptions subscriberId) targetUserIds =>
    (subscriptionsOf pool.shared subscriberId).length + targetUserIds.length ≤ maxSubscriptions
  | .sAdd (.subscribers target) _ => ∀ subscriberId targetUserIds,
    operation = .subscribe subscriberId targetUserIds →
      target ∈ subscriptionsOf pool.shared subscriberId ∨
        InProgress pool (Removes subscriberId target)
  | .sRem (.subscribers target) _ => ∀ subscriberId targetUserIds,
    operation = .unsubscribe subscriberId targetUserIds →
      target ∈ subscriptionsOf pool.shared subscriberId →
        InProgress pool (Adds subscriberId target) ∨ InProgress pool (Clears subscriberId)
  | .del (.subscriptions subscriberId) => ∀ target ∈ subscriptionsOf pool.shared subscriberId,
    subscriberId ∈ subscribersOf pool.shared target → InProgress pool (Removes subscriberId target)
  | _ => True

/-- Every command agrees with what others have done. -/
def Undisturbed (pool : SubscriptionPool) : SubscriptionEvent → Prop
  | .run index _ => ∀ call command, pool.awaited? index = some (call, command) →
    Agrees pool call.input command
  | _ => True

/-- No subscriber has more subscriptions than the limit. -/
def Bounded (sets : PresenceSets) : Prop :=
  ∀ subscriberId, (subscriptionsOf sets subscriberId).length ≤ maxSubscriptions

/-- Subscriptions and subscribers are the same relation. -/
def Symmetric (sets : PresenceSets) : Prop := ∀ subscriberId target,
  target ∈ subscriptionsOf sets subscriberId ↔ subscriberId ∈ subscribersOf sets target

/-- Subscriptions are bounded, and symmetric as soon as every call has completed. -/
structure SymmetricWhenDone (pool : SubscriptionPool) : Prop where
  bounded : Bounded pool.shared
  symmetric : (∀ call ∈ pool.calls, call.program.outcome? ≠ none) → Symmetric pool.shared

/-- Subscriptions are bounded, and symmetric up to what operations in progress have still to
do. -/
structure Balanced (pool : SubscriptionPool) : Prop where
  bounded : Bounded pool.shared
  forth : ∀ subscriberId target, target ∈ subscriptionsOf pool.shared subscriberId →
    subscriberId ∈ subscribersOf pool.shared target ∨ InProgress pool (Adds subscriberId target) ∨
      InProgress pool (Clears subscriberId)
  back : ∀ subscriberId target, subscriberId ∈ subscribersOf pool.shared target →
    target ∈ subscriptionsOf pool.shared subscriberId ∨ InProgress pool (Removes subscriberId target)

section Steps

variable {pool pool' : SubscriptionPool} {subscriberId target : String}
  {call : Call SetCommand SetCommand.Reply SubscriptionOperation SubscriptionPhase (List String)}
  {phase : SubscriptionPhase} {kind : SubscriptionOperation → SubscriptionPhase → Prop}

theorem InProgress.goes (progress : InProgress pool kind) (goes : pool.Goes call phase pool') :
    InProgress pool' kind ∨ kind call.input call.phase := by
  obtain ⟨other, here, holds⟩ := progress
  rcases goes.forth other here with there | rfl
  · exact .inl ⟨other, there, holds⟩
  · exact .inr holds

theorem inProgress_self (goes : pool.Goes call phase pool') (own : kind call.input phase) :
    InProgress pool' kind := by
  obtain ⟨self, there, input, reached⟩ := goes.self
  refine ⟨self, there, ?_⟩
  rw [input, reached]
  exact own

theorem not_inProgress (respectful : pool.Respectful discipline fun _ => ends)
    (ended : ∀ call ∈ pool.calls, call.program.outcome? ≠ none)
    (busy : ∀ operation phase, kind operation phase → ¬ phase.AtRest) : ¬ InProgress pool kind := by
  rintro ⟨call, here, holds⟩
  obtain ⟨outcome, done⟩ := Option.ne_none_iff_exists'.mp (ended call here)
  exact busy _ _ holds ((respectful call here).ends_of_outcome done)

/-- What an operation that goes on had to do is done, or is still to do. -/
structure Proceeds (sets : PresenceSets) (operation : SubscriptionOperation)
    (before after : SubscriptionPhase) : Prop where
  adds : ∀ subscriberId target, Adds subscriberId target operation before →
    subscriberId ∈ subscribersOf sets target ∨ Adds subscriberId target operation after
  clears : ∀ subscriberId target, Clears subscriberId operation before →
    target ∉ subscriptionsOf sets subscriberId ∨ Clears subscriberId operation after
  removes : ∀ subscriberId target, Removes subscriberId target operation before →
    subscriberId ∉ subscribersOf sets target ∨ Removes subscriberId target operation after

/-- An operation goes on, and every subscription and every subscriber is as before, or has its
counterpart, or something in progress will see to it. -/
theorem Balanced.goes (balanced : Balanced pool) (goes : pool.Goes call phase pool')
    (bounded : Bounded pool'.shared) (proceeds : Proceeds pool'.shared call.input call.phase phase)
    (forth : ∀ subscriberId target, target ∈ subscriptionsOf pool'.shared subscriberId →
      (target ∈ subscriptionsOf pool.shared subscriberId ∧
        (subscriberId ∈ subscribersOf pool.shared target →
          subscriberId ∈ subscribersOf pool'.shared target)) ∨
      Adds subscriberId target call.input phase ∨ Clears subscriberId call.input phase ∨
      InProgress pool (Adds subscriberId target) ∨ InProgress pool (Clears subscriberId))
    (back : ∀ subscriberId target, subscriberId ∈ subscribersOf pool'.shared target →
      (subscriberId ∈ subscribersOf pool.shared target ∧
        (target ∈ subscriptionsOf pool.shared subscriberId →
          target ∈ subscriptionsOf pool'.shared subscriberId)) ∨
      target ∈ subscriptionsOf pool'.shared subscriberId ∨
      Removes subscriberId target call.input phase ∨
      InProgress pool (Removes subscriberId target)) : Balanced pool' := by
  have adding {subscriberId target : String}
      (progress : InProgress pool (Adds subscriberId target)) :
      subscriberId ∈ subscribersOf pool'.shared target ∨
        InProgress pool' (Adds subscriberId target) := by
    rcases progress.goes goes with stays | own
    · exact .inr stays
    · exact (proceeds.adds _ _ own).imp_right fun left => inProgress_self goes left
  have clearing {subscriberId target : String}
      (subscribed : target ∈ subscriptionsOf pool'.shared subscriberId)
      (progress : InProgress pool (Clears subscriberId)) :
      InProgress pool' (Clears subscriberId) := by
    rcases progress.goes goes with stays | own
    · exact stays
    · rcases proceeds.clears _ target own with cleared | left
      · exact absurd subscribed cleared
      · exact inProgress_self goes left
  have removing {subscriberId target : String}
      (subscribing : subscriberId ∈ subscribersOf pool'.shared target)
      (progress : InProgress pool (Removes subscriberId target)) :
      InProgress pool' (Removes subscriberId target) := by
    rcases progress.goes goes with stays | own
    · exact stays
    · rcases proceeds.removes _ _ own with removed | left
      · exact absurd subscribing removed
      · exact inProgress_self goes left
  refine ⟨bounded, fun subscriberId target subscribed => ?_,
    fun subscriberId target subscribing => ?_⟩
  · rcases forth subscriberId target subscribed with ⟨before, kept⟩ | adds | clears | adds | clears
    · rcases balanced.forth subscriberId target before with here | adds | clears
      · exact .inl (kept here)
      · exact (adding adds).imp_right .inl
      · exact .inr (.inr (clearing subscribed clears))
    · exact .inr (.inl (inProgress_self goes adds))
    · exact .inr (.inr (inProgress_self goes clears))
    · exact (adding adds).imp_right .inl
    · exact .inr (.inr (clearing subscribed clears))
  · rcases back subscriberId target subscribing with ⟨before, kept⟩ | here | removes | removes
    · rcases balanced.back subscriberId target before with here | removes
      · exact .inl (kept here)
      · exact .inr (removing subscribing removes)
    · exact .inl here
    · exact .inr (inProgress_self goes removes)
    · exact .inr (removing subscribing removes)

theorem Balanced.unchanged (balanced : Balanced pool) (goes : pool.Goes call phase pool')
    (proceeds : Proceeds pool'.shared call.input call.phase phase)
    (shared : pool'.shared = pool.shared) : Balanced pool' := by
  refine balanced.goes goes (shared ▸ balanced.bounded) proceeds ?_ ?_
  · exact fun _ _ subscribed => .inl ⟨shared ▸ subscribed, fun here => shared ▸ here⟩
  · exact fun _ _ subscribing => .inl ⟨shared ▸ subscribing, fun here => shared ▸ here⟩

variable {sets : PresenceSets} {targetUserIds : List String}

theorem Proceeds.of_idle {operation : SubscriptionOperation} {before after : SubscriptionPhase}
    (idle : before = .idle ∨ ∃ count, before = .counted count) :
    Proceeds sets operation before after := by
  rcases idle with rfl | ⟨count, rfl⟩ <;> constructor <;> simp [Adds, Clears, Removes]

/-- The number of subscriptions of no other subscriber changes, and that of this one stays within
the limit. -/
theorem Bounded.replace (bounded : Bounded sets) {members : List String} {nodup : members.Nodup}
    (within : members.length ≤ maxSubscriptions) :
    Bounded (sets.replace (.subscriptions subscriberId) members nodup) := by
  intro other
  by_cases same : PresenceKey.subscriptions other = .subscriptions subscriberId
  · rw [subscriptionsOf, same, Sets.members_replace_self]
    exact within
  · rw [subscriptionsOf, Sets.members_replace_of_ne same]
    exact bounded other

theorem Bounded.replace_subscribers (bounded : Bounded sets) {members : List String}
    {nodup : members.Nodup} : Bounded (sets.replace (.subscribers target) members nodup) := by
  intro other
  rw [subscriptionsOf, Sets.members_replace_of_ne (by simp)]
  exact bounded other

section

variable (balanced : Balanced pool)
include balanced

theorem Balanced.subscribe {count : Nat}
    (input : call.input = .subscribe subscriberId targetUserIds)
    (before : call.phase = .counted count)
    (agrees : (subscriptionsOf pool.shared subscriberId).length + targetUserIds.length ≤
      maxSubscriptions)
    (after : targetUserIds ≠ [] → phase = .adding targetUserIds) (goes : pool.Goes call phase pool')
    (shared : pool'.shared = pool.shared.sadd (.subscriptions subscriberId) targetUserIds) :
    Balanced pool' := by
  refine balanced.goes goes ?_ (Proceeds.of_idle (.inr ⟨count, before⟩)) ?_ ?_
  · rw [shared]
    refine balanced.bounded.replace ?_
    have added : ((pool.shared.sadd (.subscriptions subscriberId) targetUserIds).members
        (.subscriptions subscriberId)).length ≤ targetUserIds.length +
          (pool.shared.members (.subscriptions subscriberId)).length := Sets.length_sadd_self
    rw [Sets.members_sadd_self] at added
    exact le_trans added (by rw [Nat.add_comm]; exact agrees)
  · intro other target subscribed
    rw [subscriptionsOf, shared, Sets.mem_sadd] at subscribed
    rcases subscribed with ⟨same, new⟩ | subscribed
    · have own : other = subscriberId := PresenceKey.subscriptions.inj same
      rw [input, after (List.ne_nil_of_mem new)]
      exact .inr (.inl ⟨own.symm, new⟩)
    · exact .inl ⟨subscribed, fun here => by
        rw [subscribersOf, shared, Sets.mem_sadd]; exact .inr here⟩
  · intro other target subscribing
    rw [subscribersOf, shared, Sets.mem_sadd] at subscribing
    rcases subscribing with ⟨same, _⟩ | subscribing
    · cases same
    · exact .inl ⟨subscribing, fun here => by
        rw [subscriptionsOf, shared, Sets.mem_sadd]; exact .inr here⟩

theorem Balanced.addSubscriber {rest : List String}
    (input : call.input = .subscribe subscriberId targetUserIds)
    (before : call.phase = .adding (target :: rest))
    (agrees : target ∈ subscriptionsOf pool.shared subscriberId ∨
      InProgress pool (Removes subscriberId target)) (goes : pool.Goes call (.adding rest) pool')
    (shared : pool'.shared = pool.shared.sadd (.subscribers target) [subscriberId]) :
    Balanced pool' := by
  have same (other user : String) : user ∈ subscriptionsOf pool'.shared other ↔
      user ∈ subscriptionsOf pool.shared other := by
    rw [subscriptionsOf, shared, Sets.mem_sadd]
    simp [subscriptionsOf]
  have grown (other user : String) : other ∈ subscribersOf pool'.shared user ↔
      (user = target ∧ other = subscriberId) ∨ other ∈ subscribersOf pool.shared user := by
    rw [subscribersOf, shared, Sets.mem_sadd]
    simp [subscribersOf]
  refine balanced.goes goes (shared ▸ balanced.bounded.replace_subscribers) ?_ ?_ ?_
  · rw [input, before]
    refine ⟨fun other user adds => ?_, fun _ _ => False.elim, fun _ _ => False.elim⟩
    obtain ⟨rfl, member⟩ := adds
    rcases List.mem_cons.mp member with rfl | later
    · exact .inl ((grown _ _).mpr (.inl ⟨rfl, rfl⟩))
    · exact .inr ⟨rfl, later⟩
  · exact fun other user subscribed =>
      .inl ⟨(same _ _).mp subscribed, fun here => (grown _ _).mpr (.inr here)⟩
  · intro other user subscribing
    rcases (grown _ _).mp subscribing with ⟨rfl, rfl⟩ | here
    · rcases agrees with subscribed | removes
      · exact .inr (.inl ((same _ _).mpr subscribed))
      · exact .inr (.inr (.inr removes))
    · exact .inl ⟨here, (same _ _).mpr⟩

theorem Balanced.unsubscribe (input : call.input = .unsubscribe subscriberId targetUserIds)
    (before : call.phase = .idle) (after : targetUserIds ≠ [] → phase = .removing targetUserIds)
    (goes : pool.Goes call phase pool')
    (shared : pool'.shared = pool.shared.srem (.subscriptions subscriberId) targetUserIds) :
    Balanced pool' := by
  have same (other user : String) : other ∈ subscribersOf pool'.shared user ↔
      other ∈ subscribersOf pool.shared user := by
    rw [subscribersOf, shared, Sets.mem_srem]
    simp [subscribersOf]
  have left (other user : String) : user ∈ subscriptionsOf pool'.shared other ↔
      user ∈ subscriptionsOf pool.shared other ∧
        ¬ (other = subscriberId ∧ user ∈ targetUserIds) := by
    rw [subscriptionsOf, shared, Sets.mem_srem]
    simp [subscriptionsOf]
  refine balanced.goes goes ?_ (Proceeds.of_idle (.inl before)) ?_ ?_
  · rw [shared]
    exact balanced.bounded.replace
      (le_trans (List.length_filter_le _ _) (balanced.bounded subscriberId))
  · exact fun other user subscribed => .inl ⟨((left _ _).mp subscribed).1, (same _ _).mpr⟩
  · intro other user subscribing
    by_cases removed : other = subscriberId ∧ user ∈ targetUserIds
    · obtain ⟨rfl, member⟩ := removed
      rw [input, after (List.ne_nil_of_mem member)]
      exact .inr (.inr (.inl ⟨rfl, member⟩))
    · exact .inl ⟨(same _ _).mp subscribing, fun here => (left _ _).mpr ⟨here, removed⟩⟩

theorem Balanced.removeSubscriber (agrees : target ∈ subscriptionsOf pool.shared subscriberId →
      Clears subscriberId call.input phase ∨ InProgress pool (Adds subscriberId target) ∨
        InProgress pool (Clears subscriberId))
    (adds : ∀ other user, ¬ Adds other user call.input call.phase)
    (clears : ∀ other, Clears other call.input call.phase → Clears other call.input phase)
    (removes : ∀ other user, Removes other user call.input call.phase →
      (user = target ∧ other = subscriberId) ∨ Removes other user call.input phase)
    (goes : pool.Goes call phase pool')
    (shared : pool'.shared = pool.shared.srem (.subscribers target) [subscriberId]) :
    Balanced pool' := by
  have same (other user : String) : user ∈ subscriptionsOf pool'.shared other ↔
      user ∈ subscriptionsOf pool.shared other := by
    rw [subscriptionsOf, shared, Sets.mem_srem]
    simp [subscriptionsOf]
  have left (other user : String) : other ∈ subscribersOf pool'.shared user ↔
      other ∈ subscribersOf pool.shared user ∧ ¬ (user = target ∧ other = subscriberId) := by
    rw [subscribersOf, shared, Sets.mem_srem]
    simp [subscribersOf]
  refine balanced.goes goes (shared ▸ balanced.bounded.replace_subscribers) ?_ ?_ ?_
  · refine ⟨fun other user own => absurd own (adds other user),
      fun other _ own => .inr (clears other own), fun other user own => ?_⟩
    rcases removes other user own with gone | still
    · exact .inl fun here => ((left _ _).mp here).2 gone
    · exact .inr still
  · intro other user subscribed
    by_cases gone : user = target ∧ other = subscriberId
    · obtain ⟨rfl, rfl⟩ := gone
      rcases agrees ((same _ _).mp subscribed) with own | progress | progress
      · exact .inr (.inr (.inl own))
      · exact .inr (.inr (.inr (.inl progress)))
      · exact .inr (.inr (.inr (.inr progress)))
    · exact .inl ⟨(same _ _).mp subscribed, fun here => (left _ _).mpr ⟨here, gone⟩⟩
  · exact fun other user subscribing => .inl ⟨((left _ _).mp subscribing).1, (same _ _).mpr⟩

theorem Balanced.delete (input : call.input = .unsubscribeAll subscriberId)
    (before : call.phase = .clearing [])
    (agrees : ∀ target ∈ subscriptionsOf pool.shared subscriberId,
      subscriberId ∈ subscribersOf pool.shared target → InProgress pool (Removes subscriberId target))
    (goes : pool.Goes call phase pool')
    (shared : pool'.shared = pool.shared.del (.subscriptions subscriberId)) : Balanced pool' := by
  have same (other user : String) : other ∈ subscribersOf pool'.shared user ↔
      other ∈ subscribersOf pool.shared user := by
    rw [subscribersOf, shared, Sets.mem_del]
    simp [subscribersOf]
  have left (other user : String) : user ∈ subscriptionsOf pool'.shared other ↔
      other ≠ subscriberId ∧ user ∈ subscriptionsOf pool.shared other := by
    rw [subscriptionsOf, shared, Sets.mem_del]
    simp [subscriptionsOf]
  refine balanced.goes goes ?_ ?_ ?_ ?_
  · rw [shared]
    exact balanced.bounded.replace (Nat.zero_le _)
  · rw [input, before]
    refine ⟨fun _ _ => False.elim, fun other user clears => .inl fun here => ?_,
      fun other user removes => absurd removes.2 List.not_mem_nil⟩
    exact ((left _ _).mp here).1 clears.symm
  · exact fun other user subscribed => .inl ⟨((left _ _).mp subscribed).2, (same _ _).mpr⟩
  · intro other user subscribing
    have here := (same _ _).mp subscribing
    by_cases own : other = subscriberId ∧ user ∈ subscriptionsOf pool.shared other
    · obtain ⟨rfl, subscribed⟩ := own
      exact .inr (.inr (.inr (agrees user subscribed here)))
    · exact .inl ⟨here, fun subscribed => (left _ _).mpr
        ⟨fun mine => own ⟨mine, subscribed⟩, subscribed⟩⟩

/-- A command that agrees with what others have done keeps the balance. -/
theorem Balanced.resume {command : SetCommand} (awaits : Awaits call.input call.phase command)
    (agrees : Agrees pool call.input command)
    (goes : pool.Goes call (nextPhase call.input call.phase command (exec pool.shared command ()).2)
      pool')
    (shared : pool'.shared = (exec pool.shared command ()).1) : Balanced pool' := by
  obtain ⟨input, phase, program⟩ := call
  cases awaits with
  | count | members | getSubscriptions | getSubscribers =>
    exact balanced.unchanged goes (Proceeds.of_idle (.inl rfl)) shared
  | subscribe subscriberId targetUserIds count =>
    refine balanced.subscribe rfl rfl agrees (fun named => ?_) goes shared
    simp [nextPhase, exec, PresenceSubscriber.named, named]
  | addSubscriber subscriberId targetUserIds target rest =>
    exact balanced.addSubscriber rfl rfl (agrees _ _ rfl) goes shared
  | unsubscribe subscriberId targetUserIds =>
    refine balanced.unsubscribe rfl rfl (fun named => ?_) goes shared
    simp [nextPhase, exec, PresenceSubscriber.named, named]
  | removeSubscriber subscriberId targetUserIds target rest =>
    refine balanced.removeSubscriber ?_ ?_ ?_ ?_ goes shared
    · exact fun subscribed => .inr (agrees _ _ rfl subscribed)
    · exact fun _ _ adds => adds
    · exact fun _ clears => clears
    · rintro other user ⟨rfl, member⟩
      exact (List.mem_cons.mp member).imp (fun first => ⟨first, rfl⟩) fun later => ⟨rfl, later⟩
  | clear subscriberId target rest =>
    refine balanced.removeSubscriber ?_ ?_ ?_ ?_ goes shared
    · exact fun _ => .inl rfl
    · exact fun _ _ adds => adds
    · exact fun _ clears => clears
    · rintro other user ⟨rfl, member⟩
      exact (List.mem_cons.mp member).imp (fun first => ⟨first, rfl⟩) fun later => ⟨rfl, later⟩
  | delete subscriberId => exact balanced.delete rfl rfl agrees goes shared

end

end Steps

theorem Balanced.symmetricWhenDone {pool : SubscriptionPool} (balanced : Balanced pool)
    (respectful : pool.Respectful discipline fun _ => ends) : SymmetricWhenDone pool := by
  refine ⟨balanced.bounded, fun ended subscriberId target => ⟨fun subscribed => ?_,
    fun subscribing => ?_⟩⟩
  · rcases balanced.forth subscriberId target subscribed with here | adds | clears
    · exact here
    · refine absurd adds (not_inProgress respectful ended fun operation phase adds rest => ?_)
      cases operation <;> cases phase <;> first | exact adds | skip
      obtain rfl : _ = [] := rest
      exact List.not_mem_nil adds.2
    · refine absurd clears (not_inProgress respectful ended fun operation phase clears rest => ?_)
      cases operation <;> cases phase <;> first | exact clears | exact rest
  · rcases balanced.back subscriberId target subscribing with here | removes
    · exact here
    · refine absurd removes (not_inProgress respectful ended fun operation phase removes rest => ?_)
      cases operation <;> cases phase <;> first | exact removes | exact rest | skip
      obtain rfl : _ = [] := rest
      exact List.not_mem_nil removes.2

/-- The balance is kept over a run in which every command agrees with what others have done. -/
theorem Balanced.run {pool : SubscriptionPool} (balanced : Balanced pool)
    (fresh : pool.Respectful discipline fun _ => ends) {events : List SubscriptionEvent}
    (undisturbed : subscriptionMachine.Admits Undisturbed pool events) :
    (subscriptionMachine.run pool events).Respectful discipline (fun _ => ends) ∧
      Balanced (subscriptionMachine.run pool events) := by
  refine Pool.invariant operation_respects ?_ ?_ ?_ undisturbed fresh balanced
  · intro pool operation balanced _
    have stays {kind : SubscriptionOperation → SubscriptionPhase → Prop}
        (progress : InProgress pool kind) :
        InProgress (pool.start host (fun _ => .idle) operation) kind := by
      obtain ⟨call, here, holds⟩ := progress
      exact ⟨call, List.mem_append.mpr (.inl here), holds⟩
    refine ⟨balanced.bounded, fun subscriberId target subscribed => ?_,
      fun subscriberId target subscribing => ?_⟩
    · exact (balanced.forth subscriberId target subscribed).imp_right (Or.imp stays stays)
    · exact (balanced.back subscriberId target subscribing).imp_right stays
  · rintro _ ⟨⟩
  · rintro pool index ⟨⟩ call command next balanced agrees present program awaits
    have goes := @Pool.goes_resume _ _ _ _ _ _ discipline pool index call command next
      (exec pool.shared command ()) present
    refine ⟨?_, balanced.resume awaits
      (agrees call command (Pool.awaited?_of_await present program)) goes rfl⟩
    obtain ⟨input, phase, program⟩ := call
    cases awaits with
    | subscribe _ targetUserIds | unsubscribe _ targetUserIds =>
      cases targetUserIds with
      | nil => trivial
      | cons target rest => rfl
    | addSubscriber | removeSubscriber | clear => rfl
    | count | members | delete | getSubscriptions | getSubscribers => trivial

/-- Operations on subscriptions run interleaved in any way, from sets that are bounded and
symmetric. As long as every command agrees with what the others have done, no subscriber has more
subscriptions than the limit, and whenever all calls have completed, subscriptions and subscribers
are the same relation. -/
theorem subscriptions_symmetric (sets : PresenceSets) (bounded : Bounded sets)
    (symmetric : Symmetric sets) (events : List SubscriptionEvent)
    (undisturbed : subscriptionMachine.Admits Undisturbed ⟨sets, []⟩ events) :
    SymmetricWhenDone (subscriptionMachine.run ⟨sets, []⟩ events) := by
  have balanced : Balanced ⟨sets, []⟩ := ⟨bounded, fun subscriberId target subscribed =>
    .inl ((symmetric subscriberId target).mp subscribed), fun subscriberId target subscribing =>
    .inl ((symmetric subscriberId target).mpr subscribing)⟩
  obtain ⟨respectful, balanced⟩ := balanced.run
    (fun _ member => absurd member List.not_mem_nil) undisturbed
  exact balanced.symmetricWhenDone respectful

section Sample

def commands (index count : Nat) : List SubscriptionEvent := List.replicate count (.run index ())

def subscribed : List SubscriptionEvent :=
  [.start (.subscribe "u1" ["u3"]), .start (.subscribe "u2" ["u3"]), .run 0 (), .run 1 (),
    .run 0 (), .run 1 (), .run 1 (), .run 0 (), .start (.unsubscribe "u1" ["u3"]), .run 2 (),
    .run 2 ()]

theorem subscribed_symmetric :
    SymmetricWhenDone (subscriptionMachine.run ⟨.empty, []⟩ subscribed) := by
  refine subscriptions_symmetric .empty (fun _ => Nat.zero_le _)
    (fun _ _ => ⟨fun here => absurd here List.not_mem_nil,
      fun here => absurd here List.not_mem_nil⟩) subscribed
    ⟨trivial, trivial, ?_, ?_, ?_, ?_, ?_, ?_, trivial, ?_, ?_, trivial⟩
  all_goals rintro _ _ ⟨⟩
  case refine_3 | refine_4 => exact Nat.le_of_ble_eq_true rfl
  case refine_5 | refine_6 =>
    rintro _ _ ⟨⟩
    exact .inl (by decide +kernel)
  case refine_8 =>
    rintro _ _ ⟨⟩ here
    exact absurd here (by decide +kernel)
  all_goals trivial

def overtaken : List SubscriptionEvent :=
  [.start (.subscribe "u1" ["u3"]), .run 0 (), .run 0 (), .start (.unsubscribe "u1" ["u3"]),
    .run 1 (), .run 1 (), .run 0 ()]

theorem subscription_is_one_sided :
    ¬ ∀ events, SymmetricWhenDone (subscriptionMachine.run ⟨.empty, []⟩ events) := by
  intro symmetric
  have ended : ∀ call ∈ (subscriptionMachine.run ⟨.empty, []⟩ overtaken).calls,
      call.program.outcome? ≠ none := by decide +kernel
  have here : "u1" ∈ subscribersOf (subscriptionMachine.run ⟨.empty, []⟩ overtaken).shared "u3" := by
    decide +kernel
  have missing : "u3" ∉ subscriptionsOf (subscriptionMachine.run ⟨.empty, []⟩ overtaken).shared
      "u1" := by decide +kernel
  exact missing (((symmetric overtaken).symmetric ended "u1" "u3").mpr here)

end Sample

end Caas.Presence.PresenceSubscriber
