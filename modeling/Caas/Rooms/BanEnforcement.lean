import Caas.Redis.Keys
import Caas.Rooms.RoomAuthorizer

/-!
# Bans and mutes take effect

A banned user should be denied whatever project they name. A ban deletes the cached decision
under the key of the default project only, so a decision that was cached for another project
stays until it expires. Mutes are looked up at every check.
-/

namespace Caas.Rooms

open Js Redis RoomAuthorizer RoomModeration Transducer ExpiringMap OrderedMap

inductive Restriction where
  | ban
  | mute
deriving DecidableEq

/-- How a restriction stands: it has been lifted, or it is in force, for ever or up to a time. -/
inductive Standing where
  | lifted
  | permanent
  | limited (expiresAt : Nat)
deriving DecidableEq

/-- A restriction of a user has been imposed or lifted. -/
structure Sanction where
  restriction : Restriction
  user : RoomUser
  standing : Standing
deriving DecidableEq

/-- How a restriction stands that is imposed for a number of seconds. -/
def standing (now : Nat) (durationSeconds : Option Int) : Standing :=
  match durationSeconds.filter (· ≠ 0) with
  | none => .permanent
  | some seconds => .limited (now + 1000 * seconds.toNat)

/-- What a moderation action that completes imposes or lifts. -/
def sanctionOf (user : RoomUser) (durationSeconds : Option Int) (now : Nat) :
    ModerationKind → Option Sanction
  | .kick => none
  | .ban => some ⟨.ban, user, standing now durationSeconds⟩
  | .unban => some ⟨.ban, user, .lifted⟩
  | .mute => some ⟨.mute, user, standing now durationSeconds⟩
  | .unmute => some ⟨.mute, user, .lifted⟩

/-- What an event leaves to be told. -/
def sanction : AuthorizerEvent → AuthorizerReply → Option Sanction
  | .moderate action _ user durationSeconds _ _, .moderated (.ok log) =>
    sanctionOf user durationSeconds log.timestamp action
  | _, _ => none

def tell (restriction : Restriction) (user : RoomUser) (sanction : Sanction) : Option Standing :=
  if sanction.restriction = restriction ∧ sanction.user = user then some sanction.standing else none

abbrev Sanctioned := AuthorizerState × List Sanction

def standingOf (restriction : Restriction) (user : RoomUser) (past : List Sanction) :
    Option Standing := latest (tell restriction user) past

/-- A restriction that stands in this way is in force. -/
def Standing.InForce (now : Nat) : Standing → Prop
  | .lifted => False
  | .permanent => True
  | .limited expiresAt => now < expiresAt

/-- A restriction of the user is in force: it has been imposed, and since then neither been lifted
nor expired. -/
def InForce (restriction : Restriction) (user : RoomUser) (current : Sanctioned) : Prop :=
  ∃ standing, standingOf restriction user current.2 = some standing ∧
    standing.InForce current.1.store.now

/-- Bans and mutes of the user take effect. -/
structure Enforced (config : RoomAuthorizerConfig) (user : RoomUser) (current : Sanctioned) :
    Prop where
  ban : InForce .ban user current → ∀ projectId,
    (canJoinRoom config current.1 user projectId).2.authorized = false
  mute : InForce .mute user current → ∀ projectId,
    (canSendMessage config current.1 user projectId).2.authorized = false

/-- The users that an event checks or acts on, with the projects. -/
def AuthorizerEvent.Names (user : RoomUser) (projectId : Option String) : AuthorizerEvent → Prop
  | .check _ other project => other = user ∧ project = projectId
  | .moderate _ moderatorId target _ _ _ =>
    (target = user ∨ { target with userId := moderatorId } = user) ∧ projectId = none
  | _ => False

/-- A key of the one user and project is a key of the other user. -/
def SharesKey (other : RoomUser) (projectId : Option String) (user : RoomUser) : Prop :=
  banKey other = banKey user ∨ muteKey other = muteKey user ∨
    ∃ project, authorizationKey other projectId = authorizationKey user project

/-- Decisions that are cached under the keys of other projects deny. -/
def ForgottenElsewhere (user : RoomUser) (state : AuthorizerState) : Prop :=
  ∀ projectId result, authorizationKey user projectId ≠ authorizationKey user none →
    getCachedAuthorization state user projectId = some result → result.authorized = false

/-- No event takes the user for another one with the same key, and a ban of the user that
completes leaves no authorization in the cache. -/
structure Undisturbed (config : RoomAuthorizerConfig) (user : RoomUser) (state : AuthorizerState)
    (event : AuthorizerEvent) : Prop where
  apart : ∀ other projectId, event.Names other projectId → SharesKey other projectId user →
    other = user
  forgotten : ∀ moderatorId durationSeconds reason logId log,
    event = .moderate .ban moderatorId user durationSeconds reason logId →
      (moderate banUser config state moderatorId user durationSeconds reason logId).2 = .ok log →
        ForgottenElsewhere user state

def Records (records : ExpiringMap String String) (key : String) : Option Standing → Prop
  | some .permanent => get records key = some ⟨"1", none⟩
  | some (.limited expiresAt) => get records key = some ⟨"1", some expiresAt⟩
  | some .lifted | none => True

/-- What holds of every state: restrictions are recorded as they stand, and a banned user is not
authorized in the cache. -/
structure Held (user : RoomUser) (current : Sanctioned) : Prop where
  ban : Records current.1.bans (banKey user) (standingOf .ban user current.2)
  mute : Records current.1.mutes (muteKey user) (standingOf .mute user current.2)
  uncached : InForce .ban user current → ∀ projectId result,
    getCachedAuthorization current.1 user projectId = some result → result.authorized = false

section Records

variable {records records' : ExpiringMap String String} {key other : String} {now : Nat}

theorem Records.lookup {standing : Standing} (recorded : Records records key (some standing))
    (force : standing.InForce now) : records.lookup now key = some "1" := by
  cases standing with
  | lifted => exact force.elim
  | permanent =>
    have stored : get records key = some ⟨"1", none⟩ := recorded
    simp [ExpiringMap.lookup, ExpiringMap.liveEntry, stored, Option.filter, Entry.live]
  | limited expiresAt =>
    have stored : get records key = some ⟨"1", some expiresAt⟩ := recorded
    have live : now < expiresAt := force
    simp [ExpiringMap.lookup, ExpiringMap.liveEntry, stored, Option.filter, Entry.live, live]

theorem Records.congr {standing : Option Standing} (same : get records' key = get records key)
    (recorded : Records records key standing) : Records records' key standing := by
  match standing with
  | none | some .lifted => trivial
  | some .permanent => exact Eq.trans same recorded
  | some (.limited _) => exact Eq.trans same recorded

theorem get_record {durationSeconds : Option Int}
    (recorded : record records now key durationSeconds = .ok records') :
    Records records' key (some (standing now durationSeconds)) ∧
      ∀ other, key ≠ other → get records' other = get records other := by
  cases found : durationSeconds.filter (· ≠ 0) with
  | none =>
    simp only [record, standing, found] at recorded ⊢
    cases recorded
    exact ⟨get_set_self _ _ _, fun other => get_set_of_ne _ _⟩
  | some seconds =>
    simp only [record, standing, found] at recorded ⊢
    split at recorded
    · cases recorded
      exact ⟨get_set_self _ _ _, fun other => get_set_of_ne _ _⟩
    · cases recorded

end Records

section Steps

variable {config : RoomAuthorizerConfig} {user other : RoomUser} {state state' : AuthorizerState}
  {past : List Sanction} {projectId : Option String}

theorem canJoinRoom_state (config : RoomAuthorizerConfig) (state : AuthorizerState)
    (user : RoomUser) (projectId : Option String) :
    (canJoinRoom config state user projectId).1 = state ∨
      isUserBanned state user = false ∧ ∃ result, (canJoinRoom config state user projectId).1 =
          cacheAuthorization config state user projectId result := by
  unfold canJoinRoom
  split
  · exact .inl rfl
  · split
    · exact .inl rfl
    · next unbanned =>
      simp only [Bool.not_eq_true] at unbanned
      dsimp only
      split
      · exact .inl rfl
      · split
        · exact .inl rfl
        · exact .inr ⟨unbanned, _, rfl⟩

theorem check_state (kind : RoomCheck) :
    (check config state user projectId kind).1 = (canJoinRoom config state user projectId).1 := by
  have inRole (roles : List String) (reason : String) :
      (canInRole roles reason config state user projectId).1 =
        (canJoinRoom config state user projectId).1 := by
    unfold canInRole
    dsimp only
    split
    · rfl
    · split <;> rfl
  cases kind with
  | canJoinRoom => rfl
  | canSendMessage =>
    change (canSendMessage config state user projectId).1 = _
    unfold canSendMessage
    dsimp only
    split
    · rfl
    · split <;> rfl
  | canModerate | canAdminister => exact inRole _ _

section

variable (held : Held user (state, past))
include held

theorem Held.banned (force : InForce .ban user (state, past)) :
    isUserBanned state user = true := by
  obtain ⟨standing, stands, holds⟩ := force
  have recorded := held.ban
  rw [stands] at recorded
  exact decide_eq_true (recorded.lookup holds)

theorem Held.muted (force : InForce .mute user (state, past)) : isUserMuted state user = true := by
  obtain ⟨standing, stands, holds⟩ := force
  have recorded := held.mute
  rw [stands] at recorded
  exact decide_eq_true (recorded.lookup holds)

theorem Held.enforced : Enforced config user (state, past) where
  ban force projectId := by
    unfold canJoinRoom
    split
    · next cached => exact held.uncached force projectId _ cached
    · rw [if_pos (held.banned force)]
      rfl
  mute force projectId := by
    have muted := held.muted force
    have same : isUserMuted (canJoinRoom config state user projectId).1 user =
        isUserMuted state user := by
      rcases canJoinRoom_state config state user projectId with kept | ⟨_, result, cached⟩
      · rw [kept]
      · rw [cached]
        rfl
    unfold canSendMessage
    dsimp only
    split
    · next denied => simpa using denied
    · rw [if_pos (same.trans muted)]
      rfl

theorem Held.check (config : RoomAuthorizerConfig) (kind : RoomCheck)
    (apart : SharesKey other projectId user → other = user) :
    Held user ((check config state other projectId kind).1, past) := by
  rw [check_state]
  rcases canJoinRoom_state config state other projectId with kept | ⟨unbanned, result, cached⟩
  · rw [kept]
    exact held
  · rw [cached]
    refine ⟨held.ban, held.mute, fun force project found => ?_⟩
    intro here
    refine held.uncached force project found ?_
    by_cases same : authorizationKey other projectId = authorizationKey user project
    · obtain rfl := apart (.inr (.inr ⟨project, same⟩))
      exact absurd (held.banned force) (by rw [unbanned]; exact Bool.false_ne_true)
    · rw [← here]
      exact (lookup_set_of_ne same).symm

theorem Held.frame (now : state'.store.now = state.store.now)
    (bans : get state'.bans (banKey user) = get state.bans (banKey user))
    (mutes : get state'.mutes (muteKey user) = get state.mutes (muteKey user))
    (cached : ∀ projectId result, getCachedAuthorization state' user projectId = some result →
      getCachedAuthorization state user projectId = some result) : Held user (state', past) := by
  refine ⟨held.ban.congr bans, held.mute.congr mutes, fun force project found here => ?_⟩
  obtain ⟨standing, stands, holds⟩ := force
  exact held.uncached ⟨standing, stands, now ▸ holds⟩ project found (cached project found here)

end

theorem getCachedAuthorization_invalidateCache {project : Option String} :
    getCachedAuthorization (invalidateCache state other projectId) user project =
      if authorizationKey other projectId = authorizationKey user project then none
      else getCachedAuthorization state user project := lookup_delete

theorem cached_of_invalidateCache {project : Option String} {result : AuthorizationResult}
    (found : getCachedAuthorization (invalidateCache state other projectId) user project =
      some result) : getCachedAuthorization state user project = some result := by
  rw [getCachedAuthorization_invalidateCache] at found
  split at found
  · cases found
  · exact found

theorem Held.elapse (held : Held user (state, past)) (elapsed : Nat) :
    Held user ({ state with store := { state.store with now := state.store.now + elapsed } },
      past) := by
  refine ⟨held.ban, held.mute, fun force project found here => ?_⟩
  obtain ⟨standing, stands, holds⟩ := force
  refine held.uncached ⟨standing, stands, ?_⟩ project found
    (lookup_of_later (Nat.le_add_right _ _) here)
  cases standing with
  | lifted => exact holds
  | permanent => trivial
  | limited expiresAt => exact lt_of_le_of_lt (Nat.le_add_right _ _) holds

theorem now_runAlone {α : Type} (program : RoomProgram α) (store : RoomStore) :
    (runAlone exec program store).1.now = store.now := by
  induction program generalizing store with
  | result | failure => rfl
  | await command next ih =>
    rw [runAlone, ih]
    cases command <;> rfl

theorem Held.untold (held : Held user (state, past)) (new : Option Sanction)
    (untold : ∀ restriction, new.bind (tell restriction user) = none) :
    Held user (state, past ++ new.toList) := by
  have same (restriction : Restriction) :
      standingOf restriction user (past ++ new.toList) = standingOf restriction user past := by
    rw [standingOf, latest_append, untold]
    rfl
  refine ⟨?_, ?_, fun force => ?_⟩
  · rw [same]
    exact held.ban
  · rw [same]
    exact held.mute
  · obtain ⟨standing, stands, holds⟩ := force
    rw [same] at stands
    exact held.uncached ⟨standing, stands, holds⟩

variable {target : RoomUser} {durationSeconds : Option Int} {action : ModerationKind}

theorem sanctionOf_untold (different : target ≠ user) (now : Nat) (durationSeconds : Option Int)
    (action : ModerationKind) (restriction : Restriction) :
    (sanctionOf target durationSeconds now action).bind (tell restriction user) = none := by
  cases action <;> simp [sanctionOf, tell, different]

theorem standingOf_told {restriction told : Restriction} {standing : Standing} :
    standingOf restriction user (past ++ [⟨told, user, standing⟩]) =
      if told = restriction then some standing else standingOf restriction user past := by
  rw [standingOf, latest_concat, tell]
  by_cases same : told = restriction
  · simp [same]
  · simp [same, standingOf]

section

variable (held : Held user (state, past))
include held

theorem Held.banned_now (forgotten : ForgottenElsewhere user state)
    (acted : RoomAuthorizer.banUser state user durationSeconds = .ok state') : Held user (state',
      past ++ (sanctionOf user durationSeconds state.store.now .ban).toList) := by
  unfold RoomAuthorizer.banUser at acted
  cases recorded : record state.bans state.store.now (banKey user) durationSeconds with
  | error error =>
    rw [recorded] at acted
    cases acted
  | ok bans =>
    rw [recorded] at acted
    cases acted
    refine ⟨?_, ?_, fun _ project result found => ?_⟩
    · rw [sanctionOf, Option.toList_some, standingOf_told, if_pos rfl]
      exact (get_record recorded).1
    · rw [sanctionOf, Option.toList_some, standingOf_told, if_neg (by decide)]
      exact held.mute
    · by_cases same : authorizationKey user project = authorizationKey user none
      · rw [getCachedAuthorization_invalidateCache, if_pos same.symm] at found
        cases found
      · exact forgotten project result same (cached_of_invalidateCache found)

theorem Held.muted_now (acted : RoomAuthorizer.muteUser state user durationSeconds = .ok state') :
    Held user (state',
      past ++ (sanctionOf user durationSeconds state.store.now .mute).toList) := by
  unfold RoomAuthorizer.muteUser at acted
  cases recorded : record state.mutes state.store.now (muteKey user) durationSeconds with
  | error error =>
    rw [recorded] at acted
    cases acted
  | ok mutes =>
    rw [recorded] at acted
    cases acted
    refine ⟨?_, ?_, fun force project result found => ?_⟩
    · rw [sanctionOf, Option.toList_some, standingOf_told, if_neg (by decide)]
      exact held.ban
    · rw [sanctionOf, Option.toList_some, standingOf_told, if_pos rfl]
      exact (get_record recorded).1
    · obtain ⟨standing, stands, holds⟩ := force
      rw [sanctionOf, Option.toList_some, standingOf_told, if_neg (by decide)] at stands
      exact held.uncached ⟨standing, stands, holds⟩ project result (cached_of_invalidateCache found)

theorem Held.unbanned_now (durationSeconds : Option Int) :
    Held user (RoomAuthorizer.unbanUser state user,
      past ++ (sanctionOf user durationSeconds state.store.now .unban).toList) := by
  refine ⟨?_, ?_, fun force => ?_⟩
  · rw [sanctionOf, Option.toList_some, standingOf_told, if_pos rfl]
    trivial
  · rw [sanctionOf, Option.toList_some, standingOf_told, if_neg (by decide)]
    exact held.mute
  · obtain ⟨standing, stands, holds⟩ := force
    rw [sanctionOf, Option.toList_some, standingOf_told, if_pos rfl] at stands
    cases stands
    exact holds.elim

theorem Held.unmuted_now (durationSeconds : Option Int) :
    Held user (RoomAuthorizer.unmuteUser state user,
      past ++ (sanctionOf user durationSeconds state.store.now .unmute).toList) := by
  refine ⟨?_, ?_, fun force project result found => ?_⟩
  · rw [sanctionOf, Option.toList_some, standingOf_told, if_neg (by decide)]
    exact held.ban
  · rw [sanctionOf, Option.toList_some, standingOf_told, if_pos rfl]
    trivial
  · obtain ⟨standing, stands, holds⟩ := force
    rw [sanctionOf, Option.toList_some, standingOf_told, if_neg (by decide)] at stands
    exact held.uncached ⟨standing, stands, holds⟩ project result (cached_of_invalidateCache found)

theorem Held.removeMember (target : RoomUser) :
    Held user (RoomModeration.removeMember config state target, past) := by
  have now : (RoomModeration.removeMember config state target).store.now = state.store.now :=
    now_runAlone _ _
  refine held.frame now rfl rfl fun project result found => ?_
  unfold getCachedAuthorization at found ⊢
  rw [now] at found
  exact found

theorem Held.actOnOther (apart : ¬ SharesKey target none user)
    (acted : (stepOf action).act config state target durationSeconds = .ok state') :
    Held user (state', past) := by
  have ban : banKey target ≠ banKey user := fun same => apart (.inl same)
  have mute : muteKey target ≠ muteKey user := fun same => apart (.inr (.inl same))
  cases action with
  | kick =>
    cases acted
    exact held.removeMember target
  | ban =>
    change (RoomAuthorizer.banUser state target durationSeconds >>= _) = _ at acted
    unfold RoomAuthorizer.banUser at acted
    cases recorded : record state.bans state.store.now (banKey target) durationSeconds with
    | error error =>
      rw [recorded] at acted
      cases acted
    | ok bans =>
      rw [recorded] at acted
      cases acted
      have framed : Held user (invalidateCache { state with bans } target none, past) :=
        held.frame rfl ((get_record recorded).2 _ ban) rfl fun _ _ => cached_of_invalidateCache
      exact framed.removeMember target
  | unban =>
    cases acted
    refine held.frame rfl ?_ rfl fun _ _ => cached_of_invalidateCache
    exact (get_delete _ _ _).trans (if_neg ban)
  | mute =>
    change RoomAuthorizer.muteUser state target durationSeconds = _ at acted
    unfold RoomAuthorizer.muteUser at acted
    cases recorded : record state.mutes state.store.now (muteKey target) durationSeconds with
    | error error =>
      rw [recorded] at acted
      cases acted
    | ok mutes =>
      rw [recorded] at acted
      cases acted
      refine held.frame rfl rfl ?_ fun _ _ => cached_of_invalidateCache
      exact (get_record recorded).2 _ mute
  | unmute =>
    cases acted
    refine held.frame rfl rfl ?_ fun _ _ => cached_of_invalidateCache
    exact (get_delete _ _ _).trans (if_neg mute)

theorem Held.actOn (forgotten : action = .ban → ForgottenElsewhere user state)
    (acted : (stepOf action).act config state user durationSeconds = .ok state') :
    Held user (state',
      past ++ (sanctionOf user durationSeconds state.store.now action).toList) := by
  cases action with
  | kick =>
    cases acted
    exact (held.removeMember user).untold none fun _ => rfl
  | ban =>
    change (RoomAuthorizer.banUser state user durationSeconds >>= _) = _ at acted
    cases banned : RoomAuthorizer.banUser state user durationSeconds with
    | error error =>
      rw [banned] at acted
      cases acted
    | ok state'' =>
      rw [banned] at acted
      cases acted
      exact (held.banned_now (forgotten rfl) banned).removeMember user
  | unban =>
    cases acted
    exact held.unbanned_now durationSeconds
  | mute => exact held.muted_now acted
  | unmute =>
    cases acted
    exact held.unmuted_now durationSeconds

end

theorem moderate_cases (step : ModerationStep) {moderatorId logId : String} {target : RoomUser}
    {durationSeconds : Option Int} {reason : Option String}
    (checked : (canModerate config state { target with userId := moderatorId } none).1 = state') :
    (∃ error, moderate step config state moderatorId target durationSeconds reason logId =
      (state', .error error)) ∨
    ∃ acted log, step.act config state' target durationSeconds = .ok acted ∧
      log.timestamp = state'.store.now ∧
      moderate step config state moderatorId target durationSeconds reason logId =
        (logModerationAction acted log, .ok log) := by
  subst checked
  unfold moderate
  dsimp only
  split
  · exact .inl ⟨_, rfl⟩
  · cases acted : step.act config
      (canModerate config state { target with userId := moderatorId } none).1 target
      durationSeconds with
    | error error => exact .inl ⟨error, rfl⟩
    | ok after => exact .inr ⟨after, _, rfl, rfl, rfl⟩

theorem ForgottenElsewhere.check (forgotten : ForgottenElsewhere user state)
    (config : RoomAuthorizerConfig) (kind : RoomCheck)
    (apart : SharesKey other none user → other = user) :
    ForgottenElsewhere user (check config state other none kind).1 := by
  rw [check_state]
  rcases canJoinRoom_state config state other none with kept | ⟨_, result, cached⟩
  · rw [kept]
    exact forgotten
  · rw [cached]
    intro project found different here
    by_cases same : authorizationKey other none = authorizationKey user project
    · obtain rfl := apart (.inr (.inr ⟨project, same⟩))
      exact absurd same.symm different
    · refine forgotten project found different ?_
      rw [← here]
      exact (lookup_set_of_ne same).symm

theorem Held.moderate (held : Held user (state, past)) {moderatorId logId : String}
    {reason : Option String} (undisturbed : Undisturbed config user state
      (.moderate action moderatorId target durationSeconds reason logId)) :
    Held user (((authorizerMachine config).recording sanction).step (state, past)
      (.moderate action moderatorId target durationSeconds reason logId)).1 := by
  have apart : SharesKey { target with userId := moderatorId } none user →
      { target with userId := moderatorId } = user :=
    undisturbed.apart _ none ⟨.inr rfl, rfl⟩
  have checked : Held user
      ((canModerate config state { target with userId := moderatorId } none).1, past) :=
    held.check config .canModerate apart
  rcases @moderate_cases config state _ (stepOf action) moderatorId logId target durationSeconds
    reason rfl with ⟨error, refused⟩ | ⟨acted, log, carried, logged, completed⟩
  · change Held user
      ((RoomModeration.moderate (stepOf action) config state moderatorId target durationSeconds
        reason logId).1, past ++ (sanction _ (.moderated (RoomModeration.moderate (stepOf action)
          config state moderatorId target durationSeconds reason logId).2)).toList)
    rw [refused]
    exact checked.untold none fun _ => rfl
  · change Held user
      ((RoomModeration.moderate (stepOf action) config state moderatorId target durationSeconds
        reason logId).1, past ++ (sanction _ (.moderated (RoomModeration.moderate (stepOf action)
          config state moderatorId target durationSeconds reason logId).2)).toList)
    rw [completed]
    change Held user (logModerationAction acted log,
      past ++ (sanctionOf target durationSeconds log.timestamp action).toList)
    rw [logged]
    have after : Held user (acted, past ++ (sanctionOf target durationSeconds
        (canModerate config state { target with userId := moderatorId } none).1.store.now
          action).toList) := by
      by_cases own : target = user
      · subst own
        refine checked.actOn (fun banned => ?_) carried
        subst banned
        exact (undisturbed.forgotten moderatorId durationSeconds reason logId log rfl
          (congrArg Prod.snd completed)).check config .canModerate apart
      · refine (checked.actOnOther (fun shares => own ?_) carried).untold _
          (sanctionOf_untold own _ _ _)
        exact undisturbed.apart target none ⟨.inl rfl, rfl⟩ shares
    exact after.frame rfl rfl rfl fun _ _ found => found

end Steps

theorem Held.run {config : RoomAuthorizerConfig} {user : RoomUser} {state : AuthorizerState}
    {past : List Sanction} (held : Held user (state, past)) {events : List AuthorizerEvent}
    (undisturbed : (authorizerMachine config).Admits (Undisturbed config user) state events) :
    Held user (((authorizerMachine config).recording sanction).run (state, past) events) := by
  refine Admits.invariant (fun current event held undisturbed => ?_)
    (admits_recording.mpr undisturbed) held
  obtain ⟨state, past⟩ := current
  cases event with
  | check kind other projectId =>
    have checked := held.check config kind (undisturbed.apart other projectId ⟨rfl, rfl⟩)
    exact checked.untold none fun _ => rfl
  | moderate => exact held.moderate undisturbed
  | invalidateCache other projectId =>
    have framed : Held user (invalidateCache state other projectId, past) :=
      held.frame rfl rfl rfl fun _ _ => cached_of_invalidateCache
    exact framed.untold none fun _ => rfl
  | database conversations =>
    have framed : Held user ({ state with conversations }, past) :=
      held.frame rfl rfl rfl fun _ _ found => found
    exact framed.untold none fun _ => rfl
  | rooms rooms =>
    have framed : Held user ({ state with store := { state.store with rooms } }, past) :=
      held.frame rfl rfl rfl fun _ _ found => found
    exact framed.untold none fun _ => rfl
  | elapse elapsed => exact (held.elapse elapsed).untold none fun _ => rfl

/-- For every user, whatever is in the caches and in the database: in a run in which no event takes
the user for another one with the same key, and in which every ban of the user that completes
leaves no authorization of theirs under the keys of other projects, a ban denies every check of the
user until it is lifted or expires, whatever project is named, and a mute denies sending. -/
theorem restrictions_take_effect (config : RoomAuthorizerConfig) (user : RoomUser)
    (state : AuthorizerState) (events : List AuthorizerEvent)
    (undisturbed : (authorizerMachine config).Admits (Undisturbed config user) state events) :
    Enforced config user (((authorizerMachine config).recording sanction).run (state, []) events) := by
  have start : Held user (state, []) := by
    refine ⟨trivial, trivial, fun force => ?_⟩
    obtain ⟨standing, stands, _⟩ := force
    cases stands
  exact (start.run undisturbed).enforced

section Keys

/-- None of the ids has a colon. -/
def RoomUser.Plain (user : RoomUser) : Prop :=
  ':' ∉ user.userId.toList ∧ ':' ∉ user.conversationId.toList ∧ ':' ∉ user.tenantId.toList

instance (user : RoomUser) : Decidable user.Plain := inferInstanceAs (Decidable (_ ∧ _ ∧ _))

variable {user other : RoomUser} {projectId : Option String}

theorem RoomUser.eq_of_toList
    (same : other.tenantId.toList ++ ':' :: (other.conversationId.toList ++ ':' ::
        other.userId.toList) =
      user.tenantId.toList ++ ':' :: (user.conversationId.toList ++ ':' :: user.userId.toList))
    (plain : user.Plain) (plain' : other.Plain) : other = user := by
  obtain ⟨tenant, rest⟩ := eq_of_append_cons_eq same plain'.2.2 plain.2.2
  obtain ⟨conversation, name⟩ := eq_of_append_cons_eq rest plain'.2.1 plain.2.1
  cases user
  cases other
  simp only [RoomUser.mk.injEq]
  exact ⟨String.toList_inj.mp name, String.toList_inj.mp conversation, String.toList_inj.mp tenant⟩

theorem eq_of_sharesKey (plain : user.Plain) (plain' : other.Plain)
    (shares : SharesKey other projectId user) : other = user := by
  rcases shares with ban | mute | ⟨project, authorization⟩
  · refine RoomUser.eq_of_toList ?_ plain plain'
    have chars := congrArg String.toList ban
    simp only [banKey, String.toList_append, toString] at chars
    simpa using chars
  · refine RoomUser.eq_of_toList ?_ plain plain'
    have chars := congrArg String.toList mute
    simp only [muteKey, String.toList_append, toString] at chars
    simpa using chars
  · have chars := congrArg String.toList authorization
    simp only [authorizationKey, String.toList_append, toString] at chars
    have joined : ((other.tenantId.toList ++ ':' :: (orElse projectId "default").toList) ++
          ':' :: other.conversationId.toList) ++ ':' :: other.userId.toList =
        ((user.tenantId.toList ++ ':' :: (orElse project "default").toList) ++
          ':' :: user.conversationId.toList) ++ ':' :: user.userId.toList := by
      simpa using chars
    -- The project may have colons, the ids around it have none.
    obtain ⟨front, name⟩ := eq_of_append_cons_eq_right joined plain'.1 plain.1
    obtain ⟨front, conversation⟩ := eq_of_append_cons_eq_right front plain'.2.1 plain.2.1
    obtain ⟨tenant, _⟩ := eq_of_append_cons_eq front plain'.2.2 plain.2.2
    refine RoomUser.eq_of_toList ?_ plain plain'
    rw [tenant, conversation, name]

end Keys

section Sample

def sampleConfig : RoomAuthorizerConfig := {}

def sampleConversation : Conversation where
  conversationId := "c1"
  tenantId := "t1"
  projectId := some "p1"
  participants := some [⟨"alice", some "owner"⟩, ⟨"bob", none⟩]

def sampleState : AuthorizerState where
  store := ⟨0, .empty⟩
  bans := .empty
  mutes := .empty
  authorizations := .empty
  conversations := .ok [sampleConversation]
  moderationLogs := .empty

def sampleUser : RoomUser := ⟨"bob", "c1", "t1"⟩

def restricted : List AuthorizerEvent :=
  [.check .canJoinRoom sampleUser none,
    .moderate .ban "alice" sampleUser (some 60) none "l1",
    .check .canSendMessage sampleUser (some "p1"),
    .elapse 30000,
    .moderate .unban "alice" sampleUser none none "l2",
    .moderate .mute "alice" sampleUser none none "l3"]

theorem restricted_member_is_denied : Enforced sampleConfig sampleUser
      (((authorizerMachine sampleConfig).recording sanction).run (sampleState, []) restricted) := by
  have plain (other : RoomUser) (projectId : Option String) (either : other = sampleUser ∨
      other = ⟨"alice", "c1", "t1"⟩) (shares : SharesKey other projectId sampleUser) :
      other = sampleUser := by
    rcases either with rfl | rfl
    · rfl
    · exact eq_of_sharesKey (by decide) (by decide) shares
  have forgotten : ForgottenElsewhere sampleUser sampleState := fun _ _ _ found => by cases found
  refine restrictions_take_effect sampleConfig sampleUser sampleState restricted
    ⟨⟨?_, ?_⟩, ⟨?_, ?_⟩, ⟨?_, ?_⟩, ⟨?_, ?_⟩, ⟨?_, ?_⟩, ⟨?_, ?_⟩, trivial⟩
  case refine_4 =>
    rintro _ _ _ _ _ ⟨⟩ _
    dsimp only [Transducer.recording, authorizerMachine]
    exact forgotten.check sampleConfig .canJoinRoom (plain sampleUser none (.inl rfl))
  case refine_2 | refine_6 | refine_8 | refine_10 | refine_12 => rintro _ _ _ _ _ ⟨⟩
  case refine_1 | refine_5 =>
    rintro _ _ ⟨rfl, rfl⟩
    exact plain _ _ (.inl rfl)
  case refine_7 => rintro _ _ ⟨⟩
  all_goals
    rintro _ _ ⟨rfl | rfl, rfl⟩
    · exact plain _ _ (.inl rfl)
    · exact plain _ _ (.inr rfl)

def bannedElsewhere : List AuthorizerEvent :=
  [.check .canJoinRoom sampleUser (some "p1"),
    .moderate .ban "alice" sampleUser none none "l1"]

theorem banned_member_is_authorized : ¬ ∀ events, Enforced sampleConfig sampleUser
      (((authorizerMachine sampleConfig).recording sanction).run (sampleState, []) events) := by
  intro enforced
  have force : InForce .ban sampleUser (((authorizerMachine sampleConfig).recording sanction).run
      (sampleState, []) bannedElsewhere) := ⟨.permanent, by decide +kernel, trivial⟩
  have denied := (enforced bannedElsewhere).ban force (some "p1")
  revert denied
  decide +kernel

end Sample

end Caas.Rooms
