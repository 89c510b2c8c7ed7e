import Caas.Async.Histories
import Caas.Rooms.RoomStateManager

/-!
# Members are neither lost nor resurrected

Who is a member of a room should follow from the operations that add and remove members. Each
operation writes back the room that it has read, so it undoes what others have done to the
members meanwhile.
-/

namespace Caas.Rooms

open Async Js Redis RoomStateManager ExpiringMap

def RoomState.users (roomState : RoomState) : List String :=
  roomState.members.map fun member => member.userId

def RoomState.key (roomState : RoomState) : String :=
  getRoomKey roomState.roomId roomState.tenantId

def RoomOperation.apply : RoomOperation → List String → List String
  | .addMember _ _ userId _ _, users => if userId ∈ users then users else users ++ [userId]
  | .removeMember _ _ userId, users => users.filter fun user => user ≠ userId
  | _, users => users

/-- Whether the operation adds the user or removes them, if it does either. -/
def RoomOperation.membership? (user : String) : RoomOperation → Option Bool
  | .addMember _ _ userId _ _ => if userId = user then some true else none
  | .removeMember _ _ userId => if userId = user then some false else none
  | _ => none

section Apply

variable {operation : RoomOperation} {users users' : List String} {user : String}

theorem mem_apply : user ∈ operation.apply users ↔
    (operation.membership? user).elim (user ∈ users) (· = true) := by
  cases operation with
  | addMember roomId tenantId userId =>
    by_cases same : userId = user
    · subst same
      simp only [RoomOperation.apply, RoomOperation.membership?, if_true, Option.elim_some,
        iff_true]
      split
      · assumption
      · exact List.mem_append_right _ (List.mem_singleton_self _)
    · simp only [RoomOperation.apply, RoomOperation.membership?, if_neg same, Option.elim_none]
      split
      · exact Iff.rfl
      · rw [List.mem_append, List.mem_singleton]
        exact or_iff_left fun own => same own.symm
  | removeMember roomId tenantId userId =>
    by_cases same : userId = user
    · subst same
      simp [RoomOperation.apply, RoomOperation.membership?]
    · simp only [RoomOperation.apply, RoomOperation.membership?, if_neg same, Option.elim_none,
        List.mem_filter, decide_eq_true_eq]
      exact and_iff_left fun own => same own.symm
  | updateMemberRole | updateActivity => exact Iff.rfl

theorem mem_apply_congr (same : ∀ user, user ∈ users ↔ user ∈ users') :
    user ∈ operation.apply users ↔ user ∈ operation.apply users' := by
  rw [mem_apply, mem_apply]
  cases operation.membership? user with
  | none => exact same user
  | some joined => exact Iff.rfl

theorem nodup_apply (once : users.Nodup) : (operation.apply users).Nodup := by
  cases operation with
  | addMember roomId tenantId userId =>
    simp only [RoomOperation.apply]
    split
    · exact once
    · rename_i new
      rw [List.nodup_append]
      refine ⟨once, List.nodup_singleton _, ?_⟩
      rintro one member other added rfl
      exact new (List.mem_singleton.mp added ▸ member)
  | removeMember => exact once.filter _
  | updateMemberRole | updateActivity => exact once

theorem users_updateMember (userId : String) (change : RoomMember → RoomMember)
    (keeps : ∀ member, (change member).userId = member.userId) (members : List RoomMember) :
    (updateMember userId change members).map (·.userId) = members.map (·.userId) := by
  induction members with
  | nil => rfl
  | cons member rest ih =>
    simp only [updateMember]
    split
    · simp [keeps]
    · simp [ih]

theorem users_addMember (roomId tenantId userId socketId : String) (role : RoomRole) (now : Nat)
    (roomState : RoomState) :
    (if (roomState.members.find? fun member => member.userId = userId).isSome then
        updateMember userId (fun member => { member with socketId }) roomState.members
      else roomState.members ++ [{ userId, socketId, joinedAt := now, role }]).map (·.userId) =
      (RoomOperation.addMember roomId tenantId userId socketId role).apply roomState.users := by
  have known : (roomState.members.find? fun member => member.userId = userId).isSome = true ↔
      userId ∈ roomState.users := by
    simp [RoomState.users, List.find?_isSome]
  by_cases member : userId ∈ roomState.users
  · rw [if_pos (known.mpr member), RoomOperation.apply, if_pos member]
    exact users_updateMember userId (fun member => { member with socketId }) (fun _ => rfl)
      roomState.members
  · rw [if_neg (mt known.mp member), RoomOperation.apply, if_neg member, List.map_append]
    rfl

theorem users_removeMember (roomId tenantId userId : String) (roomState : RoomState) :
    (roomState.members.filter fun member => member.userId ≠ userId).map (·.userId) =
      (RoomOperation.removeMember roomId tenantId userId).apply roomState.users := by
  simp only [RoomState.users, RoomOperation.apply, List.filter_map]
  rfl

theorem apply_ne_nil (keeps : ∀ user, operation.membership? user ≠ some false)
    (present : users ≠ []) : operation.apply users ≠ [] := by
  obtain ⟨user, member⟩ := List.exists_mem_of_ne_nil users present
  refine List.ne_nil_of_mem (a := user) (mem_apply.mpr ?_)
  cases change : operation.membership? user with
  | none => exact member
  | some joined =>
    cases joined with
    | true => rfl
    | false => exact absurd change (keeps user)

end Apply

inductive RoomPhase where
  | waiting
  | read (data : Option RoomState)
  | written

def nextPhase : (command : RoomCommand) → command.Reply → RoomPhase
  | .get _, (data, _) => .read data
  | .setEx _ _ _, _ => .written
  | .del _, _ => .written

variable (config : RoomConfig)

/-- What an operation awaits: it writes the room that it has read, changed, or deletes it. -/
inductive Awaits : RoomOperation → RoomPhase → RoomCommand → Prop where
  | get operation : Awaits operation .waiting (.get operation.key)
  | save operation copy roomState (own : roomState.key = copy.key)
    (users : roomState.users = operation.apply copy.users)
    (stays : copy.users ≠ [] → operation.apply copy.users ≠ []) :
    Awaits operation (.read (some copy)) (.setEx copy.key config.ttlSeconds roomState)
  | delete operation copy (empty : operation.apply copy.users = []) :
    Awaits operation (.read (some copy)) (.del operation.key)

def discipline (operation : RoomOperation) : Discipline RoomCommand RoomCommand.Reply RoomPhase where
  next _ := nextPhase
  may := Awaits config operation
  assumes _ _ := True

/-- An operation that ends without writing has failed, or has found no room and adds nobody. -/
def ends {α : Type} (operation : RoomOperation) : RoomPhase → Program.Outcome α → Prop
  | .waiting, _ => False
  | .read none, outcome => (∃ error, outcome = .error error) ∨
    ∀ user, operation.membership? user ≠ some true
  | .read (some _), outcome => ∃ error, outcome = .error error
  | .written, outcome => ∃ value, outcome = .ok value

section Respects

variable {config} {operation : RoomOperation}

theorem getRoomState_respects {α : Type} {roomId tenantId : String}
    {next : Option RoomState × Nat → RoomProgram α}
    (own : operation.key = getRoomKey roomId tenantId)
    (later : ∀ data now, (next (data, now)).Respects (discipline config operation)
      (ends operation) (.read data)) :
    (getRoomState roomId tenantId >>= next).Respects (discipline config operation)
      (ends operation) .waiting :=
  ⟨own ▸ .get operation, fun (reply : Option RoomState × Nat) _ => later reply.1 reply.2⟩

theorem saveRoomState_respects {α : Type} {copy roomState : RoomState} {value : α}
    (own : roomState.key = copy.key) (users : roomState.users = operation.apply copy.users)
    (stays : copy.users ≠ [] → operation.apply copy.users ≠ []) :
    (do
      saveRoomState config roomState
      pure value : RoomProgram α).Respects (discipline config operation) (ends operation)
        (.read (some copy)) := by
  refine ⟨?_, fun _ _ => ⟨value, rfl⟩⟩
  change Awaits config operation _ (.setEx roomState.key config.ttlSeconds roomState)
  rw [own]
  exact .save operation copy roomState own users stays

end Respects

variable (roomId tenantId userId : String)

theorem addMember_respects (socketId : String) (role : RoomRole) :
    (addMember config roomId tenantId userId socketId role).Respects
      (discipline config (.addMember roomId tenantId userId socketId role))
      (ends (.addMember roomId tenantId userId socketId role)) .waiting := by
  refine getRoomState_respects rfl fun data now => ?_
  cases data with
  | none => exact .inl ⟨_, rfl⟩
  | some copy =>
    refine saveRoomState_respects rfl (users_addMember roomId tenantId userId socketId role now copy)
      (apply_ne_nil fun user => ?_)
    simp only [RoomOperation.membership?]
    split <;> simp

theorem removeMember_respects : (removeMember config roomId tenantId userId).Respects
      (discipline config (.removeMember roomId tenantId userId))
      (ends (.removeMember roomId tenantId userId)) .waiting := by
  refine getRoomState_respects rfl fun data now => ?_
  cases data with
  | none =>
    refine .inr fun user => ?_
    simp only [RoomOperation.membership?]
    split <;> simp
  | some copy =>
    have users := users_removeMember roomId tenantId userId copy
    dsimp only
    split
    · rename_i empty
      refine ⟨.delete _ copy ?_, fun _ _ => ⟨_, rfl⟩⟩
      rw [← users, List.length_eq_zero_iff.mp empty, List.map_nil]
    · rename_i remaining
      refine saveRoomState_respects rfl users fun _ => ?_
      rw [← users]
      exact mt List.map_eq_nil_iff.mp (mt List.length_eq_zero_iff.mpr remaining)

theorem updateMemberRole_respects (role : RoomRole) :
    (updateMemberRole config roomId tenantId userId role).Respects
      (discipline config (.updateMemberRole roomId tenantId userId role))
      (ends (.updateMemberRole roomId tenantId userId role)) .waiting := by
  refine getRoomState_respects rfl fun data now => ?_
  cases data with
  | none => exact .inl ⟨_, rfl⟩
  | some copy =>
    dsimp only
    split
    · exact ⟨_, rfl⟩
    · exact saveRoomState_respects rfl (users_updateMember userId
        (fun member => { member with role }) (fun _ => rfl) copy.members) id

theorem updateActivity_respects : (updateActivity config roomId tenantId).Respects
      (discipline config (.updateActivity roomId tenantId))
      (ends (.updateActivity roomId tenantId)) .waiting := by
  refine getRoomState_respects rfl fun data now => ?_
  cases data with
  | none => exact .inr fun user adds => by cases adds
  | some copy => exact saveRoomState_respects rfl rfl id

theorem operation_respects (operation : RoomOperation) :
    ((host config).body operation).Respects (discipline config operation) (ends operation)
      .waiting := by
  cases operation with
  | addMember roomId tenantId userId socketId role =>
    exact addMember_respects config roomId tenantId userId socketId role
  | removeMember roomId tenantId userId => exact removeMember_respects config roomId tenantId userId
  | updateMemberRole roomId tenantId userId role =>
    exact updateMemberRole_respects config roomId tenantId userId role
  | updateActivity roomId tenantId => exact updateActivity_respects config roomId tenantId

abbrev RoomPool :=
  Pool RoomStore RoomCommand RoomCommand.Reply RoomOperation RoomPhase (List RoomNotice)

abbrev RoomEvent := Event Unit Nat RoomOperation

abbrev Ending := RoomOperation × Program.Outcome (List RoomNotice)

abbrev RoomHistory :=
  Pool.Recorded RoomStore RoomCommand RoomCommand.Reply RoomOperation RoomPhase (List RoomNotice)
    (List Ending)

/-- The operations on rooms, interleaved, with how they have ended. -/
def history : Transducer RoomHistory RoomEvent Unit :=
  Pool.Recorded.machine (host config) (discipline config) (fun _ => .waiting) Pool.endings

def newHistory (store : RoomStore) : RoomHistory := ⟨⟨store, []⟩, []⟩

def stored? (store : RoomStore) (key : String) : Option RoomState :=
  store.rooms.lookup store.now key

def usersAt (store : RoomStore) (key : String) : List String :=
  ((stored? store key).map RoomState.users).getD []

/-- Whether an operation has ended that adds the user to the room or removes them. -/
def tells (key user : String) : Ending → Option Bool
  | (operation, .ok _) => if operation.key = key then operation.membership? user else none
  | (_, .error _) => none

/-- Whether the last completed operation on the user's membership of the room has added them, if
there is one. -/
def lastMembership (log : List Ending) (key user : String) : Option Bool :=
  Transducer.latest (tells key user) log

/-- Rooms are stored under their keys, and have members, each of them once. -/
def WellKept (store : RoomStore) : Prop :=
  ∀ key roomState, stored? store key = some roomState →
    roomState.key = key ∧ roomState.users.Nodup ∧ roomState.users ≠ []

def Lasting (key : String) (current : RoomHistory) : RoomEvent → Prop
  | .change elapsed =>
    stored? ((host config).change current.pool.shared elapsed) key = stored? current.pool.shared key
  | _ => True

/-- When an operation writes the room, the stored room has the members that the operation has
read. -/
def UpToDate (key : String) (current : RoomHistory) : RoomEvent → Prop
  | .run index _ => ∀ operation command copy,
    current.pool.awaited? index = some (operation, command) → operation.input.key = key →
      operation.phase = .read (some copy) →
        ∀ user, user ∈ usersAt current.pool.shared key ↔ user ∈ copy.users
  | _ => True

/-- The members of the room are the users whose last completed operation has added them, each of
them once, and those of the start whom no operation was about; a stored room has members. -/
structure MembersFollow (key : String) (start : RoomStore) (current : RoomHistory) : Prop where
  members : ∀ user, user ∈ usersAt current.pool.shared key ↔
    (lastMembership current.history key user).elim (user ∈ usersAt start key) (· = true)
  once : (usersAt current.pool.shared key).Nodup
  inhabited : ∀ roomState, stored? current.pool.shared key = some roomState →
    roomState.members ≠ []

/-- The room that an operation has read is well kept. -/
def CopyKept (operation : RoomOperation) (phase : RoomPhase) : Prop :=
  ∀ copy, phase = .read (some copy) →
    copy.key = operation.key ∧ copy.users.Nodup ∧ copy.users ≠ []

/-- Rooms and copies of rooms are well kept, and members follow from the operations. -/
structure Tracked (key : String) (start : RoomStore) (current : RoomHistory) : Prop where
  kept : WellKept current.pool.shared
  copies : ∀ operation ∈ current.pool.calls, CopyKept operation.input operation.phase
  members : ∀ user, user ∈ usersAt current.pool.shared key ↔
    (lastMembership current.history key user).elim (user ∈ usersAt start key) (· = true)

section Steps

variable {config} {store start : RoomStore} {key user : String}

theorem Tracked.follow {current : RoomHistory} (tracked : Tracked key start current) :
    MembersFollow key start current := by
  refine ⟨tracked.members, ?_, fun roomState present => ?_⟩
  · unfold usersAt
    cases present : stored? current.pool.shared key with
    | none => exact List.nodup_nil
    | some roomState => exact (tracked.kept key roomState present).2.1
  · have inhabited := (tracked.kept key roomState present).2.2
    exact fun empty => inhabited (List.map_eq_nil_iff.mpr empty)

theorem stored?_setEx {written : String} {roomState : RoomState} :
    stored? (exec store (.setEx written config.ttlSeconds roomState) ()).1 key =
      if written = key then some roomState else stored? store key :=
  lookup_store
    (Nat.mul_pos (Nat.mul_pos config.positive (by decide)) (by decide))

theorem stored?_del {deleted : String} : stored? (exec store (.del deleted) ()).1 key =
      if deleted = key then none else stored? store key :=
  lookup_delete

theorem WellKept.setEx (kept : WellKept store) {roomState : RoomState}
    (once : roomState.users.Nodup) (inhabited : roomState.users ≠ []) :
    WellKept (exec store (.setEx roomState.key config.ttlSeconds roomState) ()).1 := by
  intro key found present
  rw [stored?_setEx] at present
  split at present
  · rename_i same
    cases present
    exact ⟨same, once, inhabited⟩
  · exact kept key found present

theorem WellKept.del (kept : WellKept store) (deleted : String) :
    WellKept (exec store (.del deleted) ()).1 := by
  intro key found present
  rw [stored?_del] at present
  split at present
  · cases present
  · exact kept key found present

theorem outcome_of_written {operation : RoomOperation} {program : RoomProgram (List RoomNotice)}
    (respects : program.Respects (discipline config operation) (ends operation) .written) :
    ∃ notices, program.outcome? = some (.ok notices) := by
  cases program with
  | result notices => exact ⟨notices, rfl⟩
  | failure error =>
    obtain ⟨_, failed⟩ := respects
    cases failed
  | await command next => cases respects.1

variable {log : List Ending}

theorem members_apply {operation : RoomOperation} {users users' : List String} {started : Prop}
    {notices : List RoomNotice} (own : operation.key = key)
    (followed : user ∈ users ↔ (lastMembership log key user).elim started (· = true))
    (same : ∀ user, user ∈ users ↔ user ∈ users') : user ∈ operation.apply users' ↔
      (lastMembership (log ++ [(operation, .ok notices)]) key user).elim started (· = true) := by
  rw [mem_apply_congr fun user => (same user).symm, mem_apply, lastMembership,
    Transducer.latest_concat, tells, if_pos own]
  cases operation.membership? user with
  | none => exact followed
  | some joined => exact Iff.rfl

theorem lastMembership_of_ne {operation : RoomOperation}
    {outcome : Program.Outcome (List RoomNotice)} (other : operation.key ≠ key) :
    lastMembership (log ++ [(operation, outcome)]) key user = lastMembership log key user := by
  rw [lastMembership, Transducer.latest_concat]
  cases outcome with
  | ok notices =>
    rw [tells, if_neg other]
    rfl
  | error error => rfl

theorem members_absent {operation : RoomOperation} {started : Prop} {notices : List RoomNotice}
    (absent : stored? store operation.key = none)
    (adds : ∀ user, operation.membership? user ≠ some true) (followed : user ∈ usersAt store key ↔
      (lastMembership log key user).elim started (· = true)) : user ∈ usersAt store key ↔
      (lastMembership (log ++ [(operation, .ok notices)]) key user).elim started (· = true) := by
  by_cases own : operation.key = key
  · subst own
    cases change : operation.membership? user with
    | none =>
      rw [lastMembership, Transducer.latest_concat, tells, if_pos rfl, change]
      exact followed
    | some joined =>
      cases joined with
      | true => exact absurd change (adds user)
      | false =>
        rw [lastMembership, Transducer.latest_concat, tells, if_pos rfl, change, usersAt, absent]
        simp
  · rw [lastMembership_of_ne own]
    exact followed

variable {current : RoomHistory} {index : Nat}
  {operation : Call RoomCommand RoomCommand.Reply RoomOperation RoomPhase (List RoomNotice)}
  {command : RoomCommand} {next : command.Reply → RoomProgram (List RoomNotice)}

theorem respects_next {effect : RoomStore × command.Reply}
    (present : current.pool.calls[index]? = some operation)
    (respectful : (current.pool.resume (discipline config) index operation command next
      effect).Respectful (discipline config) ends) :
    (next effect.2).Respects (discipline config operation.input) (ends operation.input)
      (nextPhase command effect.2) :=
  respectful _ (Pool.mem_resume_self present)

theorem Tracked.get (tracked : Tracked key start current)
    {next : RoomCommand.Reply (.get operation.input.key) → RoomProgram (List RoomNotice)}
    (present : current.pool.calls[index]? = some operation)
    (respectful : (current.pool.resume (discipline config) index operation
      (.get operation.input.key) next
      (exec current.pool.shared (.get operation.input.key) ())).Respectful (discipline config)
        ends) : Tracked key start ⟨current.pool.resume (discipline config) index operation
      (.get operation.input.key) next (exec current.pool.shared (.get operation.input.key) ()),
      current.history ++ Pool.ending operation.input
        (next (exec current.pool.shared (.get operation.input.key) ()).2)⟩ := by
  have respects := respects_next present respectful
  have goes := @Pool.goes_resume _ _ _ _ _ _ (discipline config) current.pool index operation _
    next (exec current.pool.shared (.get operation.input.key) ()) present
  have copied : CopyKept operation.input
      (.read (stored? current.pool.shared operation.input.key)) :=
    fun copy found => tracked.kept _ copy (RoomPhase.read.inj found)
  refine ⟨tracked.kept, goes.forall copied tracked.copies, fun user => ?_⟩
  have followed := tracked.members user
  unfold Pool.ending
  cases ended : (next (exec current.pool.shared (.get operation.input.key) ()).2).outcome? with
  | none =>
    rw [Option.map_none, Option.toList_none, List.append_nil]
    exact followed
  | some outcome =>
    -- An operation that ends here has failed, or has found no room and adds nobody.
    have finished : ends operation.input
        (.read (stored? current.pool.shared operation.input.key)) outcome :=
      respects.ends_of_outcome ended
    cases outcome with
    | error error =>
      rw [lastMembership, Option.map_some, Option.toList_some, Transducer.latest_concat]
      exact followed
    | ok notices =>
      cases found : stored? current.pool.shared operation.input.key with
      | some copy =>
        rw [found] at finished
        obtain ⟨error, failed⟩ := finished
        cases failed
      | none =>
        rw [found] at finished
        obtain ⟨error, failed⟩ | adds := finished
        · cases failed
        · exact members_absent found adds followed

/-- The room is written or deleted: the members are what the operation makes of them. -/
theorem Tracked.write (tracked : Tracked key start current) {copy : RoomState}
    (present : current.pool.calls[index]? = some operation)
    (writes : nextPhase command (exec current.pool.shared command ()).2 = .written)
    (undisturbed : operation.input.key = key →
      ∀ user, user ∈ usersAt current.pool.shared key ↔ user ∈ copy.users)
    (kept : WellKept (exec current.pool.shared command ()).1)
    (own : usersAt (exec current.pool.shared command ()).1 operation.input.key =
      operation.input.apply copy.users) (others : ∀ key, operation.input.key ≠ key →
      usersAt (exec current.pool.shared command ()).1 key = usersAt current.pool.shared key)
    (respectful : (current.pool.resume (discipline config) index operation command next
      (exec current.pool.shared command ())).Respectful (discipline config) ends) :
    Tracked key start ⟨current.pool.resume (discipline config) index operation command next
      (exec current.pool.shared command ()),
      current.history ++ Pool.ending operation.input
        (next (exec current.pool.shared command ()).2)⟩ := by
  have respects := respects_next present respectful
  have goes := @Pool.goes_resume _ _ _ _ _ _ (discipline config) current.pool index operation
    command next (exec current.pool.shared command ()) present
  rw [writes] at respects
  obtain ⟨notices, ended⟩ := outcome_of_written respects
  have copied : CopyKept operation.input
      (nextPhase command (exec current.pool.shared command ()).2) := by
    intro copy found
    rw [writes] at found
    cases found
  refine ⟨kept, goes.forall copied tracked.copies, fun user => ?_⟩
  change user ∈ usersAt (exec current.pool.shared command ()).1 key ↔
    (lastMembership (current.history ++ Pool.ending operation.input
      (next (exec current.pool.shared command ()).2)) key user).elim _ _
  rw [Pool.ending, ended, Option.map_some, Option.toList_some]
  by_cases same : operation.input.key = key
  · rw [← same, own]
    exact members_apply rfl (same ▸ tracked.members user) (same ▸ undisturbed same)
  · rw [others key same, lastMembership_of_ne same]
    exact tracked.members user

theorem Tracked.resume (tracked : Tracked key start current)
    (present : current.pool.calls[index]? = some operation)
    (awaits : Awaits config operation.input operation.phase command)
    (undisturbed : ∀ copy, operation.input.key = key → operation.phase = .read (some copy) →
      ∀ user, user ∈ usersAt current.pool.shared key ↔ user ∈ copy.users)
    (respectful : (current.pool.resume (discipline config) index operation command next
      (exec current.pool.shared command ())).Respectful (discipline config) ends) :
    Tracked key start ⟨current.pool.resume (discipline config) index operation command next
      (exec current.pool.shared command ()),
      current.history ++ Pool.ending operation.input
        (next (exec current.pool.shared command ()).2)⟩ := by
  have copies := tracked.copies operation (List.mem_of_getElem? present)
  generalize input : operation.input = input, reached : operation.phase = phase at awaits copies
  cases awaits with
  | get =>
    subst input
    exact tracked.get present respectful
  | save copy roomState own users stays =>
    obtain ⟨same, once, inhabited⟩ := copies copy rfl
    subst input
    refine tracked.write present rfl (fun own => undisturbed copy own reached) ?_ ?_
      (fun key other => ?_) respectful
    · rw [← own]
      exact tracked.kept.setEx (users ▸ nodup_apply once) (users ▸ stays inhabited)
    · rw [usersAt, stored?_setEx, if_pos same, Option.map_some, Option.getD_some, users]
    · rw [usersAt, stored?_setEx, if_neg (same ▸ other)]
      rfl
  | delete copy empty =>
    subst input
    refine tracked.write present rfl (fun own => undisturbed copy own reached)
      (tracked.kept.del _) ?_ (fun key other => ?_) respectful
    · rw [usersAt, stored?_del, if_pos rfl, empty]
      rfl
    · rw [usersAt, stored?_del, if_neg other]
      rfl

end Steps

theorem wellKept_createRoom (config : RoomConfig) (roomId tenantId conversationId ownerId
    socketId : String) (now : Nat) {store : RoomStore} (kept : WellKept store) :
    WellKept (exec store (.setEx (getRoomKey roomId tenantId) config.ttlSeconds
      (newRoom roomId tenantId conversationId ownerId socketId now)) ()).1 :=
  @WellKept.setEx config store kept (newRoom roomId tenantId conversationId ownerId socketId now)
    (List.nodup_singleton _) (List.cons_ne_nil _ _)

/-- Operations on rooms run interleaved in any way. As long as an operation writes the room only
when its members are those that the operation has read, the members follow from the operations
that have completed. -/
theorem members_follow (config : RoomConfig) (key : String) (store : RoomStore)
    (kept : WellKept store) (events : List RoomEvent)
    (lasting : (history config).Admits (Lasting config key) (newHistory store) events)
    (upToDate : (history config).Admits (UpToDate key) (newHistory store) events) :
    MembersFollow key store ((history config).run (newHistory store) events) := by
  have fresh : Tracked key store (newHistory store) :=
    ⟨kept, fun _ member => absurd member List.not_mem_nil, fun user => Iff.rfl⟩
  refine (Pool.Recorded.invariant (operation_respects config) ?_ ?_ ?_ (lasting.and upToDate)
    (fun _ member => absurd member List.not_mem_nil) fresh).2.follow
  · intro current operation tracked _
    refine ⟨tracked.kept, Pool.forall_start (fun copy waiting => ?_) tracked.copies, fun user => ?_⟩
    · cases waiting
    · have awaits : ((host config).body operation).outcome? = none := by cases operation <;> rfl
      change _ ↔ (lastMembership (current.history ++ Pool.ending operation _) key user).elim _ _
      rw [Pool.ending, awaits, Option.map_none, Option.toList_none, List.append_nil]
      exact tracked.members user
  · intro current elapsed tracked guarded
    refine ⟨fun key roomState found => ?_, tracked.copies, fun user => ?_⟩
    · exact tracked.kept key roomState
        (lookup_of_later (Nat.le_add_right _ elapsed) found)
    · have same : usersAt ((host config).change current.pool.shared elapsed) key =
          usersAt current.pool.shared key := by
        rw [usersAt, guarded.1]
        rfl
      rw [same]
      exact tracked.members user
  · rintro current index ⟨⟩ operation command next tracked guarded _ present program awaits
    refine ⟨trivial, tracked.resume present awaits fun copy own reached => ?_⟩
    exact guarded.2 operation command copy (Pool.awaited?_of_await present program) own reached

section Sample

def roomConfig : RoomConfig where
  positive := Nat.succ_pos 23

def sampleKey : String := getRoomKey "r1" "t1"

def sampleStore : RoomStore :=
  (exec ⟨0, .empty⟩ (.setEx sampleKey roomConfig.ttlSeconds
    (newRoom "r1" "t1" "c1" "alice" "s1" 0)) ()).1

theorem wellKept_sample : WellKept sampleStore :=
  wellKept_createRoom roomConfig "r1" "t1" "c1" "alice" "s1" 0 fun key roomState found => by
    cases found

def oneAfterTheOther : List RoomEvent :=
  [.start (.addMember "r1" "t1" "bob" "s2" .member), .run 0 (), .run 0 (),
    .start (.updateActivity "r1" "t1"), .run 1 (), .run 1 (),
    .start (.removeMember "r1" "t1" "bob"), .run 2 (), .run 2 ()]

theorem members_follow_one_after_the_other : MembersFollow sampleKey sampleStore
      ((history roomConfig).run (newHistory sampleStore) oneAfterTheOther) := by
  refine members_follow roomConfig sampleKey sampleStore wellKept_sample oneAfterTheOther ?_ ?_
  · exact ⟨trivial, trivial, trivial, trivial, trivial, trivial, trivial, trivial, trivial, trivial⟩
  · refine ⟨trivial, ?_, ?_, trivial, ?_, ?_, trivial, ?_, ?_, trivial⟩
    all_goals rintro _ _ copy ⟨⟩ _ ⟨⟩
    all_goals exact fun user => Iff.rfl

def leavesMeanwhile : List RoomEvent :=
  [.start (.addMember "r1" "t1" "bob" "s2" .member), .run 0 (), .run 0 (),
    .start (.updateActivity "r1" "t1"), .run 1 (),
    .start (.removeMember "r1" "t1" "bob"), .run 2 (), .run 2 (), .run 1 ()]

theorem removed_member_reappears :
    ¬ ∀ events, (history roomConfig).Admits (Lasting roomConfig sampleKey)
        (newHistory sampleStore) events → MembersFollow sampleKey sampleStore
        ((history roomConfig).run (newHistory sampleStore) events) := by
  intro follow
  have lasting : (history roomConfig).Admits (Lasting roomConfig sampleKey)
      (newHistory sampleStore) leavesMeanwhile :=
    ⟨trivial, trivial, trivial, trivial, trivial, trivial, trivial, trivial, trivial, trivial⟩
  have members := (follow leavesMeanwhile lasting).members "bob"
  have present : "bob" ∈ usersAt ((history roomConfig).run (newHistory sampleStore)
      leavesMeanwhile).pool.shared sampleKey := by decide +kernel
  have left : lastMembership ((history roomConfig).run (newHistory sampleStore)
      leavesMeanwhile).history sampleKey "bob" = some false := by decide +kernel
  rw [left] at members
  cases members.mp present

end Sample

end Caas.Rooms
