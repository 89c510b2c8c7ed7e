import Caas.Async.Histories
import Caas.Presence.PresenceManager

/-!
# Devices of a user

The devices of a user should be those that have connected and not disconnected, and a user with
devices should be offline only when that has been set. Each operation, the periodic check for
idle users among them, writes back the presence that it has read, so it undoes what others have
done to the devices meanwhile.
-/

namespace Caas.Presence

open Async Program Js Redis PresenceManager

/-- The ids of the devices of a presence; without one there are none. -/
def deviceIds (presence : Option UserPresence) : List String :=
  (presence.map fun presence => presence.devices.map fun device => device.deviceId).getD []

/-- The status of a presence; without one the user is offline. -/
def statusOf (presence : Option UserPresence) : PresenceStatus :=
  (presence.map fun presence => presence.status).getD .offline

/-- Whether the operation connects the device of the user or disconnects it, if it does either. -/
def PresenceOperation.connects? (userId deviceId : String) : PresenceOperation → Option Bool
  | .setOnline user metadata =>
    if user = userId ∧ metadata.deviceId = deviceId then some true else none
  | .setOffline user device => if user = userId ∧ device = deviceId then some false else none
  | .setStatus _ _ _ | .checkIdleUsersAndSetAway => none

/-- What an operation has last read and whether it has written since. -/
inductive PresencePhase where
  | idle
  | read (userId : String) (data : Option UserPresence)
  | saved

def nextPhase (phase : PresencePhase) : (command : PresenceCommand) → command.Reply → PresencePhase
  | .get userId, (.ok data, _) => .read userId data
  | .get _, (.error _, _) => .idle
  | .set _ _ _, _ => .saved
  | .getAllUserIds, _ => .idle
  | .updateLastSeen _ _, _ => phase
  | .notifyStatusChange _ _ _, _ => phase

/-- What an operation makes of the presence of a user that it has read. -/
inductive Rewrites : PresenceOperation → String → Option UserPresence → UserPresence → Prop where
  | setOnline userId metadata data presence
    (devices : ∀ deviceId, deviceId ∈ deviceIds (some presence) ↔
      deviceId = metadata.deviceId ∨ deviceId ∈ deviceIds data)
    (online : presence.status = .online) :
    Rewrites (.setOnline userId metadata) userId data presence
  | setOffline userId deviceId copy presence
    (devices : deviceIds (some presence) =
      (deviceIds (some copy)).filter fun device => device ≠ deviceId)
    (status : presence.status = copy.status ∨
      presence.status = .offline ∧ deviceIds (some presence) = []) :
    Rewrites (.setOffline userId deviceId) userId (some copy) presence
  | setStatus userId status customStatus data presence
    (devices : deviceIds (some presence) = deviceIds data) :
    Rewrites (.setStatus userId status customStatus) userId data presence
  | check userId copy presence (devices : presence.devices = copy.devices)
    (status : presence.status ≠ .offline) :
    Rewrites .checkIdleUsersAndSetAway userId (some copy) presence

variable (config : PresenceConfig)

inductive Awaits : PresenceOperation → PresencePhase → PresenceCommand → Prop where
  | get operation phase userId
    (early : phase = .idle ∨ operation = .checkIdleUsersAndSetAway) :
    Awaits operation phase (.get userId)
  | set operation userId data presence (rewrites : Rewrites operation userId data presence) :
    Awaits operation (.read userId data) (.set userId config.ttl presence)
  | ids operation : Awaits operation .idle .getAllUserIds
  | lastSeen operation phase userId deviceType :
    Awaits operation phase (.updateLastSeen userId deviceType)
  | notify operation phase userId status customStatus :
    Awaits operation phase (.notifyStatusChange userId status customStatus)

def discipline (operation : PresenceOperation) :
    Discipline PresenceCommand PresenceCommand.Reply PresencePhase where
  next := nextPhase
  may := Awaits config operation
  assumes _ _ := True

/-- A device that has connected or disconnected has been written, unless there was no presence
to disconnect it from. -/
def Done (operation : PresenceOperation) (phase : PresencePhase) : Prop :=
  phase = .saved ∨ ∃ userId deviceId,
    operation = .setOffline userId deviceId ∧ phase = .read userId none

def ends {α : Type} (operation : PresenceOperation) (phase : PresencePhase)
    (outcome : Outcome α) : Prop :=
  ∀ userId deviceId value, operation.connects? userId deviceId ≠ none → outcome = .ok value →
    Done operation phase

section Respects

variable {config} {operation : PresenceOperation} {phase : PresencePhase}

theorem get_respects {α : Type} {userId : String}
    {next : Option UserPresence × Nat → PresenceProgram α}
    (early : phase = .idle ∨ operation = .checkIdleUsersAndSetAway)
    (later : ∀ data now, (next (data, now)).Respects (discipline config operation)
      (ends operation) (.read userId data)) :
    (PresenceStore.get userId >>= next).Respects (discipline config operation) (ends operation)
      phase := by
  refine ⟨.get _ _ _ early, fun (reply : Outcome (Option UserPresence) × Nat) _ => ?_⟩
  obtain ⟨data, now⟩ := reply
  cases data with
  | ok presence => exact later presence now
  | error error =>
    intro userId deviceId value connects failed
    cases failed

theorem notifyStatusChange_respects (userId : String) (status : PresenceStatus)
    (customStatus : Option String) (done : ∀ outcome : Outcome Unit,
      ends operation phase outcome) :
    (notifyStatusChange config userId status customStatus).Respects (discipline config operation)
      (ends operation) phase := by
  unfold notifyStatusChange
  split
  · exact ⟨.notify _ _ _ _ _, fun _ _ => done _⟩
  · exact done _

theorem updateLastSeen_respects {α : Type} {next : Unit → PresenceProgram α} (userId : String)
    (deviceType : Option String)
    (later : (next ()).Respects (discipline config operation) (ends operation) phase) :
    (updateLastSeen config userId deviceType >>= next).Respects (discipline config operation)
      (ends operation) phase := by
  unfold updateLastSeen
  split
  · exact ⟨.lastSeen _ _ _ _, fun _ _ => later⟩
  · exact later

theorem ends_of_not_connects {α : Type} (outcome : Outcome α)
    (unrelated : ∀ userId deviceId, operation.connects? userId deviceId = none) :
    ends operation phase outcome :=
  fun userId deviceId _ connects => absurd (unrelated userId deviceId) connects

theorem ends_saved {α : Type} (outcome : Outcome α) : ends operation .saved outcome :=
  fun _ _ _ _ _ => .inl rfl

end Respects

theorem deviceIds_putDevice (newDevice : ConnectedDevice) (devices : List ConnectedDevice)
    (deviceId : String) : deviceId ∈ (putDevice newDevice devices).map (·.deviceId) ↔
      deviceId = newDevice.deviceId ∨ deviceId ∈ devices.map (·.deviceId) := by
  induction devices with
  | nil => simp [putDevice]
  | cons device rest ih =>
    simp only [putDevice]
    split
    · rename_i same
      simp only [List.map_cons, List.mem_cons, same]
      tauto
    · simp only [List.map_cons, List.mem_cons, ih]
      tauto

theorem putDevice_ne_nil (newDevice : ConnectedDevice) (devices : List ConnectedDevice) :
    putDevice newDevice devices ≠ [] := by
  cases devices with
  | nil => exact List.cons_ne_nil _ _
  | cons device rest =>
    simp only [putDevice]
    split <;> exact List.cons_ne_nil _ _

theorem deviceIds_filter (deviceId : String) (copy : UserPresence) :
    (copy.devices.filter fun device => device.deviceId ≠ deviceId).map (·.deviceId) =
      (deviceIds (some copy)).filter fun device => device ≠ deviceId := by
  simp only [deviceIds, Option.map_some, Option.getD_some, List.filter_map]
  rfl

theorem setStatus_respects (userId : String) (status : PresenceStatus)
    (customStatus : Option String) : (setStatus config userId status customStatus).Respects
      (discipline config (.setStatus userId status customStatus))
      (ends (.setStatus userId status customStatus)) .idle := by
  refine get_respects (.inl rfl) fun data now => ⟨.set _ _ _ _ (.setStatus _ _ _ _ _ ?_),
    fun _ _ => updateLastSeen_respects _ _ (notifyStatusChange_respects _ _ _ ends_saved)⟩
  cases data <;> rfl

theorem setOnline_respects (userId : String) (metadata : PresenceMetadata) :
    (setOnline config userId metadata).Respects (discipline config (.setOnline userId metadata))
      (ends (.setOnline userId metadata)) .idle := by
  refine get_respects (.inl rfl) fun data now =>
    ⟨.set _ _ _ _ (.setOnline _ _ _ _ (fun deviceId => ?_) ?_),
      fun _ _ => updateLastSeen_respects _ _ (notifyStatusChange_respects _ _ _ ends_saved)⟩
  · cases data <;> exact deviceIds_putDevice _ _ _
  · split
    · rfl
    · rename_i unchanged
      by_contra other
      exact unchanged ⟨other, List.length_pos_iff.mpr (putDevice_ne_nil _ _)⟩

theorem setOffline_respects (userId deviceId : String) :
    (setOffline config userId deviceId).Respects (discipline config (.setOffline userId deviceId))
      (ends (.setOffline userId deviceId)) .idle := by
  refine get_respects (.inl rfl) fun data now => ?_
  cases data with
  | none => exact fun _ _ _ _ _ => .inr ⟨userId, deviceId, rfl, rfl⟩
  | some copy =>
    dsimp only
    split
    · rename_i empty
      refine updateLastSeen_respects _ _ ⟨.set _ _ _ _ (.setOffline _ _ _ _ ?_ (.inr ⟨rfl, ?_⟩)),
        fun _ _ => notifyStatusChange_respects _ _ _ ends_saved⟩
      · exact deviceIds_filter deviceId copy
      · exact congrArg (List.map _) (List.length_eq_zero_iff.mp empty)
    · exact ⟨.set _ _ _ _ (.setOffline _ _ _ _ (deviceIds_filter deviceId copy) (.inl rfl)),
        fun _ _ => notifyStatusChange_respects _ _ _ ends_saved⟩

theorem ends_check {α : Type} {phase : PresencePhase} (outcome : Outcome α) :
    ends .checkIdleUsersAndSetAway phase outcome :=
  ends_of_not_connects outcome fun _ _ => rfl

theorem checkIdleUser_respects (now : Nat) (userId : String) (phase : PresencePhase) :
    (checkIdleUser config now userId).Respects (discipline config .checkIdleUsersAndSetAway)
      (ends .checkIdleUsersAndSetAway) phase := by
  refine get_respects (.inr rfl) fun data _ => ?_
  cases data with
  | none => exact ends_check _
  | some copy =>
    dsimp only
    split
    · exact ends_check _
    · split
      · exact ⟨.set _ _ _ _ (.check _ _ _ rfl PresenceStatus.noConfusion),
          fun _ _ => notifyStatusChange_respects _ _ _ ends_saved⟩
      · split
        · exact ⟨.set _ _ _ _ (.check _ _ _ rfl PresenceStatus.noConfusion),
            fun _ _ => notifyStatusChange_respects _ _ _ ends_saved⟩
        · exact ends_check _

theorem checkIdleUsers_respects (now : Nat) (userIds : List String) (phase : PresencePhase) :
    (checkIdleUsers config now userIds).Respects (discipline config .checkIdleUsersAndSetAway)
      (ends .checkIdleUsersAndSetAway) phase := by
  induction userIds generalizing phase with
  | nil => exact ends_check _
  | cons userId rest ih =>
    refine respects_bind ((checkIdleUser_respects config now userId phase).mono
      fun phase outcome _ => ?_)
    cases outcome with
    | ok _ => exact ih phase
    | error error => exact ends_check _

theorem operation_respects (operation : PresenceOperation) :
    ((host config).body operation).Respects (discipline config operation) (ends operation)
      .idle := by
  cases operation with
  | setOnline userId metadata => exact setOnline_respects config userId metadata
  | setOffline userId deviceId => exact setOffline_respects config userId deviceId
  | setStatus userId status customStatus => exact setStatus_respects config userId status customStatus
  | checkIdleUsersAndSetAway =>
    exact ⟨.ids _, fun (reply : List String × Nat) _ =>
      checkIdleUsers_respects config reply.2 reply.1 _⟩

abbrev PresenceEvent := Event Unit Nat PresenceOperation

abbrev PresenceHistory :=
  Pool.Recorded PresenceState PresenceCommand PresenceCommand.Reply PresenceOperation PresencePhase
    Unit (String → Bool)

def stored? (state : PresenceState) (userId : String) : Option UserPresence :=
  state.presences.lookup state.now userId

def devicesAt (state : PresenceState) (userId : String) : List String :=
  deviceIds (stored? state userId)

def statusAt (state : PresenceState) (userId : String) : PresenceStatus :=
  statusOf (stored? state userId)

/-- Whether a written status has been set by `setStatus`: now, or before and only kept. -/
def explicitAfter (operation : PresenceOperation) (phase : PresencePhase) (presence : UserPresence)
    (before : Bool) : Bool :=
  match operation, phase with
  | .setStatus _ _ _, _ => true
  | _, .read _ data => if presence.status = statusOf data then before else false
  | _, _ => false

/-- Of which users the status has been set by `setStatus`. -/
def explicitly : Pool.Recorder PresenceCommand PresenceCommand.Reply PresenceOperation
    PresencePhase Unit (String → Bool) where
  started explicit _ _ := explicit
  ran explicit _ call command _ _ :=
    match command with
    | .set userId _ presence =>
      Function.update explicit userId
        (explicitAfter call.input call.phase presence (explicit userId))
    | _ => explicit

def history : Transducer PresenceHistory PresenceEvent Unit :=
  Pool.Recorded.machine (host config) (discipline config) (fun _ => .idle) explicitly

def newHistory (state : PresenceState) (explicit : String → Bool) : PresenceHistory :=
  ⟨⟨state, []⟩, explicit⟩

def Lasting (userId : String) (current : PresenceHistory) : PresenceEvent → Prop
  | .change elapsed => stored? ((host config).change current.pool.shared elapsed) userId =
    stored? current.pool.shared userId
  | _ => True

/-- When an operation writes the presence of the user, devices and status are still those that it
has read. -/
def Undisturbed (userId : String) (current : PresenceHistory) : PresenceEvent → Prop
  | .run index _ => ∀ operation ttl presence data,
    current.pool.awaited? index = some (operation, .set userId ttl presence) →
      operation.phase = .read userId data →
        (∀ deviceId, deviceId ∈ devicesAt current.pool.shared userId ↔ deviceId ∈ deviceIds data) ∧
          statusAt current.pool.shared userId = statusOf data
  | _ => True

/-- The last call that connects or disconnects the device overlaps with no other one, and has
completed. -/
def LastCall (userId deviceId : String) (online : Bool) (start : PresenceHistory)
    (events : List PresenceEvent) : Prop :=
  ∃ earlier operation later, events = earlier ++ .start operation :: later ∧
    operation.connects? userId deviceId = some online ∧
    (∀ call ∈ ((history config).run start earlier).pool.calls,
      call.input.connects? userId deviceId ≠ none → call.program.outcome? ≠ none) ∧
    (∀ operation', .start operation' ∈ later → operation'.connects? userId deviceId = none) ∧
    ((history config).run start events).pool.outcome?
      ((history config).run start earlier).pool.calls.length = some (.ok ())

/-- The devices of the user are those whose last call has connected them, and those of the start
that no call was about; the user is offline only without devices, or when that has been set. -/
structure DevicesFollow (userId : String) (start : PresenceHistory) (events : List PresenceEvent) :
    Prop where
  last : ∀ deviceId online, LastCall config userId deviceId online start events →
    (deviceId ∈ devicesAt ((history config).run start events).pool.shared userId ↔ online = true)
  untouched : ∀ deviceId,
    (∀ operation, .start operation ∈ events → operation.connects? userId deviceId = none) →
      (deviceId ∈ devicesAt ((history config).run start events).pool.shared userId ↔
        deviceId ∈ devicesAt start.pool.shared userId)
  offline : statusAt ((history config).run start events).pool.shared userId = .offline →
    devicesAt ((history config).run start events).pool.shared userId = [] ∨
      ((history config).run start events).history userId = true

section Steps

variable {config} {operation : PresenceOperation} {phase : PresencePhase}
  {command : PresenceCommand} {state : PresenceState} {userId user deviceId : String}
  {data : Option UserPresence} {presence : UserPresence} {online : Bool}

theorem mem_rewrites (rewrites : Rewrites operation userId data presence) :
    deviceId ∈ deviceIds (some presence) ↔
      (operation.connects? userId deviceId).elim (deviceId ∈ deviceIds data) (· = true) := by
  cases rewrites with
  | setOnline _ metadata _ _ devices =>
    rw [devices]
    by_cases same : metadata.deviceId = deviceId
    · simp [PresenceOperation.connects?, same]
    · simp [PresenceOperation.connects?, same, Ne.symm same]
  | setOffline _ device copy _ devices =>
    rw [devices, List.mem_filter]
    by_cases same : device = deviceId
    · simp [PresenceOperation.connects?, same]
    · simp [PresenceOperation.connects?, same, Ne.symm same]
  | setStatus _ status customStatus _ _ devices =>
    rw [devices]
    rfl
  | check _ copy _ devices =>
    simp only [deviceIds, Option.map_some, Option.getD_some, devices]
    rfl

theorem user_of_connects (rewrites : Rewrites operation user data presence)
    (connects : operation.connects? userId deviceId ≠ none) : user = userId := by
  cases rewrites with
  | setOnline | setOffline =>
    by_contra other
    exact connects (if_neg fun both => other both.1)
  | setStatus | check => exact absurd rfl connects

theorem stored?_set : stored? (exec state (.set user config.ttl presence) ()).1 userId =
    if user = userId then some presence else stored? state userId :=
  ExpiringMap.lookup_store config.positive

theorem mem_devicesAt_set (rewrites : Rewrites operation user data presence)
    (undisturbed : user = userId → (deviceId ∈ devicesAt state userId ↔ deviceId ∈ deviceIds data)) :
    deviceId ∈ devicesAt (exec state (.set user config.ttl presence) ()).1 userId ↔
      (operation.connects? userId deviceId).elim (deviceId ∈ devicesAt state userId) (· = true) := by
  rw [devicesAt, stored?_set]
  by_cases same : user = userId
  · subst same
    rw [if_pos rfl, mem_rewrites rewrites]
    cases operation.connects? user deviceId with
    | none => exact (undisturbed rfl).symm
    | some online => exact Iff.rfl
  · rw [if_neg same]
    cases connects : operation.connects? userId deviceId with
    | none => exact Iff.rfl
    | some online =>
      exact absurd (user_of_connects rewrites (connects ▸ Option.some_ne_none online)) same

theorem mem_devicesAt_exec (awaits : Awaits config operation phase command)
    (unrelated : operation.connects? userId deviceId = none)
    (undisturbed : ∀ ttl presence data, command = .set userId ttl presence →
      phase = .read userId data → (deviceId ∈ devicesAt state userId ↔ deviceId ∈ deviceIds data)) :
    deviceId ∈ devicesAt (exec state command ()).1 userId ↔ deviceId ∈ devicesAt state userId := by
  cases awaits with
  | get | ids | lastSeen | notify => exact Iff.rfl
  | set user data presence rewrites =>
    have current (same : user = userId) :
        deviceId ∈ devicesAt state userId ↔ deviceId ∈ deviceIds data := by
      subst same
      exact undisturbed _ _ _ rfl rfl
    rw [mem_devicesAt_set rewrites current, unrelated]
    rfl

/-- A command of an operation about the device: when it has done its work, the device is
connected or disconnected. -/
theorem mem_devicesAt_done (awaits : Awaits config operation phase command)
    (about : operation.connects? userId deviceId = some online)
    (before : Done operation phase → (deviceId ∈ devicesAt state userId ↔ online = true))
    (undisturbed : ∀ ttl presence data, command = .set userId ttl presence →
      phase = .read userId data → (deviceId ∈ devicesAt state userId ↔ deviceId ∈ deviceIds data))
    (done : Done operation (nextPhase phase command (exec state command ()).2)) :
    deviceId ∈ devicesAt (exec state command ()).1 userId ↔ online = true := by
  cases awaits with
  | lastSeen | notify => exact before done
  | ids => rcases done with done | ⟨_, _, _, done⟩ <;> cases done
  | set user data presence rewrites =>
    have current (same : user = userId) :
        deviceId ∈ devicesAt state userId ↔ deviceId ∈ deviceIds data := by
      subst same
      exact undisturbed _ _ _ rfl rfl
    rw [mem_devicesAt_set rewrites current, about]
    rfl
  | get _ user =>
    -- Only a disconnection is done when it has read, and then there is no presence.
    change Done operation (nextPhase phase (.get user) (ite _ _ _, _)) at done
    split at done
    · rcases done with done | ⟨_, _, _, done⟩ <;> cases done
    · obtain done | ⟨own, device, rfl, done⟩ := done
      · cases done
      · obtain ⟨rfl, absent⟩ := PresencePhase.read.inj done
        have same : user = userId := by
          by_contra other
          cases about.symm.trans (if_neg fun both => other both.1)
        subst same
        have offline : online = false := by
          simp only [PresenceOperation.connects?] at about
          split at about
          · exact (Option.some.inj about).symm
          · cases about
        change deviceId ∈ deviceIds (stored? state user) ↔ _
        rw [offline, stored?, absent]
        simp [deviceIds]

variable {current : PresenceHistory} {index : Nat}
  {call : Call PresenceCommand PresenceCommand.Reply PresenceOperation PresencePhase Unit}
  {next : command.Reply → PresenceProgram Unit} {explicit : String → Bool}

/-- No call is about the device, which is as it was. -/
structure Untouched (userId deviceId : String) (start : Prop) (current : PresenceHistory) :
    Prop where
  unrelated : ∀ call ∈ current.pool.calls, call.input.connects? userId deviceId = none
  same : deviceId ∈ devicesAt current.pool.shared userId ↔ start

/-- The call at `index` is the only one about the device that has not ended, and when it has done
its work the device is connected or disconnected. -/
structure Settling (userId deviceId : String) (online : Bool) (index : Nat)
    (current : PresenceHistory) : Prop where
  ended : ∀ other call, current.pool.calls[other]? = some call →
    call.input.connects? userId deviceId ≠ none → other ≠ index → call.program.outcome? ≠ none
  own : ∃ call, current.pool.calls[index]? = some call ∧
    call.input.connects? userId deviceId = some online ∧
      (Done call.input call.phase →
        (deviceId ∈ devicesAt current.pool.shared userId ↔ online = true))

theorem Settling.start (settling : Settling userId deviceId online index current)
    (unrelated : operation.connects? userId deviceId = none) : Settling userId deviceId online index
      ⟨current.pool.start (host config) (fun _ => .idle) operation, explicit⟩ := by
  obtain ⟨call, present, about, done⟩ := settling.own
  obtain ⟨bound, _⟩ := List.getElem?_eq_some_iff.mp present
  refine ⟨fun other call found connects different => ?_,
    call, (List.getElem?_append_left bound).trans present, about, done⟩
  rcases Pool.getElem?_start found with earlier | rfl
  · exact settling.ended other call earlier connects different
  · exact absurd unrelated connects

theorem Settling.resume (settling : Settling userId deviceId online index current) {runner : Nat}
    (present : current.pool.calls[runner]? = some call)
    (program : call.program = .await command next)
    (awaits : Awaits config call.input call.phase command)
    (undisturbed : ∀ ttl presence data, command = .set userId ttl presence →
      call.phase = .read userId data →
        (deviceId ∈ devicesAt current.pool.shared userId ↔ deviceId ∈ deviceIds data)) :
    Settling userId deviceId online index
      ⟨current.pool.resume (discipline config) runner call command next
        (exec current.pool.shared command ()), explicit⟩ := by
  obtain ⟨own, here, about, done⟩ := settling.own
  refine ⟨fun other call' found connects different => ?_, ?_⟩
  · rw [Pool.getElem?_resume present] at found
    split at found
    · rename_i same
      subst same
      have awaiting := settling.ended runner call present (by cases found; exact connects) different
      rw [program] at awaiting
      exact absurd rfl awaiting
    · exact settling.ended other call' found connects different
  · by_cases same : runner = index
    · subst same
      cases here.symm.trans present
      refine ⟨_, (Pool.getElem?_resume present _).trans (if_pos rfl), about, fun finished => ?_⟩
      exact mem_devicesAt_done awaits about done undisturbed finished
    · refine ⟨own, (Pool.getElem?_resume present _).trans ((if_neg same).trans here), about, ?_⟩
      have unrelated : call.input.connects? userId deviceId = none := by
        by_contra connects
        have awaiting := settling.ended runner call present connects same
        rw [program] at awaiting
        exact awaiting rfl
      intro finished
      exact (mem_devicesAt_exec awaits unrelated undisturbed).trans (done finished)

/-- The user is offline only without devices, or when that has been set. -/
def OfflineExplained (userId : String) (current : PresenceHistory) : Prop :=
  statusAt current.pool.shared userId = .offline →
    devicesAt current.pool.shared userId = [] ∨ current.history userId = true

theorem offline_rewrites (rewrites : Rewrites operation userId data presence) {before : Bool}
    (explained : statusOf data = .offline → deviceIds data = [] ∨ before = true)
    (offline : presence.status = .offline) : deviceIds (some presence) = [] ∨
      explicitAfter operation (.read userId data) presence before = true := by
  cases rewrites with
  | setOnline _ _ _ _ _ online => cases offline.symm.trans online
  | setStatus => exact .inr rfl
  | check _ _ _ _ status => exact absurd offline status
  | setOffline _ device copy _ devices status =>
    obtain same | ⟨_, empty⟩ := status
    · rcases explained (same.symm.trans offline) with none | set
      · left
        rw [devices, none]
        rfl
      · exact .inr ((if_pos same).trans set)
    · exact .inl empty

theorem OfflineExplained.resume (explained : OfflineExplained userId current)
    (awaits : Awaits config call.input call.phase command)
    (undisturbed : ∀ ttl presence data, command = .set userId ttl presence →
      call.phase = .read userId data →
        (∀ deviceId, deviceId ∈ devicesAt current.pool.shared userId ↔ deviceId ∈ deviceIds data) ∧
          statusAt current.pool.shared userId = statusOf data) :
    OfflineExplained userId ⟨current.pool.resume (discipline config) index call command next
        (exec current.pool.shared command ()),
      explicitly.ran current.history index call command (exec current.pool.shared command ()).2
        (next (exec current.pool.shared command ()).2)⟩ := by
  intro offline
  obtain ⟨input, phase, program⟩ := call
  cases awaits with
  | get | ids | lastSeen | notify => exact explained offline
  | set user data presence rewrites =>
    change statusOf (stored? (exec current.pool.shared (.set user config.ttl presence) ()).1
      userId) = .offline at offline
    change deviceIds (stored? (exec current.pool.shared (.set user config.ttl presence) ()).1
      userId) = [] ∨ Function.update current.history user _ userId = true
    rw [stored?_set] at offline ⊢
    by_cases same : user = userId
    · subst same
      obtain ⟨devices, status⟩ := undisturbed _ _ _ rfl rfl
      rw [if_pos rfl] at offline ⊢
      rw [Function.update_self]
      refine offline_rewrites rewrites (fun was => ?_) offline
      rcases explained (status.trans was) with none | set
      · left
        refine List.eq_nil_iff_forall_not_mem.mpr fun deviceId member => ?_
        have listed := (devices deviceId).mpr member
        rw [none] at listed
        exact absurd listed List.not_mem_nil
      · exact .inr set
    · rw [if_neg same] at offline ⊢
      rw [Function.update_of_ne (Ne.symm same)]
      exact explained offline

end Steps

section Runs

variable {config : PresenceConfig} {userId deviceId : String} {start current : PresenceHistory}
  {events : List PresenceEvent}

/-- What a run meets: the presence does not expire, is not written over, and nothing starts that
`admitted` does not admit. -/
def Guarded (config : PresenceConfig) (userId : String) (admitted : PresenceOperation → Prop)
    (current : PresenceHistory) (event : PresenceEvent) : Prop :=
  (Lasting config userId current event ∧ Undisturbed userId current event) ∧
    ∀ operation, event = .start operation → admitted operation

theorem guarded_invariant {admitted : PresenceOperation → Prop} {Inv : PresenceHistory → Prop}
    (started : ∀ current operation, Inv current → admitted operation →
      Inv ⟨current.pool.start (host config) (fun _ => .idle) operation, current.history⟩)
    (changed : ∀ current elapsed, Inv current →
      stored? ((host config).change current.pool.shared elapsed) userId =
        stored? current.pool.shared userId →
          Inv { current with pool.shared := (host config).change current.pool.shared elapsed })
    (ran : ∀ (current : PresenceHistory) (index : Nat)
      (call : Call PresenceCommand PresenceCommand.Reply PresenceOperation PresencePhase Unit)
      (command : PresenceCommand) (next : command.Reply → PresenceProgram Unit), Inv current →
      current.pool.calls[index]? = some call → call.program = .await command next →
      Awaits config call.input call.phase command →
      (∀ ttl presence data, command = .set userId ttl presence → call.phase = .read userId data →
        (∀ deviceId, deviceId ∈ devicesAt current.pool.shared userId ↔ deviceId ∈ deviceIds data) ∧
          statusAt current.pool.shared userId = statusOf data) →
      Inv ⟨current.pool.resume (discipline config) index call command next
          (exec current.pool.shared command ()),
        explicitly.ran current.history index call command (exec current.pool.shared command ()).2
          (next (exec current.pool.shared command ()).2)⟩)
    (admits : (history config).Admits (Guarded config userId admitted) current events)
    (respectful : current.pool.Respectful (discipline config) ends) (holds : Inv current) :
    ((history config).run current events).pool.Respectful (discipline config) ends ∧
      Inv ((history config).run current events) := by
  refine Pool.Recorded.invariant (operation_respects config) ?_ ?_ ?_ admits respectful holds
  · exact fun current operation holds guarded =>
      started current operation holds (guarded.2 operation rfl)
  · exact fun current elapsed holds guarded => changed current elapsed holds guarded.1.1
  · rintro current index ⟨⟩ call command next holds guarded _ present program awaits
    refine ⟨trivial, fun _ => ran current index call command next holds present program awaits ?_⟩
    rintro ttl presence data rfl
    exact guarded.1.2 call ttl presence data (Pool.awaited?_of_await present program)

theorem guarded_of_mem {admitted : PresenceOperation → Prop}
    (lasting : (history config).Admits (Lasting config userId) start events)
    (undisturbed : (history config).Admits (Undisturbed userId) start events)
    (each : ∀ operation, .start operation ∈ events → admitted operation) :
    (history config).Admits (Guarded config userId admitted) start events :=
  (lasting.and undisturbed).and_of_forall fun _ member operation started =>
    each operation (started ▸ member)

theorem untouched_run (respectful : start.pool.Respectful (discipline config) ends)
    (idle : start.pool.calls = [])
    (lasting : (history config).Admits (Lasting config userId) start events)
    (undisturbed : (history config).Admits (Undisturbed userId) start events)
    (unrelated : ∀ operation, .start operation ∈ events →
      operation.connects? userId deviceId = none) :
    Untouched userId deviceId (deviceId ∈ devicesAt start.pool.shared userId)
      ((history config).run start events) := by
  refine (guarded_invariant ?_ ?_ ?_ (guarded_of_mem lasting undisturbed unrelated) respectful
    ⟨fun call member => ?_, Iff.rfl⟩).2
  · exact fun current operation untouched unrelated =>
      ⟨Pool.forall_start unrelated untouched.unrelated, untouched.same⟩
  · intro current elapsed untouched lasting
    refine ⟨untouched.unrelated, ?_⟩
    change deviceId ∈ deviceIds (stored? ((host config).change _ elapsed) userId) ↔ _
    rw [lasting]
    exact untouched.same
  · intro current index call command next untouched present program awaits undisturbed
    have unrelated := untouched.unrelated call (List.mem_of_getElem? present)
    refine ⟨fun other here => ?_, Iff.trans ?_ untouched.same⟩
    · rcases List.mem_or_eq_of_mem_set here with earlier | rfl
      · exact untouched.unrelated other earlier
      · exact unrelated
    · exact mem_devicesAt_exec awaits unrelated fun ttl presence data own read =>
        (undisturbed ttl presence data own read).1 deviceId
  · rw [idle] at member
    exact absurd member List.not_mem_nil

theorem settling_run {online : Bool} {index : Nat}
    (settling : Settling userId deviceId online index current)
    (respectful : current.pool.Respectful (discipline config) ends)
    (guarded : (history config).Admits (Guarded config userId fun operation =>
      operation.connects? userId deviceId = none) current events) :
    ((history config).run current events).pool.Respectful (discipline config) ends ∧
      Settling userId deviceId online index ((history config).run current events) := by
  refine guarded_invariant ?_ ?_ ?_ guarded respectful settling
  · exact fun current operation settling unrelated => settling.start unrelated
  · intro current elapsed settling lasting
    obtain ⟨call, present, about, done⟩ := settling.own
    refine ⟨settling.ended, call, present, about, fun finished => ?_⟩
    change deviceId ∈ deviceIds (stored? ((host config).change _ elapsed) userId) ↔ _
    rw [lasting]
    exact done finished
  · intro current index call command next settling present program awaits undisturbed
    exact settling.resume present program awaits fun ttl presence data own read =>
      (undisturbed ttl presence data own read).1 deviceId

theorem offline_run (respectful : start.pool.Respectful (discipline config) ends)
    (explained : OfflineExplained userId start)
    (lasting : (history config).Admits (Lasting config userId) start events)
    (undisturbed : (history config).Admits (Undisturbed userId) start events) :
    OfflineExplained userId ((history config).run start events) := by
  refine (guarded_invariant ?_ ?_ ?_ (guarded_of_mem lasting undisturbed fun _ _ => trivial)
    respectful explained).2
  · exact fun current operation explained _ => explained
  · intro current elapsed explained lasting
    change statusOf (stored? ((host config).change _ elapsed) userId) = .offline →
      deviceIds (stored? ((host config).change _ elapsed) userId) = [] ∨ _
    rw [lasting]
    exact explained
  · exact fun current index call command next explained present program awaits undisturbed =>
      explained.resume awaits undisturbed

theorem settling_start {operation : PresenceOperation} {online : Bool} {explicit : String → Bool}
    (about : operation.connects? userId deviceId = some online)
    (ended : ∀ call ∈ current.pool.calls,
      call.input.connects? userId deviceId ≠ none → call.program.outcome? ≠ none) :
    Settling userId deviceId online current.pool.calls.length
      ⟨current.pool.start (host config) (fun _ => .idle) operation, explicit⟩ := by
  refine ⟨fun other call found connects different => ?_, _, List.getElem?_concat_length, about, ?_⟩
  · change (current.pool.calls ++ [_])[other]? = some call at found
    rcases Nat.lt_or_gt_of_ne different with before | after
    · rw [List.getElem?_append_left before] at found
      exact ended call (List.mem_of_getElem? found) connects
    · rw [List.getElem?_eq_none (by rw [List.length_append]; exact after)] at found
      cases found
  · rintro (saved | ⟨_, _, _, read⟩)
    · cases saved
    · cases read

theorem last_call_settles (respectful : start.pool.Respectful (discipline config) ends)
    (lasting : (history config).Admits (Lasting config userId) start events)
    (undisturbed : (history config).Admits (Undisturbed userId) start events) {online : Bool}
    (last : LastCall config userId deviceId online start events) :
    deviceId ∈ devicesAt ((history config).run start events).pool.shared userId ↔
      online = true := by
  obtain ⟨earlier, operation, later, rfl, about, ended, unrelated, completed⟩ := last
  have before : ((history config).run start earlier).pool.Respectful (discipline config) ends := by
    rw [history, Pool.Recorded.pool_run]
    exact Pool.respectful_run (operation_respects config) (fun _ _ _ _ => trivial) respectful earlier
  have guarded := guarded_of_mem (Transducer.admits_append.mp lasting).2.2
    (Transducer.admits_append.mp undisturbed).2.2 unrelated
  obtain ⟨respectful, settled⟩ := settling_run (settling_start about ended)
    (before.start (operation_respects config operation)) guarded
  rw [Transducer.run_append, Transducer.run_cons] at completed ⊢
  obtain ⟨call, present, own, done⟩ := settled.own
  obtain ⟨call', present', outcome⟩ := Option.bind_eq_some_iff.mp completed
  cases present.symm.trans present'
  refine done (respectful.ends_of_outcome present outcome userId deviceId () ?_ rfl)
  rw [own]
  exact Option.some_ne_none online

end Runs

/-- Operations on presences run interleaved in any way. As long as an operation writes the
presence of the user only when devices and status are still those that it has read, the devices
of the user follow from the calls. -/
theorem devices_follow (config : PresenceConfig) (userId : String) (state : PresenceState)
    (explicit : String → Bool)
    (explained : OfflineExplained userId (newHistory state explicit)) (events : List PresenceEvent)
    (lasting : (history config).Admits (Lasting config userId) (newHistory state explicit) events)
    (undisturbed : (history config).Admits (Undisturbed userId) (newHistory state explicit)
      events) :
    DevicesFollow config userId (newHistory state explicit) events := by
  have fresh : (newHistory state explicit).pool.Respectful (discipline config) ends :=
    fun _ member => absurd member List.not_mem_nil
  exact ⟨fun deviceId online last => last_call_settles fresh lasting undisturbed last,
    fun deviceId unrelated => (untouched_run fresh rfl lasting undisturbed unrelated).same,
    offline_run fresh explained lasting undisturbed⟩

section Sample

def sampleConfig : PresenceConfig where
  idleTimeoutSeconds := 300
  lastSeenTracker := true
  notifier := true

def sampleState : PresenceState := ⟨0, .empty, []⟩

def phone : PresenceMetadata := ⟨"phone", "ios", none, 0⟩

def laptop : PresenceMetadata := ⟨"laptop", "mac", none, 0⟩

def commands (index count : Nat) : List PresenceEvent := List.replicate count (.run index ())

def oneAfterTheOther : List PresenceEvent :=
  .start (.setOnline "alice" phone) :: commands 0 4 ++
    .start (.setOnline "alice" laptop) :: commands 1 4 ++
      .start (.setOffline "alice" "phone") :: commands 2 3

theorem devices_follow_one_after_the_other :
    DevicesFollow sampleConfig "alice" (newHistory sampleState fun _ => false)
      oneAfterTheOther := by
  refine devices_follow sampleConfig "alice" sampleState (fun _ => false) (fun _ => .inl rfl)
    oneAfterTheOther ?_ ?_
  · exact ⟨trivial, trivial, trivial, trivial, trivial, trivial, trivial, trivial, trivial,
      trivial, trivial, trivial, trivial, trivial, trivial⟩
  · refine ⟨trivial, ?_, ?_, ?_, ?_, trivial, ?_, ?_, ?_, ?_, trivial, ?_, ?_, ?_, trivial⟩
    all_goals rintro _ _ _ data ⟨⟩ ⟨⟩
    all_goals exact ⟨fun _ => Iff.rfl, rfl⟩

def atTheSameTime : List PresenceEvent :=
  .start (.setOnline "alice" phone) :: commands 0 1 ++
    .start (.setOnline "alice" laptop) :: commands 1 4 ++ commands 0 3

theorem connected_device_is_lost :
    ¬ ∀ events, (history sampleConfig).Admits (Lasting sampleConfig "alice")
        (newHistory sampleState fun _ => false) events →
      DevicesFollow sampleConfig "alice" (newHistory sampleState fun _ => false) events := by
  intro follow
  have lasting : (history sampleConfig).Admits (Lasting sampleConfig "alice")
      (newHistory sampleState fun _ => false) atTheSameTime :=
    ⟨trivial, trivial, trivial, trivial, trivial, trivial, trivial, trivial, trivial, trivial,
      trivial⟩
  have last : LastCall sampleConfig "alice" "laptop" true (newHistory sampleState fun _ => false)
      atTheSameTime := by
    refine ⟨.start (.setOnline "alice" phone) :: commands 0 1, .setOnline "alice" laptop,
      commands 1 4 ++ commands 0 3, rfl, rfl, ?_, ?_, rfl⟩
    · intro call member connects
      obtain rfl := List.mem_singleton.mp member
      exact absurd (by decide) connects
    · intro operation member
      simp [commands] at member
  have present := ((follow atTheSameTime lasting).last "laptop" true last).mpr rfl
  exact absurd present (by decide +kernel)

end Sample

end Caas.Presence
