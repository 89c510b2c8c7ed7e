import Mathlib.Data.List.DropRight
import Caas.Auth.ProjectPortfolio

/-!
# The invariant of the projects of a client

A registered client has an empty portfolio. The first call on it gives it a settled one, and
every call leaves a settled one behind, in the collection and in what is cached of the client;
between the two commands that write it, only the collection has it.
-/

namespace Caas.Auth.ProjectInvariant

open Async Program Redis ClientRepository ProjectPortfolio ExpiringMap

def Stores (clientId : String) (held : Portfolio) (store : ClientStore) : Prop :=
  ∃ client, store.clients.find? (ClientQuery.byId clientId).isMatch = some client ∧
    portfolio client = held

/-- The stored client has the portfolio, and so has what is cached of it. -/
structure Consistent (clientId : String) (held : Portfolio) (store : ClientStore) : Prop where
  stored : Stores clientId held store
  cached : ∀ time client, store.clientCache.lookup time clientId = some client →
    portfolio client = held
  keyed : ∀ time key client, store.clientCache.lookup time key = some client →
    client.clientId = key

/-- The stores of a run, with the portfolio of the client as it is now and as it was. -/
structure Tracked (holds : Portfolio → Prop) (clientId : String) (held : Portfolio)
    (current : ClientStore × List ClientStore) : Prop where
  consistent : Consistent clientId held current.1
  past : ∀ store ∈ current.2, ∃ held, Stores clientId held store ∧ holds held

/-- The commands that leave the portfolio as it is, and cache no other one. -/
def Quiet (clientId : String) (held : Portfolio) : ClientCommand → Prop
  | .updateOne other _ => other ≠ clientId
  | .client (.setex key _ client) =>
    client.clientId = key ∧ (key = clientId → portfolio client = held)
  | _ => True

/-- The replies that tell of a client by its id. -/
def Shows : (command : ClientCommand) → command.Reply → Prop
  | .findOne (.byId clientId), (found : Option Client)
  | .client (.get clientId), (found : Option Client) =>
    ∀ client, found = some client → client.clientId = clientId
  | _, _ => True

section Store

variable {holds : Portfolio → Prop} {clientId : String} {held : Portfolio} {store : ClientStore}

theorem Consistent.exec (consistent : Consistent clientId held store) (oracle : ClientOracle)
    {command : ClientCommand} (quiet : Quiet clientId held command) :
    Consistent clientId held (store.exec oracle command).1 ∧
      Shows command (store.exec oracle command).2 := by
  cases command with
  | now | uuid | generateApiKey => exact ⟨consistent, trivial⟩
  | apiKey | validation => exact ⟨{ consistent with }, trivial⟩
  | findOne query =>
    refine ⟨consistent, ?_⟩
    cases query with
    | byApiKeyHash => trivial
    | byId other => exact fun client found => ClientQuery.clientId_of_find found
  | updateOne other update =>
    refine ⟨?_, trivial⟩
    rw [ClientStore.exec]
    cases outcome : updateOneClient other update store.clients with
    | error error => exact consistent
    | ok clients =>
      obtain ⟨client, found, same⟩ := consistent.stored
      refine { consistent with stored := ⟨client, ?_, same⟩ }
      exact (find_updateOneClient_of_ne quiet outcome).trans found
  | client command =>
    constructor
    · constructor
      · exact consistent.stored
      · intro time client found
        rcases StringCommand.lookup_exec found with before | ⟨seconds, rfl⟩
        · exact consistent.cached time client before
        · exact quiet.2 rfl
      · intro time key client found
        rcases StringCommand.lookup_exec found with before | ⟨seconds, rfl⟩
        · exact consistent.keyed time key client before
        · exact quiet.1
    · cases command with
      | setex | ttl | del => trivial
      | get key => exact consistent.keyed store.now key

theorem Consistent.later (consistent : Consistent clientId held store) (milliseconds : Nat) :
    Consistent clientId held { store with now := store.now + milliseconds } :=
  { consistent with }

theorem Tracked.remember {current : ClientStore × List ClientStore}
    (tracked : Tracked holds clientId held current) {held' : Portfolio} {after : ClientStore}
    (consistent : Consistent clientId held' after) (good : holds held') :
    Tracked holds clientId held' (after, current.2 ++ [after]) := by
  refine ⟨consistent, fun store member => ?_⟩
  rcases List.mem_append.mp member with old | new
  · exact tracked.past store old
  · rw [List.mem_singleton.mp new]
    exact ⟨held', consistent.stored, good⟩

theorem Tracked.exec {current : ClientStore × List ClientStore}
    (tracked : Tracked holds clientId held current) (good : holds held)
    {command : ClientCommand} (quiet : Quiet clientId held command)
    (circumstance : Nat × ClientOracle) : Tracked holds clientId held
        (remembering ClientStore.execLater current command circumstance).1 ∧
      Shows command (remembering ClientStore.execLater current command circumstance).2 := by
  obtain ⟨consistent, shown⟩ :=
    (tracked.consistent.later circumstance.1).exec circumstance.2 quiet
  exact ⟨tracked.remember consistent good, shown⟩

end Store

section Others

variable {settings : ClientSettings} {clientId : String} {held : Portfolio} {other : String}

/-- The discipline of a program on another client. -/
abbrev plain (clientId : String) (held : Portfolio) :
    Discipline ClientCommand ClientCommand.Reply Unit :=
  Discipline.plain (Quiet clientId held) Shows

theorem chooseProject_issues (client : Client) :
    (chooseProject settings client).Issues (Quiet clientId held) Shows := by
  unfold chooseProject
  dsimp only
  split
  · exact issues_pure
  · exact issues_pure
  · split
    · exact issues_command_bind trivial fun _ _ => issues_pure
    · exact issues_pure

theorem ensureProjectContext_respects {client : Client} (different : client.clientId ≠ clientId) :
    (ensureProjectContext settings client).Respects (plain clientId held)
      (fun _ => MayReturn fun repaired => repaired.clientId = client.clientId) () := by
  refine Respects.seq (chooseProject_issues client) (fun choice _ => ?_) fun _ _ => trivial
  refine respects_command_bind trivial fun (now : Nat) _ _ _ => ?_
  split
  · refine respects_command_bind different fun (written : Except String Unit) _ _ _ => ?_
    refine respects_orThrow_bind (fun _ _ => ?_) fun _ _ => trivial
    exact respects_command_bind trivial fun _ _ _ _ => rfl
  · exact rfl

theorem ensureCached_issues {cached : Option Client}
    (different : ∀ client, cached = some client → client.clientId ≠ clientId) :
    (ensureCached settings cached).Issues (Quiet clientId held) Shows := by
  cases cached with
  | none => exact issues_pure
  | some client =>
    have repairs := (@ensureProjectContext_respects settings clientId held client
      (different client rfl)).mono fun _ _ _ => trivial
    exact issues_catching (issues_bind repairs fun _ => issues_pure)
      fun _ => issues_pure

theorem findById_issues (different : other ≠ clientId) :
    (findById settings other).Issues (Quiet clientId held) Shows := by
  refine issues_command_bind trivial fun (cached : Option Client) shown => ?_
  have ids : ∀ client, cached = some client → client.clientId ≠ clientId := by
    intro client found
    rw [shown client found]
    exact different
  refine issues_bind (ensureCached_issues ids) fun parsed => ?_
  cases parsed with
  | some client => exact issues_pure
  | none =>
    refine issues_command_bind trivial fun (found : Option Client) shown => ?_
    cases found with
    | none => exact issues_pure
    | some client =>
      have same : client.clientId = other := shown client rfl
      rw [← same] at different
      refine Respects.seq (ensureProjectContext_respects different)
        (fun repaired kept => ?_)
        fun _ _ => trivial
      have quiet : repaired.clientId = other ∧ (other = clientId → portfolio repaired = held) :=
        ⟨kept.trans same, fun wrong => absurd (same.trans wrong) different⟩
      refine issues_command_bind quiet fun (written : Except String Unit) _ => ?_
      exact issues_bind issues_orThrow fun _ => issues_pure

theorem writeProjects_issues (different : other ≠ clientId) (update : ClientUpdate) :
    (writeProjects other update).Issues (Quiet clientId held) Shows := by
  refine issues_command_bind different fun (written : Except String Unit) _ => ?_
  refine issues_bind issues_orThrow fun _ => ?_
  exact issues_command_bind trivial fun _ _ => issues_pure

theorem existingClient_issues (different : other ≠ clientId) :
    (existingClient settings other).Issues (Quiet clientId held) Shows := by
  refine issues_bind (findById_issues different) fun found => ?_
  cases found with
  | none => exact issues_failure
  | some client => exact issues_pure

theorem projectCall_issues {call : ProjectCall} (different : call.clientId ≠ clientId) :
    (projectCall settings call).Issues (Quiet clientId held) Shows := by
  cases call with
  | findById other =>
    exact issues_bind (findById_issues different) fun _ => issues_pure
  | createProject other name stack environment =>
    refine issues_bind (existingClient_issues different) fun client => ?_
    refine issues_command_bind trivial fun (projectId : String) _ => ?_
    refine issues_command_bind trivial fun (createdAt : Nat) _ => ?_
    refine issues_command_bind trivial fun (now : Nat) _ => ?_
    exact issues_bind (writeProjects_issues different _) fun _ => issues_pure
  | updateProject other projectId updates =>
    refine issues_bind (existingClient_issues different) fun client => ?_
    split
    · exact issues_failure
    · split
      · exact issues_failure
      · refine issues_command_bind trivial fun (now : Nat) _ => ?_
        exact issues_bind (writeProjects_issues different _) fun _ => issues_pure
  | archiveProject other projectId =>
    refine issues_bind (existingClient_issues different) fun client => ?_
    split
    · exact issues_failure
    · dsimp only
      split
      · exact issues_failure
      · split
        · exact issues_failure
        · refine issues_command_bind trivial fun (now : Nat) _ => ?_
          exact issues_bind (writeProjects_issues different _) fun _ => issues_pure
  | selectActiveProject other projectId =>
    refine issues_bind (existingClient_issues different) fun client => ?_
    split
    · exact issues_failure
    · refine issues_command_bind trivial fun (now : Nat) _ => ?_
      exact issues_bind (writeProjects_issues different _) fun _ => issues_pure

end Others

section Own

variable {settings : ClientSettings} {holds : Portfolio → Prop} {clientId : String}
  {circumstances : ClientCircumstances} {held : Portfolio} {number : Nat}
  {current : ClientStore × List ClientStore} {α : Type}

abbrev remembered := remembering ClientStore.execLater

/-- The draws from some command on are the ids of no projects. -/
def Fresh (circumstances : ClientCircumstances) (number : Nat) (held : Portfolio) : Prop :=
  ∀ later, number ≤ later → ∀ project ∈ held.projects,
    project.projectId ≠ (circumstances later).2.uuid

/-- What is known of the client while a call on it runs: its portfolio, which is empty or
settled, and that the draws to come are fresh. -/
structure Knows (settings : ClientSettings) (holds : Portfolio → Prop) (clientId : String)
    (circumstances : ClientCircumstances) (held : Portfolio) (number : Nat)
    (current : ClientStore × List ClientStore) : Prop where
  tracked : Tracked holds clientId held current
  good : holds held
  fresh : Fresh circumstances number held
  form : held = .empty ∨ held.Settled settings

theorem Fresh.later (fresh : Fresh circumstances number held) (more : Nat) :
    Fresh circumstances (number + more) held :=
  fun later bound => fresh later (by omega)

section

variable (knows : Knows settings holds clientId circumstances held number current)
include knows

theorem Knows.bind {issued : ClientCommand} {next : issued.Reply → ClientProgram α}
    {post : Nat → ClientStore × List ClientStore → Outcome α → Prop}
    (quiet : Quiet clientId held issued)
    (rest : Knows settings holds clientId circumstances held (number + 1)
        (remembered current issued (circumstances number)).1 →
      (next (remembered current issued (circumstances number)).2).Ensures remembered circumstances
        post (number + 1) (remembered current issued (circumstances number)).1) :
    (ClientCommand.await issued >>= next).Ensures remembered circumstances post number current :=
  ensures_command_bind rfl
    (rest ⟨(knows.tracked.exec knows.good quiet _).1, knows.good, knows.fresh.later 1, knows.form⟩)

theorem Knows.bind_any {issued : ClientCommand} {next : issued.Reply → ClientProgram α}
    {post : Nat → ClientStore × List ClientStore → Outcome α → Prop}
    (quiet : Quiet clientId held issued)
    (rest : ∀ reply after, Knows settings holds clientId circumstances held (number + 1) after →
      (next reply).Ensures remembered circumstances post (number + 1) after) :
    (ClientCommand.await issued >>= next).Ensures remembered circumstances post number current :=
  knows.bind quiet fun after => rest _ _ after

/-- Sequencing after an update of the client with the eviction of what is cached of it. -/
theorem Knows.write {update : ClientUpdate} (held' : Portfolio)
    (writes : ∀ client, portfolio client = held →
      ∃ changed, update.apply client = .ok changed ∧ portfolio changed = held')
    (settled : held'.Settled settings) (good : holds held')
    (fresh : Fresh circumstances number held') {next : ClientProgram α}
    {post : Nat → ClientStore × List ClientStore → Outcome α → Prop}
    (rest : ∀ after, Knows settings holds clientId circumstances held' (number + 1 + 1) after →
      next.Ensures remembered circumstances post (number + 1 + 1) after) :
    (do
      orThrow (← ClientCommand.await (.updateOne clientId update))
      let _ ← ClientCommand.await (.client (.del clientId))
      next).Ensures remembered circumstances post number current := by
  obtain ⟨client, found, same⟩ := knows.tracked.consistent.stored
  obtain ⟨changed, applied, same'⟩ := writes client same
  obtain ⟨clients, succeeds, after⟩ := find_updateOneClient_self found applied
  have stored : Stores clientId held' { current.1 with
      now := current.1.now + (circumstances number).1
      clients } := ⟨changed, after, same'⟩
  have executed : remembered current (.updateOne clientId update) (circumstances number) =
      (({ current.1 with now := current.1.now + (circumstances number).1, clients },
        current.2 ++ [{ current.1 with now := current.1.now + (circumstances number).1, clients }]),
        .ok ()) := by
    simp [remembered, remembering, ClientStore.execLater, ClientStore.exec, succeeds]
  refine ensures_command_bind executed (ensures_command_bind rfl (rest _ ?_))
  refine ⟨⟨⟨stored, ?_, ?_⟩, ?_⟩, good, fresh.later 2, .inr settled⟩
  · intro time client found
    rw [lookup_delete, if_pos rfl] at found
    cases found
  · intro time key client found
    rw [lookup_delete] at found
    split at found
    · cases found
    · exact knows.tracked.consistent.keyed time key client found
  · intro store member
    rcases List.mem_append.mp member with before | new
    · rcases List.mem_append.mp before with old | written
      · exact knows.tracked.past store old
      · rw [List.mem_singleton.mp written]
        exact ⟨held', stored, good⟩
    · rw [List.mem_singleton.mp new]
      exact ⟨held', stored, good⟩

end

theorem chooseProject_of_settled (settled : held.Settled settings) {client : Client}
    (same : portfolio client = held) : ∃ active, held = .activated held.projects active ∧
      chooseProject settings client = pure ⟨held.projects, active, .projects, false⟩ := by
  subst same
  obtain ⟨active, member, isOpen, equal⟩ := settled.active
  refine ⟨active, equal, ?_⟩
  have normal : client.projects.map (normalizeProject settings) = client.projects :=
    (List.map_congr_left settled.normal).trans (List.map_id _)
  have activeId : client.activeProjectId = some active.projectId :=
    congrArg Portfolio.activeProjectId equal
  have found : (client.projects.find? fun project =>
      client.activeProjectId = some project.projectId && project.status ≠ .archived) =
        some active := by
    refine find_of_id settled.ids member ?_ fun other _ accepted => ?_
    · have open_ : active.status ≠ .archived := of_decide_eq_false isOpen
      simp [activeId, open_]
    · obtain ⟨chosen, _⟩ := Bool.and_eq_true_iff.mp accepted
      exact (Option.some.inj (activeId.symm.trans (of_decide_eq_true chosen))).symm
  unfold chooseProject
  simp only [normal, found]
  rfl

theorem chooseProject_of_empty {client : Client} (same : portfolio client = .empty) :
    chooseProject settings client =
      ClientCommand.await .uuid >>= fun projectId : String =>
        pure (fallbackChoice settings client projectId) := by
  have projects : client.projects = [] := congrArg Portfolio.projects same
  have nobody : client.activeProjectId = none := congrArg Portfolio.activeProjectId same
  unfold chooseProject
  simp only [projects, nobody, List.map_nil, List.find?_nil]
  rfl

variable (lowers : LowersCase settings.toLowerCase)
  (settledHolds : ∀ held : Portfolio, held.Settled settings → holds held)
  (different : ∀ one other, one ≠ other → (circumstances one).2.uuid ≠ (circumstances other).2.uuid)

include lowers different in
theorem chooseProject_ensures
    (knows : Knows settings holds clientId circumstances held number current) {client : Client}
    (same : portfolio client = held) :
    (chooseProject settings client).Ensures remembered circumstances
      (fun number current outcome => ∃ choice, outcome = .ok choice ∧
        Knows settings holds clientId circumstances held number current ∧
        (chosen choice).Settled settings ∧ Fresh circumstances number (chosen choice) ∧
        (chosen choice = held ∨ choice.compatibilityMode = true)) number current := by
  rcases knows.form with rfl | settled
  · rw [chooseProject_of_empty same]
    refine knows.bind trivial fun knows => ?_
    refine ⟨_, rfl, knows, settled_fallback lowers client _, ?_, .inr rfl⟩
    intro later bound project member
    rw [List.mem_singleton.mp member]
    exact different number later (by omega)
  · obtain ⟨active, equal, chooses⟩ := chooseProject_of_settled settled same
    rw [chooses]
    have keeps : chosen ⟨held.projects, active, .projects, false⟩ = held := equal.symm
    refine ⟨_, rfl, knows, ?_, ?_, .inl keeps⟩
    · rw [keeps]
      exact settled
    · rw [keeps]
      exact knows.fresh

/-- The client that a call reads has the settled portfolio that is stored. -/
def Reads (settings : ClientSettings) (holds : Portfolio → Prop) (clientId : String)
    (circumstances : ClientCircumstances) (number : Nat)
    (current : ClientStore × List ClientStore) (outcome : Outcome Client) : Prop :=
  ∃ held, Knows settings holds clientId circumstances held number current ∧
    held.Settled settings ∧
      ∃ client, outcome = .ok client ∧ client.clientId = clientId ∧ portfolio client = held

section

variable (knows : Knows settings holds clientId circumstances held number current)
include knows

include lowers settledHolds different in
theorem ensureProjectContext_ensures {client : Client} (id : client.clientId = clientId)
    (same : portfolio client = held) :
    (ensureProjectContext settings client).Ensures remembered circumstances
      (Reads settings holds clientId circumstances) number current := by
  subst id
  refine ensures_bind ((chooseProject_ensures lowers different knows same).mono ?_)
  rintro number current _ ⟨choice, rfl, knows, settled, fresh, kept⟩
  refine knows.bind trivial fun knows => ?_
  split
  · refine knows.write (chosen choice) (fun client _ => ⟨_, rfl, rfl⟩) settled
      (settledHolds _ settled) (fresh.later 1) fun after knows => ?_
    exact ⟨_, knows, settled, _, rfl, rfl, rfl⟩
  · rename_i unneeded
    rcases kept with kept | compatibility
    · rw [← kept] at knows
      exact ⟨_, knows, settled, _, rfl, rfl, rfl⟩
    · exact absurd (by simp [needsUpdate, compatibility]) unneeded

include lowers settledHolds different in
theorem findById_ensures : (findById settings clientId).Ensures remembered circumstances
      (fun number current outcome => ∃ found, outcome = .ok (some found) ∧
        Reads settings holds clientId circumstances number current (.ok found)) number current := by
  refine knows.bind trivial fun after => ?_
  have cached := knows.tracked.consistent.cached
    (current.1.now + (circumstances number).1)
  have keyed := knows.tracked.consistent.keyed
    (current.1.now + (circumstances number).1) clientId
  change (ensureCached settings (current.1.clientCache.lookup _ clientId) >>= _).Ensures _ _ _ _ _
  refine ensures_bind ?_
  cases read : current.1.clientCache.lookup (current.1.now + (circumstances number).1) clientId with
  | some client =>
    refine ensures_catching (ensures_bind ?_)
    refine (ensureProjectContext_ensures lowers settledHolds different after (keyed client read)
      (cached client read)).mono ?_
    rintro number current _ ⟨held, knows, settled, found, rfl, id, same⟩
    exact ⟨found, rfl, held, knows, settled, found, rfl, id, same⟩
  | none =>
    refine after.bind trivial fun later => ?_
    obtain ⟨client, found, same⟩ := after.tracked.consistent.stored
    have executed : (remembered (remembered current (.client (.get clientId))
        (circumstances number)).1 (.findOne (.byId clientId)) (circumstances (number + 1))).2 =
          some client := found
    rw [executed]
    refine ensures_bind ((ensureProjectContext_ensures lowers settledHolds different later
      (ClientQuery.clientId_of_find found) same).mono ?_)
    rintro number current _ ⟨held, knows, settled, repaired, rfl, id, same⟩
    refine knows.bind ⟨id, fun _ => same⟩ fun knows => ?_
    have written : (remembered current (.client (.setex clientId cacheTtl repaired))
        (circumstances number)).2 = .ok () :=
      @StringCommand.setex_succeeds _ _ _ current.1.clientCache
        (current.1.now + (circumstances number).1) clientId cacheTtl repaired (by decide)
    rw [written]
    exact ⟨repaired, rfl, held, knows, settled, repaired, rfl, id, same⟩

include lowers settledHolds different in
theorem existingClient_ensures : (existingClient settings clientId).Ensures remembered circumstances
      (Reads settings holds clientId circumstances) number current := by
  refine ensures_bind ((findById_ensures lowers settledHolds different knows).mono ?_)
  rintro number current _ ⟨found, rfl, reads⟩
  exact reads

end

/-- A call leaves a settled portfolio behind. -/
def Leaves (settings : ClientSettings) (holds : Portfolio → Prop) (clientId : String)
    (current : ClientStore × List ClientStore) : Prop :=
  ∃ held, Tracked holds clientId held current ∧ held.Settled settings

theorem Knows.leaves (knows : Knows settings holds clientId circumstances held number current)
    (settled : held.Settled settings) : Leaves settings holds clientId current :=
  ⟨held, knows.tracked, settled⟩

include settledHolds in
/-- The last commands of an operation write a settled portfolio. -/
theorem writeProjects_ensures
    (knows : Knows settings holds clientId circumstances held number current)
    {update : ClientUpdate} (held' : Portfolio) (writes : ∀ client, portfolio client = held →
      ∃ changed, update.apply client = .ok changed ∧ portfolio changed = held')
    (settled : held'.Settled settings) (fresh : Fresh circumstances number held') (result : α) :
    (do
      writeProjects clientId update
      return result : ClientProgram α).Ensures remembered circumstances
        (fun _ current _ => Leaves settings holds clientId current) number current := by
  refine ensures_bind ?_
  exact knows.write held' writes settled (settledHolds held' settled) fresh
    fun after knows => knows.leaves settled

theorem Fresh.of_ids (fresh : Fresh circumstances number held) {held' : Portfolio}
    (same : held'.projects.map (·.projectId) = held.projects.map (·.projectId)) :
    Fresh circumstances number held' := by
  intro later bound project member
  have among : project.projectId ∈ held.projects.map (·.projectId) := by
    rw [← same]
    exact List.mem_map_of_mem member
  obtain ⟨other, old, id⟩ := List.mem_map.mp among
  rw [← id]
  exact fresh later bound other old

theorem Fresh.create (fresh : Fresh circumstances number held)
    (different : ∀ one other, one ≠ other →
      (circumstances one).2.uuid ≠ (circumstances other).2.uuid)
    {project : ClientProject} (drawn : project.projectId = (circumstances number).2.uuid) :
    Fresh circumstances (number + 1) (.activated (held.projects ++ [project]) project) := by
  intro later bound other member
  rcases List.mem_append.mp member with old | new
  · exact fresh later (by omega) other old
  · rw [List.mem_singleton.mp new, drawn]
    exact different number later (by omega)

include lowers settledHolds different in
theorem createProject_ensures
    (knows : Knows settings holds clientId circumstances held number current)
    (name stack : String) (environment : Environment) :
    (createProject settings clientId name stack environment).Ensures remembered circumstances
      (fun _ current _ => Leaves settings holds clientId current) number current := by
  refine ensures_bind ((existingClient_ensures lowers settledHolds different knows).mono ?_)
  rintro number current _ ⟨held, knows, settled, client, rfl, id, same⟩
  have fresh := knows.fresh number (Nat.le_refl number)
  have later := knows.fresh
  refine knows.bind trivial fun knows => ?_
  refine knows.bind_any trivial fun (createdAt : Nat) after knows => ?_
  refine knows.bind_any trivial fun (now : Nat) after knows => ?_
  have created := settled_create lowers settled same fresh name stack environment createdAt
  refine writeProjects_ensures settledHolds knows _ ?_ created
    ((later.create different rfl).later 2) _
  rintro other rfl
  exact ⟨_, rfl, rfl⟩

theorem updateProject_apply (client : Client) (projects : List ClientProject)
    (activeProject : Option ClientProject) (now : Nat) :
    ∃ changed, (ClientUpdate.updateProject projects activeProject now).apply client = .ok changed ∧
      portfolio changed = (portfolio client).updated projects activeProject := by
  cases activeProject <;> exact ⟨_, rfl, rfl⟩

section

variable (knows : Knows settings holds clientId circumstances held number current)
include knows

include lowers settledHolds different in
theorem updateProject_ensures (projectId : String) (updates : ProjectUpdates) :
    (updateProject settings clientId projectId updates).Ensures remembered circumstances
      (fun _ current _ => Leaves settings holds clientId current) number current := by
  refine ensures_bind ((existingClient_ensures lowers settledHolds different knows).mono ?_)
  rintro number current _ ⟨held, knows, settled, client, rfl, id, rfl⟩
  dsimp only
  split
  · exact knows.leaves settled
  · rename_i index existing found
    split
    · exact knows.leaves settled
    · rename_i unarchived
      have updated := settled_update lowers settled found (Bool.eq_false_iff.mpr unarchived) updates
      refine knows.bind_any trivial fun (now : Nat) after knows => ?_
      refine writeProjects_ensures settledHolds knows _ ?_ updated (knows.fresh.of_ids ?_) _
      · intro other same
        obtain ⟨changed, applied, after⟩ := updateProject_apply other _ _ now
        refine ⟨changed, applied, after.trans ?_⟩
        rw [same]
        rfl
      · rw [projects_updated]
        exact map_set_of_same _ _ (findProject_some found).1 rfl

include lowers settledHolds different in
theorem archiveProject_ensures (projectId : String) :
    (archiveProject settings clientId projectId).Ensures remembered circumstances
      (fun _ current _ => Leaves settings holds clientId current) number current := by
  refine ensures_bind ((existingClient_ensures lowers settledHolds different knows).mono ?_)
  rintro number current _ ⟨held, knows, settled, client, rfl, id, rfl⟩
  dsimp only
  split
  · exact knows.leaves settled
  · rename_i index target found
    split
    · exact knows.leaves settled
    · split
      · exact knows.leaves settled
      · rename_i active chosen
        have archived := settled_archive settled found chosen
        refine knows.bind_any trivial fun (now : Nat) after knows => ?_
        refine writeProjects_ensures settledHolds knows _ ?_ archived (knows.fresh.of_ids ?_) _
        · exact fun other _ => ⟨_, rfl, rfl⟩
        · exact map_set_of_same _ _ (findProject_some found).1 rfl

include lowers settledHolds different in
theorem selectActiveProject_ensures (projectId : String) :
    (selectActiveProject settings clientId projectId).Ensures remembered circumstances
      (fun _ current _ => Leaves settings holds clientId current) number current := by
  refine ensures_bind ((existingClient_ensures lowers settledHolds different knows).mono ?_)
  rintro number current _ ⟨held, knows, settled, client, rfl, id, rfl⟩
  dsimp only
  split
  · exact knows.leaves settled
  · rename_i project found
    have accepted := List.find?_some found
    have isOpen : isArchived project = false := by
      simpa using (Bool.and_eq_true_iff.mp accepted).2
    have selected := settled_select settled found isOpen
    refine knows.bind_any trivial fun (now : Nat) after knows => ?_
    refine writeProjects_ensures settledHolds knows _ ?_ selected (knows.fresh.of_ids rfl) _
    intro other same
    have projects : other.projects = client.projects := congrArg Portfolio.projects same
    refine ⟨_, rfl, ?_⟩
    simp only [portfolio, Client.activate, projects]
    rfl

include lowers settledHolds different in
/-- Every call on the client leaves a settled portfolio behind. -/
theorem projectCall_ensures {call : ProjectCall} (own : call.clientId = clientId) :
    (projectCall settings call).Ensures remembered circumstances
      (fun _ current _ => Leaves settings holds clientId current) number current := by
  subst own
  cases call with
  | createProject _ name stack environment =>
    exact createProject_ensures lowers settledHolds different knows name stack environment
  | updateProject _ projectId updates =>
    exact updateProject_ensures lowers settledHolds different knows projectId updates
  | archiveProject _ projectId =>
    exact archiveProject_ensures lowers settledHolds different knows projectId
  | selectActiveProject _ projectId =>
    exact selectActiveProject_ensures lowers settledHolds different knows projectId
  | findById _ =>
    refine ensures_bind ((findById_ensures lowers settledHolds different knows).mono ?_)
    rintro number current _ ⟨found, rfl, held, knows, settled, _⟩
    exact knows.leaves settled

end

end Own

section Runs

variable {settings : ClientSettings} {holds : Portfolio → Prop} {clientId : String}
  {current : ClientStore × List ClientStore} {input : ProjectCall × ClientCircumstances}

/-- The draws of a call differ from each other and from the ids of the projects. -/
def FreshIds (clientId : String) (current : ClientStore × List ClientStore)
    (input : ProjectCall × ClientCircumstances) : Prop :=
  (∀ one other, one ≠ other → (input.2 one).2.uuid ≠ (input.2 other).2.uuid) ∧
    ∀ client, current.1.clients.find? (ClientQuery.byId clientId).isMatch = some client →
      ∀ project ∈ client.projects, ∀ number, project.projectId ≠ (input.2 number).2.uuid

/-- What is known of the client between two calls. -/
def Between (settings : ClientSettings) (holds : Portfolio → Prop) (clientId : String)
    (current : ClientStore × List ClientStore) : Prop :=
  ∃ held, Tracked holds clientId held current ∧ holds held ∧
    (held = .empty ∨ held.Settled settings)

theorem step_own (lowers : LowersCase settings.toLowerCase)
    (settledHolds : ∀ held : Portfolio, held.Settled settings → holds held)
    (between : Between settings holds clientId current) (fresh : FreshIds clientId current input)
    (own : input.1.clientId = clientId) :
    Leaves settings holds clientId ((projectRuns settings).step current input).1 := by
  obtain ⟨held, tracked, good, form⟩ := between
  obtain ⟨different, apart⟩ := fresh
  have knows : Knows settings holds clientId input.2 held 0 current := by
    refine ⟨tracked, good, fun number _ project member => ?_, form⟩
    obtain ⟨client, found, rfl⟩ := tracked.consistent.stored
    exact apart client found project member number
  exact ensures_iff_run.mp (projectCall_ensures lowers settledHolds different knows own)

theorem step_other {held : Portfolio} (tracked : Tracked holds clientId held current)
    (good : holds held) (other : input.1.clientId ≠ clientId) :
    Tracked holds clientId held ((projectRuns settings).step current input).1 := by
  have kept : (projectCall settings input.1).Ensures remembered input.2
      (fun _ after _ => Tracked holds clientId held after ∧ True) 0 current :=
    Respects.ensures (projectCall_issues other)
      (fun number _ _ tracked quiet => tracked.exec good quiet (input.2 number)) tracked
  exact (ensures_iff_run.mp kept).1

theorem Leaves.between (settledHolds : ∀ held : Portfolio, held.Settled settings → holds held)
    (leaves : Leaves settings holds clientId current) :
    Between settings holds clientId current := by
  obtain ⟨held, tracked, settled⟩ := leaves
  exact ⟨held, tracked, settledHolds held settled, .inr settled⟩

theorem step_settled (lowers : LowersCase settings.toLowerCase)
    (settledHolds : ∀ held : Portfolio, held.Settled settings → holds held)
    (leaves : Leaves settings holds clientId current) (fresh : FreshIds clientId current input) :
    Leaves settings holds clientId ((projectRuns settings).step current input).1 := by
  by_cases own : input.1.clientId = clientId
  · exact step_own lowers settledHolds (leaves.between settledHolds) fresh own
  · obtain ⟨held, tracked, settled⟩ := leaves
    exact ⟨held, step_other tracked (settledHolds held settled) own, settled⟩

theorem run_reads (lowers : LowersCase settings.toLowerCase)
    (settledHolds : ∀ held : Portfolio, held.Settled settings → holds held)
    {inputs : List (ProjectCall × ClientCircumstances)}
    (between : Between settings holds clientId current)
    (fresh : (projectRuns settings).Admits (FreshIds clientId) current inputs)
    (read : ∃ input ∈ inputs, input.1.clientId = clientId) :
    Leaves settings holds clientId ((projectRuns settings).run current inputs) := by
  induction inputs generalizing current with
  | nil =>
    obtain ⟨_, member, _⟩ := read
    cases member
  | cons first rest ih =>
    by_cases own : first.1.clientId = clientId
    · exact fresh.2.invariant
        (fun _ _ leaves fresh => step_settled lowers settledHolds leaves fresh)
        (step_own lowers settledHolds between fresh.1 own)
    · obtain ⟨held, tracked, good, form⟩ := between
      refine ih ⟨held, step_other tracked good own, good, form⟩ fresh.2 ?_
      obtain ⟨input, member, same⟩ := read
      rcases List.mem_cons.mp member with rfl | later
      · exact absurd same own
      · exact ⟨input, later, same⟩

/-- A client that is registered without projects has an empty portfolio. -/
theorem between_created {data : ClientData} {store : ClientStore}
    (plain : portfolio (newClient data "" "" 0) = .empty) (tenantId : String)
    (unused : store.clients.find? (ClientQuery.byId clientId).isMatch = none)
    (keyed : ∀ time key client, store.clientCache.lookup time key = some client →
      client.clientId = key) :
    Between settings (fun _ => True) clientId (createClient data clientId tenantId store, []) := by
  refine ⟨.empty, ⟨⟨⟨newClient data clientId tenantId store.now, ?_, plain⟩, ?_, ?_⟩, ?_⟩,
    trivial, .inl rfl⟩
  · have matched : (ClientQuery.byId clientId).isMatch
        (newClient data clientId tenantId store.now) = true := decide_eq_true rfl
    rw [createClient, List.find?_append, unused, Option.none_or, List.find?_cons_of_pos matched]
  · intro time client found
    rw [createClient, ExpiringMap.store, ExpiringMap.lookup_set_self] at found
    split at found
    · cases found
      exact plain
    · cases found
  · intro time key client found
    by_cases same : clientId = key
    · subst same
      rw [createClient, ExpiringMap.store, ExpiringMap.lookup_set_self] at found
      split at found
      · cases found
        rfl
      · cases found
    · rw [createClient, ExpiringMap.store, ExpiringMap.lookup_set_of_ne same] at found
      exact keyed time key client found
  · intro _ member
    cases member

/-- The store that calls have left behind, remembered as the first of those that follow. -/
def resumed (settings : ClientSettings) (start : ClientStore)
    (inputs : List (ProjectCall × ClientCircumstances)) : ClientStore × List ClientStore :=
  let store := ((projectRuns settings).run (start, []) inputs).1
  (store, [store])

end Runs

/-- For every client that is registered without projects and active fields, and every run of
calls one after the other with fresh ids: once a call on the client has ended, the projects of
the stored client have different ids and slugs and its active fields are copies of one that is
not archived, after every command of the calls that follow. -/
theorem projects_stay_sound (settings : ClientSettings) (lowers : LowersCase settings.toLowerCase)
    (data : ClientData)
    (plain : data.projects = [] ∧ data.activeProjectId = none ∧ data.activeProjectName = none ∧
      data.activeProjectStack = none ∧ data.activeProjectEnvironment = none)
    (clientId tenantId : String) (store : ClientStore)
    (unused : store.clients.find? (ClientQuery.byId clientId).isMatch = none)
    (keyed : ∀ time key client, store.clientCache.lookup time key = some client →
      client.clientId = key) (before after : List (ProjectCall × ClientCircumstances))
    (read : ∃ input ∈ before, input.1.clientId = clientId)
    (fresh : (projectRuns settings).Admits (FreshIds clientId)
      (createClient data clientId tenantId store, []) before)
    (fresh' : (projectRuns settings).Admits (FreshIds clientId)
      (resumed settings (createClient data clientId tenantId store) before) after) :
    ∀ visited ∈ ((projectRuns settings).run
        (resumed settings (createClient data clientId tenantId store) before) after).2,
      ∃ client, visited.clients.find? (ClientQuery.byId clientId).isMatch = some client ∧
        (portfolio client).Sound := by
  have empty : portfolio (newClient data "" "" 0) = .empty := by
    obtain ⟨projects, id, name, stack, environment⟩ := plain
    simp only [portfolio, newClient, projects, id, name, stack, environment]
    rfl
  have created := @between_created settings clientId data store empty tenantId unused keyed
  obtain ⟨held, tracked, settled⟩ := run_reads lowers (fun _ _ => trivial) created fresh read
  have resumes : Leaves settings (Portfolio.Settled settings) clientId
      (resumed settings (createClient data clientId tenantId store) before) := by
    refine ⟨held, ⟨tracked.consistent, fun visited member => ?_⟩, settled⟩
    rw [List.mem_singleton.mp member]
    exact ⟨held, tracked.consistent.stored, settled⟩
  obtain ⟨_, visits, _⟩ := fresh'.invariant
    (fun _ _ leaves fresh => step_settled lowers (fun _ settled => settled) leaves fresh) resumes
  intro visited member
  obtain ⟨held, ⟨client, found, rfl⟩, settled⟩ := visits.past visited member
  exact ⟨client, found, settled.toSound⟩

section Sample

theorem trim_trim (text : String) : Js.trim (Js.trim text) = Js.trim text := by
  simp only [Js.trim, String.toList_ofList]
  refine congrArg String.ofList ?_
  change ((text.toList.dropWhile Js.isWhiteSpace).rdropWhile Js.isWhiteSpace |>.dropWhile
    Js.isWhiteSpace).rdropWhile Js.isWhiteSpace =
      (text.toList.dropWhile Js.isWhiteSpace).rdropWhile Js.isWhiteSpace
  generalize bare : text.toList.dropWhile Js.isWhiteSpace = chars
  have start : chars.dropWhile Js.isWhiteSpace = chars := by
    rw [← bare]
    exact List.dropWhile_idempotent _ _
  -- What is left of a text without white space at its start has none there either.
  have kept : (chars.rdropWhile Js.isWhiteSpace).dropWhile Js.isWhiteSpace =
      chars.rdropWhile Js.isWhiteSpace := by
    rw [List.dropWhile_eq_self_iff] at start ⊢
    intro nonempty
    have first := (List.rdropWhile_prefix Js.isWhiteSpace chars).getElem nonempty
    rw [first]
    exact start _
  rw [kept]
  exact List.rdropWhile_idempotent _ _

def sampleSettings : ClientSettings := ⟨id, fun _ _ => true, id⟩

def sampleStore : ClientStore := ⟨0, [], .empty, .empty, .empty⟩

def sampleCircumstances (first : Char) : ClientCircumstances :=
  fun number => (1, ⟨String.ofList (first :: List.replicate number 'u'), "key"⟩)

theorem sampleCircumstances_ne (first : Char) (one other : Nat) (different : one ≠ other) :
    (sampleCircumstances first one).2.uuid ≠ (sampleCircumstances first other).2.uuid := by
  intro same
  have lengths := congrArg String.length same
  simp only [sampleCircumstances, String.length_ofList, List.length_cons, List.length_replicate]
    at lengths
  omega

def readInputs : List (ProjectCall × ClientCircumstances) :=
  [(.findById "c", sampleCircumstances 'a')]

def laterInputs : List (ProjectCall × ClientCircumstances) :=
  [(.createProject "c" "n default" "Node" .production, sampleCircumstances 'b'),
    (.archiveProject "c" "au", sampleCircumstances 'd')]

def sampleData : ClientData where
  companyName := "n"

theorem sample_freshIds {current : ClientStore × List ClientStore} (call : ProjectCall)
    {first : Char} {ids : List String}
    (held : (current.1.clients.find? (ClientQuery.byId "c").isMatch).map
      (fun client => client.projects.map (·.projectId)) = some ids)
    (apart : ∀ id ∈ ids, id.toList.head? ≠ some first) :
    FreshIds "c" current (call, sampleCircumstances first) := by
  refine ⟨sampleCircumstances_ne first, fun client found project member number same => ?_⟩
  rw [found] at held
  have among : project.projectId ∈ ids := by
    rw [← Option.some.inj held]
    exact List.mem_map_of_mem member
  refine apart _ among ?_
  rw [same]
  simp [sampleCircumstances]

def sampleVisited : List ClientStore :=
  ((projectRuns sampleSettings).run
    (resumed sampleSettings (createClient sampleData "c" "t" sampleStore) readInputs)
    laterInputs).2

set_option maxRecDepth 20000 in
/-- A project takes the place of the archived one, and a slug of its own. -/
theorem sample_stays_sound : sampleVisited.isEmpty = false ∧ ∀ visited ∈ sampleVisited,
        ∃ client, visited.clients.find? (ClientQuery.byId "c").isMatch = some client ∧
          (portfolio client).Sound :=
  ⟨by decide +kernel, projects_stay_sound sampleSettings ⟨fun _ => rfl, trim_trim, rfl⟩ sampleData
    ⟨rfl, rfl, rfl, rfl, rfl⟩ "c" "t" sampleStore rfl (fun _ _ _ found => nomatch found)
    readInputs laterInputs ⟨_, List.mem_singleton_self _, rfl⟩
    ⟨@sample_freshIds _ _ _ [] (by decide) (by decide), trivial⟩
    ⟨@sample_freshIds _ _ _ ["au"] (by decide) (by decide),
      @sample_freshIds _ _ _ ["au", "buuuuuu"] (by decide) (by decide), trivial⟩⟩

end Sample

end Caas.Auth.ProjectInvariant
