import Caas.Datastore.MigrationService

/-!
# The steps of a migration

Every method decides on the plan that it finds and then assigns to it. One equation for
each method says so; `Assigns` lists the assignments, and `Step` what one input does to
the plans and what it answers. `Note` is what later steps need to know of earlier ones.
-/

namespace Caas.Datastore

open Js Js.Throwing

namespace MigrationService

variable {service : MigrationService} {planId : String} {plan : MigrationPlan}

section Methods

/-- The decision of a method that looks up a plan and checks it. -/
def allowed (service : MigrationService) (planId : String)
    (check : MigrationPlan → Except MigrationError Unit) : Except MigrationError MigrationPlan :=
  match service.plans.get planId with
  | none => .error (.notFound planId)
  | some plan =>
    match check plan with
    | .error error => .error error
    | .ok _ => .ok plan

theorem allowed_eq_ok_iff {check : MigrationPlan → Except MigrationError Unit} :
    service.allowed planId check = .ok plan ↔
      service.plans.get planId = some plan ∧ check plan = .ok () := by
  unfold allowed
  cases service.plans.get planId with
  | none => simp
  | some found =>
    constructor
    · intro decided
      cases passed : check found with
      | error error =>
        simp only [passed] at decided
        cases decided
      | ok _ =>
        simp only [passed, Except.ok.injEq] at decided
        subst decided
        exact ⟨rfl, passed⟩
    · rintro ⟨same, passed⟩
      cases same
      simp [passed]

def moved (service : MigrationService) (planId : String) (plan : MigrationPlan)
    (action : MigrationAction) (details : MigrationDetails) (draws : ClockDraws) :
    MigrationService :=
  (service.put planId plan).log planId plan.phase action details draws

theorem run_requirePlan (planId : String) :
    (requirePlan planId).run service = (service, service.allowed planId fun _ => .ok ()) := by
  simp only [requirePlan, allowed, run_bind, run_reads]
  cases service.plans.get planId <;> rfl

theorem run_transition (next : MigrationPhase) (check : MigrationPlan → Except MigrationError Unit)
    (edit : MigrationPlan → MigrationPlan) (action : MigrationAction)
    (details : MigrationPlan → MigrationDetails) (draws : ClockDraws) :
    (transition planId next check edit action details draws).run service =
      match service.allowed planId check with
      | .error error => (service, .error error)
      | .ok plan =>
        (service.moved planId { edit plan with phase := next, updatedAt := draws.now 0 } action
            (details plan) (draws.drop 0 1),
          .ok { edit plan with phase := next, updatedAt := draws.now 0 }) := by
  simp only [transition, run_bind, run_requirePlan, allowed]
  cases service.plans.get planId with
  | none => rfl
  | some plan =>
    simp only
    cases check plan <;> rfl

theorem run_updateProgress (patch : MigrationProgressPatch) (draws : ClockDraws) :
    (updateProgress planId patch draws).run service =
      match service.allowed planId fun _ => .ok () with
      | .error error => (service, .error error)
      | .ok plan => (service.put planId
          { plan with progress := plan.progress.assign patch, updatedAt := draws.now 0 },
          .ok ()) := by
  simp only [updateProgress, run_bind, run_requirePlan]
  cases service.allowed planId fun _ => .ok () <;> rfl

theorem run_recordDivergence (domain : EntityDomain) (details : Record) (draws : ClockDraws) :
    (recordDivergence planId domain details draws).run service =
      match service.allowed planId fun _ => .ok () with
      | .error error => (service, .error error)
      | .ok plan => (service.moved planId (diverge plan (draws.now 0)) .divergenceDetected
          (.divergence domain details) (draws.drop 0 1), .ok ()) := by
  simp only [recordDivergence, run_bind, run_requirePlan]
  cases service.allowed planId fun _ => .ok () <;> rfl

theorem run_startChecksum (domain : EntityDomain) (tenantId : String) :
    (startChecksum planId domain tenantId).run service =
      match service.allowed planId fun _ => .ok () with
      | .error error => (service, .error error)
      | .ok _ =>
        ({ service with pending := service.pending ++ [⟨planId, domain, tenantId⟩] }, .ok ()) := by
  simp only [startChecksum, run_bind, run_requirePlan]
  cases service.allowed planId fun _ => .ok () <;> rfl

theorem run_finishChecksum (call : PendingChecksum) (sourceCount targetCount : Nat)
    (draws : ClockDraws) : (finishChecksum call sourceCount targetCount draws).run service =
      match service.allowed call.planId fun _ => .ok () with
      | .error error => (service, .error error)
      | .ok plan =>
        let checksum := countChecksum call.domain sourceCount targetCount (draws.now 0)
        (service.moved call.planId (noteChecksum plan checksum (draws.now 1) (draws.now 2))
          .checksumComputed (.checksum call.domain checksum.matched checksum.sourceChecksum
            checksum.targetChecksum) (draws.drop 0 3), .ok checksum) := by
  simp only [finishChecksum, run_bind, run_requirePlan]
  cases service.allowed call.planId fun _ => .ok () <;> rfl

/-- The unfinished plan that `createPlan` finds for a tenant. -/
def activePlan (service : MigrationService) (tenantId : String) : Option MigrationPlan :=
  service.plans.values.find? fun plan => plan.tenantId = tenantId && !isFinished plan.phase

theorem run_createPlan (tenantId : String) (source target : ProviderId)
    (domains : List EntityDomain) (criteria : CutoverCriteriaPatch) (draws : ClockDraws) :
    (createPlan tenantId source target domains criteria draws).run service =
      if source = target then (service, .error .sameProviders)
      else
        match service.activePlan tenantId with
        | some active => (service, .error (.alreadyActive tenantId active.id))
        | none =>
          let plan := newPlan tenantId source target domains criteria draws
          (service.moved plan.id plan .planCreated (.plan source target domains) (draws.drop 1 2),
            .ok plan) := by
  unfold createPlan activePlan
  by_cases same : source = target
  · simp [if_pos same, run_bind]
  · simp only [if_neg same, run_bind, run_reads]
    cases service.plans.values.find? _ <;> rfl

end Methods

section Checks

theorem assertPhase_eq_ok_iff {expected next : MigrationPhase} :
    assertPhase plan expected next = .ok () ↔ plan.phase = expected := by
  unfold assertPhase
  by_cases same : plan.phase = expected <;> simp [same]

theorem checkRollback_eq_ok_iff :
    checkRollback plan = .ok () ↔ plan.phase ≠ .idle ∧ plan.phase ≠ .completed := by
  unfold checkRollback
  by_cases refused : plan.phase = .completed ∨ plan.phase = .idle
  · simp only [if_pos refused, reduceCtorEq, false_iff]
    tauto
  · simp only [if_neg refused, true_iff]
    tauto

/-- The time between two dates is not short of a number of seconds. -/
def Lasts (since now : Int) (seconds : Number) : Prop :=
  (Number.finite (secondsBetween since now)).lessThan seconds ≠ some true

/-- What `cutover` asks of a plan. -/
structure Meets (now : Int) (plan : MigrationPlan) : Prop where
  reading : plan.phase = .shadowRead
  tolerated :
    plan.cutoverCriteria.maxDivergenceCount.lessThan plan.progress.divergenceCount ≠ some true
  elapsed : ∀ startedAt, plan.progress.shadowReadStartedAt = some startedAt →
    Lasts startedAt now plan.cutoverCriteria.minShadowReadSeconds
  matched : plan.cutoverCriteria.requireChecksumMatch = true →
    ∀ checksum ∈ plan.checksums, checksum.matched = true

theorem checkMatched_eq_ok_iff {error : MigrationError} :
    (if plan.cutoverCriteria.requireChecksumMatch = true then
        if (plan.checksums.filter fun checksum => !checksum.matched).length > 0 then throw error
        else pure ()
      else pure () : Except MigrationError Unit) = .ok () ↔
      (plan.cutoverCriteria.requireChecksumMatch = true →
        ∀ checksum ∈ plan.checksums, checksum.matched = true) := by
  have some_left : (plan.checksums.filter fun checksum => !checksum.matched).length > 0 ↔
      ¬ ∀ checksum ∈ plan.checksums, checksum.matched = true := by
    simp [List.length_pos_iff]
  by_cases required : plan.cutoverCriteria.requireChecksumMatch = true
  · by_cases mismatch : (plan.checksums.filter fun checksum => !checksum.matched).length > 0
    · simp only [if_pos required, if_pos mismatch]
      exact ⟨fun passed => (nomatch passed),
        fun all => absurd (all required) (some_left.mp mismatch)⟩
    · simp only [if_pos required, if_neg mismatch]
      exact ⟨fun _ _ => not_not.mp (mismatch ∘ some_left.mpr), fun _ => rfl⟩
  · simp only [if_neg required]
    exact ⟨fun _ asked => absurd asked required, fun _ => rfl⟩

theorem checkCutover_eq_ok_iff {now : Int} :
    checkCutover now plan = .ok () ↔ Meets now plan := by
  unfold checkCutover
  by_cases reading : plan.phase = .shadowRead
  · simp only [assertPhase_eq_ok_iff.mpr reading, bind, Except.bind]
    by_cases exceeds : plan.cutoverCriteria.maxDivergenceCount.lessThan
        plan.progress.divergenceCount = some true
    · simp only [if_pos exceeds]
      exact ⟨fun passed => (nomatch passed), fun meets => absurd exceeds meets.tolerated⟩
    · simp only [if_neg exceeds]
      cases started : plan.progress.shadowReadStartedAt with
      | none =>
        simp only [checkMatched_eq_ok_iff]
        exact ⟨fun matched => ⟨reading, exceeds, by simp [started], matched⟩, (·.matched)⟩
      | some startedAt =>
        by_cases early : (Number.finite (secondsBetween startedAt now)).lessThan
            plan.cutoverCriteria.minShadowReadSeconds = some true
        · simp only [if_pos early]
          exact ⟨fun passed => (nomatch passed),
            fun meets => absurd early (meets.elapsed startedAt started)⟩
        · simp only [if_neg early, checkMatched_eq_ok_iff]
          refine ⟨fun matched => ⟨reading, exceeds, ?_, matched⟩, (·.matched)⟩
          intro since same
          rw [started, Option.some.injEq] at same
          subst same
          exact early
  · refine ⟨fun passed => ?_, fun meets => absurd meets.reading reading⟩
    rw [assertPhase, if_pos reading] at passed
    cases passed

end Checks

section Steps

/-- What a step leaves to be told: the start of shadow reads and the divergences with the
first reading of the call's clock, and the checksums. -/
inductive Note where
  | shadowRead (planId : String) (startedAt : Int)
  | divergence (planId : String) (recordedAt : Int)
  | checksum (planId : String) (domain : EntityDomain) (matched : Bool)

def note : Input → Except MigrationError Reply → Option Note
  | .call (.startShadowRead planId) draws, .ok _ => some (.shadowRead planId (draws.now 0))
  | .call (.recordDivergence planId _ _) draws, .ok _ => some (.divergence planId (draws.now 0))
  | .counted .., .ok (.checksum planId checksum) =>
    some (.checksum planId checksum.domain checksum.matched)
  | _, _ => none

@[simp] theorem note_error (input : Input) (error : MigrationError) :
    note input (.error error) = none := by
  unfold note
  split <;> first | rfl | simp_all

/-- What a request assigns to the plan that it finds. -/
inductive Assigns (draws : ClockDraws) (planId : String) (plan : MigrationPlan) :
    Request → MigrationPlan → Prop
  | startDualWrite (idle : plan.phase = .idle) :
    Assigns draws planId plan (.startDualWrite planId)
      { plan with phase := .dualWrite, updatedAt := draws.now 0 }
  | startShadowRead (writing : plan.phase = .dualWrite) :
    Assigns draws planId plan (.startShadowRead planId)
      { plan with
        progress.shadowReadStartedAt := some (draws.now 0)
        phase := .shadowRead, updatedAt := draws.now 1 }
  | cutover (meets : Meets (draws.now 0) plan) :
    Assigns draws planId plan (.cutover planId)
      { plan with phase := .cutover, updatedAt := draws.now 1 }
  | completeMigration (done : plan.phase = .cutover) :
    Assigns draws planId plan (.completeMigration planId)
      { plan with phase := .completed, updatedAt := draws.now 0 }
  | rollback (reason : String) (begun : plan.phase ≠ .idle) (unfinished : plan.phase ≠ .completed) :
    Assigns draws planId plan (.rollback planId reason)
      { plan with error := some reason, phase := .rollback, updatedAt := draws.now 0 }
  | updateProgress (patch : MigrationProgressPatch) :
    Assigns draws planId plan (.updateProgress planId patch)
      { plan with progress := plan.progress.assign patch, updatedAt := draws.now 0 }
  | recordDivergence (domain : EntityDomain) (details : Record) :
    Assigns draws planId plan (.recordDivergence planId domain details)
      (diverge plan (draws.now 0))

/-- What an input did to the plans, and its answer. -/
inductive Step (service : MigrationService) :
    Input → OrderedMap String MigrationPlan → Except MigrationError Reply → Prop
  /-- A refusal, a reading, or a step of a call that leaves the plans alone. -/
  | kept {input : Input} {output : Except MigrationError Reply}
      (silent : note input output = none) : Step service input service.plans output
  | created {tenantId : String} {source target : ProviderId} {domains : List EntityDomain}
      {criteria : CutoverCriteriaPatch} {draws : ClockDraws} {reply : Reply}
      (free : service.activePlan tenantId = none) :
      Step service (.call (.createPlan tenantId source target domains criteria) draws)
        (service.plans.set (draws.uuid 0)
          (newPlan tenantId source target domains criteria draws)) (.ok reply)
  | assigned {request : Request} {draws : ClockDraws} {planId : String}
      {plan later : MigrationPlan} {reply : Reply}
      (stored : service.plans.get planId = some plan)
      (assigns : Assigns draws planId plan request later) :
      Step service (.call request draws) (service.plans.set planId later) (.ok reply)
  | counted {place sourceCount targetCount : Nat} {draws : ClockDraws} {call : PendingChecksum}
      {plan : MigrationPlan} (stored : service.plans.get call.planId = some plan) :
      Step service (.counted place sourceCount targetCount draws)
        (service.plans.set call.planId
          (noteChecksum plan (countChecksum call.domain sourceCount targetCount (draws.now 0))
            (draws.now 1) (draws.now 2)))
        (.ok (.checksum call.planId
          (countChecksum call.domain sourceCount targetCount (draws.now 0))))

theorem step_transition {request : Request} {draws draws' : ClockDraws} {next : MigrationPhase}
    {check : MigrationPlan → Except MigrationError Unit} {edit : MigrationPlan → MigrationPlan}
    {action : MigrationAction} {details : MigrationPlan → MigrationDetails}
    (assigns : ∀ plan, check plan = .ok () → Assigns draws planId plan request
      { edit plan with phase := next, updatedAt := draws'.now 0 }) :
    Step service (.call request draws)
      ((do return .plan (← transition planId next check edit action details draws') :
        MigrationCall Reply).run service).1.plans
      ((do return .plan (← transition planId next check edit action details draws') :
        MigrationCall Reply).run service).2 := by
  simp only [run_wrapped, run_transition]
  cases decided : service.allowed planId check with
  | error error => exact .kept (note_error _ _)
  | ok plan =>
    obtain ⟨stored, passed⟩ := allowed_eq_ok_iff.mp decided
    exact .assigned stored (assigns plan passed)

theorem step_cases (service : MigrationService) (input : Input) :
    Step service input (machine.step service input).1.plans (machine.step service input).2 := by
  cases input with
  | failed place => exact .kept rfl
  | counted place sourceCount targetCount draws =>
    change Step service _ ((resume place sourceCount targetCount draws).run service).1.plans
      ((resume place sourceCount targetCount draws).run service).2
    simp only [resume, run_bind, run_reads]
    cases waiting : service.pending[place]? with
    | none => exact .kept rfl
    | some call =>
      simp only [run_bind, run_writes, run_finishChecksum]
      let resumed := { service with pending := service.pending.eraseIdx place }
      cases decided : resumed.allowed call.planId fun _ => .ok () with
      | error error => exact .kept (note_error _ _)
      | ok plan => exact .counted (allowed_eq_ok_iff.mp decided).1
  | call request draws =>
    change Step service _ ((perform draws request).run service).1.plans
      ((perform draws request).run service).2
    cases request with
    | createPlan tenantId source target domains criteria =>
      simp only [perform, run_wrapped, run_createPlan]
      by_cases same : source = target
      · simp only [if_pos same]
        exact .kept (note_error _ _)
      · simp only [if_neg same]
        cases free : service.activePlan tenantId with
        | some active => exact .kept (note_error _ _)
        | none => exact .created free
    | getPlan | listPlansByTenant | getEvents => exact .kept rfl
    | startDualWrite planId =>
      exact step_transition fun plan passed =>
        .startDualWrite (assertPhase_eq_ok_iff.mp passed)
    | startShadowRead planId =>
      exact step_transition fun plan passed =>
        .startShadowRead (assertPhase_eq_ok_iff.mp passed)
    | cutover planId =>
      exact step_transition fun plan passed => .cutover (checkCutover_eq_ok_iff.mp passed)
    | completeMigration planId =>
      exact step_transition fun plan passed =>
        .completeMigration (assertPhase_eq_ok_iff.mp passed)
    | rollback planId reason =>
      refine step_transition fun plan passed => ?_
      obtain ⟨begun, unfinished⟩ := checkRollback_eq_ok_iff.mp passed
      exact .rollback reason begun unfinished
    | updateProgress planId patch =>
      simp only [perform, run_bind, run_updateProgress]
      cases decided : service.allowed planId fun _ => .ok () with
      | error error => exact .kept (note_error _ _)
      | ok plan => exact .assigned (allowed_eq_ok_iff.mp decided).1 (.updateProgress patch)
    | recordDivergence planId domain details =>
      simp only [perform, run_bind, run_recordDivergence]
      cases decided : service.allowed planId fun _ => .ok () with
      | error error => exact .kept (note_error _ _)
      | ok plan =>
        exact .assigned (allowed_eq_ok_iff.mp decided).1 (.recordDivergence domain details)
    | computeChecksum planId domain tenantId =>
      simp only [perform, run_bind, run_startChecksum]
      cases decided : service.allowed planId fun _ => .ok () with
      | error error => exact .kept (note_error _ _)
      | ok plan => exact .kept rfl

end Steps

end MigrationService

end Caas.Datastore

/-!
## The phases of a migration

A tenant has at most one unfinished plan, since a plan is created only beside finished
ones and no phase leads back from the finished ones.
-/

namespace Caas.Datastore

open Js

namespace MigrationService

variable {service : MigrationService} {planId : String} {plan : MigrationPlan}

section Uniqueness

/-- Every tenant has at most one unfinished plan. -/
def SoleActive (plans : OrderedMap String MigrationPlan) : Prop :=
  ∀ id other plan plan', plans.get id = some plan → plans.get other = some plan' →
    plan.tenantId = plan'.tenantId → isFinished plan.phase = false →
    isFinished plan'.phase = false → id = other

theorem finished_of_activePlan {tenantId : String} (free : service.activePlan tenantId = none)
    (stored : service.plans.get planId = some plan) (own : plan.tenantId = tenantId) :
    isFinished plan.phase = true := by
  have entry : (planId, plan) ∈ service.plans.entries := OrderedMap.get_eq_some_iff.mp stored
  have listed : plan ∈ service.plans.values := List.mem_map.mpr ⟨_, entry, rfl⟩
  have rejected := List.find?_eq_none.mp free plan listed
  simpa [own] using rejected

theorem Assigns.unfinished {draws : ClockDraws} {request : Request} {later : MigrationPlan}
    (assigns : Assigns draws planId plan request later) : later.tenantId = plan.tenantId ∧
      (isFinished later.phase = false → isFinished plan.phase = false) := by
  cases assigns with
  | startDualWrite before | startShadowRead before | completeMigration before =>
    exact ⟨rfl, fun _ => by rw [before]; rfl⟩
  | cutover meets => exact ⟨rfl, fun _ => by rw [meets.reading]; rfl⟩
  | rollback => exact ⟨rfl, fun unfinished => (nomatch unfinished)⟩
  | updateProgress | recordDivergence => exact ⟨rfl, id⟩

theorem SoleActive.of_backed {plans plans' : OrderedMap String MigrationPlan}
    (sole : SoleActive plans)
    (backed : ∀ id later, plans'.get id = some later → isFinished later.phase = false →
      ∃ before, plans.get id = some before ∧ before.tenantId = later.tenantId ∧
        isFinished before.phase = false) :
    SoleActive plans' := by
  intro id other plan plan' here there same unfinished unfinished'
  obtain ⟨before, stored, tenant, open_⟩ := backed id plan here unfinished
  obtain ⟨before', stored', tenant', open_'⟩ := backed other plan' there unfinished'
  exact sole id other before before' stored stored' (tenant.trans (same.trans tenant'.symm))
    open_ open_'

theorem SoleActive.set {plans : OrderedMap String MigrationPlan} {later : MigrationPlan}
    (sole : SoleActive plans) (stored : plans.get planId = some plan)
    (tenant : later.tenantId = plan.tenantId)
    (unfinished : isFinished later.phase = false → isFinished plan.phase = false) :
    SoleActive (plans.set planId later) := by
  refine sole.of_backed fun id found there active => ?_
  rw [OrderedMap.get_set] at there
  split at there
  · rename_i here
    cases there
    exact ⟨plan, here ▸ stored, tenant.symm, unfinished active⟩
  · exact ⟨found, there, rfl, active⟩

theorem SoleActive.step (sole : SoleActive service.plans) {input : Input}
    {plans : OrderedMap String MigrationPlan} {output : Except MigrationError Reply}
    (taken : Step service input plans output) : SoleActive plans := by
  cases taken with
  | kept => exact sole
  | assigned stored assigns =>
    obtain ⟨tenant, unfinished⟩ := assigns.unfinished
    exact sole.set stored tenant unfinished
  | counted stored => exact sole.set stored rfl fun active => active
  | @created tenantId source target domains criteria draws reply free =>
    -- Beside the new plan only finished ones of its tenant are left.
    have alone : ∀ id found, service.plans.get id = some found → found.tenantId = tenantId →
        isFinished found.phase = false → False := by
      intro id found stored own active
      have finished := finished_of_activePlan free stored own
      rw [active] at finished
      cases finished
    intro id other plan plan' here there same active active'
    rw [OrderedMap.get_set] at here there
    split at here <;> split at there
    · simp_all
    · cases here
      exact (alone other plan' there same.symm active').elim
    · cases there
      exact (alone id plan here same active).elim
    · exact sole id other plan plan' here there same active active'

end Uniqueness

section Lifecycle

/-- The ids drawn for new plans are not in use. -/
def FreshIds (service : MigrationService) : Input → Prop
  | .call (.createPlan ..) draws => service.plans.get (draws.uuid 0) = none
  | _ => True

inductive Moves : MigrationPhase → MigrationPhase → Prop
  | dualWrite : Moves .idle .dualWrite
  | shadowRead : Moves .dualWrite .shadowRead
  | cutover : Moves .shadowRead .cutover
  | completed : Moves .cutover .completed
  | rollback {phase : MigrationPhase}
      (begun : phase = .dualWrite ∨ phase = .shadowRead ∨ phase = .cutover) : Moves phase .rollback

/-- Every plan is kept, in its phase or in one that may follow, and new plans are idle. -/
structure PhasesMove (before after : OrderedMap String MigrationPlan) : Prop where
  kept : ∀ id plan, before.get id = some plan →
    ∃ later, after.get id = some later ∧ (later.phase = plan.phase ∨ Moves plan.phase later.phase)
  fresh : ∀ id later, before.get id = none → after.get id = some later → later.phase = .idle

theorem Assigns.moves {draws : ClockDraws} {request : Request} {later : MigrationPlan}
    (assigns : Assigns draws planId plan request later) :
    later.phase = plan.phase ∨ Moves plan.phase later.phase := by
  cases assigns with
  | startDualWrite idle => exact .inr (idle ▸ .dualWrite)
  | startShadowRead writing => exact .inr (writing ▸ .shadowRead)
  | cutover meets => exact .inr (meets.reading ▸ .cutover)
  | completeMigration done => exact .inr (done ▸ .completed)
  | updateProgress | recordDivergence => exact .inl rfl
  | rollback reason begun unfinished =>
    cases phase : plan.phase with
    | idle => exact absurd phase begun
    | completed => exact absurd phase unfinished
    | dualWrite => exact .inr (.rollback (.inl rfl))
    | shadowRead => exact .inr (.rollback (.inr (.inl rfl)))
    | cutover => exact .inr (.rollback (.inr (.inr rfl)))
    | rollback => exact .inl rfl

theorem PhasesMove.refl (plans : OrderedMap String MigrationPlan) : PhasesMove plans plans where
  kept _ plan stored := ⟨plan, stored, .inl rfl⟩
  fresh _ _ absent stored := by
    rw [absent] at stored
    cases stored

theorem PhasesMove.set {plans : OrderedMap String MigrationPlan} {later : MigrationPlan}
    (known : ∀ before, plans.get planId = some before →
      later.phase = before.phase ∨ Moves before.phase later.phase)
    (new : plans.get planId = none → later.phase = .idle) :
    PhasesMove plans (plans.set planId later) := by
  constructor
  · intro id before stored
    rw [OrderedMap.get_set]
    by_cases same : planId = id
    · subst same
      exact ⟨later, if_pos rfl, known before stored⟩
    · exact ⟨before, by rw [if_neg same, stored], .inl rfl⟩
  · intro id found absent there
    rw [OrderedMap.get_set] at there
    split at there
    · rename_i same
      cases there
      exact new (same ▸ absent)
    · rw [absent] at there
      cases there

theorem PhasesMove.set_stored {plans : OrderedMap String MigrationPlan} {later : MigrationPlan}
    (stored : plans.get planId = some plan)
    (moves : later.phase = plan.phase ∨ Moves plan.phase later.phase) :
    PhasesMove plans (plans.set planId later) := by
  refine .set (fun before same => ?_) fun absent => ?_
  · rw [stored, Option.some.injEq] at same
    exact same ▸ moves
  · rw [stored] at absent
    cases absent

theorem Step.phasesMove {input : Input} {plans : OrderedMap String MigrationPlan}
    {output : Except MigrationError Reply} (taken : Step service input plans output)
    (fresh : FreshIds service input) : PhasesMove service.plans plans := by
  cases taken with
  | kept => exact .refl _
  | created free =>
    refine .set (fun before stored => ?_) fun _ => rfl
    rw [show service.plans.get _ = none from fresh] at stored
    cases stored
  | assigned stored assigns => exact .set_stored stored assigns.moves
  | counted stored => exact .set_stored stored (.inl rfl)

/-- After every run with fresh ids each tenant has at most one unfinished plan, and in each
step of the run the plans keep their phases or move along the lifecycle. -/
theorem migration_state_machine (inputs : List Input)
    (fresh : machine.Admits FreshIds empty inputs) : SoleActive (machine.run empty inputs).plans ∧
      machine.Admits (fun service input =>
        PhasesMove service.plans (machine.step service input).1.plans) empty inputs := by
  constructor
  · let Sound (service : MigrationService) : Prop := SoleActive service.plans
    have start : Sound empty := fun _ _ _ _ stored => nomatch stored
    exact fresh.invariant (fun service input (sole : Sound service) _ =>
      sole.step (step_cases service input)) start
  · exact fresh.imp (fun _ _ (_ : True) _ => trivial)
      (fun service input _ fresh => (step_cases service input).phasesMove fresh) trivial

/-- A call whose draws are all `id` and `now`. -/
def sampleCall (request : Request) (id : String) (now : Int) : Input :=
  .call request ⟨fun _ => id, fun _ => now⟩

/-- A plan goes through to completion, and its tenant makes another one. -/
theorem migration_state_machine_of_two_plans : SoleActive (machine.run empty
        [sampleCall (.createPlan "t" .mongodb .dynamodb [.users] {}) "p" 0,
          sampleCall (.startDualWrite "p") "" 1, sampleCall (.startShadowRead "p") "" 2,
          sampleCall (.rollback "p" "failed") "" 3,
          sampleCall (.createPlan "t" .mongodb .firestore [.users] {}) "q" 4]).plans ∧
      machine.Admits (fun service input =>
        PhasesMove service.plans (machine.step service input).1.plans) empty
        [sampleCall (.createPlan "t" .mongodb .dynamodb [.users] {}) "p" 0,
          sampleCall (.startDualWrite "p") "" 1, sampleCall (.startShadowRead "p") "" 2,
          sampleCall (.rollback "p" "failed") "" 3,
          sampleCall (.createPlan "t" .mongodb .firestore [.users] {}) "q" 4] :=
  migration_state_machine _ ⟨rfl, trivial, trivial, trivial, rfl, trivial⟩

end Lifecycle

end MigrationService

end Caas.Datastore
