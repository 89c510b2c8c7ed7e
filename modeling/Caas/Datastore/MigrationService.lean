import Caas.Js.Throwing
import Caas.Machine.Transducer
import Caas.Datastore.Types

/-!
# The migration service

A migration plan moves a tenant's data from one provider to another: dual writes,
shadow reads, a cutover that the plan's criteria must allow, completion or rollback.
Every method looks its plan up and assigns to it. Only `computeChecksum` is
asynchronous: it looks the plan up, waits for two counts and then writes, so other
calls come in between; `pending` holds the calls that wait.

Plans are never dropped, so the plan under an id stays the object that a waiting call
has found. Draws are numbered by their place in the body. `reset`, a test hook, is
left out.
-/

namespace Caas.Datastore

open Js Js.Throwing

inductive MigrationPhase where
  | idle
  | dualWrite
  | shadowRead
  | cutover
  | rollback
  | completed
deriving DecidableEq

def MigrationPhase.name : MigrationPhase → String
  | .idle => "idle"
  | .dualWrite => "dual_write"
  | .shadowRead => "shadow_read"
  | .cutover => "cutover"
  | .rollback => "rollback"
  | .completed => "completed"

def EntityDomain.name : EntityDomain → String
  | .users => "users"
  | .conversations => "conversations"
  | .messages => "messages"
  | .settings => "settings"
  | .audit => "audit"
  | .sessions => "sessions"
  | .presence => "presence"

structure CutoverCriteria where
  minShadowReadSeconds : Number
  maxDivergenceCount : Number
  requireChecksumMatch : Bool
deriving DecidableEq

/-- `DEFAULT_CUTOVER_CRITERIA`. -/
def defaultCutoverCriteria : CutoverCriteria := ⟨.finite 300, .finite 0, true⟩

structure CutoverCriteriaPatch where
  minShadowReadSeconds : Option Number := none
  maxDivergenceCount : Option Number := none
  requireChecksumMatch : Option Bool := none

/-- `{ ...base, ...patch }`. -/
def CutoverCriteria.spread (base : CutoverCriteria) (patch : CutoverCriteriaPatch) :
    CutoverCriteria where
  minShadowReadSeconds := patch.minShadowReadSeconds.getD base.minShadowReadSeconds
  maxDivergenceCount := patch.maxDivergenceCount.getD base.maxDivergenceCount
  requireChecksumMatch := patch.requireChecksumMatch.getD base.requireChecksumMatch

structure MigrationProgress where
  totalDocuments : Number
  migratedDocuments : Number
  divergenceCount : Number
  shadowReadStartedAt : Option Int := none
  lastChecksumAt : Option Int := none
deriving DecidableEq

/-- Progress of which some is given; a date may be given as `undefined`. -/
structure MigrationProgressPatch where
  totalDocuments : Option Number := none
  migratedDocuments : Option Number := none
  divergenceCount : Option Number := none
  shadowReadStartedAt : Option (Option Int) := none
  lastChecksumAt : Option (Option Int) := none

/-- `Object.assign(progress, patch)`. -/
def MigrationProgress.assign (progress : MigrationProgress) (patch : MigrationProgressPatch) :
    MigrationProgress where
  totalDocuments := patch.totalDocuments.getD progress.totalDocuments
  migratedDocuments := patch.migratedDocuments.getD progress.migratedDocuments
  divergenceCount := patch.divergenceCount.getD progress.divergenceCount
  shadowReadStartedAt := patch.shadowReadStartedAt.getD progress.shadowReadStartedAt
  lastChecksumAt := patch.lastChecksumAt.getD progress.lastChecksumAt

/-- `matched` is the field `match`. -/
structure DomainChecksum where
  domain : EntityDomain
  sourceChecksum : String
  targetChecksum : String
  matched : Bool
  computedAt : Int
deriving DecidableEq

structure MigrationPlan where
  id : String
  tenantId : String
  sourceProvider : ProviderId
  targetProvider : ProviderId
  domains : List EntityDomain
  phase : MigrationPhase
  createdAt : Int
  updatedAt : Int
  cutoverCriteria : CutoverCriteria
  progress : MigrationProgress
  checksums : List DomainChecksum
  error : Option String := none
deriving DecidableEq

/-- What the event log tells apart. -/
inductive MigrationAction where
  | planCreated
  | dualWriteStarted
  | shadowReadStarted
  | cutoverExecuted
  | migrationCompleted
  | migrationRolledBack
  | divergenceDetected
  | checksumComputed
deriving DecidableEq

def MigrationAction.name : MigrationAction → String
  | .planCreated => "plan_created"
  | .dualWriteStarted => "dual_write_started"
  | .shadowReadStarted => "shadow_read_started"
  | .cutoverExecuted => "cutover_executed"
  | .migrationCompleted => "migration_completed"
  | .migrationRolledBack => "migration_rolled_back"
  | .divergenceDetected => "divergence_detected"
  | .checksumComputed => "checksum_computed"

/-- The details logged with an action. Those of a divergence are the caller's, which may
give another `domain`. -/
inductive MigrationDetails where
  | empty
  | plan (source target : ProviderId) (domains : List EntityDomain)
  | divergenceCount (count : Number)
  | reason (text : String)
  | divergence (domain : EntityDomain) (details : Record)
  | checksum (domain : EntityDomain) (matched : Bool) (source target : String)

structure MigrationEvent where
  id : String
  migrationId : String
  phase : MigrationPhase
  action : MigrationAction
  timestamp : Int
  details : MigrationDetails

inductive MigrationError where
  | sameProviders
  | alreadyActive (tenantId planId : String)
  | notFound (planId : String)
  | wrongPhase (next actual expected : MigrationPhase)
  | cannotRollback (phase : MigrationPhase)
  | diverged (count max : Number)
  | tooEarly (elapsed : ℚ) (required : Number)
  | checksumMismatch (domains : List EntityDomain)
deriving DecidableEq

/-- `value.toFixed(0)`. -/
def toFixed0 (value : ℚ) : String :=
  if value < 0 then "-" ++ toString (-value + 1 / 2).floor else toString (value + 1 / 2).floor

def MigrationError.message (numberText : Number → String) : MigrationError → String
  | .sameProviders => "source and target providers must differ"
  | .alreadyActive tenantId planId =>
    "tenant " ++ tenantId ++ " already has an active migration: " ++ planId
  | .notFound planId => "migration plan " ++ planId ++ " not found"
  | .wrongPhase next actual expected =>
    "cannot transition to " ++ next.name ++ ": plan is in phase " ++ actual.name ++
      ", expected " ++ expected.name
  | .cannotRollback phase => "cannot rollback from phase " ++ phase.name
  | .diverged count max =>
    "divergence count " ++ numberText count ++ " exceeds max " ++ numberText max
  | .tooEarly elapsed required =>
    "shadow read has only run " ++ toFixed0 elapsed ++ "s, need " ++ numberText required ++ "s"
  | .checksumMismatch domains =>
    "checksum mismatch on domains: " ++ String.intercalate ", " (domains.map EntityDomain.name)

/-- A call of `computeChecksum` that waits for its counts. -/
structure PendingChecksum where
  planId : String
  domain : EntityDomain
  tenantId : String

structure MigrationService where
  plans : OrderedMap String MigrationPlan
  events : List MigrationEvent
  pending : List PendingChecksum

/-- What a call draws: its `n`-th `uuid()` and its `n`-th reading of the clock, in
milliseconds. -/
structure ClockDraws where
  uuid : Nat → String
  now : Nat → Int

/-- The draws after the first `uuids` ids and the first `nows` readings. -/
def ClockDraws.drop (draws : ClockDraws) (uuids nows : Nat) : ClockDraws :=
  ⟨fun n => draws.uuid (n + uuids), fun n => draws.now (n + nows)⟩

abbrev MigrationCall := Throwing MigrationService MigrationError

namespace MigrationService

def empty : MigrationService := ⟨.empty, [], []⟩

/-- A phase that leaves the tenant free for another plan. -/
def isFinished (phase : MigrationPhase) : Bool := phase = .completed || phase = .rollback

def getPlan (service : MigrationService) (id : String) : Option MigrationPlan :=
  service.plans.get id

def listPlansByTenant (service : MigrationService) (tenantId : String) : List MigrationPlan :=
  service.plans.values.filter fun plan => plan.tenantId = tenantId

def getEvents (service : MigrationService) (migrationId : String) : List MigrationEvent :=
  service.events.filter fun event => event.migrationId = migrationId

def put (service : MigrationService) (planId : String) (plan : MigrationPlan) :
    MigrationService :=
  { service with plans := service.plans.set planId plan }

def log (service : MigrationService) (migrationId : String) (phase : MigrationPhase)
    (action : MigrationAction) (details : MigrationDetails) (draws : ClockDraws) :
    MigrationService :=
  { service with
    events := service.events ++
      [{ id := draws.uuid 0, migrationId, phase, action, timestamp := draws.now 0, details }] }

def requirePlan (id : String) : MigrationCall MigrationPlan := do
  match ← reads (·.plans.get id) with
  | none => throws (.notFound id)
  | some plan => return plan

def assertPhase (plan : MigrationPlan) (expected next : MigrationPhase) :
    Except MigrationError Unit :=
  if plan.phase ≠ expected then .error (.wrongPhase next plan.phase expected) else .ok ()

def addEvent (migrationId : String) (phase : MigrationPhase) (action : MigrationAction)
    (details : MigrationDetails) (draws : ClockDraws) : MigrationCall Unit :=
  writes (·.log migrationId phase action details draws)

/-- The plan that `createPlan` stores. -/
def newPlan (tenantId : String) (sourceProvider targetProvider : ProviderId)
    (domains : List EntityDomain) (criteria : CutoverCriteriaPatch) (draws : ClockDraws) :
    MigrationPlan where
  id := draws.uuid 0
  tenantId
  sourceProvider
  targetProvider
  domains
  phase := .idle
  createdAt := draws.now 0
  updatedAt := draws.now 1
  cutoverCriteria := defaultCutoverCriteria.spread criteria
  progress := ⟨.finite 0, .finite 0, .finite 0, none, none⟩
  checksums := []

def createPlan (tenantId : String) (sourceProvider targetProvider : ProviderId)
    (domains : List EntityDomain) (criteria : CutoverCriteriaPatch) (draws : ClockDraws) :
    MigrationCall MigrationPlan := do
  if sourceProvider = targetProvider then throws .sameProviders
  match ← reads fun service => service.plans.values.find? fun plan =>
      plan.tenantId = tenantId && !isFinished plan.phase with
  | some active => throws (.alreadyActive tenantId active.id)
  | none =>
    let plan := newPlan tenantId sourceProvider targetProvider domains criteria draws
    writes (·.put plan.id plan)
    addEvent plan.id .idle .planCreated (.plan sourceProvider targetProvider domains)
      (draws.drop 1 2)
    return plan

/-- A phase transition: the plan is looked up, checked, assigned to and logged. -/
def transition (planId : String) (next : MigrationPhase)
    (check : MigrationPlan → Except MigrationError Unit) (edit : MigrationPlan → MigrationPlan)
    (action : MigrationAction) (details : MigrationPlan → MigrationDetails)
    (draws : ClockDraws) : MigrationCall MigrationPlan := do
  let plan ← requirePlan planId
  match check plan with
  | .error error => throws error
  | .ok _ =>
    let moved := { edit plan with phase := next, updatedAt := draws.now 0 }
    writes (·.put planId moved)
    addEvent planId next action (details plan) (draws.drop 0 1)
    return moved

def startDualWrite (planId : String) (draws : ClockDraws) : MigrationCall MigrationPlan :=
  transition planId .dualWrite (assertPhase · .idle .dualWrite) id .dualWriteStarted
    (fun _ => .empty) draws

def startShadowRead (planId : String) (draws : ClockDraws) : MigrationCall MigrationPlan :=
  transition planId .shadowRead (assertPhase · .dualWrite .shadowRead)
    (fun plan => { plan with progress.shadowReadStartedAt := some (draws.now 0) })
    .shadowReadStarted (fun _ => .empty) (draws.drop 0 1)

def secondsBetween (since now : Int) : ℚ := (now - since) / 1000

/-- The check of `cutover`, with the first reading of the clock. -/
def checkCutover (now : Int) (plan : MigrationPlan) : Except MigrationError Unit := do
  assertPhase plan .shadowRead .cutover
  let criteria := plan.cutoverCriteria
  if criteria.maxDivergenceCount.lessThan plan.progress.divergenceCount = some true then
    throw (.diverged plan.progress.divergenceCount criteria.maxDivergenceCount)
  if let some startedAt := plan.progress.shadowReadStartedAt then
    let elapsed := secondsBetween startedAt now
    if (Number.finite elapsed).lessThan criteria.minShadowReadSeconds = some true then
      throw (.tooEarly elapsed criteria.minShadowReadSeconds)
  if criteria.requireChecksumMatch then
    let mismatch := plan.checksums.filter fun checksum => !checksum.matched
    if mismatch.length > 0 then throw (.checksumMismatch (mismatch.map (·.domain)))

def cutover (planId : String) (draws : ClockDraws) : MigrationCall MigrationPlan :=
  transition planId .cutover (checkCutover (draws.now 0)) id .cutoverExecuted
    (fun plan => .divergenceCount plan.progress.divergenceCount) (draws.drop 0 1)

def completeMigration (planId : String) (draws : ClockDraws) : MigrationCall MigrationPlan :=
  transition planId .completed (assertPhase · .cutover .completed) id .migrationCompleted
    (fun _ => .empty) draws

/-- A plan already rolled back may be rolled back again. -/
def checkRollback (plan : MigrationPlan) : Except MigrationError Unit :=
  if plan.phase = .completed ∨ plan.phase = .idle then .error (.cannotRollback plan.phase)
  else .ok ()

def rollback (planId reason : String) (draws : ClockDraws) : MigrationCall MigrationPlan :=
  transition planId .rollback checkRollback (fun plan => { plan with error := some reason })
    .migrationRolledBack (fun _ => .reason reason) draws

def updateProgress (planId : String) (patch : MigrationProgressPatch) (draws : ClockDraws) :
    MigrationCall Unit := do
  let plan ← requirePlan planId
  writes (·.put planId
    { plan with progress := plan.progress.assign patch, updatedAt := draws.now 0 })

/-- The edits of `recordDivergence`. -/
def diverge (plan : MigrationPlan) (updatedAt : Int) : MigrationPlan :=
  { plan with
    progress.divergenceCount := plan.progress.divergenceCount.add (.finite 1), updatedAt }

def recordDivergence (planId : String) (domain : EntityDomain) (details : Record)
    (draws : ClockDraws) : MigrationCall Unit := do
  let plan ← requirePlan planId
  writes (·.put planId (diverge plan (draws.now 0)))
  addEvent planId plan.phase .divergenceDetected (.divergence domain details) (draws.drop 0 1)

/-- `computeChecksum` up to its first `await`. -/
def startChecksum (planId : String) (domain : EntityDomain) (tenantId : String) :
    MigrationCall Unit := do
  let _ ← requirePlan planId
  writes fun service =>
    { service with pending := service.pending ++ [⟨planId, domain, tenantId⟩] }

/-- The checksum of a domain whose documents have been counted on both sides. -/
def countChecksum (domain : EntityDomain) (sourceCount targetCount : Nat) (computedAt : Int) :
    DomainChecksum :=
  let srcHash := "count:" ++ toString sourceCount
  let tgtHash := "count:" ++ toString targetCount
  { domain, sourceChecksum := srcHash, targetChecksum := tgtHash
    matched := srcHash = tgtHash, computedAt }

/-- Replace the checksum of the domain, or append it. -/
def putChecksum (checksums : List DomainChecksum) (checksum : DomainChecksum) :
    List DomainChecksum :=
  match checksums.findIdx? fun old => old.domain = checksum.domain with
  | some place => checksums.set place checksum
  | none => checksums ++ [checksum]

/-- The edits of `computeChecksum`. -/
def noteChecksum (plan : MigrationPlan) (checksum : DomainChecksum)
    (lastChecksumAt updatedAt : Int) : MigrationPlan :=
  { plan with
    checksums := putChecksum plan.checksums checksum
    progress.lastChecksumAt := some lastChecksumAt, updatedAt }

/-- `computeChecksum` after its second `await`. -/
def finishChecksum (call : PendingChecksum) (sourceCount targetCount : Nat)
    (draws : ClockDraws) : MigrationCall DomainChecksum := do
  let plan ← requirePlan call.planId
  let checksum := countChecksum call.domain sourceCount targetCount (draws.now 0)
  writes (·.put call.planId (noteChecksum plan checksum (draws.now 1) (draws.now 2)))
  addEvent call.planId plan.phase .checksumComputed
    (.checksum call.domain checksum.matched checksum.sourceChecksum checksum.targetChecksum)
    (draws.drop 0 3)
  return checksum

inductive Request where
  | createPlan (tenantId : String) (sourceProvider targetProvider : ProviderId)
      (domains : List EntityDomain) (criteria : CutoverCriteriaPatch)
  | getPlan (id : String)
  | listPlansByTenant (tenantId : String)
  | startDualWrite (planId : String)
  | startShadowRead (planId : String)
  | cutover (planId : String)
  | completeMigration (planId : String)
  | rollback (planId reason : String)
  | updateProgress (planId : String) (patch : MigrationProgressPatch)
  | recordDivergence (planId : String) (domain : EntityDomain) (details : Record)
  | computeChecksum (planId : String) (domain : EntityDomain) (tenantId : String)
  | getEvents (migrationId : String)

/-- What a method returns; a checksum comes with the plan id of its call. -/
inductive Reply where
  | plan (plan : MigrationPlan)
  | lookup (found : Option MigrationPlan)
  | plans (plans : List MigrationPlan)
  | done
  | checksum (planId : String) (checksum : DomainChecksum)
  | events (events : List MigrationEvent)

def perform (draws : ClockDraws) : Request → MigrationCall Reply
  | .createPlan tenantId sourceProvider targetProvider domains criteria =>
    return .plan (← createPlan tenantId sourceProvider targetProvider domains criteria draws)
  | .getPlan id => return .lookup (← reads (·.getPlan id))
  | .listPlansByTenant tenantId => return .plans (← reads (·.listPlansByTenant tenantId))
  | .startDualWrite planId => return .plan (← startDualWrite planId draws)
  | .startShadowRead planId => return .plan (← startShadowRead planId draws)
  | .cutover planId => return .plan (← cutover planId draws)
  | .completeMigration planId => return .plan (← completeMigration planId draws)
  | .rollback planId reason => return .plan (← rollback planId reason draws)
  | .updateProgress planId patch => do
    updateProgress planId patch draws
    return .done
  | .recordDivergence planId domain details => do
    recordDivergence planId domain details draws
    return .done
  | .computeChecksum planId domain tenantId => do
    startChecksum planId domain tenantId
    return .done
  | .getEvents migrationId => return .events (← reads (·.getEvents migrationId))

/-- A call, or the end of the waiting call at a place: its counts, or the failure of one
of its repositories. -/
inductive Input where
  | call (request : Request) (draws : ClockDraws)
  | counted (place sourceCount targetCount : Nat) (draws : ClockDraws)
  | failed (place : Nat)

/-- The waiting call at `place` goes on; `none` if there is none. -/
def resume (place sourceCount targetCount : Nat) (draws : ClockDraws) : MigrationCall Reply := do
  match ← reads (·.pending[place]?) with
  | none => return .done
  | some call =>
    writes fun service => { service with pending := service.pending.eraseIdx place }
    return .checksum call.planId (← finishChecksum call sourceCount targetCount draws)

def machine : Transducer MigrationService Input (Except MigrationError Reply) where
  step service
    | .call request draws => (perform draws request).run service
    | .counted place sourceCount targetCount draws =>
      (resume place sourceCount targetCount draws).run service
    | .failed place => ({ service with pending := service.pending.eraseIdx place }, .ok .done)

end MigrationService

end Caas.Datastore
