import Mathlib.Tactic.Linarith
import Caas.Datastore.MigrationSteps

/-!
# The gates of a cutover

What the criteria of a plan ask for is stated over the history of the service, and the
conditions say when the checks of the plan's fields give as much. The checksum gate is
one: a cutover asks whether any computed checksum differs, and not whether every domain
of the plan has one.
-/

namespace Caas.Datastore

open Js

namespace MigrationService

abbrev Recorded := MigrationService × List Note

variable {service : MigrationService} {past : List Note} {planId : String} {plan : MigrationPlan}

theorem cutover_eq_ok_iff {draws : ClockDraws} {returned : MigrationPlan} :
    (machine.step service (.call (.cutover planId) draws)).2 = .ok (.plan returned) ↔
      ∃ plan, service.plans.get planId = some plan ∧ Meets (draws.now 0) plan ∧
        returned = { plan with phase := .cutover, updatedAt := draws.now 1 } := by
  change ((Throwing.run (do return .plan (← cutover planId draws) : MigrationCall Reply)
    service)).2 = _ ↔ _
  rw [Throwing.run_wrapped, cutover, run_transition]
  cases decided : service.allowed planId (checkCutover (draws.now 0)) with
  | error error =>
    refine ⟨fun answered => (nomatch answered), fun ⟨plan, stored, meets, _⟩ => ?_⟩
    rw [allowed_eq_ok_iff.mpr ⟨stored, checkCutover_eq_ok_iff.mpr meets⟩] at decided
    cases decided
  | ok plan =>
    obtain ⟨stored, passed⟩ := allowed_eq_ok_iff.mp decided
    constructor
    · intro answered
      cases answered
      exact ⟨plan, stored, checkCutover_eq_ok_iff.mp passed, rfl⟩
    · rintro ⟨found, same, meets, rfl⟩
      rw [stored, Option.some.injEq] at same
      rw [same]
      rfl

section Gate

variable {demand warrant : List Note → String → Int → MigrationPlan → Prop}

/-- A cutover succeeds only with what is demanded of the history, the time of the call and
the plan. -/
def Gated (demand : List Note → String → Int → MigrationPlan → Prop) (current : Recorded)
    (input : Input) : Prop :=
  ∀ planId draws plan, input = .call (.cutover planId) draws →
    (machine.step current.1 input).2 = .ok (.plan plan) →
    demand current.2 planId (draws.now 0) plan

/-- A plan is not cut over, the checks being met, unless something warrants it. -/
def Warranted (warrant : List Note → String → Int → MigrationPlan → Prop) (current : Recorded)
    (input : Input) : Prop :=
  ∀ planId draws plan, input = .call (.cutover planId) draws →
    current.1.plans.get planId = some plan → Meets (draws.now 0) plan →
    warrant current.2 planId (draws.now 0) plan

theorem gated_iff_warranted (input : Input)
    (exact : ∀ planId now plan updatedAt, service.plans.get planId = some plan → Meets now plan →
      (demand past planId now { plan with phase := .cutover, updatedAt } ↔
        warrant past planId now plan)) :
    Gated demand (service, past) input ↔ Warranted warrant (service, past) input := by
  constructor
  · intro gated planId draws plan called stored meets
    subst called
    have answered := cutover_eq_ok_iff.mpr ⟨plan, stored, meets, rfl⟩
    exact (exact planId _ plan _ stored meets).mp (gated planId draws _ rfl answered)
  · intro warranted planId draws returned called answered
    subst called
    obtain ⟨plan, stored, meets, rfl⟩ := cutover_eq_ok_iff.mp answered
    exact (exact planId _ plan _ stored meets).mpr (warranted planId draws plan rfl stored meets)

end Gate

section Checksums

/-- What a note tells of the checksum of a domain. -/
def Note.matchOf (planId : String) (domain : EntityDomain) : Note → Option Bool
  | .checksum id of matched => if id = planId ∧ of = domain then some matched else none
  | _ => none

def latestMatch (past : List Note) (planId : String) (domain : EntityDomain) : Option Bool :=
  Transducer.latest (Note.matchOf planId domain) past

theorem latestMatch_append (new : Option Note) (domain : EntityDomain) :
    latestMatch (past ++ new.toList) planId domain =
      (new.bind (Note.matchOf planId domain)).or (latestMatch past planId domain) :=
  Transducer.latest_append ..

/-- When matching checksums are required, the latest one of each domain of the plan has
matched. -/
def ChecksumDemand (past : List Note) (planId : String) (_ : Int) (plan : MigrationPlan) : Prop :=
  plan.cutoverCriteria.requireChecksumMatch = true →
    ∀ domain ∈ plan.domains, latestMatch past planId domain = some true

/-- When matching checksums are required, each domain of the plan has a checksum. -/
def DomainsComputed (past : List Note) (planId : String) (_ : Int) (plan : MigrationPlan) : Prop :=
  plan.cutoverCriteria.requireChecksumMatch = true →
    ∀ domain ∈ plan.domains, latestMatch past planId domain ≠ none

section Put

variable {checksums : List DomainChecksum} {checksum : DomainChecksum}

theorem putChecksum_cons (first : DomainChecksum) : putChecksum (first :: checksums) checksum =
      if first.domain = checksum.domain then checksum :: checksums
      else first :: putChecksum checksums checksum := by
  unfold putChecksum
  rw [List.findIdx?_cons]
  by_cases same : first.domain = checksum.domain
  · simp [same]
  · simp only [same, decide_false, if_false]
    cases checksums.findIdx? fun old => old.domain = checksum.domain <;> rfl

theorem domain_mem_putChecksum {domain : EntityDomain} :
    domain ∈ (putChecksum checksums checksum).map (·.domain) ↔
      domain = checksum.domain ∨ domain ∈ checksums.map (·.domain) := by
  induction checksums with
  | nil => simp [putChecksum]
  | cons first rest ih =>
    rw [putChecksum_cons]
    by_cases same : first.domain = checksum.domain
    · simp [same]
    · simp only [if_neg same, List.map_cons, List.mem_cons, ih]
      tauto

theorem nodup_putChecksum (nodup : (checksums.map (·.domain)).Nodup) :
    ((putChecksum checksums checksum).map (·.domain)).Nodup := by
  induction checksums with
  | nil => simp [putChecksum]
  | cons first rest ih =>
    rw [List.map_cons, List.nodup_cons] at nodup
    rw [putChecksum_cons]
    by_cases same : first.domain = checksum.domain
    · rw [if_pos same, List.map_cons, List.nodup_cons, ← same]
      exact nodup
    · rw [if_neg same, List.map_cons, List.nodup_cons, domain_mem_putChecksum]
      exact ⟨fun member => member.elim same nodup.1, ih nodup.2⟩

theorem mem_putChecksum (nodup : (checksums.map (·.domain)).Nodup) {other : DomainChecksum} :
    other ∈ putChecksum checksums checksum ↔
      other = checksum ∨ other ∈ checksums ∧ other.domain ≠ checksum.domain := by
  induction checksums with
  | nil => simp [putChecksum]
  | cons first rest ih =>
    rw [List.map_cons, List.nodup_cons] at nodup
    rw [putChecksum_cons]
    by_cases same : first.domain = checksum.domain
    · have apart : other ∈ rest → other.domain ≠ checksum.domain := fun member equal =>
        nodup.1 (List.mem_map.mpr ⟨other, member, equal.trans same.symm⟩)
      rw [if_pos same, List.mem_cons, List.mem_cons]
      constructor
      · rintro (new | old)
        · exact .inl new
        · exact .inr ⟨.inr old, apart old⟩
      · rintro (new | ⟨rfl | old, different⟩)
        · exact .inl new
        · exact absurd same different
        · exact .inr old
    · rw [if_neg same, List.mem_cons, ih nodup.2, List.mem_cons]
      constructor
      · rintro (rfl | new | ⟨old, different⟩)
        · exact .inr ⟨.inl rfl, same⟩
        · exact .inl new
        · exact .inr ⟨.inr old, different⟩
      · rintro (new | ⟨rfl | old, different⟩)
        · exact .inr (.inl new)
        · exact .inl rfl
        · exact .inr (.inr ⟨old, different⟩)

end Put

def checksumsOf (plans : OrderedMap String MigrationPlan) (planId : String) :
    List DomainChecksum :=
  ((plans.get planId).map (·.checksums)).getD []

theorem checksumsOf_of_get {plans : OrderedMap String MigrationPlan}
    (stored : plans.get planId = some plan) : checksumsOf plans planId = plan.checksums := by
  rw [checksumsOf, stored]
  rfl

theorem checksumsOf_set (plans : OrderedMap String MigrationPlan) (later : MigrationPlan)
    (id : String) : checksumsOf (plans.set planId later) id =
      if planId = id then later.checksums else checksumsOf plans id := by
  unfold checksumsOf
  rw [OrderedMap.get_set]
  by_cases same : planId = id <;> simp [same]

theorem checksumsOf_set_of_eq {plans : OrderedMap String MigrationPlan} {later : MigrationPlan}
    (same : later.checksums = checksumsOf plans planId) (id : String) :
    checksumsOf (plans.set planId later) id = checksumsOf plans id := by
  rw [checksumsOf_set]
  split
  · rename_i here
    rw [same, here]
  · rfl

/-- The plans keep one checksum for each domain that has any, the latest one. -/
structure KeepsLatest (plans : OrderedMap String MigrationPlan) (past : List Note) : Prop where
  nodup : ∀ planId, ((checksumsOf plans planId).map (·.domain)).Nodup
  latest : ∀ planId domain matched, latestMatch past planId domain = some matched ↔
    ∃ checksum ∈ checksumsOf plans planId,
      checksum.domain = domain ∧ checksum.matched = matched

theorem KeepsLatest.congr {plans plans' : OrderedMap String MigrationPlan}
    (keeps : KeepsLatest plans past) {note : Option Note}
    (same : ∀ id, checksumsOf plans' id = checksumsOf plans id)
    (silent : ∀ id domain, note.bind (Note.matchOf id domain) = none) :
    KeepsLatest plans' (past ++ note.toList) := by
  constructor
  · intro id
    rw [same]
    exact keeps.nodup id
  · intro id domain matched
    rw [latestMatch_append, silent, Option.none_or, same]
    exact keeps.latest id domain matched

theorem KeepsLatest.put {plans plans' : OrderedMap String MigrationPlan}
    (keeps : KeepsLatest plans past) {checksum : DomainChecksum}
    (written : ∀ id, checksumsOf plans' id =
      if planId = id then putChecksum (checksumsOf plans id) checksum else checksumsOf plans id) :
    KeepsLatest plans'
      (past ++ (some (Note.checksum planId checksum.domain checksum.matched)).toList) := by
  constructor
  · intro id
    rw [written]
    split
    · exact nodup_putChecksum (keeps.nodup id)
    · exact keeps.nodup id
  · intro id domain matched
    rw [latestMatch_append, written, Option.bind_some, Note.matchOf]
    by_cases here : planId = id
    · subst here
      simp only [true_and, if_true, mem_putChecksum (keeps.nodup planId)]
      by_cases same : checksum.domain = domain
      · subst same
        simp only [if_true, Option.some_or, Option.some.injEq]
        constructor
        · rintro rfl
          exact ⟨checksum, .inl rfl, rfl, rfl⟩
        · rintro ⟨other, rfl | ⟨_, different⟩, equal, matches_⟩
          · exact matches_
          · exact absurd equal different
      · simp only [if_neg same, Option.none_or, keeps.latest planId domain matched]
        constructor
        · rintro ⟨other, member, rfl, matches_⟩
          exact ⟨other, .inr ⟨member, Ne.symm same⟩, rfl, matches_⟩
        · rintro ⟨other, rfl | ⟨member, _⟩, equal, matches_⟩
          · exact absurd equal same
          · exact ⟨other, member, equal, matches_⟩
    · simp only [here, false_and, if_false, Option.none_or]
      exact keeps.latest id domain matched

theorem Assigns.checksums {draws : ClockDraws} {request : Request} {later : MigrationPlan}
    (assigns : Assigns draws planId plan request later) : later.checksums = plan.checksums := by
  cases assigns <;> rfl

theorem matchOf_note_call (request : Request) (draws : ClockDraws)
    (output : Except MigrationError Reply) (domain : EntityDomain) :
    (note (.call request draws) output).bind (Note.matchOf planId domain) = none := by
  cases output with
  | error error => rw [note_error, Option.bind_none]
  | ok reply => cases request <;> rfl

theorem KeepsLatest.step {input : Input} {plans : OrderedMap String MigrationPlan}
    {output : Except MigrationError Reply} (keeps : KeepsLatest service.plans past)
    (fresh : FreshIds service input) (taken : Step service input plans output) :
    KeepsLatest plans (past ++ (note input output).toList) := by
  cases taken with
  | kept silent =>
    refine keeps.congr (fun _ => rfl) fun _ _ => ?_
    rw [silent, Option.bind_none]
  | created free =>
    refine keeps.congr (checksumsOf_set_of_eq ?_) fun _ _ => matchOf_note_call ..
    rw [checksumsOf, show service.plans.get _ = none from fresh]
    rfl
  | assigned stored assigns =>
    refine keeps.congr (checksumsOf_set_of_eq ?_) fun _ _ => matchOf_note_call ..
    rw [assigns.checksums, checksumsOf_of_get stored]
  | counted stored =>
    refine keeps.put fun id => ?_
    rw [checksumsOf_set]
    split
    · rename_i here
      rw [← here, checksumsOf_of_get stored]
      rfl
    · rfl

/-- Under the invariant a cutover that succeeds has gone wrong only with a domain that has
no checksum. -/
theorem KeepsLatest.checksums_iff (keeps : KeepsLatest service.plans past)
    (stored : service.plans.get planId = some plan) {now updatedAt : Int} (meets : Meets now plan) :
    ChecksumDemand past planId now { plan with phase := .cutover, updatedAt } ↔
      DomainsComputed past planId now plan := by
  constructor
  · intro demand required domain member absent
    have matched := demand required domain member
    rw [absent] at matched
    cases matched
  · intro computed required domain member
    obtain ⟨matched, latest⟩ := Option.ne_none_iff_exists'.mp (computed required domain member)
    obtain ⟨checksum, kept, _, same⟩ := (keeps.latest planId domain matched).mp latest
    rw [checksumsOf_of_get stored] at kept
    rw [latest, ← same, meets.matched required checksum kept]

/-- Over every run with fresh ids, cutovers are gated on the latest checksum of every domain
exactly when none of a plan that meets the checks comes before each of its domains has a
checksum. -/
theorem checksum_gate_iff (inputs : List Input) (fresh : machine.Admits FreshIds empty inputs) :
    (machine.recording note).Admits (Gated ChecksumDemand) (empty, []) inputs ↔
      (machine.recording note).Admits (Warranted DomainsComputed) (empty, []) inputs := by
  let Sound (current : Recorded) : Prop := KeepsLatest current.1.plans current.2
  have start : Sound (empty, []) := by
    refine ⟨fun _ => List.nodup_nil, fun planId domain matched => ?_⟩
    exact ⟨fun told => (nomatch told), fun ⟨_, member, _⟩ => (nomatch member)⟩
  exact Transducer.Admits.congr
    (fun current input (sound : Sound current) fresh =>
      sound.step fresh (step_cases current.1 input))
    (fun current input (sound : Sound current) _ =>
      gated_iff_warranted input fun _ _ _ _ stored meets => sound.checksums_iff stored meets)
    (Transducer.admits_recording.mpr fresh) start

/-- Shadow reads of a new plan for the users of tenant `t`. -/
def shadowReading (criteria : CutoverCriteriaPatch) : List Input :=
  [sampleCall (.createPlan "t" .mongodb .dynamodb [.users] criteria) "p" 0,
    sampleCall (.startDualWrite "p") "" 0, sampleCall (.startShadowRead "p") "" 0]

/-- The users are counted before the cutover. -/
theorem checksum_gate_of_counted_users :
    (machine.recording note).Admits (Gated ChecksumDemand) (empty, [])
      (shadowReading {} ++ [sampleCall (.computeChecksum "p" .users "t") "" 1000,
        .counted 0 7 7 ⟨fun _ => "", fun _ => 2000⟩, sampleCall (.cutover "p") "" 300000]) := by
  refine (checksum_gate_iff _ ?_).mpr ?_
  · exact ⟨rfl, trivial, trivial, trivial, trivial, trivial, trivial⟩
  · refine ⟨?_, ?_, ?_, ?_, ?_, ?_, trivial⟩ <;>
      intro planId draws plan called stored meets required domain member absent <;>
      cases called
    cases stored
    rw [List.mem_singleton.mp member] at absent
    cases absent

theorem exists_shadowReading (criteria : CutoverCriteriaPatch) :
    ∃ plan, ((machine.recording note).run (empty, []) (shadowReading criteria)).1.plans.get "p" =
        some plan ∧ plan.phase = .shadowRead ∧ plan.progress.divergenceCount = .finite 0 ∧
      plan.progress.shadowReadStartedAt = some 0 ∧
      plan.cutoverCriteria = defaultCutoverCriteria.spread criteria ∧ plan.domains = [.users] ∧
      plan.checksums = [] := ⟨_, rfl, rfl, rfl, rfl, rfl, rfl, rfl⟩

theorem meets_of_no_checksums {now startedAt : Int} (reading : plan.phase = .shadowRead)
    (within : plan.cutoverCriteria.maxDivergenceCount.lessThan plan.progress.divergenceCount ≠
      some true) (started : plan.progress.shadowReadStartedAt = some startedAt)
    (long : Lasts startedAt now plan.cutoverCriteria.minShadowReadSeconds)
    (uncounted : plan.checksums = []) : Meets now plan := by
  refine ⟨reading, within, fun since same => ?_, fun _ checksum member => ?_⟩
  · rw [started, Option.some.injEq] at same
    exact same ▸ long
  · rw [uncounted] at member
    exact absurd member List.not_mem_nil

/-- With the default criteria a plan is cut over before anything was counted. -/
theorem cutover_without_checksums :
    machine.Admits FreshIds empty (shadowReading {} ++ [sampleCall (.cutover "p") "" 300000]) ∧
      ¬ (machine.recording note).Admits (Gated ChecksumDemand) (empty, [])
        (shadowReading {} ++ [sampleCall (.cutover "p") "" 300000]) := by
  refine ⟨⟨rfl, trivial, trivial, trivial, trivial⟩, ?_⟩
  rintro ⟨_, _, _, gate, _⟩
  obtain ⟨plan, stored, reading, count, started, criteria, domains, checksums⟩ :=
    exists_shadowReading {}
  have meets : Meets 300000 plan := by
    refine meets_of_no_checksums reading ?_ started ?_ checksums
    · rw [count, criteria]
      decide
    · rw [criteria]
      norm_num [Lasts, secondsBetween, Number.lessThan, CutoverCriteria.spread,
        defaultCutoverCriteria]
  have answered := (@cutover_eq_ok_iff _ "p" ⟨fun _ => "", fun _ => 300000⟩ _).mpr
    ⟨plan, stored, meets, rfl⟩
  have matched := gate "p" _ _ rfl answered (by rw [criteria]; rfl) .users
    (by rw [domains]; exact List.mem_singleton.mpr rfl)
  cases matched

end Checksums

end MigrationService

end Caas.Datastore
