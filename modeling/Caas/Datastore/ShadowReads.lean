import Caas.Datastore.CutoverGates

/-!
# Shadow reads without divergence

A cutover compares the time since the plan's start of shadow reading and the plan's count
of divergences with the criteria. It never asks when the last divergence was, and progress
updates may change both fields. `Undermined` lists what comes of that, and `Strict` says
what rules it out.
-/

namespace Caas.Datastore

open Js

namespace MigrationService

variable {service : MigrationService} {past : List Note} {planId : String} {plan : MigrationPlan}

/-- What a note tells of the start of shadow reads. -/
def Note.startOf (planId : String) : Note → Option Int
  | .shadowRead id startedAt => if id = planId then some startedAt else none
  | _ => none

def shadowReadStart (past : List Note) (planId : String) : Option Int :=
  Transducer.latest (Note.startOf planId) past

/-- Shadow reading has run for the seconds that the criteria ask for, and no divergence was
recorded during the last of them. -/
def ShadowReadDemand (past : List Note) (planId : String) (now : Int) (plan : MigrationPlan) :
    Prop :=
  (∃ startedAt, shadowReadStart past planId = some startedAt ∧
      Lasts startedAt now plan.cutoverCriteria.minShadowReadSeconds) ∧
    ∀ recordedAt, .divergence planId recordedAt ∈ past →
      Lasts recordedAt now plan.cutoverCriteria.minShadowReadSeconds

/-- How a plan that meets the checks of a cutover may still lack the time without
divergence. -/
inductive Undermined (past : List Note) (planId : String) (now : Int) (plan : MigrationPlan) : Prop
  /-- The start of shadow reading has been cleared or moved back, and the real one is not
  long enough ago. -/
  | backdated {startedAt : Int} (started : shadowReadStart past planId = some startedAt)
      (moved : ∀ since, plan.progress.shadowReadStartedAt = some since → since < startedAt)
      (short : ¬ Lasts startedAt now plan.cutoverCriteria.minShadowReadSeconds)
  /-- A divergence was recorded not long enough ago, and the criteria tolerate one. -/
  | tolerated {recordedAt : Int} (recorded : .divergence planId recordedAt ∈ past)
      (lenient : plan.cutoverCriteria.maxDivergenceCount.lessThan (.finite 1) ≠ some true)
      (short : ¬ Lasts recordedAt now plan.cutoverCriteria.minShadowReadSeconds)
  /-- A divergence was recorded not long enough ago, and the count has been lowered since. -/
  | forgotten {recordedAt : Int} (recorded : .divergence planId recordedAt ∈ past)
      (lowered : plan.progress.divergenceCount.lessThan (.finite 1) ≠ some false)
      (short : ¬ Lasts recordedAt now plan.cutoverCriteria.minShadowReadSeconds)

theorem lessThan_of_one_between {limit count : Number}
    (strict : limit.lessThan (.finite 1) = some true)
    (counted : count.lessThan (.finite 1) = some false) : limit.lessThan count = some true := by
  cases limit <;> cases count <;> simp_all [Number.lessThan]
  linarith

theorem Lasts.of_le {since earlier now : Int} {seconds : Number} (lasts : Lasts since now seconds)
    (order : earlier ≤ since) : Lasts earlier now seconds := by
  have longer : secondsBetween since now ≤ secondsBetween earlier now := by
    have ordered : (earlier : ℚ) ≤ since := Int.cast_le.mpr order
    unfold secondsBetween
    linarith
  cases seconds with
  | finite required =>
    simp only [Lasts, Number.lessThan, ne_eq, Option.some.injEq, decide_eq_true_eq, not_lt]
      at lasts ⊢
    exact lasts.trans longer
  | nan | negInfinity | infinity => exact lasts

/-- Every plan that reads in the shadow has started to. -/
def Started (plans : OrderedMap String MigrationPlan) (past : List Note) : Prop :=
  ∀ planId plan, plans.get planId = some plan → plan.phase = .shadowRead →
    shadowReadStart past planId ≠ none

theorem shadowReadStart_append {new : Option Note} (started : shadowReadStart past planId ≠ none) :
    shadowReadStart (past ++ new.toList) planId ≠ none := by
  intro absent
  rw [shadowReadStart, Transducer.latest_append, Option.or_eq_none_iff] at absent
  exact started absent.2

theorem Assigns.started {draws : ClockDraws} {request : Request} {later : MigrationPlan}
    {reply : Reply} (assigns : Assigns draws planId plan request later)
    (reading : later.phase = .shadowRead) : plan.phase = .shadowRead ∨
      note (.call request draws) (.ok reply) = some (.shadowRead planId (draws.now 0)) := by
  cases assigns with
  | startShadowRead => exact .inr rfl
  | updateProgress | recordDivergence => exact .inl reading
  | startDualWrite | cutover | completeMigration | rollback => cases reading

theorem Started.set {plans : OrderedMap String MigrationPlan} {later : MigrationPlan}
    {new : Option Note} (started : Started plans past)
    (here : later.phase = .shadowRead → shadowReadStart (past ++ new.toList) planId ≠ none) :
    Started (plans.set planId later) (past ++ new.toList) := by
  intro id found stored reading
  rw [OrderedMap.get_set] at stored
  split at stored
  · rename_i same
    cases stored
    exact same ▸ here reading
  · exact shadowReadStart_append (started id found stored reading)

theorem Started.step {input : Input} {plans : OrderedMap String MigrationPlan}
    {output : Except MigrationError Reply} (started : Started service.plans past)
    (taken : Step service input plans output) :
    Started plans (past ++ (note input output).toList) := by
  cases taken with
  | kept =>
    exact fun id found stored reading => shadowReadStart_append (started id found stored reading)
  | created free => exact started.set nofun
  | assigned stored assigns =>
    refine started.set fun reading => ?_
    obtain old | new := assigns.started reading
    · exact shadowReadStart_append (started _ _ stored old)
    · rw [shadowReadStart, Transducer.latest_append, new, Option.bind_some, Note.startOf,
        if_pos rfl]
      exact fun absent => nomatch absent
  | counted stored =>
    exact started.set fun reading => shadowReadStart_append (started _ _ stored reading)

/-- A plan that meets the checks lacks the time without divergence only if it is
undermined. -/
theorem Started.shadowReads_iff (started : Started service.plans past)
    (stored : service.plans.get planId = some plan) {now updatedAt : Int} (meets : Meets now plan) :
    ShadowReadDemand past planId now { plan with phase := .cutover, updatedAt } ↔
      ¬ Undermined past planId now plan := by
  obtain ⟨startedAt, start⟩ :=
    Option.ne_none_iff_exists'.mp (started planId plan stored meets.reading)
  constructor
  · rintro ⟨⟨since, actual, long⟩, quiet⟩ undermined
    obtain ⟨same, _, short⟩ | ⟨recorded, _, short⟩ | ⟨recorded, _, short⟩ := undermined
    · rw [actual, Option.some.injEq] at same
      exact short (same ▸ long)
    · exact short (quiet _ recorded)
    · exact short (quiet _ recorded)
  · intro sound
    refine ⟨⟨startedAt, start, ?_⟩, fun recordedAt recorded => ?_⟩
    · by_contra short
      refine sound (.backdated start (fun since told => ?_) short)
      by_contra late
      exact short ((meets.elapsed since told).of_le (Int.not_lt.mp late))
    · by_contra short
      by_cases strict : plan.cutoverCriteria.maxDivergenceCount.lessThan (.finite 1) = some true
      · refine sound (.forgotten recorded (fun counted => ?_) short)
        exact meets.tolerated (lessThan_of_one_between strict counted)
      · exact sound (.tolerated recorded strict short)

/-- Over every run, cutovers are gated on the time of shadow reading without divergence
exactly when no plan that meets the checks is undermined as it is cut over. -/
theorem shadow_read_gate_iff (inputs : List Input) :
    (machine.recording note).Admits (Gated ShadowReadDemand) (empty, []) inputs ↔
      (machine.recording note).Admits
        (Warranted fun past planId now plan => ¬ Undermined past planId now plan)
        (empty, []) inputs := by
  let Sound (current : Recorded) : Prop := Started current.1.plans current.2
  have start : Sound (empty, []) := fun _ _ stored => nomatch stored
  exact Transducer.Admits.congr
    (fun current input (sound : Sound current) (_ : True) =>
      sound.step (step_cases current.1 input))
    (fun current input (sound : Sound current) _ =>
      gated_iff_warranted input fun _ _ _ _ stored meets => sound.shadowReads_iff stored meets)
    (Transducer.admits_of_forall (fun _ _ => trivial) _ _) start

/-- Five divergences are tolerated, and one is recorded a second before the cutover. -/
def diverging : List Input :=
  shadowReading { maxDivergenceCount := some (.finite 5) } ++
    [sampleCall (.recordDivergence "p" .users .empty) "" 299000]

theorem exists_diverging :
    ∃ plan, ((machine.recording note).run (empty, []) diverging).1.plans.get "p" = some plan ∧
      plan.phase = .shadowRead ∧ plan.progress.divergenceCount = (Number.finite 0).add (.finite 1) ∧
      plan.progress.shadowReadStartedAt = some 0 ∧
      plan.cutoverCriteria = ⟨.finite 300, .finite 5, true⟩ ∧ plan.checksums = [] :=
  ⟨_, rfl, rfl, rfl, rfl, rfl, rfl⟩

/-- The plan is cut over all the same. -/
theorem cutover_after_divergence :
    machine.Admits FreshIds empty (diverging ++ [sampleCall (.cutover "p") "" 300000]) ∧
      ¬ (machine.recording note).Admits (Gated ShadowReadDemand) (empty, [])
        (diverging ++ [sampleCall (.cutover "p") "" 300000]) := by
  refine ⟨⟨rfl, trivial, trivial, trivial, trivial, trivial⟩, ?_⟩
  rintro ⟨_, _, _, _, gate, _⟩
  obtain ⟨plan, stored, reading, count, started, criteria, checksums⟩ := exists_diverging
  have meets : Meets 300000 plan := by
    refine meets_of_no_checksums reading ?_ started ?_ checksums
    · rw [count, criteria]
      norm_num [Number.add, Number.lessThan]
    · rw [criteria]
      norm_num [Lasts, secondsBetween, Number.lessThan]
  have answered := (@cutover_eq_ok_iff _ "p" ⟨fun _ => "", fun _ => 300000⟩ _).mpr
    ⟨plan, stored, meets, rfl⟩
  have quiet := (gate "p" _ _ rfl answered).2 299000 (List.mem_cons_of_mem _ List.mem_cons_self)
  rw [criteria] at quiet
  norm_num [Lasts, secondsBetween, Number.lessThan] at quiet

end MigrationService

end Caas.Datastore
