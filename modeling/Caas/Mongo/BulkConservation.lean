import Mathlib.Data.List.Range
import Mathlib.Data.List.Perm.Basic
import Mathlib.Data.List.Nodup
import Mathlib.Data.List.Pairwise
import Caas.Mongo.BulkWriter

/-!
# What a bulk writer applies

The operations submitted are those of the bulk writes in turn and then the buffer
(`Conserved.log`), and what is applied is the first part of each bulk write; so no operation is
applied twice, in any run. They are applied in order, and all of them by the time that the
shutdown completes, in the runs in which flights do not overtake each other, none fails with
operations left, and the shutdown comes last.
-/

namespace Caas.Mongo.BulkWriter

variable {α : Type} {state : WriterState α}

theorem split_at {β : Type} {items : List β} {index : Nat} {item : β}
    (found : items[index]? = some item) :
    ∃ before after, items = before ++ item :: after ∧ before.length = index ∧
      ∀ other, items.set index other = before ++ other :: after := by
  obtain ⟨lt, rfl⟩ := List.getElem?_eq_some_iff.mp found
  refine ⟨items.take index, items.drop (index + 1), ?_, ?_, fun other => ?_⟩
  · rw [List.getElem_cons_drop, List.take_append_drop]
  · rw [List.length_take]
    omega
  · rw [List.set_eq_take_append_cons_drop, if_pos lt]

theorem take_succ {write : BulkWrite α} {next : Submission α} {rest : List (Submission α)}
    (left : write.left = next :: rest) :
    write.operations.take (write.applied + 1) = write.operations.take write.applied ++ [next] := by
  have here : write.operations[write.applied]? = some next := by
    rw [← List.head?_drop]
    exact congrArg List.head? left
  rw [List.take_add_one, here]
  rfl

/-- What is submitted is in a bulk write or in the buffer; what is applied is a first part of
each bulk write. -/
structure Conserved (state : WriterState α) : Prop where
  log : state.bulkWrites.flatMap (·.operations) ++ state.buffer = state.submitted
  numbered : state.submitted.map (·.number) = List.range state.submitted.length
  performed : state.applied.Perm
    (state.bulkWrites.flatMap fun write => write.operations.take write.applied)
  succeeded : ∀ write ∈ state.bulkWrites, write.status = .succeeded → write.left = []

namespace Conserved

theorem create (options : BulkWriterOptions) (now : Nat) :
    Conserved (create options now : WriterState α) :=
  ⟨rfl, rfl, .refl _, fun _ member => absurd member List.not_mem_nil⟩

section

variable (conserved : Conserved state)
include conserved

theorem push (operation : BulkWriteOperation α) : Conserved (state.push operation) where
  log := by
    simp [WriterState.push, ← List.append_assoc, conserved.log]
  numbered := by
    simp [WriterState.push, conserved.numbered, List.range_succ]
  performed := conserved.performed
  succeeded := conserved.succeeded

theorem flush (byShutdown : Bool) :
    Conserved (state.flush byShutdown) := by
  unfold WriterState.flush
  split
  · exact conserved
  · refine ⟨?_, conserved.numbered, ?_, ?_⟩
    · simpa [List.flatMap_append] using conserved.log
    · simpa [List.flatMap_append] using conserved.performed
    · intro write member done
      rcases List.mem_append.mp member with earlier | new
      · exact conserved.succeeded write earlier done
      · rw [List.mem_singleton.mp new] at done
        cases done

theorem checkFlush : Conserved state.checkFlush := by
  unfold WriterState.checkFlush
  split
  · exact conserved.flush false
  · exact conserved

theorem timer : Conserved state.timer := by
  unfold WriterState.timer
  split
  · exact conserved.flush false
  · exact conserved

theorem shutdown : Conserved state.shutdown := by
  have stopped : Conserved { state with isShuttingDown := true, flushTimer := false } :=
    ⟨conserved.log, conserved.numbered, conserved.performed, conserved.succeeded⟩
  unfold WriterState.shutdown
  split
  · exact ⟨conserved.log, conserved.numbered, conserved.performed, conserved.succeeded⟩
  · dsimp only
    split
    · exact ⟨conserved.log, conserved.numbered, conserved.performed, conserved.succeeded⟩
    · exact stopped.flush true

theorem applyNext (index : Nat) :
    Conserved (state.applyNext index) := by
  unfold WriterState.applyNext
  split
  · rename_i write found
    split
    · rename_i next rest status left
      obtain ⟨before, after, parts, -, replaced⟩ := split_at found
      have log := conserved.log
      have performed := conserved.performed
      have succeeded := conserved.succeeded
      rw [parts] at log performed succeeded
      refine ⟨?_, conserved.numbered, ?_, ?_⟩
      · simpa [replaced] using log
      · simp only [replaced, List.flatMap_append, List.flatMap_cons, take_succ left]
        have moved := performed.append_right [next]
        simp only [List.flatMap_append, List.flatMap_cons] at moved
        refine moved.trans ?_
        rw [List.append_assoc, List.append_assoc, List.append_assoc]
        exact (List.perm_append_comm.append_left _).append_left _
      · intro other member done
        rw [replaced] at member
        rcases List.mem_append.mp member with earlier | here
        · exact succeeded other (List.mem_append_left _ earlier) done
        · rcases List.mem_cons.mp here with rfl | later
          · rw [status] at done
            cases done
          · exact succeeded other (List.mem_append_right _ (List.mem_cons_of_mem _ later)) done
    · exact conserved
  · exact conserved

theorem finish {index : Nat} {write : BulkWrite α} (found : state.bulkWrites[index]? = some write)
    (status : WriteStatus) (complete : status = .succeeded → write.left = [])
    (shutdownCompleted : Bool) :
    Conserved { state with
      bulkWrites := state.bulkWrites.set index { write with status }
      shutdownCompleted } := by
  obtain ⟨before, after, parts, -, replaced⟩ := split_at found
  have log := conserved.log
  have performed := conserved.performed
  have succeeded := conserved.succeeded
  rw [parts] at log performed succeeded
  refine ⟨?_, conserved.numbered, ?_, ?_⟩
  · simpa [replaced] using log
  · simpa [replaced] using performed
  · intro other member done
    simp only [replaced] at member
    rcases List.mem_append.mp member with earlier | here
    · exact succeeded other (List.mem_append_left _ earlier) done
    · rcases List.mem_cons.mp here with rfl | later
      · exact complete done
      · exact succeeded other (List.mem_append_right _ (List.mem_cons_of_mem _ later)) done

theorem succeed (index : Nat) : Conserved (state.succeed index) := by
  unfold WriterState.succeed
  split
  · rename_i write found
    split
    · rename_i left
      exact conserved.finish found .succeeded (fun _ => left) _
    · exact conserved
  · exact conserved

theorem fail (index : Nat) : Conserved (state.fail index) := by
  unfold WriterState.fail
  split
  · rename_i write found
    split
    · exact conserved.finish found .failed WriteStatus.noConfusion _
    · exact conserved
  · exact conserved

theorem happen (event : Event α) :
    Conserved (happen state event) := by
  cases event with
  | insert | update | delete => exact (conserved.push _).checkFlush
  | flush => exact conserved.flush false
  | timer => exact conserved.timer
  | shutdown => exact conserved.shutdown
  | applyNext index => exact conserved.applyNext index
  | succeed index => exact conserved.succeed index
  | fail index => exact conserved.fail index
  | elapse milliseconds =>
    exact ⟨conserved.log, conserved.numbered, conserved.performed, conserved.succeeded⟩

theorem ordered :
    state.submitted.Pairwise fun first second => first.number < second.number := by
  have numbers : (state.submitted.map (·.number)).Pairwise (· < ·) := by
    rw [conserved.numbered]
    exact List.pairwise_lt_range
  exact List.pairwise_map.mp numbers

theorem sublist_submitted :
    (state.bulkWrites.flatMap fun write => write.operations.take write.applied).Sublist
      state.submitted := by
  have each : ∀ writes : List (BulkWrite α),
      (writes.flatMap fun write => write.operations.take write.applied).Sublist
        (writes.flatMap (·.operations)) := by
    intro writes
    induction writes with
    | nil => exact .slnil
    | cons write rest ih =>
      rw [List.flatMap_cons, List.flatMap_cons]
      exact (List.take_sublist _ _).append ih
  rw [← conserved.log]
  exact (each state.bulkWrites).trans (List.sublist_append_left _ _)

theorem applied_once :
    state.applied.Nodup ∧ state.applied ⊆ state.submitted := by
  have once : state.submitted.Nodup := conserved.ordered.imp fun {first second} before same =>
    absurd (same ▸ before) (Nat.lt_irrefl _)
  exact ⟨conserved.performed.nodup_iff.mpr (once.sublist conserved.sublist_submitted),
    List.Subset.trans conserved.performed.subset conserved.sublist_submitted.subset⟩

/-- The operation that a bulk write applies next was submitted after all that is applied, unless
a later bulk write has applied something. -/
theorem applied_before {index : Nat} {write : BulkWrite α} {next : Submission α}
    {rest : List (Submission α)} (found : state.bulkWrites[index]? = some write)
    (left : write.left = next :: rest)
    (first : ∀ later other, index < later → state.bulkWrites[later]? = some other →
      other.applied = 0) :
    ∀ operation ∈ state.applied, operation.number < next.number := by
  obtain ⟨before, after, parts, place, -⟩ := split_at found
  have idle : ∀ other ∈ after, other.applied = 0 := by
    intro other member
    obtain ⟨offset, inside⟩ := List.mem_iff_getElem?.mp member
    refine first (before.length + 1 + offset) other (by omega) ?_
    have beyond : before.length + 1 + offset - before.length = offset + 1 := by omega
    rwa [parts, List.getElem?_append_right (by omega), beyond, List.getElem?_cons_succ]
  obtain ⟨done, taken, halves⟩ : ∃ done, write.operations.take write.applied = done ∧
      write.operations = done ++ next :: rest :=
    ⟨_, rfl, by rw [← left, BulkWrite.left, List.take_append_drop]⟩
  have sequence : state.submitted = (before.flatMap (·.operations) ++ done) ++
      next :: (rest ++ (after.flatMap (·.operations) ++ state.buffer)) := by
    rw [← conserved.log, parts, List.flatMap_append, List.flatMap_cons, halves]
    simp
  have earlier := conserved.ordered
  rw [sequence, List.pairwise_append] at earlier
  intro operation member
  have performed := conserved.performed.mem_iff.mp member
  rw [parts, List.flatMap_append, List.flatMap_cons, List.mem_append, List.mem_append, taken]
    at performed
  rcases performed with inBefore | inWrite | inAfter
  · obtain ⟨other, listed, part⟩ := List.mem_flatMap.mp inBefore
    have submitted := List.mem_flatMap.mpr ⟨other, listed, List.mem_of_mem_take part⟩
    exact earlier.2.2 operation (List.mem_append_left _ submitted) next List.mem_cons_self
  · exact earlier.2.2 operation (List.mem_append_right _ inWrite) next List.mem_cons_self
  · obtain ⟨other, listed, part⟩ := List.mem_flatMap.mp inAfter
    rw [idle other listed, List.take_zero] at part
    exact absurd part List.not_mem_nil

end

end Conserved

/-- Bulk writes do not overtake each other, none fails or is left in flight with operations left
when the shutdown completes, and nothing is submitted after it. -/
def Undisturbed (state : WriterState α) : Event α → Prop
  | .insert _ | .update _ _ _ | .delete _ => state.isShuttingDown = false
  | .shutdown => state.isShuttingDown = true ∨ state.buffer = [] →
      ∀ write ∈ state.bulkWrites, write.status = .pending → write.left = []
  | .applyNext index => state.ordered = true → ∀ write later other,
      state.bulkWrites[index]? = some write → write.status = .pending → write.left ≠ [] →
        index < later → state.bulkWrites[later]? = some other → other.applied = 0
  | .succeed index => ∀ write, state.bulkWrites[index]? = some write →
      write.status = .pending → write.left = [] → write.byShutdown = true →
        ∀ other ∈ state.bulkWrites, other.status = .pending → other.left = []
  | .fail index => ∀ write, state.bulkWrites[index]? = some write →
      write.status = .pending → write.left = []
  | .flush | .timer | .elapse _ => True

/-- What holds in an undisturbed run. -/
structure Kept (state : WriterState α) : Prop where
  sorted : state.ordered = true →
    state.applied.Pairwise fun first second => first.number < second.number
  failed : ∀ write ∈ state.bulkWrites, write.status = .failed → write.left = []
  drained : state.isShuttingDown = true → state.buffer = []
  awaited : ∀ write ∈ state.bulkWrites, write.byShutdown = true → state.isShuttingDown = true
  completed : state.shutdownCompleted = true →
    state.isShuttingDown = true ∧ ∀ write ∈ state.bulkWrites, write.left = []

namespace Kept

theorem create (options : BulkWriterOptions) (now : Nat) :
    Kept (create options now : WriterState α) :=
  ⟨fun _ => .nil, fun _ member => absurd member List.not_mem_nil, fun _ => rfl,
    fun _ member => absurd member List.not_mem_nil, fun done => Bool.noConfusion done⟩

theorem left_eq_nil (conserved : Conserved state) (kept : Kept state)
    (landed : ∀ write ∈ state.bulkWrites, write.status = .pending → write.left = []) :
    ∀ write ∈ state.bulkWrites, write.left = [] := by
  intro write member
  cases status : write.status with
  | pending => exact landed write member status
  | succeeded => exact conserved.succeeded write member status
  | failed => exact kept.failed write member status

theorem push (kept : Kept state) (operation : BulkWriteOperation α)
    (isOpen : state.isShuttingDown = false) : Kept (state.push operation) :=
  ⟨kept.sorted, kept.failed, fun closing => absurd closing (Bool.eq_false_iff.mp isOpen),
    kept.awaited, kept.completed⟩

theorem failed_append (kept : Kept state) (operations : List (Submission α)) (byShutdown : Bool) :
    ∀ write ∈ state.bulkWrites ++ [⟨operations, 0, .pending, byShutdown⟩],
      write.status = .failed → write.left = [] := by
  intro write member failed
  rcases List.mem_append.mp member with earlier | new
  · exact kept.failed write earlier failed
  · rw [List.mem_singleton.mp new] at failed
    cases failed

theorem flush (kept : Kept state) : Kept (state.flush false) := by
  unfold WriterState.flush
  split
  · exact kept
  · rename_i filled
    refine ⟨kept.sorted, kept.failed_append _ _, fun _ => rfl, ?_,
      fun done => absurd (kept.drained (kept.completed done).1) filled⟩
    intro write member awaited
    rcases List.mem_append.mp member with earlier | new
    · exact kept.awaited write earlier awaited
    · rw [List.mem_singleton.mp new] at awaited
      cases awaited

theorem checkFlush (kept : Kept state) : Kept state.checkFlush := by
  unfold WriterState.checkFlush
  split
  · exact kept.flush
  · exact kept

theorem timer (kept : Kept state) : Kept state.timer := by
  unfold WriterState.timer
  split
  · exact kept.flush
  · exact kept

theorem shutdown (conserved : Conserved state) (kept : Kept state)
    (undisturbed : Undisturbed state .shutdown) : Kept state.shutdown := by
  unfold WriterState.shutdown
  split
  · rename_i closing
    have landed := left_eq_nil conserved kept (undisturbed (.inl closing))
    exact ⟨kept.sorted, kept.failed, kept.drained, kept.awaited, fun _ => ⟨closing, landed⟩⟩
  · rename_i isOpen
    dsimp only
    split
    · rename_i empty
      have landed := left_eq_nil conserved kept (undisturbed (.inr empty))
      exact ⟨kept.sorted, kept.failed, fun _ => empty, fun _ _ _ => rfl, fun _ => ⟨rfl, landed⟩⟩
    · rename_i filled
      rw [WriterState.flush, if_neg filled]
      exact ⟨kept.sorted, kept.failed_append _ _, fun _ => rfl, fun _ _ _ => rfl,
        fun done => absurd (kept.completed done).1 isOpen⟩

theorem applyNext (conserved : Conserved state) (kept : Kept state) (index : Nat)
    (undisturbed : Undisturbed state (.applyNext index)) : Kept (state.applyNext index) := by
  unfold WriterState.applyNext
  split
  · rename_i write found
    have listed := List.mem_of_getElem? found
    split
    · rename_i next rest status left
      have nonempty : write.left ≠ [] := left ▸ List.cons_ne_nil next rest
      refine ⟨fun inOrder => ?_, ?_, kept.drained, ?_, fun done => ?_⟩
      · have last := conserved.applied_before found left fun later other =>
          undisturbed inOrder write later other found status nonempty
        exact List.pairwise_append.mpr ⟨kept.sorted inOrder, List.pairwise_singleton _ _,
          fun earlier member other only => List.mem_singleton.mp only ▸ last earlier member⟩
      · intro other member failed
        rcases List.mem_or_eq_of_mem_set member with earlier | rfl
        · exact kept.failed other earlier failed
        · cases status.symm.trans failed
      · intro other member awaited
        rcases List.mem_or_eq_of_mem_set member with earlier | rfl
        · exact kept.awaited other earlier awaited
        · exact kept.awaited write listed awaited
      · exact absurd ((kept.completed done).2 write listed) nonempty
    · exact kept
  · exact kept

theorem finish (kept : Kept state) {index : Nat} {write : BulkWrite α}
    (found : state.bulkWrites[index]? = some write) (landed : write.left = [])
    (status : WriteStatus) {shutdownCompleted : Bool} (completes : shutdownCompleted = true →
      state.isShuttingDown = true ∧ ∀ other ∈ state.bulkWrites, other.left = []) :
    Kept { state with
      bulkWrites := state.bulkWrites.set index { write with status }
      shutdownCompleted } := by
  refine ⟨kept.sorted, ?_, kept.drained, ?_, fun done => ⟨(completes done).1, ?_⟩⟩
  · intro other member failed
    rcases List.mem_or_eq_of_mem_set member with earlier | rfl
    · exact kept.failed other earlier failed
    · exact landed
  · intro other member awaited
    rcases List.mem_or_eq_of_mem_set member with earlier | rfl
    · exact kept.awaited other earlier awaited
    · exact kept.awaited write (List.mem_of_getElem? found) awaited
  · intro other member
    rcases List.mem_or_eq_of_mem_set member with earlier | rfl
    · exact (completes done).2 other earlier
    · exact landed

theorem succeed (conserved : Conserved state) (kept : Kept state) (index : Nat)
    (undisturbed : Undisturbed state (.succeed index)) : Kept (state.succeed index) := by
  unfold WriterState.succeed
  split
  · rename_i write found
    split
    · rename_i status left
      refine kept.finish found left .succeeded fun done => ?_
      rcases Bool.or_eq_true_iff.mp done with before | awaited
      · exact kept.completed before
      · exact ⟨kept.awaited write (List.mem_of_getElem? found) awaited,
          left_eq_nil conserved kept (undisturbed write found status left awaited)⟩
    · exact kept
  · exact kept

theorem fail (kept : Kept state) (index : Nat)
    (undisturbed : Undisturbed state (.fail index)) : Kept (state.fail index) := by
  unfold WriterState.fail
  split
  · rename_i write found
    split
    · rename_i status
      exact kept.finish found (undisturbed write found status) .failed kept.completed
    · exact kept
  · exact kept

theorem happen (conserved : Conserved state) (kept : Kept state) (event : Event α)
    (undisturbed : Undisturbed state event) : Kept (happen state event) := by
  cases event with
  | insert | update | delete => exact (kept.push _ undisturbed).checkFlush
  | flush => exact kept.flush
  | timer => exact kept.timer
  | shutdown => exact shutdown conserved kept undisturbed
  | applyNext index => exact applyNext conserved kept index undisturbed
  | succeed index => exact succeed conserved kept index undisturbed
  | fail index => exact kept.fail index undisturbed
  | elapse milliseconds =>
    exact ⟨kept.sorted, kept.failed, kept.drained, kept.awaited, kept.completed⟩

theorem all_applied (kept : Kept state) (conserved : Conserved state)
    (done : state.shutdownCompleted = true) : state.submitted ⊆ state.applied := by
  obtain ⟨closing, landed⟩ := kept.completed done
  intro operation submitted
  rw [← conserved.log, kept.drained closing, List.append_nil] at submitted
  obtain ⟨write, member, listed⟩ := List.mem_flatMap.mp submitted
  have whole : write.operations.take write.applied = write.operations :=
    List.take_of_length_le (List.drop_eq_nil_iff.mp (landed write member))
  rw [conserved.performed.mem_iff]
  exact List.mem_flatMap.mpr ⟨write, member, whole.symm ▸ listed⟩

end Kept

theorem ordered_flush (byShutdown : Bool) : (state.flush byShutdown).ordered = state.ordered := by
  unfold WriterState.flush
  split <;> rfl

theorem ordered_checkFlush : state.checkFlush.ordered = state.ordered := by
  unfold WriterState.checkFlush
  split
  · exact ordered_flush false
  · rfl

theorem ordered_happen (event : Event α) : (happen state event).ordered = state.ordered := by
  cases event with
  | insert | update | delete => exact ordered_checkFlush
  | flush => exact ordered_flush false
  | timer =>
    simp only [happen, WriterState.timer]
    split
    · exact ordered_flush false
    · rfl
  | shutdown =>
    simp only [happen, WriterState.shutdown]
    split
    · rfl
    · split
      · rfl
      · exact ordered_flush true
  | applyNext index | succeed index | fail index =>
    simp only [happen, WriterState.applyNext, WriterState.succeed, WriterState.fail]
    repeat' split
    all_goals rfl
  | elapse milliseconds => rfl

theorem conserved_run (options : BulkWriterOptions) (now : Nat) (events : List (Event α)) :
    Conserved (machine.run (create options now) events) :=
  @Transducer.Admits.invariant _ _ _ machine (fun _ _ => True) Conserved
    (fun _ event conserved _ => conserved.happen event) _ _
    (Transducer.admits_of_forall (fun _ _ => trivial) _ events) (.create options now)

theorem kept_run {options : BulkWriterOptions} {now : Nat} {events : List (Event α)}
    (undisturbed : machine.Admits Undisturbed (create options now) events) :
    Kept (machine.run (create options now) events) := by
  have both := @Transducer.Admits.invariant _ _ _ machine Undisturbed
    (fun state : WriterState α => Conserved state ∧ Kept state)
    (fun _ event holds guarded =>
      ⟨holds.1.happen event, Kept.happen holds.1 holds.2 event guarded⟩) _ _ undisturbed
    ⟨.create options now, .create options now⟩
  exact both.2

theorem ordered_run (options : BulkWriterOptions) (now : Nat) (events : List (Event α)) :
    (machine.run (create options now : WriterState α) events).ordered =
      decide (options.ordered ≠ some false) :=
  @Transducer.Admits.invariant _ _ _ machine (fun _ _ => True)
    (fun state : WriterState α => state.ordered = decide (options.ordered ≠ some false))
    (fun _ event same _ => (ordered_happen event).trans same) _ _
    (Transducer.admits_of_forall (fun _ _ => trivial) _ events) rfl

/-- In every run each operation is applied at most once; in an undisturbed one they are applied
in the order of their submission, and all of them when the shutdown has completed. -/
theorem operations_are_kept (options : BulkWriterOptions) (now : Nat) (events : List (Event α)) :
    let after := machine.run (create options now) events
    (after.applied.Nodup ∧ after.applied ⊆ after.submitted) ∧
      (machine.Admits Undisturbed (create options now) events →
        (options.ordered ≠ some false →
          after.applied.Pairwise fun first second => first.number < second.number) ∧
        (after.shutdownCompleted = true → after.submitted ⊆ after.applied)) := by
  have conserved := conserved_run options now events
  refine ⟨conserved.applied_once, fun undisturbed => ?_⟩
  have kept := kept_run undisturbed
  refine ⟨fun inOrder => kept.sorted ?_, kept.all_applied conserved⟩
  rw [ordered_run]
  exact decide_eq_true inOrder

/-- One insertion, flushed and applied before the shutdown. -/
theorem one_insert_is_kept :
    let after := machine.run (create { batchSize := some 1 } 0)
      [.insert "a", .applyNext 0, .succeed 0, .shutdown]
    after.submitted ⊆ after.applied := by
  refine ((operations_are_kept { batchSize := some 1 } 0
    [.insert "a", .applyNext 0, .succeed 0, .shutdown]).2 ⟨rfl, ?_, ?_, ?_, trivial⟩).2 rfl
  · rintro - write later other - - - beyond found
    obtain ⟨later, rfl⟩ := Nat.exists_eq_add_of_lt beyond
    rw [Nat.zero_add] at found
    exact absurd found (Option.some_ne_none other).symm
  · rintro write ⟨⟩ - - awaited
    cases awaited
  · rintro - write member status
    rw [List.mem_singleton.mp member] at status
    cases status

/-- An ordered writer flushes every operation at once; the first flush fails, then `bulkWrite`
works again. -/
theorem failed_flush_is_lost :
    let after := machine.run (create { batchSize := some 1 } 0)
      [.insert "a", .fail 0, .insert "b", .applyNext 1, .succeed 1, .shutdown]
    after.shutdownCompleted = true ∧ after.submitted.length = 2 ∧
      after.applied = [⟨1, .insertOne "b"⟩] := by
  decide

end Caas.Mongo.BulkWriter
