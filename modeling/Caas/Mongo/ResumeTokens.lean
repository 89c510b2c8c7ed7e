import Caas.Mongo.ChangeStreamManager

/-!
# Which events a resume token passes

An event since the registration of the stream is passed by a token when the token is its own or
a later one, and by an opening of the stream when the stream starts behind it. At-least-once
delivery is that neither passes an event that no handler has completed: such an event is then
delivered again by every stream that is opened (`delivered_again`).

Tokens pass no such event exactly if they are stored in the order of the events, after all of
them, and if a stream that is started again finds a token.
-/

namespace Caas.Mongo.ChangeStreams

open Redis ExpiringMap

variable {config : StreamConfig} {state : StreamState}

/-- The event has occurred since the stream was registered. -/
def StreamState.Due (state : StreamState) (event : Nat) : Prop :=
  ∃ first, state.registered = some first ∧ first ≤ event

/-- All events since the registration and before `bound` have been handled. -/
def StreamState.HandledBefore (state : StreamState) (bound : Nat) : Prop :=
  ∀ event, state.Due event → event < bound → event ∈ state.succeeded

/-- Neither the token, stored or read by a starting stream, nor an open stream passes an event
that no handler has completed. -/
structure AtLeastOnce (config : StreamConfig) (state : StreamState) : Prop where
  token : ∀ token, state.token config = some token → state.HandledBefore (token + 1)
  read : ∀ token, state.stream = .tokenRead (some token) → state.HandledBefore (token + 1)
  opened : ∀ first next, state.stream = .isOpen first next → state.HandledBefore first

/-- Tokens are stored in order, and streams are opened with a token or when all is done. -/
def InTurn (config : StreamConfig) (state : StreamState) : Event → Prop
  | .tokenStored index => ∀ run, state.runs[index]? = some run → run.phase = .storing →
      0 < config.ttlSeconds → state.HandledBefore (run.event + 1)
  | .openStream => state.stream = .tokenRead none → state.HandledBefore state.occurred
  | _ => True

/-- Before the stream is first opened there is nothing of it; an open stream has delivered what
lies before its next event. -/
structure Placed (config : StreamConfig) (state : StreamState) : Prop where
  unregistered : state.registered = none → state.token config = none ∧ state.runs = [] ∧
    (∀ token, state.stream ≠ .tokenRead (some token)) ∧
    ∀ first next, state.stream ≠ .isOpen first next
  delivered : ∀ first next, state.stream = .isOpen first next →
    ∀ event, first ≤ event → event < next → ∃ run ∈ state.runs, run.event = event

theorem atLeastOnce_initial : AtLeastOnce config initial :=
  ⟨fun _ found => absurd found (Option.some_ne_none _).symm,
    fun _ closed => Stream.noConfusion closed, fun _ _ closed => Stream.noConfusion closed⟩

theorem placed_initial : Placed config initial :=
  ⟨fun _ => ⟨rfl, rfl, fun _ closed => Stream.noConfusion closed,
    fun _ _ closed => Stream.noConfusion closed⟩, fun _ _ closed => Stream.noConfusion closed⟩

theorem Placed.registered_of_run (placed : Placed config state) {index : Nat} {run : HandlerRun}
    (found : state.runs[index]? = some run) : state.registered ≠ none := by
  intro unopened
  rw [(placed.unregistered unopened).2.1] at found
  exact absurd found (Option.some_ne_none run).symm

/-- What an event leaves: the state as it was, or what the event stands for. -/
inductive Moves (config : StreamConfig) (state : StreamState) : Event → StreamState → Prop where
  | idle (event : Event) : Moves config state event state
  | occur : Moves config state .occur { state with occurred := state.occurred + 1 }
  | start : Moves config state .start { state with stream := .starting }
  | readToken :
    Moves config state .readToken { state with stream := .tokenRead (state.token config) }
  | readFails : Moves config state .readFails { state with stream := .tokenRead none }
  | openStream {resumeToken : Option Nat} (read : state.stream = .tokenRead resumeToken) :
    Moves config state .openStream (state.watch resumeToken)
  | deliver {first next : Nat} (opened : state.stream = .isOpen first next)
      (before : next < state.occurred) :
    Moves config state .deliver
      { state with stream := .isOpen first (next + 1), runs := state.runs ++ [⟨next, .handling⟩] }
  | handlerSucceeds {index : Nat} {run : HandlerRun} (found : state.runs[index]? = some run) :
    Moves config state (.handlerSucceeds index)
      { state.move index run .storing with succeeded := run.event :: state.succeeded }
  | handlerFails {index : Nat} {run : HandlerRun} (found : state.runs[index]? = some run) :
    Moves config state (.handlerFails index) (state.move index run .ended)
  | tokenStored {index : Nat} {run : HandlerRun} (found : state.runs[index]? = some run) :
    Moves config state (.tokenStored index)
      ((state.storeToken config run.event).move index run .ended)
  | storeFails {index : Nat} {run : HandlerRun} (found : state.runs[index]? = some run) :
    Moves config state (.storeFails index) (state.move index run .ended)
  | streamError : Moves config state .streamError { state with stream := .closed }
  | crash : Moves config state .crash { state with stream := .closed, runs := [] }
  | elapse (milliseconds : Nat) :
    Moves config state (.elapse milliseconds) { state with now := state.now + milliseconds }

theorem happen_moves (event : Event) : Moves config state event (happen config state event) := by
  cases event with
  | occur => exact .occur
  | start | readToken | readFails =>
    simp only [happen]
    split
    · constructor
    · exact .idle _
  | openStream =>
    simp only [happen]
    split
    · exact .openStream ‹_›
    · exact .idle _
  | deliver =>
    simp only [happen]
    split
    · split
      · exact .deliver ‹_› ‹_›
      · exact .idle _
    · exact .idle _
  | handlerSucceeds index | handlerFails index | tokenStored index | storeFails index =>
    simp only [happen]
    split
    · rename_i run found
      split
      · constructor
        exact found
      · exact .idle _
    · exact .idle _
  | streamError => exact .streamError
  | crash => exact .crash
  | elapse milliseconds => exact .elapse milliseconds

section Steps

variable {state' : StreamState}

theorem handledBefore_of_subset {bound : Nat} (handled : state.HandledBefore bound)
    (registered : state'.registered = state.registered)
    (subset : state.succeeded ⊆ state'.succeeded) : state'.HandledBefore bound := by
  rintro event ⟨first, opened, later⟩ before
  exact subset (handled event ⟨first, registered ▸ opened, later⟩ before)

theorem AtLeastOnce.mono (holds : AtLeastOnce config state)
    (registered : state'.registered = state.registered)
    (subset : state.succeeded ⊆ state'.succeeded)
    (token : ∀ token, state'.token config = some token → state.token config = some token)
    (read : ∀ token, state'.stream = .tokenRead (some token) →
      state.stream = .tokenRead (some token) ∨ state.token config = some token)
    (opened : ∀ first next, state'.stream = .isOpen first next →
      ∃ earlier, state.stream = .isOpen first earlier) : AtLeastOnce config state' := by
  refine ⟨fun number found => ?_, fun number found => ?_, fun first next found => ?_⟩
  · exact handledBefore_of_subset (holds.token number (token number found)) registered subset
  · rcases read number found with before | stored
    · exact handledBefore_of_subset (holds.read number before) registered subset
    · exact handledBefore_of_subset (holds.token number stored) registered subset
  · obtain ⟨earlier, before⟩ := opened first next found
    exact handledBefore_of_subset (holds.opened first earlier before) registered subset

theorem AtLeastOnce.unmoved (holds : AtLeastOnce config state)
    (registered : state'.registered = state.registered)
    (subset : state.succeeded ⊆ state'.succeeded)
    (token : state'.token config = state.token config) (stream : state'.stream = state.stream) :
    AtLeastOnce config state' :=
  holds.mono registered subset (fun _ found => token ▸ found) (fun _ found => .inl (stream ▸ found))
    fun _ next found => ⟨next, stream ▸ found⟩

theorem AtLeastOnce.closed (holds : AtLeastOnce config state)
    (registered : state'.registered = state.registered)
    (succeeded : state'.succeeded = state.succeeded)
    (token : state'.token config = state.token config)
    (read : ∀ token, state'.stream = .tokenRead (some token) → state.token config = some token)
    (opened : ∀ first next, state'.stream ≠ .isOpen first next) : AtLeastOnce config state' :=
  holds.mono registered (succeeded ▸ List.Subset.refl _) (fun _ found => token ▸ found)
    (fun number found => .inr (read number found))
    fun first next found => absurd found (opened first next)

theorem token_storeToken (number : Nat) : (state.storeToken config number).token config =
      if 0 < config.ttlSeconds then some number else state.token config := by
  unfold StreamState.storeToken StreamState.token
  split
  · rename_i positive
    exact (lookup_store (by omega)).trans (if_pos rfl)
  · rfl

theorem storeToken_frame (number : Nat) :
    (state.storeToken config number).registered = state.registered ∧
      (state.storeToken config number).succeeded = state.succeeded ∧
      (state.storeToken config number).stream = state.stream ∧
      (state.storeToken config number).runs = state.runs := by
  unfold StreamState.storeToken
  split <;> exact ⟨rfl, rfl, rfl, rfl⟩

theorem atLeastOnce_storeToken_iff (holds : AtLeastOnce config state) (number : Nat) :
    AtLeastOnce config (state.storeToken config number) ↔
      (0 < config.ttlSeconds → state.HandledBefore (number + 1)) := by
  obtain ⟨registered, succeeded, stream, -⟩ := @storeToken_frame config state number
  have stored := @token_storeToken config state number
  constructor
  · intro after positive
    rw [if_pos positive] at stored
    exact handledBefore_of_subset (after.token number stored) registered.symm
      (succeeded ▸ List.Subset.refl _)
  · intro done
    by_cases positive : 0 < config.ttlSeconds
    · rw [if_pos positive] at stored
      have subset : state.succeeded ⊆ (state.storeToken config number).succeeded :=
        succeeded ▸ List.Subset.refl _
      refine ⟨fun token found => ?_, fun token found => ?_, fun first next found => ?_⟩
      · obtain rfl := Option.some.inj (stored.symm.trans found)
        exact handledBefore_of_subset (done positive) registered subset
      · exact handledBefore_of_subset (holds.read token (stream ▸ found)) registered subset
      · exact handledBefore_of_subset (holds.opened first next (stream ▸ found)) registered subset
    · rw [if_neg positive] at stored
      exact holds.unmoved registered (succeeded ▸ List.Subset.refl _) stored stream

theorem atLeastOnce_tokenStored_iff (holds : AtLeastOnce config state) (index : Nat) :
    AtLeastOnce config (happen config state (.tokenStored index)) ↔
      InTurn config state (.tokenStored index) := by
  simp only [happen, InTurn]
  cases found : state.runs[index]? with
  | none => exact iff_of_true holds fun run listed => absurd listed (Option.some_ne_none run).symm
  | some run =>
    dsimp only
    by_cases storing : run.phase = .storing
    · rw [if_pos storing]
      have moved : AtLeastOnce config ((state.storeToken config run.event).move index run .ended) ↔
          AtLeastOnce config (state.storeToken config run.event) :=
        ⟨fun after => after.unmoved rfl (List.Subset.refl _) rfl rfl,
          fun after => after.unmoved rfl (List.Subset.refl _) rfl rfl⟩
      rw [moved, atLeastOnce_storeToken_iff holds]
      exact ⟨fun done other same _ => Option.some.inj same ▸ done,
        fun done => done run rfl storing⟩
    · rw [if_neg storing]
      exact iff_of_true holds fun other same phase => absurd (Option.some.inj same ▸ phase) storing

theorem atLeastOnce_openStream_iff (placed : Placed config state)
    (holds : AtLeastOnce config state) :
    AtLeastOnce config (happen config state .openStream) ↔ InTurn config state .openStream := by
  simp only [happen, InTurn]
  cases position : state.stream with
  | closed | starting | isOpen first next =>
    exact iff_of_true (by simpa only [position] using holds) fun none => Stream.noConfusion none
  | tokenRead resumeToken =>
    cases opened : state.registered with
    | none =>
      -- the first opening begins with the next event and passes none
      obtain ⟨stored, -, unread, -⟩ := placed.unregistered opened
      cases resumeToken with
      | some token => exact absurd position (unread token)
      | none =>
        refine iff_of_true ⟨fun token found => ?_, fun token found => ?_, ?_⟩
          fun _ event due _ => ?_
        · exact absurd (stored.symm.trans found) (Option.some_ne_none token).symm
        · exact Stream.noConfusion found
        · rintro first next found event ⟨registered, same, later⟩ before
          simp only [StreamState.watch, opened, Option.map_none, Option.getD_none, Option.none_or]
            at same found
          obtain rfl := Option.some.inj same
          rw [← (Stream.isOpen.inj found).1] at before
          exact absurd before (Nat.not_lt.mpr later)
        · obtain ⟨first, same, -⟩ := due
          exact absurd (opened.symm.trans same) (Option.some_ne_none first).symm
    | some registered =>
      have same : (state.watch resumeToken).registered = state.registered := by
        rw [StreamState.watch, opened, Option.some_or]
      have opens : AtLeastOnce config (state.watch resumeToken) ↔
          state.HandledBefore ((resumeToken.map (· + 1)).getD state.occurred) := by
        constructor
        · exact fun after =>
            handledBefore_of_subset (after.opened _ _ rfl) same.symm (List.Subset.refl _)
        · intro done
          refine ⟨fun token found => ?_, fun token found => Stream.noConfusion found, ?_⟩
          · exact handledBefore_of_subset (holds.token token found) same (List.Subset.refl _)
          · intro first next found
            rw [← (Stream.isOpen.inj found).1]
            exact handledBefore_of_subset done same (List.Subset.refl _)
      rw [opens]
      cases resumeToken with
      | none => exact ⟨fun done _ => done, fun done => done rfl⟩
      | some token =>
        exact iff_of_true (holds.read token position) fun none =>
          absurd (Stream.tokenRead.inj none) (Option.some_ne_none token)

/-- Where no token is stored and no stream opened, no event is passed. -/
theorem AtLeastOnce.moves (holds : AtLeastOnce config state) {event : Event}
    (moves : Moves config state event state') (unstored : ∀ index, event ≠ .tokenStored index)
    (unopened : event ≠ .openStream) : AtLeastOnce config state' := by
  cases moves with
  | idle => exact holds
  | occur | handlerFails | storeFails => exact holds.unmoved rfl (List.Subset.refl _) rfl rfl
  | start | streamError | crash =>
    exact holds.closed rfl rfl rfl (fun _ found => Stream.noConfusion found)
      fun _ _ found => Stream.noConfusion found
  | readToken =>
    exact holds.closed rfl rfl rfl (fun _ found => Stream.tokenRead.inj found)
      fun _ _ found => Stream.noConfusion found
  | readFails =>
    exact holds.closed rfl rfl rfl
      (fun _ found => absurd (Stream.tokenRead.inj found) (Option.some_ne_none _).symm)
      fun _ _ found => Stream.noConfusion found
  | @deliver first next opened before =>
    refine holds.mono rfl (List.Subset.refl _) (fun _ found => found)
      (fun _ found => Stream.noConfusion found) fun first' next' found => ⟨next, ?_⟩
    rw [opened, (Stream.isOpen.inj found).1]
  | handlerSucceeds found => exact holds.unmoved rfl (List.subset_cons_self _ _) rfl rfl
  | elapse milliseconds =>
    exact holds.mono rfl (List.Subset.refl _)
      (fun _ found => lookup_of_later (Nat.le_add_right _ _) found)
      (fun _ found => .inl found) fun _ next found => ⟨next, found⟩
  | tokenStored found => exact absurd rfl (unstored _)
  | openStream read => exact absurd rfl unopened

theorem atLeastOnce_happen_iff (placed : Placed config state) (holds : AtLeastOnce config state)
    (event : Event) :
    AtLeastOnce config (happen config state event) ↔ InTurn config state event := by
  cases event with
  | tokenStored index => exact atLeastOnce_tokenStored_iff holds index
  | openStream => exact atLeastOnce_openStream_iff placed holds
  | _ =>
    exact iff_of_true (holds.moves (happen_moves _) (fun _ => Event.noConfusion)
      Event.noConfusion) trivial

theorem Placed.of_move (placed : Placed config state) {index : Nat} {run : HandlerRun}
    (found : state.runs[index]? = some run) {phase : HandlerPhase}
    (registered : state'.registered = state.registered) (stream : state'.stream = state.stream)
    (runs : state'.runs = state.runs.set index { run with phase }) : Placed config state' where
  unregistered unopened := absurd (registered ▸ unopened) (placed.registered_of_run found)
  delivered first next opened event after before := by
    obtain ⟨lt, here⟩ := List.getElem?_eq_some_iff.mp found
    obtain ⟨other, member, same⟩ :=
      placed.delivered first next (stream ▸ opened) event after before
    obtain ⟨place, inside, there⟩ := List.mem_iff_getElem.mp member
    rw [runs]
    by_cases moved : index = place
    · subst moved
      refine ⟨_, List.mem_set lt _, ?_⟩
      rw [← same, ← there, here]
    · refine ⟨other, List.mem_iff_getElem.mpr ⟨place, by rwa [List.length_set], ?_⟩, same⟩
      rw [List.getElem_set_of_ne moved, there]

theorem Placed.of_notOpen (placed : Placed config state)
    (registered : state'.registered = state.registered)
    (token : state'.token config = state.token config) (runs : state.runs = [] → state'.runs = [])
    (read : ∀ token, state'.stream = .tokenRead (some token) → state.token config = some token)
    (notOpen : ∀ first next, state'.stream ≠ .isOpen first next) : Placed config state' where
  unregistered unopened := by
    obtain ⟨stored, idle, -, -⟩ := placed.unregistered (registered ▸ unopened)
    refine ⟨token.trans stored, runs idle, fun number found => ?_, notOpen⟩
    exact absurd (stored.symm.trans (read number found)) (Option.some_ne_none number).symm
  delivered first next opened := absurd opened (notOpen first next)

theorem Placed.moves (placed : Placed config state) {event : Event}
    (moves : Moves config state event state') : Placed config state' := by
  cases moves with
  | idle => exact placed
  | occur => exact ⟨placed.unregistered, placed.delivered⟩
  | start | streamError =>
    exact placed.of_notOpen rfl rfl id (fun _ found => Stream.noConfusion found)
      fun _ _ found => Stream.noConfusion found
  | crash =>
    exact placed.of_notOpen rfl rfl (fun _ => rfl) (fun _ found => Stream.noConfusion found)
      fun _ _ found => Stream.noConfusion found
  | readToken =>
    exact placed.of_notOpen rfl rfl id (fun _ found => Stream.tokenRead.inj found)
      fun _ _ found => Stream.noConfusion found
  | readFails =>
    exact placed.of_notOpen rfl rfl id
      (fun _ found => absurd (Stream.tokenRead.inj found) (Option.some_ne_none _).symm)
      fun _ _ found => Stream.noConfusion found
  | openStream read =>
    refine ⟨fun unopened => ?_, fun first next opened event after before => ?_⟩
    · cases registered : state.registered <;>
        simp [StreamState.watch, registered] at unopened
    · obtain ⟨rfl, rfl⟩ := Stream.isOpen.inj opened
      exact absurd before (Nat.not_lt.mpr after)
  | deliver opened before =>
    refine ⟨fun unopened => absurd opened ((placed.unregistered unopened).2.2.2 _ _),
      fun first' next' opened' event after before => ?_⟩
    obtain ⟨rfl, rfl⟩ := Stream.isOpen.inj opened'
    rcases Nat.lt_succ_iff_lt_or_eq.mp before with earlier | rfl
    · obtain ⟨run, member, same⟩ := placed.delivered _ _ opened event after earlier
      exact ⟨run, List.mem_append_left _ member, same⟩
    · exact ⟨_, List.mem_append_right _ (List.mem_singleton_self _), rfl⟩
  | handlerSucceeds found | handlerFails found | storeFails found =>
    exact placed.of_move found rfl rfl rfl
  | @tokenStored index run found =>
    obtain ⟨registered, -, stream, runs⟩ := @storeToken_frame config state run.event
    exact placed.of_move found registered stream (by rw [StreamState.move, runs])
  | elapse milliseconds =>
    refine ⟨fun unopened => ?_, placed.delivered⟩
    obtain ⟨stored, rest⟩ := placed.unregistered unopened
    refine ⟨?_, rest⟩
    by_contra found
    obtain ⟨token, found⟩ := Option.ne_none_iff_exists'.mp found
    have before : state.token config = some token :=
      lookup_of_later (Nat.le_add_right _ _) found
    exact absurd (stored.symm.trans before) (Option.some_ne_none token).symm

theorem Placed.happen (placed : Placed config state) (event : Event) :
    Placed config (happen config state event) :=
  placed.moves (happen_moves event)

end Steps

theorem stream_run_deliver {first next : Nat} (opened : state.stream = .isOpen first next)
    (deliveries : Nat) (occurred : next + deliveries ≤ state.occurred) :
    ((machine config).run state (List.replicate deliveries .deliver)).stream =
      .isOpen first (next + deliveries) := by
  induction deliveries generalizing state next with
  | zero => exact opened
  | succ deliveries ih =>
    have before : next < state.occurred := by omega
    have delivers : happen config state .deliver =
        { state with
          stream := .isOpen first (next + 1), runs := state.runs ++ [⟨next, .handling⟩] } := by
      simp [happen, opened, if_pos before]
    rw [List.replicate_succ, Transducer.run_cons, Nat.add_comm deliveries 1, ← Nat.add_assoc]
    change ((machine config).run (happen config state .deliver) _).stream = _
    rw [delivers]
    exact ih rfl (by
      change next + 1 + deliveries ≤ state.occurred
      omega)

theorem placed_run (placed : Placed config state) (events : List Event) :
    Placed config ((machine config).run state events) :=
  @Transducer.Admits.invariant _ _ _ (machine config) (fun _ _ => True) (Placed config)
    (fun _ event placed _ => placed.happen event) _ _
    (Transducer.admits_of_forall (fun _ _ => trivial) _ events) placed

theorem delivered_again (placed : Placed config state) (holds : AtLeastOnce config state)
    {first next event : Nat} (opened : state.stream = .isOpen first next) (due : state.Due event)
    (occurred : event < state.occurred) (unhandled : event ∉ state.succeeded) :
    ∃ run ∈ ((machine config).run state (List.replicate (event + 1 - next) .deliver)).runs,
      run.event = event := by
  have after : first ≤ event := by
    by_contra passed
    exact unhandled (holds.opened first next opened event due (Nat.not_le.mp passed))
  by_cases behind : event < next
  · rw [Nat.sub_eq_zero_of_le behind]
    exact placed.delivered first next opened event after behind
  · have reached := @stream_run_deliver config state first next opened (event + 1 - next) (by omega)
    exact (placed_run placed _).delivered first _ reached event after (by omega)

/-- Whatever happens, neither the resume token nor a stream that is opened passes an event which
no handler has completed, exactly if tokens are stored in the order of the events and streams are
opened with one; and then every open stream comes to deliver such an event. -/
theorem delivery_iff (config : StreamConfig) (events : List Event) :
    ((∀ count, AtLeastOnce config ((machine config).run initial (events.take count))) ↔
      (machine config).Admits (InTurn config) initial events) ∧
    ((machine config).Admits (InTurn config) initial events → ∀ count first next event,
      let state := (machine config).run initial (events.take count)
      state.stream = .isOpen first next → state.Due event → event < state.occurred →
        event ∉ state.succeeded →
          ∃ run ∈ ((machine config).run state (List.replicate (event + 1 - next) .deliver)).runs,
            run.event = event) := by
  have exact := @Transducer.forall_prefix_iff_admits_of _ _ _ (machine config) (fun _ _ => True)
    (InTurn config) (Placed config) (AtLeastOnce config)
    (fun _ event placed _ => placed.happen event)
    (fun _ event placed _ holds => atLeastOnce_happen_iff placed holds event) initial events
    (Transducer.admits_of_forall (fun _ _ => trivial) _ events) placed_initial atLeastOnce_initial
  refine ⟨exact, fun inTurn count first next event opened due occurred unhandled => ?_⟩
  exact delivered_again (placed_run placed_initial _) (exact.mpr inTurn count) opened due occurred
    unhandled

/-- The first of two events fails, the second succeeds and stores its token. -/
theorem token_passes_failed_event :
    let config : StreamConfig := { name := "messages" }
    let after := (machine config).run initial
      [.start, .readToken, .openStream, .occur, .occur, .deliver, .deliver, .handlerFails 0,
        .handlerSucceeds 1, .tokenStored 1, .crash, .start, .readToken, .openStream]
    after.token config = some 1 ∧ after.succeeded = [1] ∧ after.registered = some 0 ∧
      after.stream = .isOpen 2 2 := by
  decide +kernel

end Caas.Mongo.ChangeStreams
