import Caas.Sdk.MethodRules

/-!
# When a gap in the sequence numbers is reported

A message from the server may carry a sequence number. The SDK remembers the number of the
latest message of each namespace, and reports a gap when the next one exceeds it by more than
one. Numbers that arrive late lower what is remembered, and a second acknowledgement is not
counted at all, so what is reported differs from the gaps in what has been received.
-/

namespace Caas.Sdk

open Js Procedure OrderedMap

/-- The namespace of a `sequence_gap` reconciliation. -/
def Effect.gapNamespace : Effect → Option SocketNamespace
  | .reconcileGap socketNamespace _ _ => some socketNamespace
  | _ => none

def gaps (effects : List Effect) : List SocketNamespace := effects.filterMap Effect.gapNamespace

theorem gaps_append (effects later : List Effect) : gaps (effects ++ later) =
    gaps effects ++ gaps later := List.filterMap_append

/-- A sequence number that has been received; `conflict` when its message was a second
acknowledgement. -/
structure Reception where
  socketNamespace : SocketNamespace
  sequence : ℚ
  conflict : Bool
deriving DecidableEq

/-- The sequence numbers that have been received on a namespace. -/
def sequencesOn (socketNamespace : SocketNamespace) (past : List Reception) : List ℚ :=
  (past.filter (·.socketNamespace = socketNamespace)).map (·.sequence)

/-- The number exceeds the largest that has been received by more than one. -/
def skips (past : List Reception) (socketNamespace : SocketNamespace) (number : ℚ) : Bool :=
  (sequencesOn socketNamespace past).max?.any (· + 1 < number)

/-- The number, if the message is one of the namespace that is counted. -/
def Reception.counted (socketNamespace : SocketNamespace) (received : Reception) : Option ℚ :=
  if received.socketNamespace = socketNamespace ∧ received.conflict = false then
    some received.sequence
  else none

def lastCounted (socketNamespace : SocketNamespace) (past : List Reception) : Option ℚ :=
  Transducer.latest (Reception.counted socketNamespace) past

/-- A second acknowledgement does not skip numbers. Any other message that exceeds the latest
counted number by more than one does; without such a number it does not. -/
def Orderly (past : List Reception) (received : Reception) : Prop :=
  if received.conflict then skips past received.socketNamespace received.sequence = false
  else
    match lastCounted received.socketNamespace past with
    | none => skips past received.socketNamespace received.sequence = false
    | some last =>
      last + 1 < received.sequence → skips past received.socketNamespace received.sequence = true

section Numbers

variable {past : List Reception} {socketNamespace : SocketNamespace} {number last : ℚ}

theorem mem_sequencesOn_of_lastCounted (counted : lastCounted socketNamespace past = some last) :
    last ∈ sequencesOn socketNamespace past := by
  obtain ⟨received, member, told⟩ := List.exists_of_findSome?_eq_some counted
  unfold Reception.counted at told
  split at told
  · next about =>
    cases told
    refine List.mem_map_of_mem (List.mem_filter.mpr ⟨List.mem_reverse.mp member, ?_⟩)
    exact decide_eq_true about.1
  · cases told

theorem lt_of_skips (skips : skips past socketNamespace number = true)
    (member : last ∈ sequencesOn socketNamespace past) : last + 1 < number := by
  obtain ⟨largest, found, exceeds⟩ := (Option.any_eq_true _ _).mp skips
  have least : last ≤ largest := (List.max?_eq_some_iff.mp found).2 last member
  exact (add_le_add_left least 1).trans_lt (of_decide_eq_true exceeds)

theorem orderly_iff {received : Reception} : Orderly past received ↔
    ((received.conflict = false ∧ (lastCounted received.socketNamespace past).any
      (· + 1 < received.sequence) = true) ↔
        skips past received.socketNamespace received.sequence = true) := by
  unfold Orderly
  cases conflict : received.conflict with
  | true => simp
  | false =>
    cases counted : lastCounted received.socketNamespace past with
    | none => simp
    | some last =>
      have exceeds (skipped : skips past received.socketNamespace received.sequence = true) :=
        lt_of_skips skipped (mem_sequencesOn_of_lastCounted counted)
      simp only [Bool.false_eq_true, if_false, true_and, Option.any_some, decide_eq_true_eq]
      exact ⟨fun orderly => ⟨orderly, exceeds⟩, fun same => same.mp⟩

end Numbers

namespace WebSdkCore

variable {options : SdkCoreOptions}

/-- What an input brings: the sequence number of a message that a socket listens for. -/
def reception (core : WebSdkCore) : Input → Option Reception
  | .serverEvent index eventName payload => do
    let socket ← core.sockets[index]?
    let received ← sequence payload
    if eventName ∈ DEFAULT_SOCKET_EVENT_MAP socket.socketNamespace then
      some ⟨socket.socketNamespace, received, core.conflicts payload⟩
    else none
  | _ => none

def receiving (options : SdkCoreOptions) :
    Transducer (WebSdkCore × List Reception) Input (List Effect) where
  step current input :=
    let (after, effects) := react options input current.1
    ((after, current.2 ++ (reception current.1 input).toList), effects)

/-- A gap of the namespace is reported exactly when an input brings a number that skips some. -/
def ReportsGaps (options : SdkCoreOptions) (socketNamespace : SocketNamespace)
    (current : WebSdkCore × List Reception) (input : Input) : Prop :=
  socketNamespace ∈ gaps (react options input current.1).2 ↔
    (reception current.1 input).any (fun received =>
      received.socketNamespace = socketNamespace ∧
        skips current.2 socketNamespace received.sequence) = true

/-- What the input brings on the namespace is orderly. -/
def KeepsOrder (socketNamespace : SocketNamespace) (current : WebSdkCore × List Reception)
    (input : Input) : Prop :=
  ∀ received ∈ reception current.1 input, received.socketNamespace = socketNamespace →
    Orderly current.2 received

section Frame

/-- No number is counted, and no gap is reported. -/
def Unnumbered (before after : WebSdkCore) (effects : List Effect) : Prop :=
  after.lastSequenceByNamespace = before.lastSequenceByNamespace ∧ gaps effects = []

theorem unnumbered_course : Course Unnumbered where
  nothing _ := ⟨rfl, rfl⟩
  sequel first later := by
    refine ⟨later.1.trans first.1, ?_⟩
    rw [gaps_append, first.2, later.2, List.append_nil]

theorem unnumbered_does {effect : Effect} (other : effect.gapNamespace = none) :
    Keeps Unnumbered (does effect) := by
  refine fun _ => ⟨rfl, ?_⟩
  simp [does, gaps, other]

theorem unnumbered_transition (event : EventType) : Keeps Unnumbered (transition event) := by
  intro core
  refine ⟨rfl, ?_⟩
  simp only [transition]
  split <;> rfl

theorem unnumbered_edit {change : WebSdkCore → WebSdkCore}
    (same : ∀ core, (change core).lastSequenceByNamespace = core.lastSequenceByNamespace) :
    Keeps Unnumbered (edit change) := fun core => ⟨same core, rfl⟩

theorem unnumbered_clearReconnectTimer : Keeps Unnumbered clearReconnectTimer :=
  unnumbered_edit fun _ => rfl

theorem unnumbered_scheduleReconnect : Keeps Unnumbered scheduleReconnect :=
  unnumbered_edit fun _ => rfl

theorem unnumbered_setConnected (index : Nat) (connected : Bool) :
    Keeps Unnumbered (setConnected index connected) := unnumbered_edit fun _ => rfl

variable (socketNamespace : SocketNamespace)

theorem unnumbered_onDisconnect (reason : Option String) :
    Keeps Unnumbered (onDisconnect socketNamespace reason) :=
  keeps_onDisconnect unnumbered_course (unnumbered_transition _) (unnumbered_transition _)
    unnumbered_scheduleReconnect (fun _ _ => unnumbered_does rfl) socketNamespace reason

theorem unnumbered_dropSocket : Keeps Unnumbered (dropSocket options) := by
  have closes (index : Nat) : Keeps Unnumbered (closeSocket options index) :=
    keeps_closeSocket unnumbered_course index (unnumbered_does rfl)
      (unnumbered_setConnected index false) unnumbered_onDisconnect
  exact keeps_dropSocket unnumbered_course closes (unnumbered_edit (by intro; rfl))

theorem unnumbered_disconnectSocket : Keeps Unnumbered (disconnectSocket options) :=
  keeps_disconnectSocket unnumbered_course unnumbered_clearReconnectTimer unnumbered_dropSocket
    (unnumbered_transition _)

theorem unnumbered_connectSocket : Keeps Unnumbered (connectSocket options socketNamespace) := by
  have opens (token : String) : Keeps Unnumbered (openSocket options socketNamespace token) :=
    keeps_openSocket unnumbered_course socketNamespace token (fun _ => unnumbered_does rfl)
      (fun _ _ _ => ⟨rfl, rfl⟩) fun _ => unnumbered_does rfl
  exact keeps_connectSocket unnumbered_course socketNamespace (unnumbered_transition _)
    (unnumbered_does rfl) (fun _ => ⟨rfl, rfl⟩) (unnumbered_transition _) unnumbered_dropSocket
    opens

theorem unnumbered_send (eventId eventName : String) (message : Record) :
    Keeps Unnumbered (send options eventId eventName message) :=
  keeps_send unnumbered_course eventId eventName message (fun _ _ => ⟨rfl, rfl⟩)
    fun _ => unnumbered_does rfl

theorem unnumbered_emitSocketEvent (call : EmitCall) :
    Keeps Unnumbered (emitSocketEvent options call) := by
  have discards (item : OfflineQueueItem) : Keeps Unnumbered (discard options item) :=
    keeps_discard unnumbered_course item (unnumbered_does rfl) (unnumbered_does rfl)
  have queues (item : OfflineQueueItem) : Keeps Unnumbered (enqueueOfflineEvent options item) :=
    keeps_enqueueOfflineEvent unnumbered_course item discards fun _ _ => ⟨rfl, rfl⟩
  exact keeps_emitSocketEvent unnumbered_course call (unnumbered_transition _)
    (fun _ => unnumbered_does rfl) queues unnumbered_send

theorem unnumbered_onConnect (now : ℚ) :
    Keeps Unnumbered (onConnect options socketNamespace now) := by
  have replays (item : OfflineQueueItem) : Keeps Unnumbered (replay options item) :=
    keeps_replay unnumbered_course item (fun _ => unnumbered_does rfl) unnumbered_send
  exact keeps_onConnect unnumbered_course socketNamespace now unnumbered_clearReconnectTimer
    (unnumbered_transition _) (unnumbered_does rfl)
    (keeps_flushOfflineQueue unnumbered_course now (fun _ => ⟨rfl, rfl⟩) replays)

theorem unnumbered_onSessionAnswer (errorType : String) (answer : SessionAnswer) :
    Keeps Unnumbered (onSessionAnswer errorType answer) :=
  keeps_onSessionAnswer unnumbered_course errorType answer (unnumbered_transition _)
    (fun _ => unnumbered_does rfl) (fun _ _ => ⟨rfl, rfl⟩) (unnumbered_transition _)

theorem unnumbered_acknowledge (eventId : String) :
    Keeps Unnumbered (acknowledge options socketNamespace eventId) :=
  keeps_acknowledge unnumbered_course eventId (fun _ => unnumbered_does rfl) (unnumbered_does rfl)
    (unnumbered_does rfl) fun _ _ _ => ⟨rfl, rfl⟩

theorem unnumbered_handleReplayConflict (socketNamespace : SocketNamespace) (payload : Payload) :
    Keeps Unnumbered (handleReplayConflict options socketNamespace payload) :=
  keeps_handleReplayConflict unnumbered_course (unnumbered_acknowledge socketNamespace)

theorem unnumbered_onServerEvent {payload : Payload} (none : sequence payload = none)
    (socketNamespace : SocketNamespace) (eventName : String) :
    Keeps Unnumbered (onServerEvent options socketNamespace eventName payload) := by
  have progresses : handleSequenceProgress options socketNamespace payload = skip := by
    unfold handleSequenceProgress
    rw [none]
    rfl
  refine keeps_onServerEvent unnumbered_course eventName
    (unnumbered_handleReplayConflict socketNamespace payload) ?_
  unfold reportEvent
  rw [progresses]
  exact unnumbered_course.keeps_cons unnumbered_course.keeps_skip
    (unnumbered_course.keeps_cons (unnumbered_does rfl) unnumbered_course.keeps_nil)

theorem unnumbered_serverEvent {core : WebSdkCore} {index : Nat} {eventName : String}
    {payload : Payload} (none : reception core (.serverEvent index eventName payload) = none) :
    Unnumbered core (react options (.serverEvent index eventName payload) core).1
      (react options (.serverEvent index eventName payload) core).2 := by
  simp only [react, listener]
  split
  · exact unnumbered_course.nothing core
  · next socket present =>
    cases number : sequence payload with
    | none => exact unnumbered_onServerEvent number _ eventName core
    | some received =>
      have unknown : eventName ∉ DEFAULT_SOCKET_EVENT_MAP socket.socketNamespace := by
        intro known
        simp [reception, present, number, known] at none
      unfold onServerEvent
      rw [if_neg unknown]
      exact unnumbered_course.nothing core

theorem react_unnumbered {core : WebSdkCore} {input : Input} (none : reception core input = none) :
    Unnumbered core (react options input core).1 (react options input core).2 := by
  have course := unnumbered_course
  cases input with
  | serverEvent index eventName payload => exact unnumbered_serverEvent none
  | emitSocketEvent call => exact unnumbered_emitSocketEvent call core
  | connectSocket socketNamespace => exact unnumbered_connectSocket socketNamespace core
  | disconnectSocket => exact unnumbered_disconnectSocket core
  | createSession =>
    exact keeps_createSession course (unnumbered_transition _) (fun _ _ => ⟨rfl, rfl⟩) core
  | createAnswered answer =>
    exact keeps_createAnswered course answer (fun _ _ => ⟨rfl, rfl⟩)
      (unnumbered_onSessionAnswer _ answer) core
  | refreshSession =>
    exact keeps_refreshSession course (unnumbered_transition _) (fun _ _ => ⟨rfl, rfl⟩)
      (unnumbered_transition _) (fun _ => unnumbered_does rfl) core
  | refreshAnswered answer =>
    exact keeps_refreshAnswered course answer (fun _ _ => ⟨rfl, rfl⟩)
      (unnumbered_onSessionAnswer _ answer) core
  | logoutSession =>
    exact keeps_logoutSession (fun _ _ => ⟨rfl, rfl⟩) (unnumbered_transition _) core
  | logoutAnswered ok =>
    exact keeps_logoutAnswered course ok (fun _ _ => ⟨rfl, rfl⟩) (unnumbered_edit (by intro; rfl))
      unnumbered_disconnectSocket (unnumbered_edit (by intro; rfl)) (unnumbered_transition _) core
  | timer =>
    exact keeps_onTimer course unnumbered_clearReconnectTimer unnumbered_connectSocket core
  | setConnected index connected => exact unnumbered_setConnected index connected core
  | connectEvent index now =>
    exact keeps_listener course index (fun name => unnumbered_onConnect name now) core
  | disconnectEvent index reason =>
    exact keeps_listener course index (fun name => unnumbered_onDisconnect name reason) core
  | connectErrorEvent index message =>
    exact keeps_listener course index (fun _ => keeps_onConnectError course message
      (unnumbered_transition _) (unnumbered_does rfl) unnumbered_scheduleReconnect) core

end Frame

section Numbered

variable {core : WebSdkCore} {socketNamespace : SocketNamespace} {payload : Payload}

/-- The number exceeds the one that is remembered by more than one. -/
def exceedsLast (core : WebSdkCore) (socketNamespace : SocketNamespace) (number : ℚ) : Bool :=
  (get core.lastSequenceByNamespace socketNamespace).any (· + 1 < number)

/-- What is done about a number that is counted. -/
structure Numbered (socketNamespace : SocketNamespace) (number : ℚ) (before after : WebSdkCore)
    (effects : List Effect) : Prop where
  last : after.lastSequenceByNamespace =
    set before.lastSequenceByNamespace socketNamespace number
  gaps : gaps effects =
    if before.exceedsLast socketNamespace number then [socketNamespace] else []

theorem Unnumbered.numbered {number : ℚ} {before middle after : WebSdkCore}
    {effects later : List Effect} (first : Unnumbered before middle effects)
    (next : Numbered socketNamespace number middle after later) :
    Numbered socketNamespace number before after (effects ++ later) := by
  refine ⟨?_, ?_⟩
  · rw [next.last, first.1]
  · rw [gaps_append, first.2, List.nil_append, next.gaps, exceedsLast, first.1]
    rfl

theorem Numbered.unnumbered {number : ℚ} {before middle after : WebSdkCore}
    {effects later : List Effect} (first : Numbered socketNamespace number before middle effects)
    (next : Unnumbered middle after later) :
    Numbered socketNamespace number before after (effects ++ later) := by
  refine ⟨next.1.trans first.last, ?_⟩
  rw [gaps_append, next.2, List.append_nil]
  exact first.gaps

theorem numbered_handleSequenceProgress {number : ℚ} (found : sequence payload = some number)
    (core : WebSdkCore) : Numbered socketNamespace number core
      (handleSequenceProgress options socketNamespace payload core).1
      (handleSequenceProgress options socketNamespace payload core).2 := by
  unfold handleSequenceProgress
  simp only [found]
  cases known : get core.lastSequenceByNamespace socketNamespace with
  | none =>
    have within : core.exceedsLast socketNamespace number = false := by
      simp [exceedsLast, known]
    refine ⟨rfl, ?_⟩
    rw [within]
    rfl
  | some last =>
    have exceeds : core.exceedsLast socketNamespace number = decide (last + 1 < number) := by
      simp [exceedsLast, known]
    by_cases gap : last + 1 < number
    · simp only [if_pos gap]
      refine ⟨?_, ?_⟩
      · cases options.offlineQueue.onSequenceGap <;> rfl
      · rw [exceeds, decide_eq_true gap]
        cases options.offlineQueue.onSequenceGap <;> rfl
    · simp only [if_neg gap]
      refine ⟨rfl, ?_⟩
      rw [exceeds, decide_eq_false gap]
      rfl

theorem numbered_reportEvent {number : ℚ} (found : sequence payload = some number)
    (eventName : String) (core : WebSdkCore) : Numbered socketNamespace number core
      (reportEvent options socketNamespace eventName payload core).1
      (reportEvent options socketNamespace eventName payload core).2 := by
  have progresses := @numbered_handleSequenceProgress options socketNamespace payload _ found core
  have tells : Keeps Unnumbered (does (.socketEvent socketNamespace eventName payload)) :=
    unnumbered_does rfl
  exact progresses.unnumbered
    (unnumbered_course.keeps_cons tells unnumbered_course.keeps_nil _)

theorem react_numbered {input : Input} {received : Reception}
    (brings : reception core input = some received) :
    if received.conflict then
      Unnumbered core (react options input core).1 (react options input core).2
    else
      Numbered received.socketNamespace received.sequence core (react options input core).1
        (react options input core).2 := by
  cases input with
  | serverEvent index eventName payload =>
    simp only [reception, Option.bind_eq_bind, Option.bind_eq_some_iff,
      Option.ite_none_right_eq_some, Option.some.injEq] at brings
    obtain ⟨socket, present, number, found, known, rfl⟩ := brings
    have acknowledges := @unnumbered_handleReplayConflict options socket.socketNamespace payload
      core
    simp only [react, listener, present, onServerEvent, if_pos known]
    rw [inOrder_cons]
    split
    · exact unnumbered_course.sequel acknowledges
        (unnumbered_course.keeps_cons unnumbered_course.keeps_skip unnumbered_course.keeps_nil _)
    · have reports := @numbered_reportEvent options socket.socketNamespace payload _ found
        eventName (handleReplayConflict options socket.socketNamespace payload core).1
      exact acknowledges.numbered (reports.unnumbered (unnumbered_course.nothing _))
  | _ => cases brings

end Numbered

section Runs

/-- What is remembered of a namespace is the latest number that was counted. -/
def Tracks (current : WebSdkCore × List Reception) : Prop :=
  ∀ socketNamespace, get current.1.lastSequenceByNamespace socketNamespace =
    lastCounted socketNamespace current.2

theorem lastCounted_append (socketNamespace : SocketNamespace) (past : List Reception)
    (brought : Option Reception) : lastCounted socketNamespace (past ++ brought.toList) =
      (brought.bind (Reception.counted socketNamespace)).or (lastCounted socketNamespace past) :=
  Transducer.latest_append _ past brought

variable {current : WebSdkCore × List Reception}

theorem tracks_step (tracks : Tracks current) (input : Input) :
    Tracks ((receiving options).step current input).1 := by
  intro name
  change get (react options input current.1).1.lastSequenceByNamespace name =
    lastCounted name (current.2 ++ (reception current.1 input).toList)
  rw [lastCounted_append, ← tracks name]
  cases brings : reception current.1 input with
  | none =>
    rw [(react_unnumbered brings).1]
    rfl
  | some received =>
    have done := @react_numbered options _ _ _ brings
    rw [Option.bind_some]
    cases conflict : received.conflict with
    | true =>
      rw [if_pos conflict] at done
      rw [done.1]
      simp [Reception.counted, conflict]
    | false =>
      rw [if_neg (by simp [conflict])] at done
      rw [done.last, get_set]
      by_cases same : received.socketNamespace = name
      · simp [Reception.counted, conflict, same]
      · simp [Reception.counted, same]

theorem gaps_received (tracks : Tracks current) {input : Input} {received : Reception}
    (brings : reception current.1 input = some received) : gaps (react options input current.1).2 =
      if received.conflict = false ∧ (lastCounted received.socketNamespace current.2).any
        (· + 1 < received.sequence) = true then [received.socketNamespace] else [] := by
  have done := @react_numbered options _ _ _ brings
  cases conflict : received.conflict with
  | true =>
    rw [if_pos conflict] at done
    rw [done.2]
    exact (if_neg fun both => by cases both.1).symm
  | false =>
    rw [if_neg (by simp [conflict])] at done
    rw [done.gaps, exceedsLast, tracks]
    simp

theorem reportsGaps_iff {socketNamespace : SocketNamespace} (tracks : Tracks current)
    (input : Input) : ReportsGaps options socketNamespace current input ↔
      KeepsOrder socketNamespace current input := by
  unfold ReportsGaps KeepsOrder
  cases brings : reception current.1 input with
  | none =>
    rw [(react_unnumbered brings).2]
    exact iff_of_true (iff_of_false List.not_mem_nil (by simp)) nofun
  | some received =>
    rw [gaps_received tracks brings]
    simp only [Option.mem_some_iff, Option.any_some, decide_eq_true_eq, forall_eq']
    by_cases same : received.socketNamespace = socketNamespace
    · subst same
      rw [forall_prop_of_true rfl, orderly_iff]
      simp
    · refine iff_of_true (iff_of_false ?_ fun both => same both.1) fun about => (same about).elim
      split
      · exact fun member => same (List.mem_singleton.mp member).symm
      · exact List.not_mem_nil

end Runs

section Sample

instance (socketNamespace : SocketNamespace) (current : WebSdkCore × List Reception)
    (input : Input) : Decidable (ReportsGaps options socketNamespace current input) :=
  inferInstanceAs (Decidable (_ ↔ _))

def plainOptions : SdkCoreOptions where
  socketBaseUrl := "ws://socket:3001"
  socketFactory _ := { onDisconnect := fun _ => none }

def numberedMessage (number : ℚ) : Input :=
  .serverEvent 0 "message"
    (.object (set .empty "sequence" (.number (.finite number))))

def opening : List Input :=
  [.createSession, .createAnswered (.accepted ⟨"access", "refresh"⟩), .connectSocket .chat]

/-- The gap in numbers that arrive in order is reported. -/
example : (receiving plainOptions).Admits (ReportsGaps plainOptions .chat)
    (new plainOptions [], []) (opening ++ [1, 4, 5].map numberedMessage) := by
  decide +kernel

end Sample

end WebSdkCore

end Caas.Sdk
