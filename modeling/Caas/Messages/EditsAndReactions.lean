import Mathlib.Data.List.Perm.Basic
import Mathlib.Data.List.Nodup
import Caas.Async.Histories
import Caas.Messages.MessageService

/-!
# Which edits and reactions are kept

Any operations on a message run at once, each command on its own. The history of a run is how the
operations have ended, so that the texts of the edits that succeeded can be told.

No text is lost and nobody has two reactions exactly as long as an edit writes back what the
message has at that moment, not what it had when it was read, and as long as a reaction is pushed
for one who has none then (`kept_iff`).
-/

namespace Caas.Messages

open Async Program

/-- The texts of a message: those that were replaced, and the current one. -/
def Message.versions (message : Message) : List String :=
  (message.editHistory.getD []).map (·.content) ++ [message.content.text.getD ""]

def Message.reactors (message : Message) : List String :=
  (message.reactions.getD []).map (·.userId)

/-- How far an edit has come: which texts the message had when it was last read, and that the
edit has been written. -/
inductive EditPhase where
  | reading (seen : Option (List String))
  | written

def nextPhase : EditPhase → (command : MessageCommand) → command.Reply → EditPhase
  | .reading _, .findMessage, (found : Option Message × Nat) =>
    .reading (found.1.map Message.versions)
  | .reading _, .setText _ _, _ => .written
  | phase, _, _ => phase

inductive EditAwaits (newContent : String) : EditPhase → MessageCommand → Prop where
  | findMessage (seen : Option (List String)) : EditAwaits newContent (.reading seen) .findMessage
  | setText (editHistory : List EditRecord) :
    EditAwaits newContent (.reading (some (editHistory.map (·.content))))
      (.setText newContent editHistory)

def discipline : MessageOperation → Discipline MessageCommand MessageCommand.Reply EditPhase
  | .editMessage _ newContent =>
    { next := nextPhase, may := EditAwaits newContent, assumes _ _ := True }
  | _ =>
    { next phase _ _ := phase
      may _ command := ∀ text editHistory, command ≠ .setText text editHistory
      assumes _ _ := True }

/-- An edit succeeds when it has been written. -/
def Ends : MessageOperation → EditPhase → Outcome Unit → Prop
  | .editMessage _ _, phase, outcome => phase = .written ↔ outcome = .ok ()
  | _, _, _ => True

def host : Host MessageStore MessageCommand MessageCommand.Reply Bool Nat MessageOperation Unit
    where
  exec := exec
  change store elapsed := { store with now := store.now + elapsed }
  body := body

abbrev MessageEvent := Event Bool Nat MessageOperation

/-- The operations on a message, with the history of how they have ended. -/
abbrev MessagePool := Pool.Recorded MessageStore MessageCommand MessageCommand.Reply
  MessageOperation EditPhase Unit (List (MessageOperation × Outcome Unit))

def machine : Transducer MessagePool MessageEvent Unit :=
  Pool.Recorded.machine host discipline (fun _ => .reading none) Pool.endings

/-- A message that nobody works on yet. -/
def idle (store : MessageStore) : MessagePool := ⟨⟨store, []⟩, []⟩

def edited : MessageOperation × Outcome Unit → Option String
  | (.editMessage _ newContent, .ok _) => some newContent
  | _ => none

/-- The history and the current text list what the message had at first and what has been edited,
and nobody has two reactions. -/
structure Kept (start : Message) (current : MessagePool) : Prop where
  versions : current.pool.shared.message.versions.Perm
    (start.versions ++ current.history.filterMap edited)
  reactors : current.pool.shared.message.reactors.Nodup

/-- A command in time: an edit that writes has read what the message has now, and who gets a
reaction has none. -/
def InTime (message : Message) (phase : EditPhase) : MessageCommand → Prop
  | .setText _ _ => ∀ seen, phase = .reading (some seen) → seen.Perm message.versions
  | .pushReaction reaction => reaction.userId ∉ message.reactors
  | _ => True

def UpToDate (current : MessagePool) : MessageEvent → Prop
  | .run index _ => ∀ call command, current.pool.awaited? index = some (call, command) →
    InTime current.pool.shared.message call.phase command
  | _ => True

section Programs

theorem map_content_append (message : Message) (now : Nat) : (message.editHistory.getD [] ++
        [EditRecord.mk (message.content.text.getD "") now]).map (·.content) = message.versions :=
  List.map_append

theorem respects_failure {userId newContent error : String} {seen : Option (List String)} :
    (.failure error : MessageProgram Unit).Respects (discipline (.editMessage userId newContent))
      (Ends (.editMessage userId newContent)) (.reading seen) :=
  iff_of_false EditPhase.noConfusion fun same => by cases same

variable (userId : String)

theorem repository_editMessage_respects (newContent : String) (seen : Option (List String)) :
    (MessageRepository.editMessage newContent).Respects
      (discipline (.editMessage userId newContent)) (Ends (.editMessage userId newContent))
      (.reading seen) := by
  refine ⟨.findMessage _, fun (found : Option Message × Nat) _ => ?_⟩
  obtain ⟨_ | message, now⟩ := found
  · exact respects_failure
  · refine ⟨?_, fun _ _ => iff_of_true rfl rfl⟩
    change EditAwaits newContent (.reading (some message.versions)) _
    rw [← map_content_append message now]
    exact .setText _

theorem editMessage_respects (newContent : String) :
    (body (.editMessage userId newContent)).Respects
      (discipline (.editMessage userId newContent)) (Ends (.editMessage userId newContent))
      (.reading none) := by
  refine ⟨.findMessage _, fun (found : Option Message × Nat) _ => ?_⟩
  obtain ⟨_ | message, now⟩ := found
  · exact respects_failure
  · change Respects _ _ (EditPhase.reading _) (if _ then _ else _)
    split
    · exact respects_failure
    · split
      · exact respects_failure
      · exact repository_editMessage_respects userId newContent _

theorem addReaction_respects (emoji : String) :
    (body (.addReaction userId emoji)).Respects (discipline (.addReaction userId emoji))
      (Ends (.addReaction userId emoji)) (.reading none) := by
  refine ⟨fun _ _ => MessageCommand.noConfusion, fun (found : Option Message × Nat) _ => ?_⟩
  obtain ⟨_ | message, now⟩ := found
  · trivial
  · refine ⟨fun _ _ => MessageCommand.noConfusion, fun (participates : Bool) _ => ?_⟩
    cases participates with
    | false => trivial
    | true =>
      refine ⟨fun _ _ => MessageCommand.noConfusion, fun _ _ => ?_⟩
      exact ⟨fun _ _ => MessageCommand.noConfusion, fun _ _ => trivial⟩

theorem body_respects (operation : MessageOperation) :
    (host.body operation).Respects (discipline operation) (Ends operation) (.reading none) := by
  cases operation with
  | editMessage userId newContent => exact editMessage_respects userId newContent
  | addReaction userId emoji => exact addReaction_respects userId emoji
  | removeReaction userId =>
    exact ⟨fun _ _ => MessageCommand.noConfusion, fun _ _ => trivial⟩

end Programs

section Endings

variable {operation : MessageOperation} {phase : EditPhase} {program : MessageProgram Unit}

theorem outcome?_of_written {userId newContent : String}
    (respects : program.Respects (discipline (.editMessage userId newContent))
      (Ends (.editMessage userId newContent)) .written) :
    program.outcome? = some (.ok ()) := by
  cases program with
  | result value => rfl
  | failure error => cases respects.mp rfl
  | await command next => cases respects.1

theorem filterMap_edited_ending
    (respects : program.Respects (discipline operation) (Ends operation) phase)
    (unwritten : ∀ userId newContent, operation = .editMessage userId newContent →
      phase ≠ .written) : (Pool.ending operation program).filterMap edited = [] := by
  cases program with
  | result value =>
    cases operation with
    | editMessage userId newContent => exact absurd (respects.mpr rfl) (unwritten _ _ rfl)
    | _ => rfl
  | failure error => cases operation <;> rfl
  | await command next => rfl

end Endings

section Effects

variable {store : MessageStore} {participates : Bool}

theorem reactors_pushReaction (reaction : Reaction) :
    (exec store (.pushReaction reaction) participates).1.message.reactors =
      store.message.reactors ++ [reaction.userId] :=
  List.map_append

theorem nodup_pullReaction (userId : String) (nodup : store.message.reactors.Nodup) :
    (exec store (.pullReaction userId) participates).1.message.reactors.Nodup := by
  change (((store.message.reactions.map _).getD []).map _).Nodup
  rw [Message.reactors] at nodup
  cases reactions : store.message.reactions with
  | none => exact List.nodup_nil
  | some reactions' =>
    rw [reactions] at nodup
    exact nodup.sublist (List.filter_sublist.map _)

end Effects

section Steps

variable {start : Message} {current : MessagePool}

def Respectful (current : MessagePool) : Prop := Pool.Respectful discipline Ends current.pool

variable {index : Nat}
  {call : Call MessageCommand MessageCommand.Reply MessageOperation EditPhase Unit}

theorem step_run (participates : Bool) {command : MessageCommand}
    {next : command.Reply → MessageProgram Unit} (present : current.pool.calls[index]? = some call)
    (awaits : call.program = .await command next) :
    (machine.step current (.run index participates)).1.pool.shared =
        (exec current.pool.shared command participates).1 ∧
      (machine.step current (.run index participates)).1.history = current.history ++
        Pool.ending call.input (next (exec current.pool.shared command participates).2) := by
  rw [machine, Pool.Recorded.step_run_of_await current participates present awaits]
  exact ⟨rfl, rfl⟩

section

variable (respectful : Respectful current)
include respectful

theorem kept_of_unwritten {participates : Bool} {command : MessageCommand}
    {next : command.Reply → MessageProgram Unit} (holds : Kept start current)
    (present : current.pool.calls[index]? = some call) (awaits : call.program = .await command next)
    (unwritten : ∀ text editHistory, command ≠ .setText text editHistory) :
    Kept start (machine.step current (.run index participates)).1 ↔
      (exec current.pool.shared command participates).1.message.reactors.Nodup := by
  obtain ⟨shared, history⟩ := step_run participates present awaits
  have respects := respectful call (List.mem_of_getElem? present)
  obtain ⟨operation, phase, program⟩ := call
  cases awaits
  have texts : (exec current.pool.shared command participates).1.message.versions =
      current.pool.shared.message.versions := by
    cases command with
    | setText text editHistory => exact absurd rfl (unwritten text editHistory)
    | _ => rfl
  have none : (Pool.ending operation (next (exec current.pool.shared command
      participates).2)).filterMap edited = [] := by
    refine filterMap_edited_ending (respects.2 _ (by cases operation <;> exact trivial)) ?_
    rintro userId newContent rfl
    cases respects.1 with
    | findMessage seen => exact EditPhase.noConfusion
    | setText editHistory => exact absurd rfl (unwritten _ _)
  refine ⟨fun kept => shared ▸ kept.reactors, fun nodup => ⟨?_, shared.symm ▸ nodup⟩⟩
  rw [shared, history, texts, List.filterMap_append, none, List.append_nil]
  exact holds.versions

/-- An edit that is written keeps what the message had exactly if it had read it. -/
theorem kept_of_written {participates : Bool} {text : String} {editHistory : List EditRecord}
    {next : Unit → MessageProgram Unit} (holds : Kept start current)
    (present : current.pool.calls[index]? = some call)
    (awaits : call.program = .await (.setText text editHistory) next) :
    Kept start (machine.step current (.run index participates)).1 ↔
      InTime current.pool.shared.message call.phase (.setText text editHistory) := by
  obtain ⟨shared, history⟩ := step_run participates present awaits
  have respects := respectful call (List.mem_of_getElem? present)
  obtain ⟨operation, phase, program⟩ := call
  cases awaits
  cases operation with
  | editMessage userId newContent =>
    obtain ⟨may, rest⟩ := respects
    cases may
    have ended := outcome?_of_written (rest () trivial)
    have succeeded : (Pool.ending (.editMessage userId text) (next ())).filterMap edited =
        [text] := by
      rw [Pool.ending, ended]
      rfl
    have texts : (machine.step current (.run index participates)).1.pool.shared.message.versions =
        editHistory.map (·.content) ++ [text] := by
      rw [shared]
      rfl
    have log : (machine.step current (.run index participates)).1.history.filterMap edited =
        current.history.filterMap edited ++ [text] := by
      rw [history, List.filterMap_append]
      exact congrArg _ succeeded
    constructor
    · intro kept seen same
      cases same
      have versions := kept.versions
      rw [texts, log, ← List.append_assoc, List.perm_append_right_iff] at versions
      exact versions.trans holds.versions.symm
    · intro inTime
      refine ⟨?_, shared.symm ▸ holds.reactors⟩
      rw [texts, log, ← List.append_assoc, List.perm_append_right_iff]
      exact (inTime _ rfl).trans holds.versions
  | addReaction | removeReaction => exact absurd rfl (respects.1 text editHistory)

theorem kept_run_iff (holds : Kept start current) (index : Nat) (participates : Bool) :
    Kept start (machine.step current (.run index participates)).1 ↔
      UpToDate current (.run index participates) := by
  cases awaited : current.pool.awaited? index with
  | none =>
    have vacuous : UpToDate current (.run index participates) := fun call command some =>
      by cases awaited.symm.trans some
    refine iff_of_true ?_ vacuous
    rw [machine, Pool.Recorded.step_run_of_idle current participates awaited]
    exact holds
  | some awaiting =>
    obtain ⟨call, command⟩ := awaiting
    have timely : UpToDate current (.run index participates) ↔
        InTime current.pool.shared.message call.phase command := by
      refine ⟨fun upToDate => upToDate call command awaited, fun inTime _ _ some => ?_⟩
      cases awaited.symm.trans some
      exact inTime
    obtain ⟨next, present, awaits⟩ := Pool.await_of_awaited? awaited
    rw [timely]
    cases command with
    | findMessage | isParticipant conversationId userId =>
      refine (kept_of_unwritten respectful holds present awaits fun _ _ =>
        MessageCommand.noConfusion).trans ?_
      exact iff_of_true holds.reactors trivial
    | pullReaction userId =>
      refine (kept_of_unwritten respectful holds present awaits fun _ _ =>
        MessageCommand.noConfusion).trans ?_
      exact iff_of_true (nodup_pullReaction userId holds.reactors) trivial
    | pushReaction reaction =>
      refine (kept_of_unwritten respectful holds present awaits fun _ _ =>
        MessageCommand.noConfusion).trans ?_
      rw [reactors_pushReaction, List.nodup_append_comm]
      exact List.nodup_cons.trans (and_iff_left holds.reactors)
    | setText text editHistory => exact kept_of_written respectful holds present awaits

theorem kept_step_iff (holds : Kept start current) (event : MessageEvent) :
    Kept start (machine.step current event).1 ↔ UpToDate current event := by
  cases event with
  | start operation =>
    have none : Pool.ending operation (host.body operation) = [] := by cases operation <;> rfl
    refine iff_of_true ⟨?_, holds.reactors⟩ trivial
    change current.pool.shared.message.versions.Perm (start.versions ++
      (current.history ++ Pool.ending operation (host.body operation)).filterMap edited)
    rw [none, List.append_nil]
    exact holds.versions
  | change elapsed => exact iff_of_true ⟨holds.versions, holds.reactors⟩ trivial
  | run index participates => exact kept_run_iff respectful holds index participates

theorem respectful_step (event : MessageEvent) : Respectful (machine.step current event).1 :=
  Pool.respectful_run body_respects
    (fun operation _ _ _ => by cases operation <;> exact trivial) respectful [event]

end

end Steps

/-- Whatever runs at once, no text is lost and nobody has two reactions, in every state, exactly
if every edit and every reaction is up to date when it is written. -/
theorem kept_iff (start : MessageStore) (events : List MessageEvent)
    (single : start.message.reactors.Nodup) :
    (∀ count, Kept start.message (machine.run (idle start) (events.take count))) ↔
      machine.Admits UpToDate (idle start) events := by
  have kept : Kept start.message (idle start) := by
    refine ⟨?_, single⟩
    change start.message.versions.Perm (start.message.versions ++ [])
    rw [List.append_nil]
  exact @Transducer.forall_prefix_iff_admits_of _ _ _ machine (fun _ _ => True) UpToDate
    Respectful (Kept start.message) (fun _ event respectful _ => respectful_step respectful event)
    (fun _ event respectful _ kept => kept_step_iff respectful kept event) (idle start) events
    (Transducer.admits_of_forall (fun _ _ => trivial) _ events)
    (fun _ member => absurd member List.not_mem_nil) kept

section Sample

def sampleStore : MessageStore where
  now := 1000
  message :=
    { conversationId := "c", senderId := "ann", content := { type := .text, text := some "one" },
      createdAt := 0, reactions := some [] }

def continues (index count : Nat) : List MessageEvent := List.replicate count (.run index true)

def editsAndReacts : List MessageEvent :=
  .start (.editMessage "ann" "two") :: continues 0 3 ++
    .start (.addReaction "bob" "thumbs up") :: continues 1 4

theorem edit_and_reaction_kept :
    Kept sampleStore.message (machine.run (idle sampleStore) editsAndReacts) := by
  have none : sampleStore.message.reactors.Nodup := List.nodup_nil
  refine (kept_iff sampleStore editsAndReacts none).mpr
    ⟨trivial, ?_, ?_, ?_, trivial, ?_, ?_, ?_, ?_, trivial⟩ 9
  all_goals rintro _ _ ⟨⟩
  · trivial
  · trivial
  · rintro _ ⟨⟩
    exact List.Perm.refl _
  · trivial
  · trivial
  · trivial
  · exact List.not_mem_nil

def editsTwice : List MessageEvent :=
  [.start (.editMessage "ann" "two"), .start (.editMessage "ann" "three")] ++
    continues 0 2 ++ continues 1 3 ++ continues 0 1

theorem edit_is_lost : ¬ ∀ (start : MessageStore) (events : List MessageEvent),
    start.message.reactors.Nodup →
      (∀ call ∈ (machine.run (idle start) events).pool.calls, call.program.outcome? ≠ none) →
        Kept start.message (machine.run (idle start) events) := by
  intro kept
  have completed : ∀ call ∈ (machine.run (idle sampleStore) editsTwice).pool.calls,
      call.program.outcome? ≠ none := by decide +kernel
  have lists := (kept sampleStore editsTwice List.nodup_nil completed).versions.length_eq
  revert lists
  decide +kernel

end Sample

end Caas.Messages
