import Caas.Async.Pool
import Caas.Conversations.ConversationService

/-!
# Who reads a conversation

A read that finds the conversation in the cache returns it and asks for nothing else; one that
does not finds it in the database, counts the records of the user, caches the conversation and
returns it then. Any operations run at once, each command on its own, time passes and entries of
the cache expire.

A read returns a conversation to a participant exactly if it is one who finds an entry, or who
comes to write one (`reads_iff`).
-/

namespace Caas.Conversations

open Async Js Redis ConversationService

/-- Time passes, or an entry of the cache is dropped. -/
inductive CacheChange where
  | elapse (elapsed : Nat)
  | expire (key : String)

def host : Host ConversationStore ConversationCommand ConversationCommand.Reply Unit CacheChange
    ConversationOperation ConversationResult where
  exec := exec
  change store
    | .elapse elapsed => { store with now := store.now + elapsed }
    | .expire key => { store with cache := store.cache.delete key }
  body := body

inductive ReadPhase where
  | asked
  | missed
  | loaded
  | checked
  | served
  | refused
deriving DecidableEq

def nextPhase : ReadPhase → (command : ConversationCommand) → command.Reply → ReadPhase
  | .asked, .redis (.get _), (found : Option Conversation) =>
    if found.isSome then .served else .missed
  | .missed, .findConversation _ _, (found : Option Conversation) =>
    if found.isSome then .loaded else .refused
  | .loaded, .countParticipants _ _ _, (count : Nat) => if count > 0 then .checked else .refused
  | .checked, .redis (.setex _ _ _), _ => .served
  | phase, _, _ => phase

def Awaits (conversationId tenantId userId : String) : ReadPhase → ConversationCommand → Prop
  | .asked, command => command = .redis (.get (getCacheKey conversationId tenantId))
  | .missed, command => command = .findConversation conversationId tenantId
  | .loaded, command => command = .countParticipants conversationId tenantId userId
  | .checked, command => ∃ conversation : Conversation, command = .redis (.setex
      (getCacheKey conversation.conversationId conversation.tenantId) cacheTTL conversation)
  | .served, _ | .refused, _ => False

/-- What the phases of the operations are; only those of reads matter. -/
def discipline : ConversationOperation →
    Discipline ConversationCommand ConversationCommand.Reply ReadPhase
  | .getConversation conversationId tenantId userId =>
    { next := nextPhase, may := Awaits conversationId tenantId userId, assumes _ _ := True }
  | _ => { next phase _ _ := phase, may _ _ := True, assumes _ _ := True }

/-- A read returns a conversation in one phase, and none in another. -/
def Ends : ConversationOperation → ReadPhase → Program.Outcome ConversationResult → Prop
  | .getConversation _ _ _, phase, outcome =>
    phase = .served ∧ (∃ conversation, outcome = .ok (.conversation (some conversation))) ∨
      phase = .refused ∧ outcome = .ok (.conversation none)
  | _, _, _ => True

/-- Operations at work, with the phases of the reads. -/
abbrev ConversationPool := Pool ConversationStore ConversationCommand ConversationCommand.Reply
  ConversationOperation ReadPhase ConversationResult

abbrev ConversationEvent := Event Unit CacheChange ConversationOperation

def step (pool : ConversationPool) (event : ConversationEvent) : ConversationPool :=
  pool.step host discipline (fun _ => .asked) event

def machine : Transducer ConversationPool ConversationEvent Unit :=
  Pool.machine host discipline fun _ => .asked

/-- A read that ends with a conversation at this step is one of a participant. -/
def Rightful (pool : ConversationPool) (event : ConversationEvent) : Prop :=
  ∀ index conversationId tenantId userId conversation,
    (step pool event).calls[index]?.map (·.input) =
        some (.getConversation conversationId tenantId userId) →
      pool.outcome? index = none →
      (step pool event).outcome? index = some (.ok (.conversation (some conversation))) →
        (step pool event).shared.isParticipant conversationId tenantId userId = true

/-- After which command a read returns a conversation: one that finds an entry, and one that
writes one. -/
def Serves (store : ConversationStore) : ConversationCommand → Prop
  | .redis (.get key) => store.cache.lookup store.now key ≠ none
  | .redis (.setex _ _ _) => True
  | _ => False

/-- Who finds an entry in the cache, and who comes to write one, is a participant. -/
def ByParticipants (pool : ConversationPool) : ConversationEvent → Prop
  | .run index _ => ∀ call command conversationId tenantId userId,
    pool.awaited? index = some (call, command) →
      call.input = .getConversation conversationId tenantId userId →
        Serves pool.shared command →
          pool.shared.isParticipant conversationId tenantId userId = true
  | _ => True

theorem getConversation_respects (conversationId tenantId userId : String) :
    (body (.getConversation conversationId tenantId userId)).Respects
      (discipline (.getConversation conversationId tenantId userId))
      (Ends (.getConversation conversationId tenantId userId)) .asked := by
  refine ⟨rfl, fun (cached : Option Conversation) _ => ?_⟩
  cases cached with
  | some conversation => exact .inl ⟨rfl, conversation, rfl⟩
  | none =>
    refine ⟨rfl, fun (found : Option Conversation) _ => ?_⟩
    cases found with
    | none => exact .inr ⟨rfl, rfl⟩
    | some conversation =>
      refine ⟨rfl, fun (count : Nat) _ => ?_⟩
      cases count with
      | zero => exact .inr ⟨rfl, rfl⟩
      | succ count => exact ⟨⟨conversation, rfl⟩, fun _ _ => .inl ⟨rfl, conversation, rfl⟩⟩

theorem respects_free {discipline : Discipline ConversationCommand ConversationCommand.Reply
      ReadPhase} {ends : ReadPhase → Program.Outcome ConversationResult → Prop}
    (may : ∀ phase command, discipline.may phase command)
    (any : ∀ phase outcome, ends phase outcome)
    (program : ConversationProgram ConversationResult) (phase : ReadPhase) :
    program.Respects discipline ends phase := by
  induction program generalizing phase with
  | result | failure => exact any phase _
  | await command next ih => exact ⟨may phase command, fun reply _ => ih reply _⟩

theorem body_respects (operation : ConversationOperation) :
    (host.body operation).Respects (discipline operation) (Ends operation) .asked := by
  cases operation with
  | getConversation conversationId tenantId userId =>
    exact getConversation_respects conversationId tenantId userId
  | _ => exact respects_free (fun _ _ => trivial) (fun _ _ => trivial) _ _

section Reads

variable {conversationId tenantId userId : String} {phase : ReadPhase}
  {program : ConversationProgram ConversationResult}

theorem served_iff (respects : program.Respects
      (discipline (.getConversation conversationId tenantId userId))
      (Ends (.getConversation conversationId tenantId userId)) phase) :
    phase = .served ↔ ∃ conversation,
      program.outcome? = some (.ok (.conversation (some conversation))) := by
  cases program with
  | result value =>
    rcases respects with ⟨served, conversation, same⟩ | ⟨refused, same⟩
    · cases same
      exact iff_of_true served ⟨conversation, rfl⟩
    · cases same
      rw [refused]
      refine iff_of_false ReadPhase.noConfusion ?_
      rintro ⟨_, same⟩
      cases same
  | failure error =>
    rcases respects with ⟨_, _, same⟩ | ⟨_, same⟩ <;> cases same
  | await command next =>
    refine iff_of_false ?_ ?_
    · rintro rfl
      exact respects.1
    · rintro ⟨_, same⟩
      cases same

theorem nextPhase_eq_served_iff {store : ConversationStore} {command : ConversationCommand}
    (awaits : Awaits conversationId tenantId userId phase command) :
    nextPhase phase command (exec store command ()).2 = .served ↔ Serves store command := by
  cases phase with
  | asked =>
    cases awaits
    change (if (store.cache.lookup store.now _).isSome then ReadPhase.served else .missed) = _ ↔
      store.cache.lookup store.now _ ≠ none
    cases store.cache.lookup store.now (getCacheKey conversationId tenantId) with
    | none => exact iff_of_false ReadPhase.noConfusion fun found => found rfl
    | some conversation => exact iff_of_true rfl (Option.some_ne_none conversation)
  | missed =>
    cases awaits
    refine iff_of_false ?_ id
    change (if Option.isSome _ then ReadPhase.loaded else .refused) ≠ _
    split <;> exact ReadPhase.noConfusion
  | loaded =>
    cases awaits
    refine iff_of_false ?_ id
    change (if List.countP _ _ > 0 then ReadPhase.checked else .refused) ≠ _
    split <;> exact ReadPhase.noConfusion
  | checked =>
    obtain ⟨conversation, rfl⟩ := awaits
    exact iff_of_true rfl trivial
  | served | refused => exact awaits.elim

theorem isParticipant_exec {store : ConversationStore} {command : ConversationCommand}
    (serves : Serves store command) :
    (exec store command ()).1.isParticipant conversationId tenantId userId =
      store.isParticipant conversationId tenantId userId := by
  cases command with
  | redis command => rfl
  | _ => exact serves.elim

end Reads

section Steps

variable {pool : ConversationPool}

def Respectful (pool : ConversationPool) : Prop := Pool.Respectful discipline Ends pool

theorem respectful_step (respectful : Respectful pool) (event : ConversationEvent) :
    Respectful (step pool event) :=
  Pool.respectful_run body_respects
    (fun operation _ _ _ => by cases operation <;> exact trivial) respectful [event]

theorem rightful_of_outcomes {event : ConversationEvent}
    (kept : ∀ index outcome, (step pool event).outcome? index = some outcome →
      pool.outcome? index ≠ none) : Rightful pool event :=
  fun index _ _ _ _ _ none some => absurd none (kept index _ some)

theorem rightful_start (operation : ConversationOperation) :
    Rightful pool (.start operation) := by
  intro index conversationId tenantId userId conversation input none ended
  obtain ⟨call, present, outcome⟩ := Option.bind_eq_some_iff.mp ended
  rw [present] at input
  rcases Pool.getElem?_start present with before | rfl
  · rw [Pool.outcome?, before] at none
    cases none.symm.trans outcome
  · -- a read has its first command still to come
    cases Option.some.inj input
    cases outcome

theorem getElem?_step {index : Nat}
    {call : Call ConversationCommand ConversationCommand.Reply ConversationOperation ReadPhase
      ConversationResult} {command : ConversationCommand}
    {next : command.Reply → ConversationProgram ConversationResult}
    (present : pool.calls[index]? = some call) (awaits : call.program = .await command next)
    (other : Nat) : (step pool (.run index ())).shared = (exec pool.shared command ()).1 ∧
      (step pool (.run index ())).calls[other]? =
        if index = other then
          some { call with
            phase := (discipline call.input).next call.phase command
              (exec pool.shared command ()).2
            program := next (exec pool.shared command ()).2 }
        else pool.calls[other]? := by
  have stepped : step pool (.run index ()) = _ := Pool.step_run_of_await () present awaits
  rw [stepped]
  exact ⟨rfl, Pool.getElem?_resume present other⟩

theorem rightful_run_iff (respectful : Respectful pool) (index : Nat) :
    Rightful pool (.run index ()) ↔ ByParticipants pool (.run index ()) := by
  constructor
  · intro rightful call command conversationId tenantId userId awaited input serves
    obtain ⟨next, present, awaits⟩ := Pool.await_of_awaited? awaited
    have respects := respectful call (List.mem_of_getElem? present)
    obtain ⟨operation, phase, program⟩ := call
    cases input
    cases awaits
    obtain ⟨may, rest⟩ := respects
    have served := (nextPhase_eq_served_iff may).mpr serves
    obtain ⟨conversation, ended⟩ := (served_iff (rest _ trivial)).mp served
    obtain ⟨shared, after⟩ := getElem?_step present rfl index
    rw [if_pos rfl] at after
    have participates := rightful index conversationId tenantId userId conversation
      (by rw [after]; rfl) (by rw [Pool.outcome?, present]; rfl)
      (by rw [Pool.outcome?, after]; exact ended)
    rwa [shared, isParticipant_exec serves] at participates
  · intro guarded index' conversationId tenantId userId conversation input none ended
    cases awaited : pool.awaited? index with
    | none =>
      rw [step, Pool.step_run_of_idle () awaited] at ended
      cases none.symm.trans ended
    | some awaiting =>
      obtain ⟨call, command⟩ := awaiting
      obtain ⟨next, present, awaits⟩ := Pool.await_of_awaited? awaited
      obtain ⟨shared, after⟩ := getElem?_step present awaits index'
      by_cases same : index = index'
      · subst same
        rw [if_pos rfl] at after
        rw [after] at input
        rw [Pool.outcome?, after] at ended
        have respects := respectful call (List.mem_of_getElem? present)
        obtain ⟨operation, phase, program⟩ := call
        cases Option.some.inj input
        cases awaits
        obtain ⟨may, rest⟩ := respects
        have served := (served_iff (rest _ trivial)).mpr ⟨conversation, ended⟩
        have serves := (nextPhase_eq_served_iff may).mp served
        rw [shared, isParticipant_exec serves]
        exact guarded _ command conversationId tenantId userId awaited rfl serves
      · rw [if_neg same] at after
        rw [Pool.outcome?, after] at ended
        cases none.symm.trans ended

theorem rightful_iff (respectful : Respectful pool) (event : ConversationEvent) :
    Rightful pool event ↔ ByParticipants pool event := by
  cases event with
  | start operation => exact iff_of_true (rightful_start operation) trivial
  | change change =>
    refine iff_of_true (rightful_of_outcomes fun index outcome some none => ?_) trivial
    cases none.symm.trans some
  | run index oracle => exact rightful_run_iff respectful index

end Steps

/-- Every read that ends with a conversation ends so for a participant exactly if those who find
an entry and those who write one are participants. -/
theorem reads_iff (store : ConversationStore) (events : List ConversationEvent) :
    machine.Admits Rightful ⟨store, []⟩ events ↔ machine.Admits ByParticipants ⟨store, []⟩ events :=
  @Transducer.Admits.congr _ _ _ machine (fun _ _ => True) Rightful ByParticipants Respectful
    (fun _ event respectful _ => respectful_step respectful event)
    (fun _ event respectful _ => rightful_iff respectful event) _ events
    (Transducer.admits_of_forall (fun _ _ => trivial) _ events)
    fun _ member => absurd member List.not_mem_nil

section Sample

def annCreates : List ConversationEvent :=
  .start (.membership (.createConversation "1" ⟨"t", .direct, ["ann"], "ann", none⟩)) ::
    List.replicate 3 (.run 0 ())

def reads (userId : String) (index : Nat) : List ConversationEvent :=
  [.start (.getConversation "conv_1" "t" userId), .run index ()]

/-- Eve is no participant and gets what the creation has cached. -/
theorem stranger_reads : ¬ ∀ (store : ConversationStore) (events : List ConversationEvent),
      machine.Admits Rightful ⟨store, []⟩ events := by
  intro rightful
  have last := (Transducer.admits_append.mp (rightful {} (annCreates ++ reads "eve" 1))).2.2.1
  have participates := last 1 "conv_1" "t" "eve" (newConversation "1" ⟨"t", .direct, ["ann"], "ann",
    none⟩) rfl rfl rfl
  revert participates
  decide +kernel

end Sample

end Caas.Conversations
