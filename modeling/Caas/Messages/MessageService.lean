import Caas.Async.Program

/-!
# Editing a message and reacting to it

The operations on one message that is there, of a conversation of a tenant. An edit reads the
message twice, checks the first copy and writes back the history of the second one whole, with
the text that it had. A reaction is pulled first and pushed then.

Commands filter by the id of the message, and so concern this one. Whether a user takes part in
the conversation, other collections tell. The code between two awaits is part of the reply to
the first, which comes with the time. Commands do not fail. The date of the latest update and
what these operations do not read of a message are left out.
-/

namespace Caas.Messages

open Async

inductive ContentType where
  | text
  | image
  | file
  | audio
  | video
deriving DecidableEq

structure MessageContent where
  type : ContentType
  text : Option String := none
  mediaUrl : Option String := none
deriving DecidableEq

/-- A text that a message had, and when it was replaced. -/
structure EditRecord where
  content : String
  editedAt : Nat
deriving DecidableEq

structure Reaction where
  userId : String
  emoji : String
  createdAt : Nat
deriving DecidableEq

structure Message where
  conversationId : String
  senderId : String
  content : MessageContent
  createdAt : Nat
  deletedAt : Option Nat := none
  editHistory : Option (List EditRecord) := none
  reactions : Option (List Reaction) := none
deriving DecidableEq

structure MessageStore where
  now : Nat
  message : Message
deriving DecidableEq

inductive MessageCommand where
  | findMessage
  | isParticipant (conversationId userId : String)
  | setText (text : String) (editHistory : List EditRecord)
  | pullReaction (userId : String)
  | pushReaction (reaction : Reaction)

def MessageCommand.Reply : MessageCommand → Type
  | .findMessage => Option Message × Nat
  | .isParticipant _ _ => Bool
  | .setText _ _ => Unit
  | .pullReaction _ => Nat
  | .pushReaction _ => Unit

/-- `participates` is what the other collections tell. -/
def exec (store : MessageStore) (command : MessageCommand) (participates : Bool) :
    MessageStore × command.Reply :=
  match command with
  | .findMessage => (store, (some store.message).filter (·.deletedAt.isNone), store.now)
  | .isParticipant _ _ => (store, participates)
  | .setText text editHistory =>
    ({ store with
        message.content.text := some text
        message.editHistory := some editHistory }, ())
  | .pullReaction userId =>
    ({ store with
        message.reactions := store.message.reactions.map (·.filter (·.userId ≠ userId)) },
      store.now)
  | .pushReaction reaction =>
    ({ store with
        message.reactions := some (store.message.reactions.getD [] ++ [reaction]) }, ())

abbrev MessageProgram := Program MessageCommand MessageCommand.Reply

def await (command : MessageCommand) : MessageProgram command.Reply := Program.command command

namespace MessageRepository

def getMessage : MessageProgram (Option Message × Nat) := await .findMessage

def editMessage (newContent : String) : MessageProgram Unit := do
  let (currentMessage, now) ← getMessage
  match currentMessage with
  | none => .failure "Message not found"
  | some currentMessage =>
    let editHistory := currentMessage.editHistory.getD [] ++
      [{ content := currentMessage.content.text.getD "", editedAt := now }]
    await (.setText newContent editHistory)

def addReaction (userId emoji : String) : MessageProgram Unit := do
  let now : Nat ← await (.pullReaction userId)
  await (.pushReaction { userId, emoji, createdAt := now })

def removeReaction (userId : String) : MessageProgram Unit := do
  let _ : Nat ← await (.pullReaction userId)
  pure ()

end MessageRepository

namespace MessageService

def editWindowMs : Int := 15 * 60 * 1000

def editMessage (userId newContent : String) : MessageProgram Unit := do
  let (message, now) ← MessageRepository.getMessage
  match message with
  | none => .failure "Message not found"
  | some message =>
    if message.senderId ≠ userId then .failure "Only message owner can edit"
    else
      let messageAge : Int := now - message.createdAt
      if messageAge > editWindowMs then .failure "Edit window expired (15 minutes)"
      else MessageRepository.editMessage newContent

def addReaction (userId emoji : String) : MessageProgram Unit := do
  let (message, _) ← MessageRepository.getMessage
  match message with
  | none => .failure "Message not found"
  | some message => do
    let isParticipant : Bool ← await (.isParticipant message.conversationId userId)
    if ¬ isParticipant then .failure "Not a participant in this conversation"
    else MessageRepository.addReaction userId emoji

def removeReaction (userId : String) : MessageProgram Unit :=
  MessageRepository.removeReaction userId

end MessageService

inductive MessageOperation where
  | editMessage (userId newContent : String)
  | addReaction (userId emoji : String)
  | removeReaction (userId : String)
deriving DecidableEq

open MessageService in
def body : MessageOperation → MessageProgram Unit
  | .editMessage userId newContent => editMessage userId newContent
  | .addReaction userId emoji => addReaction userId emoji
  | .removeReaction userId => removeReaction userId

end Caas.Messages
