/-
Dialogues with the outside.

Work that needs the outside is a tree: it is done with a result, or it asks one
question and goes on in a way that depends on the reply.  A dialogue decides nothing
about who replies.  It can be run with fixed replies, in any monad, or side by
side with other dialogues, and the questions it asks can be listed.
-/

import ContractSurvey.Fault

namespace ContractSurvey

/-- Work that asks questions one after another. -/
inductive Dialogue (Query : Type) (Result : Type) : Type
  | done (result : Result)
  | ask (query : Query) (next : Reply → Dialogue Query Result)

namespace Dialogue

variable {Query Other Result Later : Type}

def andThen (dialogue : Dialogue Query Result)
    (next : Result → Dialogue Query Later) : Dialogue Query Later :=
  match dialogue with
  | .done result => next result
  | .ask query continuation => .ask query fun reply => (continuation reply).andThen next

instance : Monad (Dialogue Query) where
  pure := .done
  bind := andThen

def question (query : Query) : Dialogue Query Reply :=
  .ask query .done

def answeredBy (replies : Query → Reply) : Dialogue Query Result → Result
  | .done result => result
  | .ask query next => (next (replies query)).answeredBy replies

/-- The questions asked when every question has a fixed reply, in order. -/
def asked (replies : Query → Reply) : Dialogue Query Result → List Query
  | .done _ => []
  | .ask query next => query :: (next (replies query)).asked replies

def runIn {Effect : Type → Type} [Monad Effect] (respond : Query → Effect Reply) :
    Dialogue Query Result → Effect Result
  | .done result => pure result
  | .ask query next => do
      let reply ← respond query
      (next reply).runIn respond

def via (find : Query → Dialogue Other Reply) :
    Dialogue Query Result → Dialogue Other Result
  | .done result => .done result
  | .ask query next => (find query).andThen fun reply => (next reply).via find

end Dialogue

abbrev Attempt (Query : Type) := ExceptT Fault (Dialogue Query)

namespace Attempt

variable {Query Result : Type}

/-- Asks one question and stops when the reply is a fault. -/
def question (query : Query) : Attempt Query Value :=
  ExceptT.mk (Dialogue.question query)

/-- Asks one question and takes a value for a fault that is not fatal. -/
def questionOr (missing : Value) (query : Query) : Attempt Query Value :=
  ExceptT.mk (.ask query fun reply => .done (reply.orElse missing))

/-- Stops with the fault of a piece of work that may fail. -/
def ofExcept (work : Except Fault Result) : Attempt Query Result :=
  ExceptT.mk (.done work)

end Attempt

end ContractSurvey
