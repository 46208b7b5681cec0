/-
Outsides with a memory.

An outside may reply to a question in view of everything that it was asked and replied before,
so it may change its mind, count or fail from some point on.  It leads every dialogue along
one way, and the replies along this way say all about the outside that the dialogue can see.
Fixed replies are those of an outside that does not look back.
-/

import ContractSurvey.Proofs.Dialogue.Path

namespace ContractSurvey

/-- The reply to a question behind the exchanges so far. -/
abbrev Outside (Query : Type) := List (Query × Reply) → Query → Reply

variable {Query Result : Type}

namespace Outside

/-- What is left of an outside when an exchange has taken place. -/
def after (outside : Outside Query) (exchange : Query × Reply) : Outside Query :=
  fun earlier => outside (exchange :: earlier)

/-- The replies in a list of exchanges are those of an outside. -/
def Gives (outside : Outside Query) : List (Query × Reply) → Prop
  | [] => True
  | (query, reply) :: later =>
      reply = outside [] query ∧ (outside.after (query, reply)).Gives later

/-- An outside that leaves some of the questions to another one, which sees nothing but these
questions and their replies. -/
def LeavesTo (outside client : Outside Query) (concerns : Query → Bool) : Prop :=
  ∀ earlier query, concerns query = true →
    outside earlier query = client (earlier.filter fun exchange => concerns exchange.1) query

/-- The replies to the questions that are left to another outside are its own. -/
theorem LeavesTo.gives {outside client : Outside Query} {concerns : Query → Bool}
    {exchanges : List (Query × Reply)} (leaves : outside.LeavesTo client concerns)
    (given : outside.Gives exchanges) :
    client.Gives (exchanges.filter fun exchange => concerns exchange.1) := by
  induction exchanges generalizing outside client with
  | nil => trivial
  | cons exchange later ih =>
      obtain ⟨query, reply⟩ := exchange
      obtain ⟨replied, others⟩ := given
      cases concerned : concerns query with
      | false =>
          rw [List.filter_cons_of_neg (by simp [concerned])]
          refine ih ?_ others
          intro earlier asked about
          simpa [after, concerned] using leaves ((query, reply) :: earlier) asked about
      | true =>
          rw [List.filter_cons_of_pos (by simp [concerned])]
          refine ⟨replied.trans (leaves [] query concerned), ih ?_ others⟩
          intro earlier asked about
          simpa [after, concerned] using leaves ((query, reply) :: earlier) asked about

end Outside

namespace Dialogue

/-- The exchanges of a dialogue with an outside, in order. -/
def exchangesWith (outside : Outside Query) : Dialogue Query Result → List (Query × Reply)
  | .done _ => []
  | .ask query next =>
      let reply := outside [] query
      (query, reply) :: (next reply).exchangesWith (outside.after (query, reply))

def resultWith (outside : Outside Query) : Dialogue Query Result → Result
  | .done result => result
  | .ask query next =>
      let reply := outside [] query
      (next reply).resultWith (outside.after (query, reply))

theorem path_with (outside : Outside Query) (dialogue : Dialogue Query Result) :
    Path dialogue (dialogue.exchangesWith outside) (dialogue.resultWith outside) := by
  induction dialogue generalizing outside with
  | done result => exact .done result
  | ask query next ih => exact .ask (outside [] query) (ih _ _)

theorem gives_exchangesWith (outside : Outside Query) (dialogue : Dialogue Query Result) :
    outside.Gives (dialogue.exchangesWith outside) := by
  induction dialogue generalizing outside with
  | done result => trivial
  | ask query next ih => exact ⟨rfl, ih _ _⟩

/-- What holds of every reply of an outside holds of its exchanges with a dialogue. -/
theorem forall_exchangesWith {holds : Query → Reply → Prop} {outside : Outside Query}
    (given : ∀ earlier query, holds query (outside earlier query))
    (dialogue : Dialogue Query Result) :
    ∀ exchange ∈ dialogue.exchangesWith outside, holds exchange.1 exchange.2 := by
  induction dialogue generalizing outside with
  | done result => exact List.forall_mem_nil _
  | ask query next ih =>
      exact List.forall_mem_cons.mpr
        ⟨given [] query, ih _ fun earlier => given ((query, outside [] query) :: earlier)⟩

/-- An outside leads a dialogue along one way. -/
theorem Path.eq_with {outside : Outside Query} {dialogue : Dialogue Query Result}
    {exchanges : List (Query × Reply)} {result : Result}
    (path : Path dialogue exchanges result) (gives : outside.Gives exchanges) :
    dialogue.exchangesWith outside = exchanges ∧ dialogue.resultWith outside = result := by
  induction path generalizing outside with
  | done result => exact ⟨rfl, rfl⟩
  | @ask query next exchanges result reply onward ih =>
      obtain ⟨rfl, later⟩ := gives
      obtain ⟨same, ended⟩ := ih later
      exact ⟨congrArg ((query, outside [] query) :: ·) same, ended⟩

end Dialogue
end ContractSurvey
