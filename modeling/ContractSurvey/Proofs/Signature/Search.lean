/-
Searches and what they come to.

A lookup that answers, or fails with an ordinary fault, lets a search go on.  So a search
among such lookups gives an answer, of which holds what holds of the answers of the lookups
and of nothing, and the same is true of what is kept of earlier searches.  Answers that are
texts or nothing can always be classified.
-/

import ContractSurvey.Proofs.Analysis.Inspection

namespace ContractSurvey
namespace Signature

open Dialogue

/-- Lookups that give answers with a property, or fail with an ordinary fault, as long as the
replies are allowed. -/
def AnswerWith (holds : Value → Prop) (allowed : Query → Reply → Prop)
    (lookups : List Lookup) : Prop :=
  ∀ lookup ∈ lookups, ∀ selector exchanges outcome,
    (∀ exchange ∈ exchanges, allowed exchange.1 exchange.2) →
      Path (lookup selector).run exchanges outcome →
        (∃ answer, outcome = .ok answer ∧ holds answer) ∨
          ∃ fault, outcome = .error fault ∧ fault.isFatal = false

def Cache.Keeps (holds : Value → Prop) (cache : Cache) : Prop :=
  ∀ selector kept, cache.get? selector = some kept → holds kept

section Search

variable {holds : Value → Prop} {allowed : Query → Reply → Prop} {lookups : List Lookup}

theorem yields_search (answer : AnswerWith holds allowed lookups) (nothing : holds .null)
    (selector : Text) : Yields allowed (search selector lookups) holds := by
  induction lookups with
  | nil => exact yields_pure nothing
  | cons lookup rest ih =>
      obtain ⟨first, others⟩ := List.forall_mem_cons.mp answer
      intro exchanges outcome permitted path
      obtain ⟨front, behind, ended, rfl, asked, onward⟩ := (path_andThen_iff ..).mp path
      obtain ⟨ofFront, ofBehind⟩ := List.forall_mem_append.mp permitted
      rcases first selector front ended ofFront asked with
        ⟨answer, rfl, held⟩ | ⟨fault, rfl, ordinary⟩
      · simp only at onward
        split at onward
        · obtain ⟨_, rfl⟩ := (path_done_iff ..).mp onward
          exact ⟨answer, rfl, held⟩
        · exact ih others behind outcome ofBehind onward
      · simp only [ordinary, Bool.false_eq_true, if_false] at onward
        exact ih others behind outcome ofBehind onward

theorem Cache.keeps_empty : Cache.Keeps holds [] := by
  intro selector kept absent
  cases absent

theorem Cache.Keeps.put {cache : Cache} {found : Value} (keeps : cache.Keeps holds)
    (given : holds found) (selector : Text) :
    Cache.Keeps holds (Register.put cache selector found) := by
  intro other kept held
  by_cases same : other = selector
  · rw [same, Register.get?_put_self] at held
    rw [← Option.some.inj held]
    exact given
  · rw [Register.get?_put_of_ne same] at held
    exact keeps other kept held

/-- What is kept is answered again, and what is searched for is kept. -/
theorem resolve_keeps {cache later : Cache} {selector : Text}
    {exchanges : List (Query × Reply)} {outcome : Except Fault Value}
    (answer : AnswerWith holds allowed lookups) (nothing : holds .null)
    (keeps : cache.Keeps holds)
    (permitted : ∀ exchange ∈ exchanges, allowed exchange.1 exchange.2)
    (path : Path (resolve lookups cache selector) exchanges (outcome, later)) :
    (∃ answer, outcome = .ok answer ∧ holds answer) ∧ later.Keeps holds := by
  unfold resolve at path
  cases held : cache.get? selector with
  | some kept =>
      rw [held] at path
      obtain ⟨_, same⟩ := (path_done_iff ..).mp path
      cases same
      exact ⟨⟨kept, rfl, keeps selector kept held⟩, keeps⟩
  | none =>
      rw [held] at path
      obtain ⟨front, behind, ended, rfl, searched, onward⟩ := (path_andThen_iff ..).mp path
      obtain ⟨found, rfl, given⟩ := yields_search answer nothing selector front ended
        (List.forall_mem_append.mp permitted).1 searched
      obtain ⟨_, same⟩ := (path_done_iff ..).mp onward
      cases same
      exact ⟨⟨found, rfl, given⟩, keeps.put given selector⟩

end Search

/-! ### Answers that are texts -/

/-- A text, or nothing. -/
def IsTextual (answer : Value) : Prop :=
  answer = .null ∨ ∃ content, answer = .text content

theorem isTextual_null : IsTextual .null :=
  Or.inl rfl

theorem IsTextual.exists_info {signature : Value} (textual : IsTextual signature)
    (selector : Text) : ∃ info, classifyValue selector signature = .ok info := by
  rcases textual with rfl | ⟨content, rfl⟩
  · exact ⟨_, classifyValue_null selector⟩
  · exact ⟨_, classifyValue_text selector content⟩

/-! ### One search after another -/

/-- What a search gives for a signature. -/
def valueOf : Option Text → Value
  | none => .null
  | some signature => .text signature

/-- Selectors are searched for one after another, each of them once, and these are the
signatures that are found. -/
inductive Finds (lookups : List Lookup) :
    List Text → List (Query × Reply) → List (Option Text) → Prop
  | nil : Finds lookups [] [] []
  | cons {selector : Text} {signature : Option Text} {part later : List (Query × Reply)}
      {selectors : List Text} {signatures : List (Option Text)}
      (searched : Path (search selector lookups).run part (.ok (valueOf signature)))
      (onward : Finds lookups selectors later signatures) :
      Finds lookups (selector :: selectors) (part ++ later) (signature :: signatures)

/-- A text that is found is never empty. -/
theorem ne_nil_of_search {lookups : List Lookup} {selector content : Text}
    {exchanges : List (Query × Reply)}
    (path : Path (search selector lookups).run exchanges (.ok (.text content))) :
    content ≠ [] := by
  induction lookups generalizing exchanges with
  | nil =>
      obtain ⟨_, impossible⟩ := (path_done_iff ..).mp path
      cases impossible
  | cons lookup rest ih =>
      obtain ⟨front, behind, ended, rfl, _, onward⟩ := (path_andThen_iff ..).mp path
      cases ended with
      | ok answer =>
          change Path (if isHit selector answer then _ else _) _ _ at onward
          split at onward
          · rename_i hit
            obtain ⟨_, same⟩ := (path_done_iff ..).mp onward
            cases same
            rintro rfl
            cases hit
          · exact ih onward
      | error fault =>
          change Path (if fault.isFatal then _ else _) _ _ at onward
          split at onward
          · obtain ⟨_, impossible⟩ := (path_done_iff ..).mp onward
            cases impossible
          · exact ih onward

/-- A selector of which nothing is kept is searched for, and nothing is entered under another
one. -/
theorem search_of_resolve {lookups : List Lookup} {cache later : Cache} {selector : Text}
    {exchanges : List (Query × Reply)} {outcome : Except Fault Value}
    (fresh : cache.get? selector = none)
    (path : Path (resolve lookups cache selector) exchanges (outcome, later)) :
    Path (search selector lookups).run exchanges outcome ∧
      ∀ other, other ≠ selector → later.get? other = cache.get? other := by
  unfold resolve at path
  rw [fresh] at path
  obtain ⟨front, behind, ended, rfl, searched, onward⟩ := (path_andThen_iff ..).mp path
  cases ended with
  | ok found =>
      obtain ⟨rfl, same⟩ := (path_done_iff ..).mp onward
      cases same
      rw [List.append_nil]
      exact ⟨searched, fun other different => Register.get?_put_of_ne different found⟩
  | error fault =>
      obtain ⟨rfl, same⟩ := (path_done_iff ..).mp onward
      cases same
      rw [List.append_nil]
      exact ⟨searched, fun _ _ => rfl⟩

/-- The caller's own source answers with what is replied to it. -/
theorem sourceLookup_answerWith {holds : Value → Prop} {allowed : Query → Reply → Prop}
    (answers : ∀ query reply, allowed query reply → (∃ answer, reply = .ok answer ∧
      holds answer) ∨ ∃ fault, reply = .error fault ∧ fault.isFatal = false) (index : Nat) :
    AnswerWith holds allowed [sourceLookup index] := by
  intro lookup member selector exchanges outcome permitted path
  rw [List.mem_singleton.mp member] at path
  rw [(Attempt.path_question_iff ..).mp path] at permitted
  exact answers _ _ (permitted _ (List.mem_singleton_self _))

end Signature
end ContractSurvey
