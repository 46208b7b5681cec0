/-
Resolving selectors.

A selector is looked up in one source after another until one gives something other
than nothing and other than the selector itself.  A source that fails is passed over.
What was found, and also that nothing was found, is kept, and a kept selector is never
looked up again.
-/

import ContractSurvey.Signature.Service

namespace ContractSurvey
namespace Signature

/-- What was found for the selectors asked so far: null stands for nothing. -/
abbrev Cache := Register Value

/-- Tells whether the answer of a source says something about a selector. -/
def isHit (selector : Text) (answer : Value) : Bool :=
  answer.isPresent &&
    match answer with
    | .text content => content != selector
    | _ => true

/-- The answer of the first source that has one. -/
def search (selector : Text) : List Lookup → Attempt Query Value
  | [] => return .null
  | lookup :: rest =>
      ExceptT.mk ((lookup selector).run.andThen fun outcome =>
        match outcome with
        | .ok answer =>
            if isHit selector answer then .done (.ok answer)
            else (search selector rest).run
        | .error fault =>
            if fault.isFatal then .done (.error fault) else (search selector rest).run)

/-- The signature of a selector, and the cache afterwards.  A search that stops with a
fault leaves the cache as it was. -/
def resolve (lookups : List Lookup) (cache : Cache) (selector : Text) :
    Dialogue Query (Except Fault Value × Cache) :=
  match cache.get? selector with
  | some kept => .done (.ok kept, cache)
  | none =>
      (search selector lookups).run.andThen fun outcome =>
        match outcome with
        | .ok found => .done (.ok found, cache.put selector found)
        | .error fault => .done (.error fault, cache)

/-- Resolves selectors one after another and enters each answer under its selector,
behind the answers given so far. -/
def resolveOnto (lookups : List Lookup) (cache : Cache) (answers : Register Value) :
    List Text → Dialogue Query (Except Fault (Register Value) × Cache)
  | [] => .done (.ok answers, cache)
  | selector :: rest =>
      (resolve lookups cache selector).andThen fun (outcome, later) =>
        match outcome with
        | .ok found => resolveOnto lookups later (answers.put selector found) rest
        | .error fault => .done (.error fault, later)

def resolveAll (lookups : List Lookup) (cache : Cache) (selectors : List Text) :
    Dialogue Query (Except Fault (Register Value) × Cache) :=
  resolveOnto lookups cache [] selectors

end Signature
end ContractSurvey
