/-
What a signature says about a function.

A function can be called without arguments when its signature ends with an empty
argument list.  A function without a known signature counts as callable: the call is
tried, and one that wanted arguments fails by itself.
-/

import ContractSurvey.Fault

namespace ContractSurvey
namespace Signature

/-- A function of a contract, as far as its signature is known.  The signature and the
name in it are held by their code points, not all of which have to be characters. -/
structure Info where
  selector : Text
  signature : Option (List Nat) := none
  functionName : Option (List Nat) := none
  isCallable : Bool := true
  deriving DecidableEq

/-- Tells whether a function can be called without arguments. -/
def isCallable : Option (List Nat) → Bool
  | none => true
  | some signature => signature.isEmpty || (Text.codes "()".toList).isSuffixOf signature

/-- The part of a signature in front of its first opening bracket. -/
def functionName (signature : List Nat) : List Nat :=
  signature.takeWhile (· ≠ '('.toNat)

/-- What a signature says about the function of a selector. -/
def classify (selector : Text) (signature : Option (List Nat)) : Info :=
  { selector := selector
    signature := signature
    functionName :=
      match signature with
      | none => none
      | some points => if points.isEmpty then none else some (functionName points)
    isCallable := isCallable signature }

/-- The opening bracket of an argument list. -/
def bracket : Text := ['(']

def hasBracket (items : List Value) : Bool :=
  items.any fun item =>
    match item with
    | .text content => content == bracket
    | _ => false

def lacking (value : Value) (member : String) : Fault :=
  .misuse (.noMember value.kind member.toList)

/-- The part in front of the first opening bracket of a signature of any kind.  A
value with parts stays as it is unless the bracket is one of them. -/
def functionNameOf (signature : Value) : Except Fault Value :=
  match signature with
  | .text content => .ok (.ofCodes (functionName (Text.codes content)))
  | .codes points => .ok (.ofCodes (functionName points))
  | .list items =>
      if hasBracket items then .error (lacking signature "split") else .ok signature
  | other =>
      if !other.isObject then .error (.misuse (.notSearchable other.kind))
      else if (other.member? bracket).isSome then .error (lacking other "split")
      else .ok other

/-- Tells whether a function with a signature of any kind can be called without
arguments. -/
def isCallableValue (signature : Value) : Except Fault Bool :=
  if !signature.isPresent then .ok true
  else
    match signature with
    | .text content => .ok (isCallable (some (Text.codes content)))
    | .codes points => .ok (isCallable (some points))
    | other => .error (lacking other "endswith")

/-- What a signature of any kind says about the function of a selector.  A signature
that is no text fails in the way in which its kind fails to be one. -/
def classifyValue (selector : Text) (signature : Value) : Except Fault Info := do
  if signature.isPresent then
    let _ ← functionNameOf signature
  let _ ← isCallableValue signature
  match signature, signature.points? with
  | .null, _ => return classify selector none
  | _, some points => return classify selector (some points)
  | _, none => throw (.misuse .notText)

end Signature
end ContractSurvey
