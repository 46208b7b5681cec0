/-
Registers.

A register keeps entries under keys, most often texts, in the order in which the keys
were first entered.  Entering a key again replaces its entry and leaves its place.
-/

import ContractSurvey.Text.Basic

namespace ContractSurvey

/-- Entries in the order of their keys' first entry. -/
abbrev Register (Entry : Type) (Key : Type := Text) := List (Key × Entry)

namespace Register

variable {Entry Key : Type} [DecidableEq Key]

def keys (register : Register Entry Key) : List Key :=
  register.map Prod.fst

def get? (register : Register Entry Key) (key : Key) : Option Entry :=
  match register with
  | [] => none
  | (held, entry) :: rest => if held = key then some entry else get? rest key

def put (register : Register Entry Key) (key : Key) (entry : Entry) :
    Register Entry Key :=
  match register with
  | [] => [(key, entry)]
  | (held, old) :: rest =>
      if held = key then (key, entry) :: rest else (held, old) :: put rest key entry

/-- Enters a list of entries one after another. -/
def ofEntries (entries : List (Key × Entry)) : Register Entry Key :=
  entries.foldl (fun register (key, entry) => put register key entry) []

end Register
end ContractSurvey
