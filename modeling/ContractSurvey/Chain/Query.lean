/-
Questions to a chain.

A survey reads the code of an account, a slot of its storage, or the result of a
call that changes nothing.  Accounts and data are named by texts exactly as the
survey holds them.
-/

import ContractSurvey.Dialogue

namespace ContractSurvey
namespace Chain

inductive Query
  | code (address : Text)
  | storage (address slot : Text)
  | call (target data : Text) (sender : Option Text)
  deriving DecidableEq

end Chain
end ContractSurvey
