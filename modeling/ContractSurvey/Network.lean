/-
Networks.

A network has a name, a number, the URL of a server and the address of its
aggregator.  Six networks are known.  An address can be looked for in several of them
at once: each answers by itself, a network that cannot be asked counts as one without
the contract, and the answers stand in the order of the networks.
-/

import ContractSurvey.Pool
import ContractSurvey.Proxy
import ContractSurvey.Settings

namespace ContractSurvey

/-- A network on which contracts live. -/
structure Network where
  name : Text
  chainNumber : Int
  serverUrl : Text
  aggregator : Text := Settings.defaultAggregator
  deriving DecidableEq

namespace Network

/-- The known networks with the servers that are asked by default. -/
def standard : List (String × Int × String) :=
  [("ETH", 1, "https://eth.llamarpc.com"),
    ("BSC", 56, "https://bsc-dataseed.bnbchain.org"),
    ("AVAX", 43114, "https://api.avax.network/ext/bc/C/rpc"),
    ("BASE", 8453, "https://mainnet.base.org"),
    ("BLAST", 81457, "https://rpc.blast.io"),
    ("ARBITRUM", 42161, "https://arb1.arbitrum.io/rpc")]

def aggregatorVariable : Text := "MULTICALL3_ADDRESS".toList

def serverVariable (name : Text) : Text :=
  name ++ "_RPC_URL".toList

def variableNames : List Text :=
  aggregatorVariable :: standard.map fun (name, _, _) => serverVariable name.toList

/-- The known networks with the servers and the aggregator that an environment asks
for. -/
def known (environment : Environment) : List Network :=
  let aggregator := environment.textOr aggregatorVariable Settings.defaultAggregator
  standard.map fun (name, number, url) =>
    { name := name.toList
      chainNumber := number
      serverUrl := environment.textOr (serverVariable name.toList) url.toList
      aggregator := aggregator }

/-- The capital form of a character.  It serves the names of the known networks only: a
character stays when its capital form stands in none of them, as with the sharp s and the
ligatures of an f. -/
def capitalForm (character : Char) : Text :=
  if character = '\u0131' then ['I']
  else if character = '\u017f' then ['S']
  else if character = '\ufb05' ∨ character = '\ufb06' then ['S', 'T']
  else [Text.capitalAscii character]

/-- The network that a name in any letter case belongs to. -/
def named? (networks : List Network) (name : Text) : Option Network :=
  networks.find? fun network => network.name == name.flatMap capitalForm

/-- What was found out about an address in a network. -/
structure Check where
  network : Text
  serverUrl : Text
  isContract : Bool := false
  isProxy : Bool := false
  implementation : Text := Address.zeroAddress
  deriving DecidableEq

/-- Finds out whether an address holds code and is a proxy, on a chain that is known
by a name and a URL. -/
def check (address name url : Text) : Attempt Chain.Query Check := do
  let code ← Attempt.question (.code address)
  if !code.isPresent then return { network := name, serverUrl := url }
  let resolution ← Proxy.resolve address
  return {
    network := name
    serverUrl := url
    isContract := true
    isProxy := resolution.isProxy
    implementation := resolution.implementationAddress }

/-- A question to a network: whether it can be connected to, and a question to its
chain. -/
inductive Query
  | connect (network : Network)
  | chain (network : Network) (query : Chain.Query)
  deriving DecidableEq

def onChain {Result : Type} (network : Network) (work : Attempt Chain.Query Result) :
    Attempt Query Result :=
  ExceptT.mk (work.run.via fun query => Dialogue.question (.chain network query))

def connectAndCheck (address : Text) (network : Network) : Attempt Query Check := do
  let _ ← Attempt.question (.connect network)
  onChain network (check address network.name network.serverUrl)

/-- The answer of one network, in which a fault that is not fatal counts as the absence
of a contract. -/
def checkTolerantly (address : Text) (network : Network) :
    Dialogue Query (Except Fault Check) :=
  (connectAndCheck address network).run.andThen fun outcome =>
    match outcome with
    | .ok found => .done (.ok found)
    | .error fault =>
        if fault.isFatal then .done (.error fault)
        else .done (.ok { network := network.name, serverUrl := network.serverUrl })

def allOrFirstFault {Result : Type} :
    List (Except Fault Result) → Except Fault (List Result)
  | [] => .ok []
  | .error fault :: _ => .error fault
  | .ok result :: rest => (allOrFirstFault rest).map (result :: ·)

/-- Tells whether the answer of a network stops the search in the others.  Only a
fatal fault is left in such an answer. -/
def stopsSearch {Result : Type} : Except Fault Result → Bool
  | .ok _ => false
  | .error _ => true

/-- Checks an address in several networks side by side, at most a limited number at a
time.  A fatal fault is passed on: the networks that are being asked at that time are
asked to the end, and those that wait for their turn are not asked at all. -/
def probe (limit : Int) (schedule : Pool.Schedule) (address : Text)
    (networks : List Network) : Attempt Query (List Check) :=
  ExceptT.mk ((Pool.gatherUntil stopsSearch limit schedule
      (networks.map (checkTolerantly address))).andThen
    fun outcomes => .done (allOrFirstFault outcomes))

end Network
end ContractSurvey
