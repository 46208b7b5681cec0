/-
Where the code of a survey comes from.

A survey looks at the code of its target: the implementation behind the address when one
was found, and the address itself otherwise.  The code was always asked for under the
target's address, and through a proxy it is kept as a text in between.
-/

import ContractSurvey.Proofs.Proxy.Protocol

namespace ContractSurvey
namespace Analysis

open Dialogue

/-- The account whose code a survey looks at, by what became of the search for an
implementation. -/
def targetOf (address : Text) (resolution : Proxy.Resolution) : Text :=
  if resolution.isProxy then resolution.implementationAddress else address

/-- Every reply to a question about code is bytes, unless it is a fault. -/
def CodeIsBytes (exchanges : List (Query × Reply)) : Prop :=
  ∀ account reply, (Query.chain (.code account), reply) ∈ exchanges → reply.HoldsBytes

theorem CodeIsBytes.left {first second : List (Query × Reply)}
    (bytes : CodeIsBytes (first ++ second)) : CodeIsBytes first :=
  fun account reply member => bytes account reply (List.mem_append_left second member)

theorem CodeIsBytes.right {first second : List (Query × Reply)}
    (bytes : CodeIsBytes (first ++ second)) : CodeIsBytes second :=
  fun account reply member => bytes account reply (List.mem_append_right first member)

/-- What is known behind the first step of a survey: the report holds the address, the
target and the proxy and nothing else, and code that is bytes is what the target's account
gave. -/
structure IsLocated (address : Text) (exchanges : List (Query × Reply)) (located : Report)
    (code : Value) : Prop where
  blank : located = {
    address := address
    targetAddress := located.targetAddress
    proxy := located.proxy }
  target : located.targetAddress =
    (located.proxy.map (targetOf address)).getD address
  canonical : Address.IsCanonical located.targetAddress
  answered : CodeIsBytes exchanges → ∃ bytes, code = .bytes bytes ∧
    (Query.chain (.code located.targetAddress), Except.ok (.bytes bytes)) ∈ exchanges

private theorem located_of_question {address : Text} {exchanges : List (Query × Reply)}
    {proxy : Option Proxy.Resolution} {soFar : Report} {code : Value}
    (canonical : Address.IsCanonical address)
    (target : (proxy.map (targetOf address)).getD address = address)
    (path : Path (Stage.ofChain soFar (Attempt.question (.code address))).run exchanges
      (.ok code)) :
    IsLocated address exchanges { address := address, targetAddress := address, proxy := proxy }
      code := by
  obtain ⟨inner, rfl, asked⟩ := (Stage.path_ofChain_ok_iff ..).mp path
  rw [(Attempt.path_question_iff ..).mp asked]
  refine ⟨rfl, target.symm, canonical, fun bytes => ?_⟩
  obtain ⟨content, rfl⟩ := bytes address _ (List.mem_cons_self ..) code rfl
  exact ⟨content, rfl, List.mem_cons_self ..⟩

theorem IsLocated.left {address : Text} {first second : List (Query × Reply)}
    {located : Report} {code : Value} (known : IsLocated address first located code) :
    IsLocated address (first ++ second) located code := by
  refine ⟨known.blank, known.target, known.canonical, fun bytes => ?_⟩
  obtain ⟨content, same, answered⟩ := known.answered bytes.left
  exact ⟨content, same, List.mem_append_left second answered⟩

theorem IsLocated.right {address : Text} {first second : List (Query × Reply)}
    {located : Report} {code : Value} (known : IsLocated address second located code) :
    IsLocated address (first ++ second) located code := by
  refine ⟨known.blank, known.target, known.canonical, fun bytes => ?_⟩
  obtain ⟨content, same, answered⟩ := known.answered bytes.right
  exact ⟨content, same, List.mem_append_right first answered⟩

theorem implementationCode_marked (resolution : Proxy.Resolution)
    (content : List UInt8) (spelled : resolution.implementationBytecode = Hex.marked content) :
    implementationCode resolution = .ok content := by
  unfold implementationCode
  rw [spelled]
  change (Hex.read (Hex.ofBytes content)).mapError _ = _
  rw [Hex.read_of_spells (Hex.ofBytes_spells content)]
  rfl

theorem locate_isLocated {followsProxy : Bool} {address : Text}
    {exchanges : List (Query × Reply)} {located : Report} {code : Value}
    (canonical : Address.IsCanonical address)
    (path : Path (locate followsProxy address).run exchanges (.ok (located, code))) :
    IsLocated address exchanges located code := by
  cases followsProxy with
  | false =>
      obtain ⟨held, front, behind, rfl, asked, ended⟩ := (path_bind_ok_iff ..).mp path
      obtain ⟨rfl, same⟩ := (path_done_iff ..).mp ended
      cases same
      rw [List.append_nil]
      exact located_of_question canonical rfl asked
  | true =>
      obtain ⟨resolution, front, behind, rfl, resolved, onward⟩ :=
        (path_bind_ok_iff ..).mp path
      obtain ⟨inner, rfl, searched⟩ := (Stage.path_ofChain_ok_iff ..).mp resolved
      rcases Proxy.resolve_ok_cases searched with
        rfl | ⟨implementation, value, viaBeacon, known, found⟩
      · obtain ⟨held, asked, rest, rfl, questioned, ended⟩ := (path_bind_ok_iff ..).mp onward
        obtain ⟨rfl, same⟩ := (path_done_iff ..).mp ended
        cases same
        rw [List.append_nil]
        exact (located_of_question canonical rfl questioned).right
      · have answered : (Query.chain (.code implementation), Except.ok value) ∈
            inner.map (Prod.map Query.chain id) :=
          List.mem_map.mpr ⟨_, known.answered, rfl⟩
        obtain ⟨digits, spelledOut, same⟩ := exists_of_bind_eq_ok found
        cases same
        obtain ⟨read, none, rest, rfl, spelled, ended⟩ := (path_bind_ok_iff ..).mp onward
        obtain ⟨rfl, same⟩ := (path_done_iff ..).mp ended
        cases same
        refine ⟨rfl, rfl, known.canonical, fun bytes => ?_⟩
        obtain ⟨content, rfl⟩ := bytes.left implementation _ answered value rfl
        cases spelledOut
        obtain ⟨rfl, given⟩ := (Stage.path_ofExcept_ok_iff ..).mp spelled
        rw [implementationCode_marked _ content rfl] at given
        cases given
        exact ⟨_, rfl, List.mem_append_left _ answered⟩

/-! ### Outsides that give the code -/

/-- The account whose code a survey looks at, by the exchanges of the survey. -/
def IsTarget (followsProxy : Bool) (address : Text) (exchanges : List (Query × Reply))
    (target : Text) : Prop :=
  if followsProxy then ∃ inner behind resolution,
    exchanges = inner.map (Prod.map Query.chain id) ++ behind ∧
      Path (Proxy.resolve address).run inner (.ok resolution) ∧
      target = targetOf address resolution
  else target = address

theorem IsTarget.left {followsProxy : Bool} {address target : Text}
    {first second : List (Query × Reply)} (known : IsTarget followsProxy address first target) :
    IsTarget followsProxy address (first ++ second) target := by
  cases followsProxy with
  | false => exact known
  | true =>
      obtain ⟨inner, behind, resolution, rfl, path, same⟩ := known
      exact ⟨inner, behind ++ second, resolution, List.append_assoc .., path, same⟩

def TargetHasCode (followsProxy : Bool) (address : Text)
    (exchanges : List (Query × Reply)) : Prop :=
  ∀ target, IsTarget followsProxy address exchanges target →
    ∀ reply, (Query.chain (.code target), reply) ∈ exchanges →
      ∃ bytes, reply = .ok (.bytes bytes)

theorem TargetHasCode.left {followsProxy : Bool} {address : Text}
    {first second : List (Query × Reply)}
    (coded : TargetHasCode followsProxy address (first ++ second)) :
    TargetHasCode followsProxy address first :=
  fun target known reply member =>
    coded target known.left reply (List.mem_append_left second member)

/-- A search that leaves a survey with the code of the address itself: none at all, or one
that found no implementation. -/
def IsFruitless (followsProxy : Bool) (address : Text) (search : List (Query × Reply)) :
    Prop :=
  if followsProxy then ∃ inner resolution,
    search = inner.map (Prod.map Query.chain id) ∧
      Path (Proxy.resolve address).run inner (.ok resolution) ∧
      resolution.isProxy = false
  else search = []

theorem IsFruitless.isTarget {followsProxy : Bool} {address : Text}
    {search : List (Query × Reply)} (fruitless : IsFruitless followsProxy address search)
    (behind : List (Query × Reply)) :
    IsTarget followsProxy address (search ++ behind) address := by
  cases followsProxy with
  | false => rfl
  | true =>
      obtain ⟨inner, resolution, rfl, path, plain⟩ := fruitless
      have itself : targetOf address resolution = address := by
        unfold targetOf
        rw [plain]
        rfl
      exact ⟨inner, behind, resolution, rfl, path, itself.symm⟩

/-- No implementation was found, and the question about the code of the address failed. -/
def CodeIsMissing (followsProxy : Bool) (address : Text)
    (exchanges : List (Query × Reply)) : Prop :=
  ∃ search fault behind, IsFruitless followsProxy address search ∧
    exchanges = search ++ (.chain (.code address), .error fault) :: behind

theorem CodeIsMissing.exists_mem {followsProxy : Bool} {address : Text}
    {exchanges : List (Query × Reply)}
    (missing : CodeIsMissing followsProxy address exchanges) :
    ∃ fault, (Query.chain (.code address), Except.error fault) ∈ exchanges := by
  obtain ⟨search, fault, behind, _, rfl⟩ := missing
  exact ⟨fault, List.mem_append_right search (List.mem_cons_self ..)⟩

private theorem question_cases {address : Text} {soFar : Report}
    {exchanges : List (Query × Reply)} {outcome : Except Interruption Value}
    (path : Path (Stage.ofChain soFar (Attempt.question (.code address))).run exchanges
      outcome) :
    (∃ code, outcome = .ok code) ∨ ∃ stop, outcome = .error stop ∧
      exchanges = [(.chain (.code address), .error stop.fault)] := by
  obtain ⟨inner, ended, rfl, asked, rfl⟩ := (Stage.path_ofChain_iff ..).mp path
  rw [(Attempt.path_question_iff ..).mp asked]
  cases ended with
  | ok code => exact Or.inl ⟨code, rfl⟩
  | error fault => exact Or.inr ⟨_, rfl, rfl⟩

/-- When nothing but bytes and ordinary faults comes back, the code is found, or no
implementation was found and the question about the code of the address has failed. -/
theorem locate_cases {followsProxy : Bool} {address : Text}
    {exchanges : List (Query × Reply)} {outcome : Except Interruption (Report × Value)}
    (allowed : ∀ query reply, (Query.chain query, reply) ∈ exchanges →
      Proxy.Allowed query reply)
    (path : Path (locate followsProxy address).run exchanges outcome) :
    (∃ located code, outcome = .ok (located, code) ∧
      IsTarget followsProxy address exchanges located.targetAddress) ∨
    ∃ search stop, outcome = .error stop ∧ IsFruitless followsProxy address search ∧
      exchanges = search ++ [(.chain (.code address), .error stop.fault)] := by
  cases followsProxy with
  | false =>
      rcases (path_bind_iff ..).mp path with
        ⟨stop, rfl, stopped⟩ | ⟨code, front, behind, rfl, _, ended⟩
      · rcases question_cases stopped with ⟨code, impossible⟩ | ⟨same, equal, asked⟩
        · cases impossible
        · cases equal
          exact Or.inr ⟨[], stop, rfl, rfl, asked⟩
      · obtain ⟨_, rfl⟩ := (path_done_iff ..).mp ended
        exact Or.inl ⟨_, code, rfl, rfl⟩
  | true =>
      rcases (path_bind_iff ..).mp path with
        ⟨stop, _, stopped⟩ | ⟨resolution, front, behind, rfl, resolved, onward⟩
      · obtain ⟨inner, ended, rfl, searched, same⟩ := (Stage.path_ofChain_iff ..).mp stopped
        have ordinary : ∀ exchange ∈ inner, Proxy.Allowed exchange.1 exchange.2 :=
          fun exchange member => allowed _ _ (List.mem_map.mpr ⟨exchange, member, rfl⟩)
        obtain ⟨resolution, rfl, _⟩ := Proxy.yields_resolve address inner _ ordinary searched
        cases same
      · obtain ⟨inner, rfl, searched⟩ := (Stage.path_ofChain_ok_iff ..).mp resolved
        have target : IsTarget true address
            (inner.map (Prod.map Query.chain id) ++ behind)
            (targetOf address resolution) := ⟨inner, behind, resolution, rfl, searched, rfl⟩
        rcases Proxy.resolve_ok_cases searched with
          rfl | ⟨implementation, value, viaBeacon, known, found⟩
        · rcases (path_bind_iff ..).mp onward with
            ⟨stop, rfl, stopped⟩ | ⟨code, asked, rest, rfl, _, ended⟩
          · rcases question_cases stopped with ⟨code, impossible⟩ | ⟨same, equal, asked⟩
            · cases impossible
            · cases equal
              rw [asked]
              exact Or.inr ⟨_, stop, rfl, ⟨inner, _, rfl, searched, rfl⟩, rfl⟩
          · obtain ⟨_, rfl⟩ := (path_done_iff ..).mp ended
            exact Or.inl ⟨_, code, rfl, target⟩
        · have answered : (Query.chain (.code implementation), Except.ok value) ∈
              inner.map (Prod.map Query.chain id) :=
            List.mem_map.mpr ⟨_, known.answered, rfl⟩
          obtain ⟨content, rfl⟩ :=
            (allowed _ _ (List.mem_append_left behind answered)).1 value rfl
          rw [Proxy.found_bytes] at found
          cases found
          rcases (path_bind_iff ..).mp onward with
            ⟨stop, _, stopped⟩ | ⟨code, asked, rest, rfl, _, ended⟩
          · obtain ⟨_, same⟩ := (path_done_iff ..).mp stopped
            rw [implementationCode_marked _ content rfl] at same
            cases same
          · obtain ⟨_, rfl⟩ := (path_done_iff ..).mp ended
            exact Or.inl ⟨_, _, rfl, target⟩

theorem locate_succeeds {followsProxy : Bool} {address : Text}
    {exchanges : List (Query × Reply)} {outcome : Except Interruption (Report × Value)}
    (allowed : ∀ query reply, (Query.chain query, reply) ∈ exchanges →
      Proxy.Allowed query reply)
    (coded : TargetHasCode followsProxy address exchanges)
    (path : Path (locate followsProxy address).run exchanges outcome) :
    ∃ located code, outcome = .ok (located, code) ∧
      IsTarget followsProxy address exchanges located.targetAddress := by
  rcases locate_cases allowed path with found | ⟨search, stop, _, fruitless, rfl⟩
  · exact found
  · obtain ⟨bytes, impossible⟩ := coded address (fruitless.isTarget _) (.error stop.fault)
      (List.mem_append_right search (List.mem_singleton_self _))
    cases impossible

/-- Without an implementation, a failed question about the code of the address is the end
of the search for the code. -/
theorem IsFruitless.path_locate {followsProxy : Bool} {address : Text}
    {search : List (Query × Reply)} (fruitless : IsFruitless followsProxy address search)
    (fault : Fault) :
    ∃ soFar, Path (locate followsProxy address).run
      (search ++ [(.chain (.code address), .error fault)]) (.error ⟨fault, soFar⟩) := by
  have asked : ∀ soFar : Report,
      Path (Stage.ofChain soFar (Attempt.question (.code address))).run
        [(.chain (.code address), .error fault)] (.error ⟨fault, soFar⟩) := by
    intro soFar
    exact (Stage.path_ofChain_iff ..).mpr
      ⟨_, .error fault, rfl, (Attempt.path_question_iff ..).mpr rfl, rfl⟩
  cases followsProxy with
  | false =>
      cases fruitless
      exact ⟨_, (path_bind_iff ..).mpr (Or.inl ⟨_, rfl, asked _⟩)⟩
  | true =>
      obtain ⟨inner, resolution, rfl, path, plain⟩ := fruitless
      have resolved : Path (Stage.ofChain { address := address, targetAddress := address }
          (Proxy.resolve address)).run (inner.map (Prod.map Query.chain id))
          (.ok resolution) :=
        (Stage.path_ofChain_ok_iff ..).mpr ⟨inner, rfl, path⟩
      let seen : Report :=
        { address := address, targetAddress := address, proxy := some resolution }
      refine ⟨seen, (path_bind_iff ..).mpr (Or.inr ⟨resolution, _, _, rfl, resolved, ?_⟩)⟩
      rw [plain, if_neg Bool.false_ne_true]
      exact (path_bind_iff ..).mpr (Or.inl ⟨_, rfl, asked seen⟩)

/-- Where the code of the address is missing, that is what the search for the code comes
to. -/
theorem locate_of_codeIsMissing {followsProxy : Bool} {address : Text}
    {first rest : List (Query × Reply)} {outcome : Except Interruption (Report × Value)}
    (path : Path (locate followsProxy address).run first outcome)
    (missing : CodeIsMissing followsProxy address (first ++ rest)) :
    ∃ stop, outcome = .error stop := by
  obtain ⟨search, fault, behind, fruitless, alike⟩ := missing
  obtain ⟨soFar, other⟩ := fruitless.path_locate fault
  obtain ⟨_, same⟩ := path.unique other (alike.trans (List.append_cons ..))
  exact ⟨_, same⟩

/-! ### Fixed replies -/

theorem locate_direct {address : Text} {replies : Query → Reply} {code : Value}
    (given : replies (.chain (.code address)) = .ok code) :
    (locate false address).run.answeredBy replies =
        .ok ({ address := address, targetAddress := address }, code) ∧
      (locate false address).run.asked replies = [.chain (.code address)] := by
  have asked : (Stage.ofChain { address := address, targetAddress := address }
      (Attempt.question (.code address))).run.answeredBy replies = .ok code := by
    rw [Stage.ofChain_answeredBy]
    exact congrArg (Except.mapError _) given
  constructor
  · change Dialogue.answeredBy replies (_ >>= _ : Stage (Report × Value)).run = _
    rw [answeredBy_bind, asked]
    rfl
  · change Dialogue.asked replies (_ >>= _ : Stage (Report × Value)).run = _
    rw [asked_bind_of_ok asked, Stage.ofChain_asked]
    rfl

/-- An account that turns out to be no proxy is asked for its own code. -/
theorem locate_unproxied {address : Text} {replies : Query → Reply} {code : Value}
    {resolution : Proxy.Resolution}
    (resolved : (Proxy.resolve address).run.answeredBy (fun query => replies (.chain query)) =
      .ok resolution)
    (plain : resolution.isProxy = false)
    (given : replies (.chain (.code address)) = .ok code) :
    (locate true address).run.answeredBy replies =
      .ok ({ address := address, targetAddress := address, proxy := some resolution },
        code) := by
  have searched : (Stage.ofChain { address := address, targetAddress := address }
      (Proxy.resolve address)).run.answeredBy replies = .ok resolution := by
    rw [Stage.ofChain_answeredBy, resolved]
    rfl
  let seen : Report :=
    { address := address, targetAddress := address, proxy := some resolution }
  have asked : (Stage.ofChain seen (Attempt.question (.code address))).run.answeredBy replies =
      .ok code := by
    rw [Stage.ofChain_answeredBy]
    exact congrArg (Except.mapError _) given
  change Dialogue.answeredBy replies (_ >>= _ : Stage (Report × Value)).run = _
  rw [answeredBy_bind, searched, Except.bind, plain, if_neg Bool.false_ne_true,
    answeredBy_bind, asked]
  rfl

/-- Behind a proxy nothing more is asked: the code is the one that the search for the
implementation was given. -/
theorem locate_proxied {address : Text} {replies : Query → Reply}
    {resolution : Proxy.Resolution}
    (allowed : ∀ query, Proxy.Allowed query (replies (.chain query)))
    (resolved : (Proxy.resolve address).run.answeredBy (fun query => replies (.chain query)) =
      .ok resolution)
    (proxied : resolution.isProxy = true) :
    ∃ code, Address.IsCanonical resolution.implementationAddress ∧
      replies (.chain (.code resolution.implementationAddress)) = .ok (.bytes code) ∧
      (locate true address).run.answeredBy replies = .ok ({
        address := address
        targetAddress := resolution.implementationAddress
        proxy := some resolution }, .bytes code) ∧
      (locate true address).run.asked replies =
        ((Proxy.resolve address).run.asked fun query => replies (.chain query)).map
          Query.chain := by
  have path := path_answeredBy (fun query => replies (.chain query))
    (Proxy.resolve address).run
  rw [resolved] at path
  have bytes : ∀ exchange ∈ ((Proxy.resolve address).run.asked fun query =>
      replies (.chain query)).map (fun query => (query, replies (.chain query))),
      exchange.2.HoldsBytes :=
    fun exchange member => (forall_exchange_of_fixed allowed _ exchange member).1
  obtain ⟨code, canonical, member, spelled⟩ :=
    Proxy.exists_code_of_isProxy bytes path proxied
  have given := (eq_reply_of_mem member).symm
  have searched : (Stage.ofChain { address := address, targetAddress := address }
      (Proxy.resolve address)).run.answeredBy replies = .ok resolution := by
    rw [Stage.ofChain_answeredBy, resolved]
    rfl
  refine ⟨code, canonical, given, ?_, ?_⟩
  · change Dialogue.answeredBy replies (_ >>= _ : Stage (Report × Value)).run = _
    rw [answeredBy_bind, searched, Except.bind, if_pos proxied,
      implementationCode_marked _ code spelled]
    rfl
  · change Dialogue.asked replies (_ >>= _ : Stage (Report × Value)).run = _
    rw [asked_bind_of_ok searched, if_pos proxied, implementationCode_marked _ code spelled,
      Stage.ofChain_asked]
    exact List.append_nil _

/-- Sent to an account with code, and told to follow a proxy if the account is one, a survey
finds the code of what the resolution of the account names. -/
theorem locate_resolved {followsProxy : Bool} {address : Text} {replies : Query → Reply}
    {resolution : Proxy.Resolution} {code : List UInt8}
    (allowed : ∀ query, Proxy.Allowed query (replies (.chain query)))
    (resolved : (Proxy.resolve address).run.answeredBy (fun query => replies (.chain query)) =
      .ok resolution)
    (follows : resolution.isProxy = true → followsProxy = true) (present : code ≠ [])
    (given : replies (.chain (.code address)) = .ok (.bytes code)) :
    ∃ proxy content, content ≠ [] ∧
      (locate followsProxy address).run.answeredBy replies = .ok ({
        address := address
        targetAddress := targetOf address resolution
        proxy := proxy }, .bytes content) ∧
      (proxy.map Proxy.Resolution.isProxy).getD false = resolution.isProxy := by
  unfold targetOf
  cases proxied : resolution.isProxy with
  | true =>
      rw [follows proxied, if_pos rfl]
      obtain ⟨content, _, answered, found, _⟩ := locate_proxied allowed resolved proxied
      obtain ⟨other, filled, same⟩ := Proxy.exists_code_of_resolved allowed resolved proxied
      cases same.symm.trans answered
      exact ⟨some resolution, content, filled, found, proxied⟩
  | false =>
      rw [if_neg Bool.false_ne_true]
      cases followsProxy with
      | true =>
          have found := locate_unproxied resolved proxied given
          exact ⟨some resolution, code, present, found, proxied⟩
      | false => exact ⟨none, code, present, (locate_direct given).1, rfl⟩

end Analysis
end ContractSurvey
