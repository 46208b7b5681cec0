/-
What is checked before a request leaves.

The client has three methods, and each takes values of any kind.  An account has to be named by
its twenty bytes and leaves in its checksummed form, a slot that is text has to be a numeral of
base sixteen and leaves as the number that it denotes, and the data of a call have to be bytes
or text.  One value that does not fit is enough for no request to be made.  Otherwise one
request is made, and bytes that come back are handed on as they are.
-/

import ContractSurvey.Proofs.Address.Account
import ContractSurvey.Proofs.Chain.Client
import ContractSurvey.Proofs.Numeral.Sixteen
import ContractSurvey.Proofs.Results

namespace ContractSurvey
namespace Chain
namespace Client

open Dialogue

/-- A method of the client with the values that it is given. -/
inductive Method
  | code (address : Value)
  | storage (address slot : Value)
  | call (target data sender : Value)

def Method.prepared : Method → Except Fault Request
  | .code address => Client.code address
  | .storage address slot => Client.storage address slot
  | .call target data sender => Client.call target data sender

/-! ### Values and what leaves for them -/

/-- A value is text, whether or not all its code points are characters. -/
inductive IsText : Value → Prop
  | proper (text : Text) : IsText (.text text)
  | coded (points : List Nat) : IsText (.codes points)

/-- Text that is a numeral leaves as the number that it denotes, and what is no text leaves as
it is. -/
inductive Places : Value → Value → Prop
  | numeral {text : Text} {number : Int} (denotes : Numeral.Denotes text number) :
      Places (.text text) (.int number)
  | unchanged {slot : Value} (other : ¬IsText slot) : Places slot slot

/-- A list is put behind a marker, unless it begins with the marker. -/
inductive Behind {Symbol : Type} (marker : List Symbol) : List Symbol → List Symbol → Prop
  | kept {given : List Symbol} (begun : marker <+: given) : Behind marker given given
  | put {given : List Symbol} (bare : ¬marker <+: given) : Behind marker given (marker ++ given)

/-- The data of a call leave as text behind a marker. -/
inductive Marks : Value → Text → Prop
  | bytes (content : List UInt8) : Marks (.bytes content) ("0x".toList ++ Hex.ofBytes content)
  | text {text sent : Text} (behind : Behind "0x".toList text sent) : Marks (.text text) sent

/-- A sender leaves in its checksummed form, unless it counts as empty. -/
inductive Sends : Value → Option Text → Prop
  | absent {sender : Value} (empty : sender.isPresent = false) : Sends sender none
  | present {sender : Value} {bytes : List UInt8} (given : sender.isPresent = true)
      (named : Address.Names sender bytes) :
      Sends sender (some (Address.checksummed (Hex.ofBytes bytes)))

/-- A request says what the values say that a method is given. -/
inductive Carries : Method → Request → Prop
  | code {address : Value} {bytes : List UInt8} (named : Address.Names address bytes) :
      Carries (.code address) (.code (Address.checksummed (Hex.ofBytes bytes)))
  | storage {address slot position : Value} {bytes : List UInt8}
      (named : Address.Names address bytes) (placed : Places slot position) :
      Carries (.storage address slot)
        (.storage (Address.checksummed (Hex.ofBytes bytes)) position)
  | call {target data sender : Value} {bytes : List UInt8} {sent : Text} {account : Option Text}
      (named : Address.Names target bytes) (marked : Marks data sent)
      (called : Sends sender account) :
      Carries (.call target data sender)
        (.call (Address.checksummed (Hex.ofBytes bytes)) sent account)
  | codedCall {target sender : Value} {bytes : List UInt8} {points sent : List Nat}
      {account : Option Text} (named : Address.Names target bytes)
      (marked : Behind (Text.codes "0x".toList) points sent) (called : Sends sender account) :
      Carries (.call target (.codes points) sender)
        (.codedCall (Address.checksummed (Hex.ofBytes bytes)) sent account)

/-- A value that a method is given does not fit. -/
inductive Rejected : Method → Prop
  | account {address : Value} (nameless : ¬∃ bytes, Address.Names address bytes) :
      Rejected (.code address)
  | holder {address slot : Value} (nameless : ¬∃ bytes, Address.Names address bytes) :
      Rejected (.storage address slot)
  | slot {address slot : Value} (isText : IsText slot)
      (meaningless : ¬∃ text number, slot = .text text ∧ Numeral.Denotes text number) :
      Rejected (.storage address slot)
  | target {target data sender : Value} (nameless : ¬∃ bytes, Address.Names target bytes) :
      Rejected (.call target data sender)
  | data {target data sender : Value} (other : ¬IsText data)
      (nonbinary : ∀ content, data ≠ .bytes content) : Rejected (.call target data sender)
  | sender {target data sender : Value} (given : sender.isPresent = true)
      (nameless : ¬∃ bytes, Address.Names sender bytes) :
      Rejected (.call target data sender)

/-! ### Each value by itself -/

theorem account_eq_ok_iff (value : Value) (address : Text) :
    account value = .ok address ↔
      ∃ bytes, Address.Names value bytes ∧ address = Address.checksummed (Hex.ofBytes bytes) := by
  unfold account
  rw [mapError_eq_ok_iff, Address.ofValue_eq_ok_iff]

theorem position_eq_ok_iff (slot place : Value) :
    position slot = .ok place ↔ Places slot place := by
  constructor
  · intro given
    cases slot with
    | text text =>
        unfold position at given
        dsimp only at given
        split at given
        · rename_i number read
          cases given
          exact .numeral ((Numeral.read_eq_some_iff ..).mp read)
        · cases given
    | codes points => cases given
    | null | bool _ | int _ | float _ | bytes _ | list _ | object _ | codedObject _ =>
        cases given
        exact .unchanged nofun
  · intro placed
    cases placed with
    | numeral denotes =>
        unfold position
        dsimp only
        rw [(Numeral.read_eq_some_iff ..).mpr denotes]
    | unchanged other =>
        cases slot with
        | text text => exact absurd (.proper text) other
        | codes points => exact absurd (.coded points) other
        | null | bool _ | int _ | float _ | bytes _ | list _ | object _ | codedObject _ => rfl

theorem behind_iff {Symbol : Type} [BEq Symbol] [LawfulBEq Symbol]
    (marker given sent : List Symbol) :
    (if marker.isPrefixOf given then given else marker ++ given) = sent ↔
      Behind marker given sent := by
  constructor
  · rintro rfl
    split
    · rename_i begun
      exact .kept (List.isPrefixOf_iff_prefix.mp begun)
    · rename_i bare
      exact .put fun begun => bare (List.isPrefixOf_iff_prefix.mpr begun)
  · intro behind
    cases behind with
    | kept begun => exact if_pos (List.isPrefixOf_iff_prefix.mpr begun)
    | put bare => exact if_neg fun begun => bare (List.isPrefixOf_iff_prefix.mp begun)

theorem callData_eq_ok_iff (data : Value) (sent : Text) :
    callData data = .ok sent ↔ Marks data sent := by
  constructor
  · intro given
    cases data with
    | bytes content =>
        cases given
        exact .bytes content
    | text text => exact .text ((behind_iff ..).mp (Except.ok.inj given))
    | null | bool _ | int _ | float _ | list _ | object _ | codes _ | codedObject _ => cases given
  · intro marked
    cases marked with
    | bytes content => rfl
    | text behind => exact congrArg Except.ok ((behind_iff ..).mpr behind)

theorem caller_eq_ok_iff (sender : Value) (address : Option Text) :
    caller sender = .ok address ↔ Sends sender address := by
  unfold caller
  constructor
  · intro given
    split at given
    · rename_i present
      cases named : account sender with
      | error fault =>
          rw [named] at given
          cases given
      | ok found =>
          rw [named] at given
          cases given
          obtain ⟨bytes, names, rfl⟩ := (account_eq_ok_iff ..).mp named
          exact .present present names
    · rename_i empty
      cases given
      exact .absent (Bool.eq_false_iff.mpr empty)
  · intro called
    cases called with
    | absent empty => rw [if_neg (by rw [empty]; exact Bool.false_ne_true)]
    | present given named =>
        rw [if_pos given, (account_eq_ok_iff ..).mpr ⟨_, named, rfl⟩]
        rfl

/-! ### Whole requests -/

/-- A method prepares exactly the request that carries its values. -/
theorem prepared_eq_ok_iff (method : Method) (request : Request) :
    method.prepared = .ok request ↔ Carries method request := by
  constructor
  · intro given
    cases method with
    | code address =>
        obtain ⟨found, named, same⟩ := exists_of_bind_eq_ok given
        obtain ⟨bytes, names, rfl⟩ := (account_eq_ok_iff ..).mp named
        cases same
        exact .code names
    | storage address slot =>
        obtain ⟨place, placed, onward⟩ := exists_of_bind_eq_ok given
        obtain ⟨found, named, same⟩ := exists_of_bind_eq_ok onward
        obtain ⟨bytes, names, rfl⟩ := (account_eq_ok_iff ..).mp named
        cases same
        exact .storage names ((position_eq_ok_iff ..).mp placed)
    | call target data sender =>
        obtain ⟨found, named, onward⟩ := exists_of_bind_eq_ok given
        obtain ⟨bytes, names, rfl⟩ := (account_eq_ok_iff ..).mp named
        split at onward
        · rename_i points
          obtain ⟨account, called, same⟩ := exists_of_bind_eq_ok onward
          cases same
          exact .codedCall names ((behind_iff ..).mp rfl) ((caller_eq_ok_iff ..).mp called)
        · obtain ⟨sent, marked, behind⟩ := exists_of_bind_eq_ok onward
          obtain ⟨account, called, same⟩ := exists_of_bind_eq_ok behind
          cases same
          exact .call names ((callData_eq_ok_iff ..).mp marked) ((caller_eq_ok_iff ..).mp called)
  · intro carries
    cases carries with
    | code named =>
        dsimp only [Method.prepared, Client.code]
        rw [(account_eq_ok_iff ..).mpr ⟨_, named, rfl⟩]
        rfl
    | storage named placed =>
        dsimp only [Method.prepared, Client.storage]
        rw [(position_eq_ok_iff ..).mpr placed, (account_eq_ok_iff ..).mpr ⟨_, named, rfl⟩]
        rfl
    | call named marked called =>
        dsimp only [Method.prepared, Client.call]
        rw [(account_eq_ok_iff ..).mpr ⟨_, named, rfl⟩, (caller_eq_ok_iff ..).mpr called]
        cases marked with
        | bytes content => rfl
        | text behind =>
            dsimp only [bind, Except.bind]
            rw [(callData_eq_ok_iff ..).mpr (.text behind)]
            rfl
    | codedCall named marked called =>
        dsimp only [Method.prepared, Client.call]
        rw [(account_eq_ok_iff ..).mpr ⟨_, named, rfl⟩, (caller_eq_ok_iff ..).mpr called,
          ← (behind_iff ..).mpr marked]
        rfl

variable {method : Method} {request : Request}

theorem Carries.not_rejected (carries : Carries method request) : ¬Rejected method := by
  intro rejected
  cases rejected with
  | account nameless =>
      cases carries with
      | code named => exact nameless ⟨_, named⟩
  | holder nameless =>
      cases carries with
      | storage named _ => exact nameless ⟨_, named⟩
  | slot isText meaningless =>
      cases carries with
      | storage _ placed =>
          cases placed with
          | numeral denotes => exact meaningless ⟨_, _, rfl, denotes⟩
          | unchanged other => exact other isText
  | target nameless =>
      cases carries with
      | call named _ _ | codedCall named _ _ => exact nameless ⟨_, named⟩
  | data other nonbinary =>
      cases carries with
      | call _ marked _ =>
          cases marked with
          | bytes content => exact nonbinary content rfl
          | text _ => exact other (.proper _)
      | codedCall _ _ _ => exact other (.coded _)
  | sender given nameless =>
      cases carries with
      | call _ _ called | codedCall _ _ called =>
          cases called with
          | absent empty => exact absurd given (Bool.eq_false_iff.mp empty)
          | present _ named => exact nameless ⟨_, named⟩

private theorem exists_places {slot : Value}
    (meaning : IsText slot → ∃ text number, slot = .text text ∧ Numeral.Denotes text number) :
    ∃ position, Places slot position := by
  by_cases isText : IsText slot
  · obtain ⟨text, number, rfl, denotes⟩ := meaning isText
    exact ⟨_, .numeral denotes⟩
  · exact ⟨slot, .unchanged isText⟩

private theorem exists_behind {Symbol : Type} (marker given : List Symbol) :
    ∃ sent, Behind marker given sent := by
  by_cases begun : marker <+: given
  · exact ⟨given, .kept begun⟩
  · exact ⟨_, .put begun⟩

private theorem exists_sends {sender : Value}
    (named : sender.isPresent = true → ∃ bytes, Address.Names sender bytes) :
    ∃ account, Sends sender account := by
  cases present : sender.isPresent with
  | false => exact ⟨none, .absent present⟩
  | true =>
      obtain ⟨bytes, names⟩ := named present
      exact ⟨_, .present present names⟩

/-- Where no value is rejected, there is a request. -/
theorem exists_carries (accepted : ¬Rejected method) : ∃ request, Carries method request := by
  cases method with
  | code address =>
      have named : ∃ bytes, Address.Names address bytes :=
        by_contra fun nameless => accepted (.account nameless)
      obtain ⟨bytes, names⟩ := named
      exact ⟨_, .code names⟩
  | storage address slot =>
      have named : ∃ bytes, Address.Names address bytes :=
        by_contra fun nameless => accepted (.holder nameless)
      obtain ⟨bytes, names⟩ := named
      obtain ⟨position, placed⟩ := exists_places fun isText =>
        by_contra fun meaningless => accepted (.slot isText meaningless)
      exact ⟨_, .storage names placed⟩
  | call target data sender =>
      have named : ∃ bytes, Address.Names target bytes :=
        by_contra fun nameless => accepted (.target nameless)
      obtain ⟨bytes, names⟩ := named
      obtain ⟨account, called⟩ := exists_sends fun given =>
        by_contra fun nameless => accepted (.sender given nameless)
      by_cases isText : IsText data
      · cases isText with
        | proper text =>
            obtain ⟨sent, behind⟩ := exists_behind "0x".toList text
            exact ⟨_, .call names (.text behind) called⟩
        | coded points =>
            obtain ⟨sent, behind⟩ := exists_behind (Text.codes "0x".toList) points
            exact ⟨_, .codedCall names behind called⟩
      · have binary : ∃ content, data = .bytes content :=
          by_contra fun nonbinary =>
            accepted (.data isText fun content same => nonbinary ⟨content, same⟩)
        obtain ⟨content, rfl⟩ := binary
        exact ⟨_, .call names (.bytes content) called⟩

theorem exists_refusal (rejected : Rejected method) : ∃ fault, method.prepared = .error fault := by
  cases prepared : method.prepared with
  | error fault => exact ⟨fault, rfl⟩
  | ok request => exact absurd rejected ((prepared_eq_ok_iff ..).mp prepared).not_rejected

/-- A method asks at most once, and what it asks carries the values that it is given.  It stops
with a fault and asks nothing when one of them does not fit.  When all of them fit it does ask,
gives the bytes of the reply as they are, and passes a fault on. -/
theorem perform_checks_before_asking (method : Method) (replies : Request → Reply) :
    let work := (perform method.prepared).run
    (work.asked replies).length ≤ 1 ∧
    (∀ request ∈ work.asked replies, Carries method request) ∧
    (Rejected method →
      work.asked replies = [] ∧ ∃ fault, work.answeredBy replies = .error fault) ∧
    (¬Rejected method → ∃ request, work.asked replies = [request] ∧
      (∀ content, replies request = .ok (.bytes content) →
        work.answeredBy replies = .ok content) ∧
      ∀ fault, replies request = .error fault → work.answeredBy replies = .error fault) := by
  intro work
  by_cases rejected : Rejected method
  · obtain ⟨fault, refused⟩ := exists_refusal rejected
    have stopped : work = .done (.error fault) := by
      rw [← perform_of_refused, ← refused]
    rw [stopped]
    exact ⟨Nat.zero_le 1, List.forall_mem_nil _, fun _ => ⟨rfl, fault, rfl⟩,
      fun accepted => absurd rejected accepted⟩
  · obtain ⟨request, carries⟩ := exists_carries rejected
    have asking : work = .ask request fun reply => .done (reply.bind bytes) := by
      rw [← perform_of_prepared, ← (prepared_eq_ok_iff ..).mpr carries]
    rw [asking]
    refine ⟨Nat.le_refl 1, List.forall_mem_singleton.mpr carries,
      fun impossible => absurd impossible rejected, fun _ => ⟨request, rfl, ?_, ?_⟩⟩
    · intro content replied
      change (replies request).bind bytes = _
      rw [replied]
      rfl
    · intro fault replied
      change (replies request).bind bytes = _
      rw [replied]
      rfl

/-- A call by a sender that is no account, and the same call without a sender. -/
theorem perform_checks_before_asking_twoCalls :
    let account := Value.bytes (List.replicate 20 0xab)
    let method (sender : Value) := Method.call account (.text ['0']) sender
    let work (sender : Value) := (perform (method sender).prepared).run
    let replies : Request → Reply := fun _ => .ok (.bytes [7])
    Rejected (method (.text ['?'])) ∧ (work (.text ['?'])).asked replies = [] ∧
    ¬Rejected (method .null) ∧ (work .null).answeredBy replies = .ok [7] ∧
    (work .null).asked replies = [.call "0xABaBaBaBABabABabAbAbABAbABabababaBaBABaB".toList
      "0x0".toList none] := by
  intro account method work replies
  have rejected : Rejected (method (.text ['?'])) := by
    refine .sender rfl ?_
    rintro ⟨bytes, names⟩
    have accepted : (Address.ofValue (.text ['?'])).toOption = some _ :=
      congrArg Except.toOption names.ofValue_eq
    cases accepted
  have carries : Carries (method .null) _ :=
    .call (.bytes rfl) (.text (.put (by decide))) (.absent rfl)
  obtain ⟨_, _, refused, _⟩ := perform_checks_before_asking (method (.text ['?'])) replies
  obtain ⟨_, _, _, accepted⟩ := perform_checks_before_asking (method .null) replies
  obtain ⟨_, _, returned, _⟩ := accepted carries.not_rejected
  refine ⟨rejected, (refused rejected).1, carries.not_rejected, returned [7] rfl, ?_⟩
  have written : Address.checksummed (Hex.ofBytes (List.replicate 20 0xab)) =
      "0xABaBaBaBABabABabAbAbABAbABabababaBaBABaB".toList := by
    decide +kernel
  rw [← written]
  rfl

end Client
end Chain
end ContractSurvey
