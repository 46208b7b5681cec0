/-
What a resolver remembers.

A resolver is asked for one selector or for several, again and again, and every selector that it
is asked for is an occurrence.  The history of its occurrences decides everything: a selector
kept from the start or answered before gets the same answer without a lookup, any other is
searched for, and the cache is what it was at the start with the answers of the history behind
it.  A search that is broken off leaves no trace.
-/

import ContractSurvey.Proofs.Register
import ContractSurvey.Proofs.Signature.Trial

namespace ContractSurvey
namespace Signature

open Dialogue

/-- A selector that a resolver was asked for, with the lookups that it asked in turn. -/
structure Occurrence where
  selector : Text
  trials : List Trial
  outcome : Except Fault Value

def Occurrence.exchanges (occurrence : Occurrence) : List (Query × Reply) :=
  occurrence.trials.flatMap Trial.exchanges

def Occurrence.Answers (occurrence : Occurrence) (selector : Text) (answer : Value) : Prop :=
  occurrence.selector = selector ∧ occurrence.outcome = .ok answer

/-- The answer to a selector was kept from the start, or else the history has given it. -/
def Cache.Knows (initial : Cache) (history : List Occurrence) (selector : Text)
    (answer : Value) : Prop :=
  initial.get? selector = some answer ∨ initial.get? selector = none ∧
    ∃ occurrence ∈ history, occurrence.Answers selector answer

/-- A known answer is given again without a lookup, and an unknown one is searched for. -/
structure Occurrence.Follows (lookups : List Lookup) (initial : Cache)
    (before : List Occurrence) (occurrence : Occurrence) : Prop where
  known : ∀ answer, initial.Knows before occurrence.selector answer →
    occurrence.trials = [] ∧ occurrence.outcome = .ok answer
  unknown : (∀ answer, ¬initial.Knows before occurrence.selector answer) →
    Searched lookups occurrence.selector occurrence.trials occurrence.outcome

/-- A cache holds what it held at the start, and behind that each selector that the history
answers anew, once and with its answer. -/
def Cache.Records (initial : Cache) (history : List Occurrence) (cache : Cache) : Prop :=
  ∃ added : Cache, cache = initial ++ added ∧ added.keys.Nodup ∧
    ∀ selector answer, (selector, answer) ∈ added ↔ initial.get? selector = none ∧
      ∃ occurrence ∈ history, occurrence.Answers selector answer

/-! ### One selector -/

section Resolve

variable {lookups : List Lookup} {initial cache later : Cache} {before : List Occurrence}
  {occurrence : Occurrence}

theorem Cache.records_initial (initial : Cache) : initial.Records [] initial :=
  ⟨[], (List.append_nil _).symm, List.nodup_nil, by simp⟩

theorem Cache.Records.get?_eq_some_iff (records : initial.Records before cache)
    (selector : Text) (answer : Value) :
    cache.get? selector = some answer ↔ initial.Knows before selector answer := by
  obtain ⟨added, rfl, distinct, entries⟩ := records
  rw [Register.get?_append, Option.or_eq_some_iff, Register.get?_eq_some_iff distinct, entries]
  simp [Cache.Knows]

theorem Cache.Records.of_nothing_new (records : initial.Records before cache)
    (old : ∀ answer, initial.get? occurrence.selector = none →
      occurrence.outcome = .ok answer →
        ∃ earlier ∈ before, earlier.Answers occurrence.selector answer) :
    initial.Records (before ++ [occurrence]) cache := by
  obtain ⟨added, rfl, distinct, entries⟩ := records
  refine ⟨added, rfl, distinct, fun selector answer => ?_⟩
  rw [entries]
  refine and_congr_right fun start => ?_
  simp only [List.mem_append, List.mem_singleton, or_and_right, exists_or, exists_eq_left]
  refine (or_iff_left_of_imp ?_).symm
  rintro ⟨rfl, answered⟩
  exact old answer start answered

theorem Cache.Records.put (records : initial.Records before cache) {answer : Value}
    (fresh : cache.get? occurrence.selector = none) (found : occurrence.outcome = .ok answer) :
    initial.Records (before ++ [occurrence])
      (Register.put cache occurrence.selector answer) := by
  have absent := (Register.get?_eq_none_iff ..).mp fresh
  obtain ⟨added, rfl, distinct, entries⟩ := records
  rw [Register.get?_append, Option.or_eq_none_iff, Register.get?_eq_none_iff added] at fresh
  obtain ⟨start, apart⟩ := fresh
  refine ⟨added ++ [(occurrence.selector, answer)], ?_, ?_, fun selector given => ?_⟩
  · rw [Register.put_of_not_mem absent, List.append_assoc]
  · unfold Register.keys at *
    rw [List.map_append]
    exact List.nodup_append.mpr ⟨distinct, by simp, fun key member other last => by
      rw [List.mem_singleton.mp last]
      rintro rfl
      exact apart member⟩
  · simp only [List.mem_append, List.mem_singleton, entries, or_and_right, exists_or,
      exists_eq_left, Occurrence.Answers, found, Prod.mk.injEq, Except.ok.injEq]
    grind

/-- A selector is answered as the history demands, and the cache keeps up with the history. -/
theorem exists_occurrence {selector : Text} {exchanges : List (Query × Reply)}
    {outcome : Except Fault Value} (records : initial.Records before cache)
    (path : Path (resolve lookups cache selector) exchanges (outcome, later)) :
    ∃ occurrence : Occurrence, occurrence.selector = selector ∧ occurrence.outcome = outcome ∧
      occurrence.exchanges = exchanges ∧ occurrence.Follows lookups initial before ∧
        initial.Records (before ++ [occurrence]) later := by
  unfold resolve at path
  have finds := records.get?_eq_some_iff selector
  cases held : cache.get? selector with
  | some answer =>
      rw [held] at path finds
      obtain ⟨rfl, same⟩ := (path_done_iff ..).mp path
      cases same
      have known := (finds answer).mp rfl
      refine ⟨⟨selector, [], .ok answer⟩, rfl, rfl, rfl, ⟨?_, ?_⟩, ?_⟩
      · intro other again
        cases (finds other).mpr again
        exact ⟨rfl, rfl⟩
      · intro unknown
        exact absurd known (unknown answer)
      · refine records.of_nothing_new fun other start same => ?_
        cases same
        rcases known with kept | ⟨_, earlier⟩
        · rw [start] at kept
          cases kept
        · exact earlier
  | none =>
      rw [held] at path finds
      obtain ⟨front, behind, ended, rfl, searched, onward⟩ := (path_andThen_iff ..).mp path
      obtain ⟨trials, rfl, search⟩ := exists_trials searched
      have follows : Occurrence.Follows lookups initial before ⟨selector, trials, ended⟩ :=
        ⟨fun answer known => absurd ((finds answer).mpr known) nofun, fun _ => search⟩
      cases ended with
      | ok found =>
          obtain ⟨rfl, same⟩ := (path_done_iff ..).mp onward
          cases same
          exact ⟨_, rfl, rfl, (List.append_nil _).symm, follows, records.put held rfl⟩
      | error fault =>
          obtain ⟨rfl, same⟩ := (path_done_iff ..).mp onward
          cases same
          exact ⟨_, rfl, rfl, (List.append_nil _).symm, follows,
            records.of_nothing_new nofun⟩

/-- Only a fatal fault breaks a resolution off, and then the cache is as before. -/
theorem cache_of_broken {selector : Text} {exchanges : List (Query × Reply)} {fault : Fault}
    (path : Path (resolve lookups cache selector) exchanges (.error fault, later)) :
    fault.isFatal = true ∧ later = cache := by
  unfold resolve at path
  split at path
  · obtain ⟨_, impossible⟩ := (path_done_iff ..).mp path
    cases impossible
  · obtain ⟨front, behind, ended, rfl, searched, onward⟩ := (path_andThen_iff ..).mp path
    obtain ⟨trials, _, search⟩ := exists_trials searched
    cases ended with
    | ok found =>
        obtain ⟨_, impossible⟩ := (path_done_iff ..).mp onward
        cases impossible
    | error cause =>
        obtain ⟨_, same⟩ := (path_done_iff ..).mp onward
        cases same
        exact ⟨search.isFatal, rfl⟩

end Resolve

/-! ### Several selectors -/

/-- Occurrences follow one after another. -/
def FollowInTurn (lookups : List Lookup) (initial : Cache) (before own : List Occurrence) :
    Prop :=
  ∀ front occurrence rest, own = front ++ occurrence :: rest →
    occurrence.Follows lookups initial (before ++ front)

/-- The answers to selectors are entered in their order, and the first fault is the end. -/
inductive Collects (entered : Register Value) :
    List Text → List Occurrence → Except Fault (Register Value) → Prop
  | all {own : List Occurrence} {answers : List Value}
      (answered : own.map Occurrence.outcome = answers.map Except.ok) :
      Collects entered (own.map Occurrence.selector) own
        (.ok (((own.map Occurrence.selector).zip answers).foldl
          (fun filled (selector, answer) => Register.put filled selector answer) entered))
  | broken {own : List Occurrence} {last : Occurrence} {rest : List Text}
      {answers : List Value} {fault : Fault}
      (answered : own.map Occurrence.outcome = answers.map Except.ok)
      (failed : last.outcome = .error fault) :
      Collects entered (own.map Occurrence.selector ++ last.selector :: rest) (own ++ [last])
        (.error fault)

section ResolveAll

variable {lookups : List Lookup} {initial cache later : Cache} {before own : List Occurrence}
  {occurrence : Occurrence} {entered : Register Value} {selectors : List Text}
  {outcome : Except Fault (Register Value)}

theorem FollowInTurn.cons (follows : occurrence.Follows lookups initial before)
    (onward : FollowInTurn lookups initial (before ++ [occurrence]) own) :
    FollowInTurn lookups initial before (occurrence :: own) := by
  intro front other rest same
  cases front with
  | nil =>
      cases same
      rwa [List.append_nil]
  | cons first between =>
      cases same
      have later := onward between other rest rfl
      rwa [List.append_assoc] at later

theorem Collects.cons {answer : Value} (answered : occurrence.outcome = .ok answer)
    (onward : Collects (Register.put entered occurrence.selector answer) selectors own outcome) :
    Collects entered (occurrence.selector :: selectors) (occurrence :: own) outcome := by
  cases onward with
  | @all own answers given =>
      have whole : (occurrence :: own).map Occurrence.outcome =
          (answer :: answers).map Except.ok := by
        rw [List.map_cons, List.map_cons, answered, given]
      exact .all whole
  | @broken own last rest answers fault given failed =>
      have whole : (occurrence :: own).map Occurrence.outcome =
          (answer :: answers).map Except.ok := by
        rw [List.map_cons, List.map_cons, answered, given]
      exact .broken whole failed

theorem exists_occurrences {exchanges : List (Query × Reply)}
    (records : initial.Records before cache)
    (path : Path (resolveOnto lookups cache entered selectors) exchanges (outcome, later)) :
    ∃ own : List Occurrence, own.flatMap Occurrence.exchanges = exchanges ∧
      Collects entered selectors own outcome ∧ FollowInTurn lookups initial before own ∧
        initial.Records (before ++ own) later := by
  induction selectors generalizing cache before entered exchanges with
  | nil =>
      obtain ⟨rfl, same⟩ := (path_done_iff ..).mp path
      cases same
      exact ⟨[], rfl, @Collects.all _ [] [] rfl, by simp [FollowInTurn],
        by rwa [List.append_nil]⟩
  | cons selector rest ih =>
      obtain ⟨front, behind, ⟨ended, middle⟩, rfl, first, onward⟩ :=
        (path_andThen_iff ..).mp path
      obtain ⟨occurrence, rfl, rfl, rfl, follows, recorded⟩ := exists_occurrence records first
      cases answered : occurrence.outcome with
      | ok answer =>
          rw [answered] at onward
          obtain ⟨own, rfl, collects, inTurn, kept⟩ := ih recorded onward
          rw [List.append_assoc] at kept
          exact ⟨occurrence :: own, rfl, .cons answered collects, .cons follows inTurn, kept⟩
      | error fault =>
          rw [answered] at onward
          obtain ⟨rfl, same⟩ := (path_done_iff ..).mp onward
          cases same
          have collects := @Collects.broken entered [] occurrence rest [] fault rfl answered
          refine ⟨[occurrence], by simp, collects, .cons follows ?_, recorded⟩
          simp [FollowInTurn]

end ResolveAll

/-! ### Runs of a resolver -/

/-- What a resolver is asked in one step. -/
inductive Step
  | one (selector : Text)
  | several (selectors : List Text)

inductive Answer
  | one (found : Value)
  | several (found : Register Value)

def Step.run (lookups : List Lookup) (cache : Cache) :
    Step → Dialogue Query (Except Fault Answer × Cache)
  | .one selector =>
      (resolve lookups cache selector).andThen fun (outcome, later) =>
        .done (outcome.map .one, later)
  | .several selectors =>
      (resolveAll lookups cache selectors).andThen fun (outcome, later) =>
        .done (outcome.map .several, later)

/-- The answers to steps and the cache after each of them.  A step that a fault breaks off does
not keep the next one from being made. -/
def runAll (lookups : List Lookup) (cache : Cache) :
    List Step → Dialogue Query (List (Except Fault Answer × Cache))
  | [] => .done []
  | step :: rest =>
      (step.run lookups cache).andThen fun record =>
        (runAll lookups record.2 rest).andThen fun later => .done (record :: later)

/-- What became of a step: its occurrences, its answer and the cache after it. -/
structure Account where
  step : Step
  own : List Occurrence
  answer : Except Fault Answer
  cache : Cache

/-- The answer to a step is made of its occurrences. -/
inductive Step.IsAnsweredBy : Step → List Occurrence → Except Fault Answer → Prop
  | one (occurrence : Occurrence) :
      IsAnsweredBy (.one occurrence.selector) [occurrence] (occurrence.outcome.map .one)
  | several {selectors : List Text} {own : List Occurrence}
      {outcome : Except Fault (Register Value)} (collects : Collects [] selectors own outcome) :
      IsAnsweredBy (.several selectors) own (outcome.map .several)

/-- What became of a step agrees with the history before it. -/
structure Account.IsSound (lookups : List Lookup) (initial : Cache)
    (before : List Occurrence) (account : Account) : Prop where
  answered : account.step.IsAnsweredBy account.own account.answer
  follows : FollowInTurn lookups initial before account.own
  records : initial.Records (before ++ account.own) account.cache

section Run

variable {lookups : List Lookup} {initial cache : Cache} {before : List Occurrence}
  {exchanges : List (Query × Reply)}

theorem exists_account {step : Step} {record : Except Fault Answer × Cache}
    (records : initial.Records before cache)
    (path : Path (step.run lookups cache) exchanges record) :
    ∃ own : List Occurrence, own.flatMap Occurrence.exchanges = exchanges ∧
      Account.IsSound lookups initial before ⟨step, own, record.1, record.2⟩ := by
  cases step with
  | one selector =>
      obtain ⟨⟨outcome, later⟩, resolved, rfl⟩ := (path_andThen_done_iff ..).mp path
      obtain ⟨occurrence, rfl, rfl, rfl, follows, recorded⟩ := exists_occurrence records resolved
      refine ⟨[occurrence], by simp, .one occurrence, .cons follows ?_, recorded⟩
      simp [FollowInTurn]
  | several selectors =>
      obtain ⟨⟨outcome, later⟩, resolved, rfl⟩ := (path_andThen_done_iff ..).mp path
      obtain ⟨own, rfl, collects, inTurn, recorded⟩ := exists_occurrences records resolved
      exact ⟨own, rfl, .several collects, inTurn, recorded⟩

theorem exists_accounts {steps : List Step} {records : List (Except Fault Answer × Cache)}
    (recorded : initial.Records before cache)
    (path : Path (runAll lookups cache steps) exchanges records) :
    ∃ accounts : List Account, accounts.map Account.step = steps ∧
      accounts.map (fun account => (account.answer, account.cache)) = records ∧
      (accounts.flatMap Account.own).flatMap Occurrence.exchanges = exchanges ∧
      ∀ front account rest, accounts = front ++ account :: rest →
        account.IsSound lookups initial (before ++ front.flatMap Account.own) := by
  induction steps generalizing cache before exchanges records with
  | nil =>
      obtain ⟨rfl, rfl⟩ := (path_done_iff ..).mp path
      exact ⟨[], rfl, rfl, rfl, by simp⟩
  | cons step rest ih =>
      obtain ⟨front, behind, record, rfl, first, onward⟩ := (path_andThen_iff ..).mp path
      obtain ⟨others, later, rfl⟩ := (path_andThen_done_iff ..).mp onward
      obtain ⟨own, rfl, sound⟩ := exists_account recorded first
      obtain ⟨accounts, rfl, rfl, rfl, soundLater⟩ := ih sound.records later
      refine ⟨⟨step, own, record.1, record.2⟩ :: accounts, rfl, rfl, by simp, ?_⟩
      intro front account rest same
      cases front with
      | nil =>
          cases same
          rwa [List.flatMap_nil, List.append_nil]
      | cons head between =>
          cases same
          have sound := soundLater between account rest rfl
          rwa [List.append_assoc] at sound

end Run

/-- Whatever the lookups answer, each step of a resolver agrees with the history before it, and
a resolution that is broken off leaves the cache as it was. -/
theorem runAll_isSound {lookups : List Lookup} {initial : Cache} {steps : List Step}
    {exchanges : List (Query × Reply)} {records : List (Except Fault Answer × Cache)}
    (path : Path (runAll lookups initial steps) exchanges records) :
    (∃ accounts : List Account, accounts.map Account.step = steps ∧
      accounts.map (fun account => (account.answer, account.cache)) = records ∧
      (accounts.flatMap Account.own).flatMap Occurrence.exchanges = exchanges ∧
      ∀ front account rest, accounts = front ++ account :: rest →
        account.IsSound lookups initial (front.flatMap Account.own)) ∧
    ∀ cache selector asked fault later,
      Path (resolve lookups cache selector) asked (.error fault, later) →
        fault.isFatal = true ∧ later = cache :=
  ⟨exists_accounts initial.records_initial path, fun _ _ _ _ _ => cache_of_broken⟩

/-- Two sources, of which the first echoes, breaks the second step off and then fails. -/
theorem runAll_isSound_with_two_sources :
    let lookups := [sourceLookup 0, sourceLookup 1]
    let initial : Cache := [("0x01".toList, .null)]
    let failure (isFatal : Bool) : Fault := .reported ⟨[], none, isFatal, rfl⟩
    let signature : Value := .text "f()".toList
    let steps : List Step := [.several ["0x01".toList, "0x02".toList, "0x02".toList],
      .one "0x03".toList, .one "0x03".toList, .one "0x02".toList]
    let exchanges : List (Query × Reply) :=
      [(.source 0 "0x02".toList, .ok (.text "0x02".toList)),
        (.source 1 "0x02".toList, .ok signature),
        (.source 0 "0x03".toList, .error (failure true)),
        (.source 0 "0x03".toList, .error (failure false)),
        (.source 1 "0x03".toList, .ok .null)]
    let found : Cache := [("0x01".toList, .null), ("0x02".toList, signature)]
    let records : List (Except Fault Answer × Cache) :=
      [(.ok (.several found), found),
        (.error (failure true), found),
        (.ok (.one .null), found ++ [("0x03".toList, .null)]),
        (.ok (.one signature), found ++ [("0x03".toList, .null)])]
    Path (runAll lookups initial steps) exchanges records ∧
      ∃ accounts : List Account, accounts.map Account.step = steps ∧
        accounts.map (fun account => (account.answer, account.cache)) = records ∧
        (accounts.flatMap Account.own).flatMap Occurrence.exchanges = exchanges ∧
        ∀ front account rest, accounts = front ++ account :: rest →
          account.IsSound lookups initial (front.flatMap Account.own) := by
  intro lookups initial failure signature steps exchanges found records
  have path : Path (runAll lookups initial steps) exchanges records :=
    .ask _ (.ask _ (.ask _ (.ask _ (.ask _ (.done _)))))
  exact ⟨path, (runAll_isSound path).1⟩

end Signature
end ContractSurvey
