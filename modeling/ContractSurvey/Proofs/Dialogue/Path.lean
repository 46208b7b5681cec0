/-
Ways through dialogues.

A path through a dialogue is a list of exchanges, each a question with the reply to it,
and the result they lead to.  Nothing relates the replies of a path to each other, so the
paths cover an outside that changes its mind from one question to the next.  An outside
with fixed replies is the special case of a single path.

The lemmas say how paths go through the parts of a dialogue: through one dialogue after
another, through a dialogue inside another, and through work that may stop with a fault.
-/

import ContractSurvey.Dialogue

namespace ContractSurvey
namespace Dialogue

variable {Query Other Result Later : Type}

/-- The exchanges on a way through a dialogue, and the result at its end. -/
inductive Path : Dialogue Query Result → List (Query × Reply) → Result → Prop
  | done (result : Result) : Path (.done result) [] result
  | ask {query : Query} {next : Reply → Dialogue Query Result}
      {exchanges : List (Query × Reply)} {result : Result} (reply : Reply)
      (onward : Path (next reply) exchanges result) :
      Path (.ask query next) ((query, reply) :: exchanges) result

theorem path_done_iff (result other : Result) (exchanges : List (Query × Reply)) :
    Path (.done result) exchanges other ↔ exchanges = [] ∧ other = result := by
  constructor
  · intro path
    cases path
    exact ⟨rfl, rfl⟩
  · rintro ⟨rfl, rfl⟩
    exact .done other

theorem path_ask_iff (query : Query) (next : Reply → Dialogue Query Result)
    (exchanges : List (Query × Reply)) (result : Result) :
    Path (.ask query next) exchanges result ↔
      ∃ reply onward, exchanges = (query, reply) :: onward ∧
        Path (next reply) onward result := by
  constructor
  · intro path
    cases path with
    | ask reply onward => exact ⟨reply, _, rfl, onward⟩
  · rintro ⟨reply, onward, rfl, path⟩
    exact .ask reply path

theorem path_question_iff (query : Query) (exchanges : List (Query × Reply))
    (reply : Reply) :
    Path (question query) exchanges reply ↔ exchanges = [(query, reply)] := by
  unfold question
  rw [path_ask_iff]
  constructor
  · rintro ⟨given, onward, rfl, path⟩
    obtain ⟨rfl, rfl⟩ := (path_done_iff ..).mp path
    rfl
  · rintro rfl
    exact ⟨reply, [], rfl, .done reply⟩

/-- The replies decide the way through a dialogue: two ways whose exchanges begin alike are
the same. -/
theorem Path.unique {dialogue : Dialogue Query Result}
    {first second behind rest : List (Query × Reply)} {result other : Result}
    (path : Path dialogue first result) (again : Path dialogue second other)
    (alike : first ++ behind = second ++ rest) : first = second ∧ result = other := by
  induction path generalizing second with
  | done result =>
      obtain ⟨rfl, rfl⟩ := (path_done_iff ..).mp again
      exact ⟨rfl, rfl⟩
  | ask reply _ ih =>
      obtain ⟨given, onward, rfl, later⟩ := (path_ask_iff ..).mp again
      obtain ⟨same, behindBoth⟩ := List.cons.inj alike
      cases same
      obtain ⟨rfl, rfl⟩ := ih later behindBoth
      exact ⟨rfl, rfl⟩

/-! ### One dialogue after another -/

theorem Path.andThen {dialogue : Dialogue Query Result}
    {next : Result → Dialogue Query Later} {first second : List (Query × Reply)}
    {middle : Result} {result : Later} (path : Path dialogue first middle)
    (onward : Path (next middle) second result) :
    Path (dialogue.andThen next) (first ++ second) result := by
  induction path with
  | done middle => exact onward
  | ask reply _ ih => exact .ask reply (ih onward)

/-- A way through one dialogue and then another is a way through each of them. -/
theorem path_andThen_iff (dialogue : Dialogue Query Result)
    (next : Result → Dialogue Query Later) (exchanges : List (Query × Reply))
    (result : Later) :
    Path (dialogue.andThen next) exchanges result ↔
      ∃ first second middle, exchanges = first ++ second ∧
        Path dialogue first middle ∧ Path (next middle) second result := by
  constructor
  · intro path
    induction dialogue generalizing exchanges with
    | done middle => exact ⟨[], exchanges, middle, rfl, .done middle, path⟩
    | ask query continuation ih =>
        obtain ⟨reply, rest, rfl, later⟩ := (path_ask_iff ..).mp path
        obtain ⟨first, second, middle, rfl, before, behind⟩ := ih reply rest later
        exact ⟨(query, reply) :: first, second, middle, rfl, .ask reply before, behind⟩
  · rintro ⟨first, second, middle, rfl, before, behind⟩
    exact before.andThen behind

theorem path_andThen_done_iff (dialogue : Dialogue Query Result) (change : Result → Later)
    (exchanges : List (Query × Reply)) (result : Later) :
    Path (dialogue.andThen fun middle => .done (change middle)) exchanges result ↔
      ∃ middle, Path dialogue exchanges middle ∧ result = change middle := by
  rw [path_andThen_iff]
  constructor
  · rintro ⟨first, second, middle, rfl, before, behind⟩
    obtain ⟨rfl, rfl⟩ := (path_done_iff ..).mp behind
    rw [List.append_nil]
    exact ⟨middle, before, rfl⟩
  · rintro ⟨middle, path, rfl⟩
    exact ⟨exchanges, [], middle, (List.append_nil _).symm, path, .done _⟩

/-- A way through a dialogue whose questions are asked under other names. -/
theorem path_via_question_iff (dialogue : Dialogue Query Result) (rename : Query → Other)
    (exchanges : List (Other × Reply)) (result : Result) :
    Path (dialogue.via fun query => question (rename query)) exchanges result ↔
      ∃ inner, exchanges = inner.map (Prod.map rename id) ∧
        Path dialogue inner result := by
  induction dialogue generalizing exchanges with
  | done middle =>
      constructor
      · intro path
        obtain ⟨rfl, rfl⟩ := (path_done_iff ..).mp path
        exact ⟨[], rfl, .done result⟩
      · rintro ⟨inner, rfl, path⟩
        obtain ⟨rfl, rfl⟩ := (path_done_iff ..).mp path
        exact .done result
  | ask query next ih =>
      constructor
      · intro path
        obtain ⟨reply, rest, rfl, later⟩ := (path_ask_iff ..).mp path
        obtain ⟨inner, rfl, onward⟩ := (ih reply rest).mp later
        exact ⟨(query, reply) :: inner, rfl, .ask reply onward⟩
      · rintro ⟨inner, rfl, path⟩
        obtain ⟨reply, rest, rfl, onward⟩ := (path_ask_iff ..).mp path
        exact .ask reply ((ih reply _).mpr ⟨rest, rfl, onward⟩)

/-- Where every way of finding a reply asks the same, what is asked on a way through a dialogue
is what its own questions make of it. -/
theorem exists_path_of_via {find : Query → Dialogue Other Reply} {asks : Query → List Other}
    (each : ∀ query own reply, Path (find query) own reply → own.map Prod.fst = asks query)
    {dialogue : Dialogue Query Result} {exchanges : List (Other × Reply)} {result : Result}
    (path : Path (dialogue.via find) exchanges result) :
    ∃ inner, Path dialogue inner result ∧
      exchanges.map Prod.fst = (inner.map Prod.fst).flatMap asks := by
  induction dialogue generalizing exchanges with
  | done middle =>
      obtain ⟨rfl, rfl⟩ := (path_done_iff ..).mp path
      exact ⟨[], .done result, rfl⟩
  | ask query next ih =>
      obtain ⟨own, behind, reply, rfl, found, onward⟩ := (path_andThen_iff ..).mp path
      obtain ⟨inner, later, same⟩ := ih reply onward
      refine ⟨(query, reply) :: inner, .ask reply later, ?_⟩
      rw [List.map_append, each query own reply found, same, List.map_cons, List.flatMap_cons]

/-! ### Fixed replies -/

theorem answeredBy_andThen (replies : Query → Reply) (dialogue : Dialogue Query Result)
    (next : Result → Dialogue Query Later) :
    (dialogue.andThen next).answeredBy replies =
      (next (dialogue.answeredBy replies)).answeredBy replies := by
  induction dialogue with
  | done result => rfl
  | ask query continuation ih => exact ih (replies query)

theorem answeredBy_via (replies : Other → Reply) (find : Query → Dialogue Other Reply)
    (dialogue : Dialogue Query Result) :
    (dialogue.via find).answeredBy replies =
      dialogue.answeredBy fun query => (find query).answeredBy replies := by
  induction dialogue with
  | done result => rfl
  | ask query next ih =>
      change ((find query).andThen fun reply => (next reply).via find).answeredBy replies = _
      rw [answeredBy_andThen]
      exact ih _

theorem asked_andThen (replies : Query → Reply) (dialogue : Dialogue Query Result)
    (next : Result → Dialogue Query Later) :
    (dialogue.andThen next).asked replies =
      dialogue.asked replies ++ (next (dialogue.answeredBy replies)).asked replies := by
  induction dialogue with
  | done result => rfl
  | ask query continuation ih => exact congrArg (query :: ·) (ih (replies query))

theorem asked_via_question (replies : Other → Reply) (dialogue : Dialogue Query Result)
    (rename : Query → Other) :
    (dialogue.via fun query => question (rename query)).asked replies =
      (dialogue.asked fun query => replies (rename query)).map rename := by
  induction dialogue with
  | done result => rfl
  | ask query next ih =>
      exact congrArg (rename query :: ·) (ih (replies (rename query)))

theorem path_answeredBy (replies : Query → Reply) (dialogue : Dialogue Query Result) :
    Path dialogue ((dialogue.asked replies).map fun query => (query, replies query))
      (dialogue.answeredBy replies) := by
  induction dialogue with
  | done result => exact .done result
  | ask query next ih => exact .ask (replies query) (ih (replies query))

theorem map_fst_asked (replies : Query → Reply) (dialogue : Dialogue Query Result) :
    ((dialogue.asked replies).map fun query => (query, replies query)).map Prod.fst =
      dialogue.asked replies := by
  rw [List.map_map]
  exact List.map_id _

theorem eq_reply_of_mem {replies : Query → Reply} {dialogue : Dialogue Query Result}
    {query : Query} {reply : Reply}
    (member : (query, reply) ∈ (dialogue.asked replies).map fun query =>
      (query, replies query)) : reply = replies query := by
  obtain ⟨asked, _, same⟩ := List.mem_map.mp member
  cases same
  rfl

/-- What holds of every fixed reply holds all along the way that they lead. -/
theorem forall_exchange_of_fixed {holds : Query → Reply → Prop} {replies : Query → Reply}
    (given : ∀ query, holds query (replies query)) (dialogue : Dialogue Query Result) :
    ∀ exchange ∈ (dialogue.asked replies).map fun query => (query, replies query),
      holds exchange.1 exchange.2 := by
  intro exchange member
  rw [eq_reply_of_mem member]
  exact given exchange.1

theorem Path.eq_answeredBy {replies : Query → Reply} {dialogue : Dialogue Query Result}
    {exchanges : List (Query × Reply)} {result : Result}
    (path : Path dialogue exchanges result)
    (fixed : ∀ exchange ∈ exchanges, exchange.2 = replies exchange.1) :
    result = dialogue.answeredBy replies := by
  induction path with
  | done result => rfl
  | @ask query next exchanges result reply onward ih =>
      have same : reply = replies query := fixed (query, reply) (List.mem_cons_self ..)
      have later := ih fun exchange member =>
        fixed exchange (List.mem_cons_of_mem _ member)
      rw [later, same]
      rfl

/-! ### Work that may stop with a fault -/

section Stopping

variable {Stop Value Found : Type}

theorem run_bind (work : ExceptT Stop (Dialogue Query) Value)
    (next : Value → ExceptT Stop (Dialogue Query) Found) :
    (work >>= next).run = work.run.andThen fun outcome =>
      match outcome with
      | .ok value => (next value).run
      | .error stop => .done (.error stop) :=
  rfl

/-- A way through two steps of work ends where the first one stops, or goes through
both. -/
theorem path_bind_iff (work : ExceptT Stop (Dialogue Query) Value)
    (next : Value → ExceptT Stop (Dialogue Query) Found)
    (exchanges : List (Query × Reply)) (outcome : Except Stop Found) :
    Path (work >>= next).run exchanges outcome ↔
      (∃ stop, outcome = .error stop ∧ Path work.run exchanges (.error stop)) ∨
        ∃ value first second, exchanges = first ++ second ∧
          Path work.run first (.ok value) ∧ Path (next value).run second outcome := by
  rw [run_bind, path_andThen_iff]
  constructor
  · rintro ⟨first, second, middle, rfl, before, behind⟩
    cases middle with
    | error stop =>
        obtain ⟨rfl, rfl⟩ := (path_done_iff ..).mp behind
        rw [List.append_nil]
        exact Or.inl ⟨stop, rfl, before⟩
    | ok value => exact Or.inr ⟨value, first, second, rfl, before, behind⟩
  · rintro (⟨stop, rfl, path⟩ | ⟨value, first, second, rfl, before, behind⟩)
    · exact ⟨exchanges, [], .error stop, (List.append_nil _).symm, path, .done _⟩
    · exact ⟨first, second, .ok value, rfl, before, behind⟩

theorem path_bind_ok_iff (work : ExceptT Stop (Dialogue Query) Value)
    (next : Value → ExceptT Stop (Dialogue Query) Found)
    (exchanges : List (Query × Reply)) (found : Found) :
    Path (work >>= next).run exchanges (.ok found) ↔
      ∃ value first second, exchanges = first ++ second ∧
        Path work.run first (.ok value) ∧ Path (next value).run second (.ok found) := by
  rw [path_bind_iff]
  constructor
  · rintro (⟨stop, impossible, _⟩ | both)
    · cases impossible
    · exact both
  · exact Or.inr

/-- Work that gives a value with a property on every way along which the replies are
allowed. -/
def Yields (allowed : Query → Reply → Prop) (work : ExceptT Stop (Dialogue Query) Value)
    (holds : Value → Prop) : Prop :=
  ∀ exchanges outcome, (∀ exchange ∈ exchanges, allowed exchange.1 exchange.2) →
    Path work.run exchanges outcome → ∃ value, outcome = .ok value ∧ holds value

theorem yields_pure {allowed : Query → Reply → Prop} {value : Value} {holds : Value → Prop}
    (given : holds value) :
    Yields allowed (pure value : ExceptT Stop (Dialogue Query) Value) holds := by
  intro exchanges outcome _ path
  obtain ⟨_, rfl⟩ := (path_done_iff ..).mp path
  exact ⟨value, rfl, given⟩

theorem Yields.bind {allowed : Query → Reply → Prop}
    {work : ExceptT Stop (Dialogue Query) Value}
    {next : Value → ExceptT Stop (Dialogue Query) Found} {middle : Value → Prop}
    {holds : Found → Prop} (first : Yields allowed work middle)
    (second : ∀ value, middle value → Yields allowed (next value) holds) :
    Yields allowed (work >>= next) holds := by
  intro exchanges outcome permitted path
  rcases (path_bind_iff ..).mp path with
    ⟨stop, _, stopped⟩ | ⟨value, front, behind, rfl, before, onward⟩
  · obtain ⟨value, impossible, _⟩ := first exchanges _ permitted stopped
    cases impossible
  · obtain ⟨ofFront, ofBehind⟩ := List.forall_mem_append.mp permitted
    obtain ⟨same, equal, held⟩ := first front _ ofFront before
    cases equal
    exact second value held behind outcome ofBehind onward

/-- Work yields what it yields also when fewer replies are allowed. -/
theorem Yields.of_allowed {allowed fewer : Query → Reply → Prop}
    {work : ExceptT Stop (Dialogue Query) Value} {holds : Value → Prop}
    (given : Yields allowed work holds)
    (weaker : ∀ query reply, fewer query reply → allowed query reply) :
    Yields fewer work holds :=
  fun exchanges outcome permitted =>
    given exchanges outcome fun exchange member =>
      weaker exchange.1 exchange.2 (permitted exchange member)

theorem Yields.answeredBy {allowed : Query → Reply → Prop}
    {work : ExceptT Stop (Dialogue Query) Value} {holds : Value → Prop}
    (yields : Yields allowed work holds) {replies : Query → Reply}
    (given : ∀ query, allowed query (replies query)) :
    ∃ value, work.run.answeredBy replies = .ok value ∧ holds value :=
  yields _ _ (forall_exchange_of_fixed given work.run) (path_answeredBy replies work.run)

/-- Work that gives a value on every way along which the replies are allowed, where the
value has a property together with the exchanges of the way. -/
def YieldsAlong (allowed : Query → Reply → Prop)
    (work : ExceptT Stop (Dialogue Query) Value)
    (holds : List (Query × Reply) → Value → Prop) : Prop :=
  ∀ exchanges outcome, (∀ exchange ∈ exchanges, allowed exchange.1 exchange.2) →
    Path work.run exchanges outcome → ∃ value, outcome = .ok value ∧ holds exchanges value

theorem yieldsAlong_pure {allowed : Query → Reply → Prop} {value : Value}
    {holds : List (Query × Reply) → Value → Prop} (given : holds [] value) :
    YieldsAlong allowed (pure value : ExceptT Stop (Dialogue Query) Value) holds := by
  intro exchanges outcome _ path
  obtain ⟨rfl, rfl⟩ := (path_done_iff ..).mp path
  exact ⟨value, rfl, given⟩

theorem YieldsAlong.bind {allowed : Query → Reply → Prop}
    {work : ExceptT Stop (Dialogue Query) Value}
    {next : Value → ExceptT Stop (Dialogue Query) Found}
    {middle : List (Query × Reply) → Value → Prop}
    {holds : List (Query × Reply) → Found → Prop} (first : YieldsAlong allowed work middle)
    (second : ∀ front value, middle front value →
      YieldsAlong allowed (next value) fun behind => holds (front ++ behind)) :
    YieldsAlong allowed (work >>= next) holds := by
  intro exchanges outcome permitted path
  rcases (path_bind_iff ..).mp path with
    ⟨stop, _, stopped⟩ | ⟨value, front, behind, rfl, before, onward⟩
  · obtain ⟨value, impossible, _⟩ := first exchanges _ permitted stopped
    cases impossible
  · obtain ⟨ofFront, ofBehind⟩ := List.forall_mem_append.mp permitted
    obtain ⟨same, equal, held⟩ := first front _ ofFront before
    cases equal
    exact second front value held behind outcome ofBehind onward

/-- Work that stops with nothing but faults with a property on every way along which the
replies are allowed. -/
def Stops (allowed : Query → Reply → Prop) (work : ExceptT Stop (Dialogue Query) Value)
    (holds : Stop → Prop) : Prop :=
  ∀ exchanges stop, (∀ exchange ∈ exchanges, allowed exchange.1 exchange.2) →
    Path work.run exchanges (.error stop) → holds stop

theorem stops_pure {allowed : Query → Reply → Prop} {value : Value} {holds : Stop → Prop} :
    Stops allowed (pure value : ExceptT Stop (Dialogue Query) Value) holds := by
  intro exchanges stop _ path
  obtain ⟨_, impossible⟩ := (path_done_iff ..).mp path
  cases impossible

theorem Stops.bind {allowed : Query → Reply → Prop}
    {work : ExceptT Stop (Dialogue Query) Value}
    {next : Value → ExceptT Stop (Dialogue Query) Found} {holds : Stop → Prop}
    (first : Stops allowed work holds)
    (second : ∀ value, Stops allowed (next value) holds) :
    Stops allowed (work >>= next) holds := by
  intro exchanges stop permitted path
  rcases (path_bind_iff ..).mp path with
    ⟨same, equal, stopped⟩ | ⟨value, front, behind, rfl, _, onward⟩
  · cases equal
    exact first exchanges stop permitted stopped
  · exact second value behind stop (List.forall_mem_append.mp permitted).2 onward

theorem answeredBy_bind (replies : Query → Reply)
    (work : ExceptT Stop (Dialogue Query) Value)
    (next : Value → ExceptT Stop (Dialogue Query) Found) :
    (work >>= next).run.answeredBy replies =
      (work.run.answeredBy replies).bind fun value =>
        (next value).run.answeredBy replies := by
  rw [run_bind, answeredBy_andThen]
  cases work.run.answeredBy replies <;> rfl

theorem asked_bind_of_ok {replies : Query → Reply}
    {work : ExceptT Stop (Dialogue Query) Value} {value : Value}
    (given : work.run.answeredBy replies = .ok value)
    (next : Value → ExceptT Stop (Dialogue Query) Found) :
    (work >>= next).run.asked replies =
      work.run.asked replies ++ (next value).run.asked replies := by
  rw [run_bind, asked_andThen, given]

end Stopping

/-! ### What is asked -/

/-- Every question on every way through a dialogue has a property. -/
def AsksOnly (holds : Query → Prop) (dialogue : Dialogue Query Result) : Prop :=
  ∀ exchanges result, Path dialogue exchanges result →
    ∀ exchange ∈ exchanges, holds exchange.1

section AsksOnly

variable {holds : Query → Prop}

theorem AsksOnly.of_mem_asked {dialogue : Dialogue Query Result}
    (only : AsksOnly holds dialogue) {replies : Query → Reply} {query : Query}
    (member : query ∈ dialogue.asked replies) : holds query :=
  only _ _ (path_answeredBy replies dialogue) _ (List.mem_map_of_mem member)

theorem AsksOnly.mono {other : Query → Prop} {dialogue : Dialogue Query Result}
    (only : AsksOnly holds dialogue) (weaker : ∀ query, holds query → other query) :
    AsksOnly other dialogue :=
  fun exchanges result path exchange member =>
    weaker exchange.1 (only exchanges result path exchange member)

theorem asksOnly_done (result : Result) : AsksOnly holds (.done result) := by
  intro exchanges other path
  obtain ⟨rfl, _⟩ := (path_done_iff ..).mp path
  simp

theorem asksOnly_question {query : Query} (asked : holds query) :
    AsksOnly holds (question query) := by
  intro exchanges reply path
  rw [(path_question_iff ..).mp path]
  simpa using asked

theorem AsksOnly.andThen {dialogue : Dialogue Query Result}
    {next : Result → Dialogue Query Later} (first : AsksOnly holds dialogue)
    (second : ∀ exchanges middle, Path dialogue exchanges middle →
      AsksOnly holds (next middle)) :
    AsksOnly holds (dialogue.andThen next) := by
  intro exchanges result path
  obtain ⟨front, behind, middle, rfl, before, onward⟩ := (path_andThen_iff ..).mp path
  exact List.forall_mem_append.mpr
    ⟨first front middle before, second front middle before behind result onward⟩

theorem AsksOnly.via_question {other : Other → Prop} {dialogue : Dialogue Query Result}
    {rename : Query → Other} (only : AsksOnly (fun query => other (rename query)) dialogue) :
    AsksOnly other (dialogue.via fun query => question (rename query)) := by
  intro exchanges result path exchange member
  obtain ⟨inner, rfl, own⟩ := (path_via_question_iff ..).mp path
  obtain ⟨asked, present, rfl⟩ := List.mem_map.mp member
  exact only inner result own asked present

theorem AsksOnly.bind {Stop Value Found : Type} {work : ExceptT Stop (Dialogue Query) Value}
    {next : Value → ExceptT Stop (Dialogue Query) Found} (first : AsksOnly holds work.run)
    (second : ∀ exchanges value, Path work.run exchanges (.ok value) →
      AsksOnly holds (next value).run) :
    AsksOnly holds (work >>= next).run := by
  apply first.andThen
  intro exchanges outcome path
  cases outcome with
  | error stop => exact asksOnly_done _
  | ok value => exact second exchanges value path

end AsksOnly

end Dialogue
end ContractSurvey
