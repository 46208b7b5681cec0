/-
What a pool gathers.

Whatever the schedule, the exchanges of a pool are a merge of the exchanges of its dialogues,
and each result in the list is a result of the dialogue in its place.  This holds as long as no
result stops the pool.
-/

import Mathlib.Data.List.Forall2
import ContractSurvey.Pool
import ContractSurvey.Proofs.Dialogue.Path
import ContractSurvey.Proofs.Pool.Merge

namespace ContractSurvey

variable {Query Result : Type}

/-- The exchanges that are left of a job, and the result it comes to. -/
def Job.Path : Job Query Result → List (Query × Reply) → Result → Prop
  | .waiting work, part, result => Dialogue.Path work part result
  | .opened work, part, result => Dialogue.Path work part result
  | .finished given, part, result => part = [] ∧ result = given

/-- A job none of whose results stops the pool, as long as the replies are allowed. -/
def Job.IsCalm (stops : Result → Bool) (allowed : Query → Reply → Prop)
    (job : Job Query Result) : Prop :=
  ∀ part result, (∀ exchange ∈ part, allowed exchange.1 exchange.2) →
    job.Path part result → stops result = false

namespace Pool

/-- Each job of a list comes to the result in its place, and their exchanges together are
the given ones up to their order. -/
inductive Together :
    List (Job Query Result) → List (Query × Reply) → List Result → Prop
  | nil : Together [] [] []
  | cons {job : Job Query Result} {jobs : List (Job Query Result)}
      {part others whole : List (Query × Reply)} {result : Result} {results : List Result}
      (first : job.Path part result) (rest : Together jobs others results)
      (mixed : whole.Perm (part ++ others)) :
      Together (job :: jobs) whole (result :: results)

/-- Each job of a list comes to the result in its place, and the given exchanges are theirs,
those of each job in their order. -/
inductive Interleaved :
    List (Job Query Result) → List (Query × Reply) → List Result → Prop
  | nil : Interleaved [] [] []
  | cons {job : Job Query Result} {jobs : List (Job Query Result)}
      {part others whole : List (Query × Reply)} {result : Result} {results : List Result}
      (first : job.Path part result) (rest : Interleaved jobs others results)
      (mixed : Merges part others whole) :
      Interleaved (job :: jobs) whole (result :: results)

theorem Interleaved.together {jobs : List (Job Query Result)}
    {exchanges : List (Query × Reply)} {results : List Result}
    (interleaved : Interleaved jobs exchanges results) : Together jobs exchanges results := by
  induction interleaved with
  | nil => exact .nil
  | cons first _ mixed ih => exact .cons first ih mixed.perm

/-! ### One step -/

/-- Opening waiting jobs changes nothing about what they come to. -/
theorem Interleaved.of_openWaiting {room : Nat} {jobs : List (Job Query Result)}
    {exchanges : List (Query × Reply)} {results : List Result}
    (interleaved : Interleaved (openWaiting room jobs) exchanges results) :
    Interleaved jobs exchanges results := by
  induction jobs generalizing room exchanges results with
  | nil => exact interleaved
  | cons job rest ih =>
      cases job with
      | waiting work =>
          cases room with
          | zero => exact interleaved
          | succ more =>
              cases interleaved with
              | cons first later mixed => exact .cons first (ih later) mixed
      | opened work =>
          cases interleaved with
          | cons first later mixed => exact .cons first (ih later) mixed
      | finished given =>
          cases interleaved with
          | cons first later mixed => exact .cons first (ih later) mixed

theorem Interleaved.of_advance {choice : Nat} {jobs moved : List (Job Query Result)}
    {front behind : List (Query × Reply)} {results : List Result}
    (step : Dialogue.Path (advance choice jobs) front moved)
    (interleaved : Interleaved moved behind results) :
    Interleaved jobs (front ++ behind) results := by
  -- The job that moves may stand behind others, so its exchange comes in front of theirs.
  induction jobs generalizing choice moved behind results with
  | nil =>
      obtain ⟨rfl, rfl⟩ := (Dialogue.path_done_iff ..).mp step
      exact interleaved
  | cons job rest ih =>
      cases job with
      | waiting work =>
          obtain ⟨later, onward, rfl⟩ := (Dialogue.path_andThen_done_iff ..).mp step
          cases interleaved with
          | cons first others mixed =>
              exact .cons first (ih onward others) (mixed.behind front)
      | finished given =>
          obtain ⟨later, onward, rfl⟩ := (Dialogue.path_andThen_done_iff ..).mp step
          cases interleaved with
          | cons first others mixed =>
              exact .cons first (ih onward others) (mixed.behind front)
      | opened work =>
          cases choice with
          | succ fewer =>
              obtain ⟨later, onward, rfl⟩ := (Dialogue.path_andThen_done_iff ..).mp step
              cases interleaved with
              | cons first others mixed =>
                  exact .cons first (ih onward others) (mixed.behind front)
          | zero =>
              obtain ⟨next, taken, rfl⟩ := (Dialogue.path_andThen_done_iff ..).mp step
              cases interleaved with
              | cons first others mixed =>
                  cases work with
                  | done result =>
                      obtain ⟨rfl, rfl⟩ := (Dialogue.path_done_iff ..).mp taken
                      obtain ⟨rfl, rfl⟩ := first
                      exact .cons (.done _) others mixed
                  | ask query continuation =>
                      obtain ⟨reply, onward, rfl, ended⟩ :=
                        (Dialogue.path_ask_iff ..).mp taken
                      obtain ⟨rfl, rfl⟩ := (Dialogue.path_done_iff ..).mp ended
                      exact .cons (.ask reply first) others (.first mixed)

/-- Behind a step of a pool its jobs come to what they came to before it. -/
theorem Interleaved.of_tick {stops : Result → Bool} {limit choice : Nat}
    {jobs moved : List (Job Query Result)} {front behind : List (Query × Reply)}
    {results : List Result}
    (step : Dialogue.Path (tick stops limit choice jobs) front moved)
    (interleaved : Interleaved moved behind results) :
    Interleaved jobs (front ++ behind) results :=
  (interleaved.of_advance step).of_openWaiting

/-! ### Calm pools -/

section Calm

variable {stops : Result → Bool} {allowed : Query → Reply → Prop}

theorem calm_of_openWaiting {room : Nat} {jobs : List (Job Query Result)}
    (calm : ∀ job ∈ jobs, job.IsCalm stops allowed) :
    ∀ job ∈ openWaiting room jobs, job.IsCalm stops allowed := by
  induction jobs generalizing room with
  | nil => exact calm
  | cons job rest ih =>
      have first := calm job (List.mem_cons_self ..)
      have later : ∀ {places : Nat}, ∀ other ∈ openWaiting places rest,
          other.IsCalm stops allowed :=
        ih fun other member => calm other (List.mem_cons_of_mem job member)
      cases job with
      | waiting work =>
          cases room with
          | zero => exact calm
          | succ more => exact List.forall_mem_cons.mpr ⟨first, later⟩
      | opened work => exact List.forall_mem_cons.mpr ⟨first, later⟩
      | finished given => exact List.forall_mem_cons.mpr ⟨first, later⟩

theorem calm_of_advance {choice : Nat} {jobs moved : List (Job Query Result)}
    {front : List (Query × Reply)}
    (step : Dialogue.Path (advance choice jobs) front moved)
    (ordinary : ∀ exchange ∈ front, allowed exchange.1 exchange.2)
    (calm : ∀ job ∈ jobs, job.IsCalm stops allowed) :
    ∀ job ∈ moved, job.IsCalm stops allowed := by
  induction jobs generalizing choice moved with
  | nil =>
      obtain ⟨rfl, rfl⟩ := (Dialogue.path_done_iff ..).mp step
      exact calm
  | cons job rest ih =>
      obtain ⟨first, later⟩ := List.forall_mem_cons.mp calm
      cases job with
      | waiting work =>
          obtain ⟨others, onward, rfl⟩ := (Dialogue.path_andThen_done_iff ..).mp step
          exact List.forall_mem_cons.mpr ⟨first, ih onward later⟩
      | finished given =>
          obtain ⟨others, onward, rfl⟩ := (Dialogue.path_andThen_done_iff ..).mp step
          exact List.forall_mem_cons.mpr ⟨first, ih onward later⟩
      | opened work =>
          cases choice with
          | succ fewer =>
              obtain ⟨others, onward, rfl⟩ := (Dialogue.path_andThen_done_iff ..).mp step
              exact List.forall_mem_cons.mpr ⟨first, ih onward later⟩
          | zero =>
              obtain ⟨next, taken, rfl⟩ := (Dialogue.path_andThen_done_iff ..).mp step
              refine List.forall_mem_cons.mpr ⟨?_, later⟩
              intro part result given path
              cases work with
              | done value =>
                  obtain ⟨_, rfl⟩ := (Dialogue.path_done_iff ..).mp taken
                  obtain ⟨rfl, rfl⟩ := path
                  exact first [] _ (List.forall_mem_nil _) (.done _)
              | ask query continuation =>
                  obtain ⟨reply, onward, rfl, ended⟩ :=
                    (Dialogue.path_ask_iff ..).mp taken
                  obtain ⟨rfl, rfl⟩ := (Dialogue.path_done_iff ..).mp ended
                  refine first ((query, reply) :: part) result ?_ (.ask reply path)
                  exact List.forall_mem_cons.mpr
                    ⟨ordinary _ (List.mem_cons_self ..), given⟩

private theorem any_hasStopped_eq_false {jobs : List (Job Query Result)}
    (calm : ∀ job ∈ jobs, job.IsCalm stops allowed) :
    jobs.any (Job.hasStopped stops) = false := by
  rw [List.any_eq_false]
  intro job member
  cases job with
  | waiting work => exact Bool.false_ne_true
  | opened work => exact Bool.false_ne_true
  | finished given =>
      have quiet := calm _ member [] given (List.forall_mem_nil _) ⟨rfl, rfl⟩
      change ¬stops given = true
      rw [quiet]
      exact Bool.false_ne_true

theorem interleaved_of_finishAll {places : Nat} {jobs : List (Job Query Result)}
    {exchanges : List (Query × Reply)} {results : List Result}
    (path : Dialogue.Path (finishAll stops false places jobs) exchanges results)
    (ordinary : ∀ exchange ∈ exchanges, allowed exchange.1 exchange.2)
    (calm : ∀ job ∈ jobs, job.IsCalm stops allowed) :
    Interleaved jobs exchanges results := by
  induction jobs generalizing places exchanges results with
  | nil =>
      obtain ⟨rfl, rfl⟩ := (Dialogue.path_done_iff ..).mp path
      exact .nil
  | cons job rest ih =>
      obtain ⟨quiet, later⟩ := List.forall_mem_cons.mp calm
      cases job with
      | finished given =>
          obtain ⟨others, onward, rfl⟩ := (Dialogue.path_andThen_done_iff ..).mp path
          exact .cons ⟨rfl, rfl⟩ (ih onward ordinary later) (merges_append _ _)
      | opened work =>
          obtain ⟨first, second, value, rfl, own, onward⟩ :=
            (Dialogue.path_andThen_iff ..).mp path
          obtain ⟨ofFirst, ofSecond⟩ := List.forall_mem_append.mp ordinary
          have unstopped : stops value = false := quiet first value ofFirst own
          rw [unstopped] at onward
          obtain ⟨others, behind, rfl⟩ := (Dialogue.path_andThen_done_iff ..).mp onward
          exact .cons own (ih behind ofSecond later) (merges_append _ _)
      | waiting work =>
          change Dialogue.Path (if (false && places == 0) = true then _ else _) _ _ at path
          rw [Bool.false_and, if_neg Bool.false_ne_true] at path
          obtain ⟨first, second, value, rfl, own, onward⟩ :=
            (Dialogue.path_andThen_iff ..).mp path
          obtain ⟨ofFirst, ofSecond⟩ := List.forall_mem_append.mp ordinary
          have unstopped : stops value = false := quiet first value ofFirst own
          rw [unstopped] at onward
          obtain ⟨others, behind, rfl⟩ := (Dialogue.path_andThen_done_iff ..).mp onward
          exact .cons own (ih behind ofSecond later) (merges_append _ _)

/-- Driving a calm pool by any schedule takes each of its jobs to its end. -/
theorem interleaved_of_drive {limit : Nat} {schedule : Schedule}
    {jobs : List (Job Query Result)} {exchanges : List (Query × Reply)}
    {results : List Result}
    (path : Dialogue.Path (drive stops limit schedule jobs) exchanges results)
    (ordinary : ∀ exchange ∈ exchanges, allowed exchange.1 exchange.2)
    (calm : ∀ job ∈ jobs, job.IsCalm stops allowed) :
    Interleaved jobs exchanges results := by
  -- The induction carries that the pool is calm: then it never ends early.
  induction schedule generalizing jobs exchanges with
  | nil =>
      rw [drive, any_hasStopped_eq_false calm] at path
      exact interleaved_of_finishAll path ordinary calm
  | cons choice later ih =>
      obtain ⟨front, behind, moved, rfl, step, onward⟩ :=
        (Dialogue.path_andThen_iff ..).mp path
      obtain ⟨ofFront, ofBehind⟩ := List.forall_mem_append.mp ordinary
      have stillCalm := calm_of_advance step ofFront (calm_of_openWaiting calm)
      exact (ih onward ofBehind stillCalm).of_tick step

theorem together_of_drive {limit : Nat} {schedule : Schedule}
    {jobs : List (Job Query Result)} {exchanges : List (Query × Reply)}
    {results : List Result}
    (path : Dialogue.Path (drive stops limit schedule jobs) exchanges results)
    (ordinary : ∀ exchange ∈ exchanges, allowed exchange.1 exchange.2)
    (calm : ∀ job ∈ jobs, job.IsCalm stops allowed) :
    Together jobs exchanges results :=
  (interleaved_of_drive path ordinary calm).together

end Calm

/-- What the jobs of a list come to, each with its own exchanges. -/
theorem Interleaved.exists_entries {works : List (Dialogue Query Result)}
    {exchanges : List (Query × Reply)} {results : List Result}
    (interleaved : Interleaved (works.map Job.waiting) exchanges results) :
    ∃ entries : List (List (Query × Reply) × Result), results = entries.map Prod.snd ∧
      MergesAll (entries.map Prod.fst) exchanges ∧
      List.Forall₂ (fun work entry => Dialogue.Path work entry.1 entry.2) works entries := by
  induction works generalizing exchanges results with
  | nil =>
      cases interleaved
      exact ⟨[], rfl, .nil, .nil⟩
  | cons work rest ih =>
      cases interleaved with
      | @cons _ _ part _ _ result _ first later mixed =>
          obtain ⟨entries, rfl, merged, paths⟩ := ih later
          exact ⟨(part, result) :: entries, rfl, .cons merged mixed, .cons first paths⟩

/-! ### Pools that nothing stops -/

/-- The results of a pool are those of its dialogues, place by place, and its exchanges
are theirs in some order. -/
theorem together_of_gather {limit : Int} {schedule : Schedule}
    {works : List (Dialogue Query Result)} {exchanges : List (Query × Reply)}
    {results : List Result}
    (path : Dialogue.Path (gather limit schedule works) exchanges results) :
    Together (works.map Job.waiting) exchanges results := by
  have calm : ∀ job ∈ works.map Job.waiting,
      job.IsCalm (fun _ => false) (fun _ _ => True) :=
    fun _ _ _ _ _ _ => rfl
  exact together_of_drive path (fun _ _ => trivial) calm

/-- What the jobs of a list come to, each by exchanges of its own. -/
theorem Together.forall₂ {works : List (Dialogue Query Result)}
    {exchanges : List (Query × Reply)} {results : List Result}
    (together : Together (works.map Job.waiting) exchanges results) :
    List.Forall₂ (fun work result =>
      ∃ part, part ⊆ exchanges ∧ Dialogue.Path work part result) works results := by
  induction works generalizing exchanges results with
  | nil =>
      cases together
      exact .nil
  | cons work rest ih =>
      cases together with
      | @cons _ _ part others _ _ _ first later mixed =>
          refine .cons ⟨part, ?_, first⟩ ((ih later).imp ?_)
          · intro exchange member
            exact mixed.mem_iff.mpr (List.mem_append_left others member)
          · rintro other result ⟨own, inside, path⟩
            refine ⟨own, ?_, path⟩
            intro exchange member
            exact mixed.mem_iff.mpr (List.mem_append_right part (inside member))

/-- Every exchange of a pool belongs to one of its dialogues. -/
theorem Together.exists_of_mem {works : List (Dialogue Query Result)}
    {exchanges : List (Query × Reply)} {results : List Result}
    (together : Together (works.map Job.waiting) exchanges results)
    {exchange : Query × Reply} (member : exchange ∈ exchanges) :
    ∃ work ∈ works, ∃ result ∈ results, ∃ part, part ⊆ exchanges ∧
      Dialogue.Path work part result ∧ exchange ∈ part := by
  induction works generalizing exchanges results with
  | nil =>
      cases together
      cases member
  | cons work rest ih =>
      cases together with
      | @cons _ _ part others _ result _ first later mixed =>
          rcases List.mem_append.mp (mixed.mem_iff.mp member) with own | behind
          · refine ⟨work, List.mem_cons_self .., result, List.mem_cons_self .., part, ?_,
              first, own⟩
            intro exchange member
            exact mixed.mem_iff.mpr (List.mem_append_left others member)
          · obtain ⟨other, present, found, listed, own, inside, path, inOwn⟩ :=
              ih later behind
            refine ⟨other, List.mem_cons_of_mem work present, found,
              List.mem_cons_of_mem result listed, own, ?_, path, inOwn⟩
            intro exchange member
            exact mixed.mem_iff.mpr (List.mem_append_right part (inside member))

/-- A pool asks nothing but what its dialogues ask. -/
theorem asksOnly_gather {holds : Query → Prop} {limit : Int} {schedule : Schedule}
    {works : List (Dialogue Query Result)}
    (only : ∀ work ∈ works, Dialogue.AsksOnly holds work) :
    Dialogue.AsksOnly holds (gather limit schedule works) := by
  intro exchanges results path exchange member
  obtain ⟨work, present, result, _, part, _, own, inPart⟩ :=
    (together_of_gather path).exists_of_mem member
  exact only work present part result own exchange inPart

/-- With fixed replies a pool that nothing stops gives what its dialogues give one by one,
in whatever order they get the replies. -/
theorem gatherUntil_answeredBy {stops : Result → Bool} {replies : Query → Reply}
    (limit : Int) (schedule : Schedule) (works : List (Dialogue Query Result))
    (calm : ∀ work ∈ works, stops (work.answeredBy replies) = false) :
    (gatherUntil stops limit schedule works).answeredBy replies =
      works.map fun work => work.answeredBy replies := by
  have path := Dialogue.path_answeredBy replies (gatherUntil stops limit schedule works)
  have fixed : ∀ exchange ∈ ((gatherUntil stops limit schedule works).asked replies).map
      (fun query => (query, replies query)), exchange.2 = replies exchange.1 :=
    fun exchange member => Dialogue.eq_reply_of_mem member
  have quiet : ∀ job ∈ works.map Job.waiting,
      job.IsCalm stops fun query reply => reply = replies query := by
    intro job member
    obtain ⟨work, present, rfl⟩ := List.mem_map.mp member
    intro part result given own
    rw [Dialogue.Path.eq_answeredBy own given]
    exact calm work present
  have placed : List.Forall₂ (fun work result => work.answeredBy replies = result) works
      ((gatherUntil stops limit schedule works).answeredBy replies) := by
    refine (together_of_drive path fixed quiet).forall₂.imp ?_
    rintro work result ⟨part, inside, own⟩
    exact (own.eq_answeredBy fun exchange member => fixed exchange (inside member)).symm
  have same := List.forall₂_map_left_iff.mpr placed
  rw [List.forall₂_eq_eq_eq] at same
  exact same.symm

theorem gather_answeredBy (limit : Int) (schedule : Schedule)
    (works : List (Dialogue Query Result)) (replies : Query → Reply) :
    (gather limit schedule works).answeredBy replies =
      works.map fun work => work.answeredBy replies :=
  gatherUntil_answeredBy limit schedule works fun _ _ => rfl

end Pool
end ContractSurvey
