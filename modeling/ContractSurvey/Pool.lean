/-
Pools of dialogues.

A pool runs a list of dialogues side by side.  At most a limited number of them is
open at any time; they are opened in the order of the list, and which of the open
ones gets its next reply is decided by a schedule from the outside.  The results
stand in the order of the list.  When the schedule ends, the dialogues that are left
are finished one after another.

A result may stop the pool.  The dialogues that are open then are finished, and those
that still wait are never opened and have no result.
-/

import ContractSurvey.Dialogue

namespace ContractSurvey

inductive Job (Query Result : Type)
  | waiting (work : Dialogue Query Result)
  | opened (work : Dialogue Query Result)
  | finished (result : Result)

namespace Job

variable {Query Result : Type}

def isOpen : Job Query Result → Bool
  | .opened _ => true
  | _ => false

def hasStopped (stops : Result → Bool) : Job Query Result → Bool
  | .finished result => stops result
  | _ => false

/-- Takes the next step of a dialogue: it ends, or one question is answered. -/
def step : Dialogue Query Result → Dialogue Query (Job Query Result)
  | .done result => .done (.finished result)
  | .ask query next => .ask query fun reply => .done (.opened (next reply))

end Job

namespace Pool

variable {Query Result : Type}

/-- The order in which open dialogues get their replies: each number picks one of
the dialogues that are open at that time, counted round and round. -/
abbrev Schedule := List Nat

/-- The number of dialogues that may be open at a time: at least one. -/
def openLimit (limit : Int) : Nat :=
  (max 1 limit).toNat

def openWaiting (room : Nat) : List (Job Query Result) → List (Job Query Result)
  | [] => []
  | .waiting work :: rest =>
      match room with
      | 0 => .waiting work :: rest
      | more + 1 => .opened work :: openWaiting more rest
  | job :: rest => job :: openWaiting room rest

/-- Takes the next step of the open job with a number, counted from zero. -/
def advance (choice : Nat) :
    List (Job Query Result) → Dialogue Query (List (Job Query Result))
  | [] => .done []
  | .opened work :: rest =>
      match choice with
      | 0 => (Job.step work).andThen fun job => .done (job :: rest)
      | fewer + 1 => (advance fewer rest).andThen fun later => .done (.opened work :: later)
  | job :: rest => (advance choice rest).andThen fun later => .done (job :: later)

/-- The number of waiting jobs that may be opened: none once the pool has stopped. -/
def room (stops : Result → Bool) (limit : Nat) (jobs : List (Job Query Result)) : Nat :=
  if jobs.any (Job.hasStopped stops) then 0 else limit - jobs.countP Job.isOpen

/-- One step of a pool: waiting jobs are opened, and a chosen one goes on. -/
def tick (stops : Result → Bool) (limit choice : Nat) (jobs : List (Job Query Result)) :
    Dialogue Query (List (Job Query Result)) :=
  let running := openWaiting (room stops limit jobs) jobs
  advance (choice % max 1 (running.countP Job.isOpen)) running

/-- The number of free places after a job has ended: a stopped pool gives the place of
the job to no other. -/
def placesAfter (stopped : Bool) (places : Nat) : Nat :=
  if stopped then places else places + 1

/-- Finishes jobs one after another and gives their results.  A waiting job takes one
of the free places; a stopped pool without a free place leaves it out. -/
def finishAll (stops : Result → Bool) (stopped : Bool) (places : Nat) :
    List (Job Query Result) → Dialogue Query (List Result)
  | [] => .done []
  | .finished result :: rest =>
      (finishAll stops stopped places rest).andThen fun later => .done (result :: later)
  | .opened work :: rest =>
      work.andThen fun result =>
        let stopped := stopped || stops result
        (finishAll stops stopped (placesAfter stopped places) rest).andThen fun later =>
          .done (result :: later)
  | .waiting work :: rest =>
      if stopped && places == 0 then finishAll stops stopped places rest
      else
        work.andThen fun result =>
          let stopped := stopped || stops result
          (finishAll stops stopped (placesAfter stopped (places - 1)) rest).andThen
            fun later => .done (result :: later)

def drive (stops : Result → Bool) (limit : Nat) (schedule : Schedule)
    (jobs : List (Job Query Result)) : Dialogue Query (List Result) :=
  match schedule with
  | [] => finishAll stops (jobs.any (Job.hasStopped stops)) (room stops limit jobs) jobs
  | choice :: later => (tick stops limit choice jobs).andThen (drive stops limit later)

/-- The results of dialogues that run side by side until a result stops them, in the
order of the list. -/
def gatherUntil (stops : Result → Bool) (limit : Int) (schedule : Schedule)
    (works : List (Dialogue Query Result)) : Dialogue Query (List Result) :=
  drive stops (openLimit limit) schedule (works.map Job.waiting)

/-- The results of dialogues that run side by side, in the order of the list. -/
def gather (limit : Int) (schedule : Schedule) (works : List (Dialogue Query Result)) :
    Dialogue Query (List Result) :=
  gatherUntil (fun _ => false) limit schedule works

end Pool
end ContractSurvey
