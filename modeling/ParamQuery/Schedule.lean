import ParamQuery.Compiler

/-!
# Work at a later turn

Jobs are put into the queue of a loop, which runs them in its next turn, in order, and passes over those that were
cancelled before.  Running a job calls back, with a statement or a fault.  What is scheduled during a turn is behind
the jobs that are still to be run in it, and waits for the next one.
-/

namespace ParamQuery

structure Job where
  registry : Registry
  params : Params
  limits : Limits

/-- A call of the function that was given with a job. -/
structure Callback where
  id : Nat
  error : Option Fault
  result : Option (Statement BoundValue)

/-- A job in the queue. -/
structure Handle where
  id : Nat
  job : Job
  cancelled : Bool

namespace Handle

/-- Cancels the job if it is number `id`. -/
def cancelIf (id : Nat) (h : Handle) : Handle :=
  if h.id = id then { h with cancelled := true } else h

/-- Compiles, and calls back with what came of it. -/
def run (h : Handle) : Callback :=
  match compile h.job.registry h.job.limits h.job.params with
  | .ok statement => ⟨h.id, none, some statement⟩
  | .error fault => ⟨h.id, some fault, none⟩

end Handle

structure Loop where
  /-- The jobs to be run, first come first served. -/
  ready : List Handle
  /-- How many of them are to be run in the turn under way. -/
  todo : Nat
  /-- The number of jobs that were ever scheduled. -/
  scheduled : Nat
  /-- All callbacks, in order. -/
  log : List Callback

namespace Loop

def new : Loop :=
  ⟨[], 0, 0, []⟩

def schedule (l : Loop) (job : Job) : Loop :=
  { l with ready := l.ready ++ [⟨l.scheduled, job, false⟩], scheduled := l.scheduled + 1 }

/-- Cancels the job that was scheduled as number `id`; that does nothing to a job that was run. -/
def cancel (l : Loop) (id : Nat) : Loop :=
  { l with ready := l.ready.map (Handle.cancelIf id) }

/-- A new turn, to which all jobs belong that are ready by now. -/
def begin (l : Loop) : Loop :=
  { l with todo := l.ready.length }

/-- Takes the next job of the turn under way from the queue, if one is left, and runs it unless it was cancelled. -/
def next (l : Loop) : Loop :=
  match l.todo, l.ready with
  | todo + 1, h :: ready => { l with ready, todo, log := if h.cancelled then l.log else l.log ++ [h.run] }
  | _, _ => l

/-- Takes so many jobs. -/
def nextFor (l : Loop) : Nat → Loop
  | 0 => l
  | count + 1 => l.next.nextFor count

/-- What is left of the turn under way. -/
def finish (l : Loop) : Loop :=
  l.nextFor l.todo

def turn (l : Loop) : Loop :=
  l.begin.finish

end Loop

/-- Without a running loop nothing can be scheduled. -/
inductive ScheduleFault where
  | noRunningLoop
  deriving DecidableEq, Repr

def ScheduleFault.message : ScheduleFault → String
  | .noRunningLoop => "no running event loop"

/-- Schedules a job on the running loop, if there is one. -/
def compileLater (running : Option Loop) (job : Job) : Except ScheduleFault Loop :=
  match running with
  | some l => .ok (l.schedule job)
  | none => .error .noRunningLoop

end ParamQuery
