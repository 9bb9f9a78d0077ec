import EntitySearch.Error
import EntitySearch.Index.Job

/-!
# Queues of index jobs

A job that fails is tried again, a given number of times.  `runWithRetries` does a job on the spot.
A `Channel` hands jobs to workers: jobs wait in order, an idle worker takes the first one, and a busy
one makes attempts until one succeeds or none is left.  A closed channel accepts no further job;
those it has accepted are still done.

The steps of a channel are separate functions, so that workers may interleave in any way; `drain` is
the run in which one worker does all the waiting jobs.
-/
set_option autoImplicit false
namespace EntitySearch

def attemptsOf (retries : Nat) : Nat := retries + 1

def IndexJob.failureReport (job : IndexJob) (attempt total : Nat) (e : SearchError) : LogEntry :=
  if attempt < total then .warning s!"{job} failed (attempt {attempt}/{total}): {e}"
  else .failure s!"{job} given up after {total} attempts: {e}"

structure Trial where
  succeeded : Bool
  log : List LogEntry
deriving DecidableEq

section Attempts
variable {σ : Type} (apply : IndexJob → σ → Except SearchError Unit × σ)

/-- Makes the last `left` of `total` attempts at a job, up to the first that succeeds. -/
def tryJob (job : IndexJob) (total : Nat) : Nat → σ → Trial × σ
  | 0, s => (⟨false, []⟩, s)
  | left + 1, s =>
    match apply job s with
    | (.ok _, s) => (⟨true, []⟩, s)
    | (.error e, s) =>
      let (trial, s) := tryJob job total left s
      ({ trial with log := job.failureReport (total - left) total e :: trial.log }, s)

def runWithRetries (retries : Nat) (job : IndexJob) (s : σ) : Trial × σ :=
  tryJob apply job (attemptsOf retries) (attemptsOf retries) s

end Attempts

inductive Worker where
  | idle
  | busy (job : IndexJob) (failures : Nat)
deriving DecidableEq

structure Ending where
  job : IndexJob
  attempts : Nat
  succeeded : Bool
deriving DecidableEq

/-- A queue that workers take jobs from. -/
structure Channel where
  retries : Nat
  workers : List Worker
  waiting : List IndexJob := []
  closed : Bool := false
  endings : List Ending := []
deriving DecidableEq

namespace Channel

def start (workers retries : Nat) : Except SearchError Channel :=
  if workers = 0 then .error (.invalidArgument (.zero "indexing.workers"))
  else .ok { retries, workers := List.replicate workers .idle }

/-- How many jobs succeeded in the end.  Neither this count nor that of the failed ones passes 64 bits
before 2 ^ 64 jobs are done. -/
def completed (channel : Channel) : Nat := (channel.endings.filter Ending.succeeded).length

def failed (channel : Channel) : Nat :=
  (channel.endings.filter fun ending => !ending.succeeded).length

/-- Hands a job to the channel; a closed one drops it. -/
def enqueue (channel : Channel) (job : IndexJob) : Channel × List LogEntry :=
  if channel.closed then (channel, [.warning s!"{job} dropped: queue is shut down"])
  else ({ channel with waiting := channel.waiting ++ [job] }, [])

def enqueueAll (channel : Channel) : List IndexJob → Channel × List LogEntry
  | [] => (channel, [])
  | job :: rest =>
    let (channel, log) := channel.enqueue job
    let (channel, more) := channel.enqueueAll rest
    (channel, log ++ more)

def close (channel : Channel) : Channel := { channel with closed := true }

def take (channel : Channel) (worker : Nat) : Channel :=
  match channel.workers[worker]?, channel.waiting with
  | some .idle, job :: rest =>
    { channel with waiting := rest, workers := channel.workers.set worker (.busy job 0) }
  | _, _ => channel

def finish (channel : Channel) (worker : Nat) (ending : Ending) : Channel :=
  { channel with
    workers := channel.workers.set worker .idle
    endings := channel.endings ++ [ending] }

def attempt (channel : Channel) (worker : Nat) (result : Except SearchError Unit) :
    Channel × List LogEntry :=
  match channel.workers[worker]? with
  | some (.busy job failures) =>
    let made := failures + 1
    let total := attemptsOf channel.retries
    match result with
    | .ok _ => (channel.finish worker ⟨job, made, true⟩, [])
    | .error e =>
      let next := if made < total then
          { channel with workers := channel.workers.set worker (.busy job made) }
        else channel.finish worker ⟨job, made, false⟩
      (next, [job.failureReport made total e])
  | _ => (channel, [])

section Runs
variable {σ : Type} (apply : IndexJob → σ → Except SearchError Unit × σ)

/-- A worker makes up to `left` attempts at the job it is at. -/
def work (worker : Nat) : Nat → Channel → σ → (Channel × List LogEntry) × σ
  | 0, channel, s => ((channel, []), s)
  | left + 1, channel, s =>
    match channel.workers[worker]? with
    | some (.busy job _) =>
      let (result, s) := apply job s
      let (channel, log) := channel.attempt worker result
      let ((channel, more), s) := work worker left channel s
      ((channel, log ++ more), s)
    | _ => ((channel, []), s)

def drainCount : Nat → Channel → σ → (Channel × List LogEntry) × σ
  | 0, channel, s => ((channel, []), s)
  | count + 1, channel, s =>
    let ((channel, log), s) := work apply 0 (attemptsOf channel.retries) (channel.take 0) s
    let ((channel, more), s) := drainCount count channel s
    ((channel, log ++ more), s)

def drain (channel : Channel) (s : σ) : (Channel × List LogEntry) × σ :=
  drainCount apply channel.waiting.length channel s

end Runs

end Channel
end EntitySearch
