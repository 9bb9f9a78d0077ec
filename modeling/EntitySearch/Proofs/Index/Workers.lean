import EntitySearch.Index.Queue
import EntitySearch.Proofs.Registry.Orderly

/-!
# Workers on a channel

Callers hand jobs to a channel and shut it down once; its workers take jobs, make attempts at them
and end when they find the channel closed and empty.  All of this interleaves in any way, and any
attempt may succeed or fail.

What a worker does with one job is a `Session`.  When all workers have ended, the sessions are those
of the jobs that were handed over before the shutdown, one for each and in the same order, whichever
workers took them.

Main statements: `jobs_accounted_for` and `exists_shutDown` (a shutdown can return).
-/
set_option autoImplicit false
namespace EntitySearch

inductive Deed where
  | took (worker : Nat) (job : IndexJob)
  | applied (worker : Nat) (job : IndexJob) (result : Except SearchError Unit)

namespace Deed

def worker : Deed → Nat
  | took worker _ => worker
  | applied worker _ _ => worker

def taken? : Deed → Option (Nat × IndexJob)
  | took worker job => some (worker, job)
  | applied _ _ _ => none

end Deed

/-- A channel, those of its workers that have ended, and all that the workers have done. -/
structure Pool where
  channel : Channel
  ended : List Nat := []
  history : List Deed := []

namespace Pool

inductive Step where
  | enqueue (job : IndexJob)
  | shutdown
  | take (worker : Nat)
  | attempt (worker : Nat) (result : Except SearchError Unit)
  | leave (worker : Nat)

def step (pool : Pool) : Step → Pool
  | .enqueue job => { pool with channel := (pool.channel.enqueue job).1 }
  | .shutdown => { pool with channel := pool.channel.close }
  | .take worker =>
    match pool.channel.workers[worker]?, pool.channel.waiting with
    | some .idle, job :: _ =>
      if worker ∈ pool.ended then pool
      else { pool with
        channel := pool.channel.take worker
        history := pool.history ++ [.took worker job] }
    | _, _ => pool
  | .attempt worker result =>
    match pool.channel.workers[worker]? with
    | some (.busy job _) =>
      { pool with
        channel := (pool.channel.attempt worker result).1
        history := pool.history ++ [.applied worker job result] }
    | _ => pool
  | .leave worker =>
    if pool.channel.workers[worker]? = some .idle ∧ pool.channel.closed ∧
        pool.channel.waiting = [] then
      { pool with ended := worker :: pool.ended }
    else pool

def run (pool : Pool) (steps : List Step) : Pool := steps.foldl step pool

/-- A shutdown waits until every worker has ended. -/
def ShutDown (pool : Pool) : Prop :=
  pool.channel.closed = true ∧
    ∀ worker, worker < pool.channel.workers.length → worker ∈ pool.ended

instance (pool : Pool) : Decidable pool.ShutDown := by
  unfold ShutDown
  infer_instance

def handedOver (steps : List Step) : List IndexJob :=
  steps.filterMap fun
    | .enqueue job => some job
    | _ => none

def accepts (pool : Pool) : Step → List IndexJob
  | .enqueue job => if pool.channel.closed then [] else [job]
  | _ => []

end Pool

/-! ## Sessions -/

structure Session where
  worker : Nat
  job : IndexJob
  results : List (Except SearchError Unit) := []

namespace Session

def deeds (session : Session) : List Deed :=
  .took session.worker session.job ::
    session.results.map (Deed.applied session.worker session.job)

def further (session : Session) (result : Except SearchError Unit) : Session :=
  { session with results := session.results ++ [result] }

def succeeded (session : Session) : Bool :=
  match session.results.getLast? with
  | some (.ok _) => true
  | _ => false

def gaveUp (retries : Nat) (session : Session) : Bool :=
  !session.succeeded && session.results.length == attemptsOf retries

/-- A session that made the attempts it had to make, and no others. -/
structure Thorough (retries : Nat) (session : Session) : Prop where
  begun : session.results ≠ []
  bounded : session.results.length ≤ attemptsOf retries
  onward : ∀ result ∈ session.results.dropLast, ∃ e, result = .error e
  ended : session.succeeded = true ∨ session.results.length = attemptsOf retries

structure Unfinished (retries : Nat) (session : Session) : Prop where
  failing : ∀ result ∈ session.results, ∃ e, result = .error e
  left : session.results.length < attemptsOf retries

variable {retries : Nat} {session : Session}

theorem succeeded_further_ok (session : Session) (u : Unit) :
    (session.further (.ok u)).succeeded = true := by
  simp [succeeded, further]

theorem succeeded_further_error (session : Session) (e : SearchError) :
    (session.further (.error e)).succeeded = false := by
  simp [succeeded, further]

namespace Unfinished

theorem succeeded_eq (unfinished : session.Unfinished retries) : session.succeeded = false := by
  unfold succeeded
  split
  · next last =>
    obtain ⟨e, isError⟩ := unfinished.failing _ (List.mem_of_getLast? last)
    cases isError
  · rfl

theorem gaveUp_eq (unfinished : session.Unfinished retries) : session.gaveUp retries = false := by
  simp [gaveUp, Nat.ne_of_lt unfinished.left]

theorem thorough_further (unfinished : session.Unfinished retries)
    {result : Except SearchError Unit}
    (last : (∃ u, result = .ok u) ∨ session.results.length + 1 = attemptsOf retries) :
    (session.further result).Thorough retries := by
  have left := unfinished.left
  refine ⟨?_, ?_, ?_, ?_⟩
  · simp [further]
  · simp only [further, List.length_append, List.length_singleton]
    omega
  · simpa [further] using unfinished.failing
  · rcases last with ⟨u, rfl⟩ | last
    · exact Or.inl (succeeded_further_ok session u)
    · right
      simpa [further] using last

theorem further (unfinished : session.Unfinished retries) (e : SearchError)
    (left : session.results.length + 1 < attemptsOf retries) :
    (session.further (.error e)).Unfinished retries := by
  refine ⟨?_, by simpa [Session.further] using left⟩
  intro result member
  rcases List.mem_append.1 member with earlier | last
  · exact unfinished.failing result earlier
  · exact ⟨e, List.mem_singleton.1 last⟩

end Unfinished

theorem Thorough.gaveUp_eq (thorough : session.Thorough retries) :
    session.gaveUp retries = !session.succeeded := by
  rcases thorough.ended with succeeded | all
  · simp [gaveUp, succeeded]
  · simp [gaveUp, all]

theorem countP_replace {p : Session → Bool} {current next : Session} (uncounted : p current = false)
    {front back : List Session} :
    (front ++ next :: back).countP p = (front ++ current :: back).countP p + [next].countP p := by
  simp only [List.countP_append, List.countP_cons, List.countP_nil, uncounted, Bool.false_eq_true,
    if_false]
  omega

def ownedBy (worker : Nat) (sessions : List Session) : List Session :=
  sessions.filter fun session => session.worker = worker

theorem ownedBy_append (worker : Nat) (sessions later : List Session) :
    ownedBy worker (sessions ++ later) = ownedBy worker sessions ++ ownedBy worker later :=
  List.filter_append ..

theorem ownedBy_cons (worker : Nat) (session : Session) (later : List Session) :
    ownedBy worker (session :: later) =
      (if session.worker = worker then [session] else []) ++ ownedBy worker later := by
  unfold ownedBy
  rw [List.filter_cons]
  by_cases own : session.worker = worker <;> simp [own]

theorem exists_of_ownedBy_eq {sessions earlier : List Session} {worker : Nat}
    (owned : ownedBy worker sessions = earlier ++ [session]) :
    session.worker = worker ∧ ∃ front back, sessions = front ++ session :: back ∧
      ownedBy worker front = earlier ∧ ownedBy worker back = [] := by
  obtain ⟨front, rest, rfl, isEarlier, isLast⟩ := List.filter_eq_append_iff.1 owned
  obtain ⟨between, back, rfl, none, isOwn, noMore⟩ := List.filter_eq_cons_iff.1 isLast
  refine ⟨by simpa using isOwn, front ++ between, back, by simp, ?_, noMore⟩
  rw [ownedBy, List.filter_append, isEarlier, List.filter_eq_nil_iff.2 none, List.append_nil]

end Session
namespace Channel
variable {channel : Channel} {worker failures : Nat} {job : IndexJob}

theorem start_eq_ok {workers retries : Nat} (started : start workers retries = .ok channel) :
    workers ≠ 0 ∧ channel = { retries, workers := List.replicate workers .idle } := by
  unfold start at started
  split at started
  · cases started
  · next manned =>
    cases started
    exact ⟨manned, rfl⟩

theorem take_eq {rest : List IndexJob} (idle : channel.workers[worker]? = some .idle)
    (waits : channel.waiting = job :: rest) :
    channel.take worker = { channel with
      waiting := rest, workers := channel.workers.set worker (.busy job 0) } := by
  simp [take, idle, waits]

/-- What an attempt at a job, after some failures, makes of its worker, and the endings to count. -/
inductive Attempted (total : Nat) (job : IndexJob) (failures : Nat) :
    Except SearchError Unit → Worker → List Ending → Prop where
  | success (u : Unit) : Attempted total job failures (.ok u) .idle [⟨job, failures + 1, true⟩]
  | again (e : SearchError) (left : failures + 1 < total) :
      Attempted total job failures (.error e) (.busy job (failures + 1)) []
  | last (e : SearchError) (none : total ≤ failures + 1) :
      Attempted total job failures (.error e) .idle [⟨job, failures + 1, false⟩]

theorem attempt_cases (busy : channel.workers[worker]? = some (.busy job failures))
    (result : Except SearchError Unit) :
    ∃ next endings, Attempted (attemptsOf channel.retries) job failures result next endings ∧
      (channel.attempt worker result).1 = { channel with
        workers := channel.workers.set worker next
        endings := channel.endings ++ endings } := by
  unfold attempt
  simp only [busy]
  cases result with
  | ok u => exact ⟨_, _, .success u, rfl⟩
  | error e =>
      by_cases left : failures + 1 < attemptsOf channel.retries
      · refine ⟨_, _, .again e left, ?_⟩
        simp [left]
      · refine ⟨_, _, .last e (Nat.le_of_not_lt left), ?_⟩
        simp only [left, if_false]
        rfl

end Channel

/-! ## Accounts -/

open Session (ownedBy)

def Worker.isBusy : Worker → Bool
  | .idle => false
  | .busy _ _ => true

/-- What the state of a worker tells of its sessions. -/
def Worker.Stands (retries : Nat) (owned : List Session) : Worker → Prop
  | .idle => ∀ session ∈ owned, session.Thorough retries
  | .busy job failures => ∃ earlier current, owned = earlier ++ [current] ∧
      (∀ session ∈ earlier, session.Thorough retries) ∧ current.Unfinished retries ∧
        current.job = job ∧ current.results.length = failures

theorem Worker.stands_of_attempted {retries failures : Nat} {job : IndexJob}
    {result : Except SearchError Unit} {next : Worker} {endings : List Ending}
    (attempted : Channel.Attempted (attemptsOf retries) job failures result next endings)
    {earlier : List Session} {current : Session}
    (thorough : ∀ session ∈ earlier, session.Thorough retries)
    (unfinished : current.Unfinished retries) (isJob : current.job = job)
    (made : current.results.length = failures) :
    next.Stands retries (earlier ++ [current.further result]) ∧
      endings.countP Ending.succeeded = [current.further result].countP Session.succeeded ∧
        (endings.countP fun ending => !ending.succeeded) =
          [current.further result].countP (Session.gaveUp retries) := by
  cases attempted with
  | success u =>
      have ended := unfinished.thorough_further (Or.inl ⟨u, rfl⟩)
      have succeeded := current.succeeded_further_ok u
      refine ⟨?_, ?_, ?_⟩
      · simpa [Stands, or_imp, forall_and] using ⟨thorough, ended⟩
      · simp [succeeded]
      · simp [Session.gaveUp, succeeded]
  | again e left =>
      have goesOn := unfinished.further e (made ▸ left)
      refine ⟨⟨earlier, _, rfl, thorough, goesOn, isJob, ?_⟩, ?_, ?_⟩
      · simp [Session.further, made]
      · simp [goesOn.succeeded_eq]
      · simp [goesOn.gaveUp_eq]
  | last e none =>
      have ended : (current.further (.error e)).Thorough retries :=
        unfinished.thorough_further (Or.inr (Nat.le_antisymm unfinished.left (made ▸ none)))
      have failed := current.succeeded_further_error e
      refine ⟨?_, ?_, ?_⟩
      · simpa [Stands, or_imp, forall_and] using ⟨thorough, ended⟩
      · simp [failed]
      · simp [ended.gaveUp_eq, failed]

theorem Worker.stands_set {retries worker : Nat} {states : List Worker} {next : Worker}
    {sessions later : List Session}
    (stands : ∀ (other : Nat) state, states[other]? = some state →
      state.Stands retries (ownedBy other sessions))
    (others : ∀ other, worker ≠ other → ownedBy other later = ownedBy other sessions)
    (own : next.Stands retries (ownedBy worker later)) (other : Nat) (state : Worker)
    (isState : (states.set worker next)[other]? = some state) :
    state.Stands retries (ownedBy other later) := by
  rw [List.getElem?_set] at isState
  split at isState
  · next same =>
    subst same
    split at isState
    · cases isState
      exact own
    · cases isState
  · next differs =>
    rw [others other differs]
    exact stands other state isState

/-- The sessions in a pool that has accepted some jobs: what the workers have done, what they are
at, and what they have counted. -/
structure Pool.Accounts (workers retries : Nat) (accepted : List IndexJob) (pool : Pool)
    (sessions : List Session) : Prop where
  manned : pool.channel.workers.length = workers
  tries : pool.channel.retries = retries
  jobs : sessions.map Session.job ++ pool.channel.waiting = accepted
  taken : pool.history.filterMap Deed.taken? =
    sessions.map fun session => (session.worker, session.job)
  deeds : ∀ worker, (pool.history.filter fun deed => deed.worker = worker) =
    (ownedBy worker sessions).flatMap Session.deeds
  inPool : ∀ session ∈ sessions, session.worker < workers
  stands : ∀ (worker : Nat) state, pool.channel.workers[worker]? = some state →
    state.Stands retries (ownedBy worker sessions)
  completed : pool.channel.completed = sessions.countP Session.succeeded
  failed : pool.channel.failed = sessions.countP (Session.gaveUp retries)
  ended : ∀ worker ∈ pool.ended, pool.channel.closed = true ∧ pool.channel.waiting = [] ∧
    pool.channel.workers[worker]? = some .idle

namespace Pool.Accounts
variable {workers retries : Nat} {accepted : List IndexJob} {pool : Pool}
  {sessions : List Session} (accounts : pool.Accounts workers retries accepted sessions)
include accounts

theorem enqueue (job : IndexJob) :
    (pool.step (.enqueue job)).Accounts workers retries
      (accepted ++ pool.accepts (.enqueue job)) sessions := by
  unfold step accepts Channel.enqueue
  cases closed : pool.channel.closed with
  | true => simpa using accounts
  | false =>
      refine { accounts with jobs := ?_, ended := ?_ }
      · change sessions.map Session.job ++ (pool.channel.waiting ++ [job]) = _
        rw [← List.append_assoc, accounts.jobs]
        rfl
      · intro worker member
        have isClosed := (accounts.ended worker member).1
        rw [closed] at isClosed
        cases isClosed

theorem shutdown : (pool.step .shutdown).Accounts workers retries accepted sessions := by
  refine { accounts with ended := ?_ }
  intro worker member
  exact ⟨rfl, (accounts.ended worker member).2⟩

theorem leave (worker : Nat) :
    (pool.step (.leave worker)).Accounts workers retries accepted sessions := by
  unfold step
  dsimp only
  split
  · next leaves =>
    obtain ⟨idle, closed, drained⟩ := leaves
    refine { accounts with ended := ?_ }
    intro other member
    rcases List.mem_cons.1 member with rfl | before
    · exact ⟨closed, drained, idle⟩
    · exact accounts.ended other before
  · exact accounts

theorem take (worker : Nat) :
    ∃ later, (pool.step (.take worker)).Accounts workers retries accepted later := by
  unfold step
  dsimp only
  split
  · next job rest idle waits =>
    split
    · exact ⟨sessions, accounts⟩
    · rw [Channel.take_eq idle waits]
      let taken : Session := { worker, job }
      have unfinished : taken.Unfinished retries := by
        refine ⟨?_, Nat.succ_pos retries⟩
        intro result member
        cases member
      refine ⟨sessions ++ [taken], ?_, accounts.tries, ?_, ?_, ?_, ?_, ?_, ?_, ?_, ?_⟩
      · simpa using accounts.manned
      · simpa [taken, waits] using accounts.jobs
      · simp [taken, Deed.taken?, accounts.taken]
      · intro other
        simp only [List.filter_append, accounts.deeds, Session.ownedBy_append,
          List.flatMap_append, Session.ownedBy_cons]
        by_cases own : worker = other <;> simp [own, taken, ownedBy, Deed.worker, Session.deeds]
      · intro session member
        rcases List.mem_append.1 member with before | isTaken
        · exact accounts.inPool session before
        · obtain rfl := List.mem_singleton.1 isTaken
          obtain ⟨inRange, -⟩ := List.getElem?_eq_some_iff.1 idle
          exact accounts.manned ▸ inRange
      · refine Worker.stands_set accounts.stands ?_ ?_
        · intro other differs
          simp [ownedBy, taken, differs]
        · refine ⟨ownedBy worker sessions, taken, ?_, accounts.stands worker _ idle, unfinished, rfl,
            rfl⟩
          simp [ownedBy, taken]
      · rw [List.countP_append, List.countP_singleton, unfinished.succeeded_eq]
        exact accounts.completed
      · rw [List.countP_append, List.countP_singleton, unfinished.gaveUp_eq]
        exact accounts.failed
      · intro other member
        have drained := (accounts.ended other member).2.1
        rw [waits] at drained
        cases drained
  · exact ⟨sessions, accounts⟩

theorem attempt (worker : Nat) (result : Except SearchError Unit) :
    ∃ later, (pool.step (.attempt worker result)).Accounts workers retries accepted later := by
  unfold step
  dsimp only
  split
  · next job failures busy =>
    obtain ⟨earlier, current, owned, thorough, unfinished, isJob, made⟩ :=
      accounts.stands worker _ busy
    obtain ⟨isOwn, front, back, rfl, isEarlier, noMore⟩ := Session.exists_of_ownedBy_eq owned
    obtain ⟨next, endings, attempted, after⟩ := Channel.attempt_cases busy result
    rw [accounts.tries] at attempted
    obtain ⟨stands, succeeded, gaveUp⟩ :=
      Worker.stands_of_attempted attempted thorough unfinished isJob made
    rw [after]
    refine ⟨front ++ current.further result :: back, ?_, accounts.tries, ?_, ?_, ?_, ?_, ?_, ?_, ?_,
      ?_⟩
    · simpa using accounts.manned
    · simpa [Session.further] using accounts.jobs
    · rw [List.filterMap_append, accounts.taken]
      simp [Session.further, Deed.taken?]
    · intro other
      have deeds := accounts.deeds other
      rw [Session.ownedBy_append, Session.ownedBy_cons] at deeds ⊢
      rw [List.filter_append, deeds]
      by_cases own : worker = other
      · subst own
        simp [isOwn, isJob, noMore, Session.further, Session.deeds, Deed.worker]
      · simp [isOwn, own, Session.further, Deed.worker]
    · have inPool := accounts.inPool
      rw [List.forall_mem_append, List.forall_mem_cons] at inPool ⊢
      exact inPool
    · refine Worker.stands_set accounts.stands ?_ ?_
      · intro other differs
        simp [Session.ownedBy_append, Session.ownedBy_cons, Session.further, isOwn, differs]
      · simpa [Session.ownedBy_append, Session.ownedBy_cons, Session.further, isOwn, isEarlier,
          noMore] using stands
    · rw [Session.countP_replace unfinished.succeeded_eq, ← accounts.completed, ← succeeded]
      simp [Channel.completed, List.countP_eq_length_filter]
    · rw [Session.countP_replace unfinished.gaveUp_eq, ← accounts.failed, ← gaveUp]
      simp [Channel.failed, List.countP_eq_length_filter]
    · intro other member
      obtain ⟨closed, drained, idle⟩ := accounts.ended other member
      refine ⟨closed, drained, ?_⟩
      have differs : worker ≠ other := by
        rintro rfl
        rw [busy] at idle
        cases idle
      simpa [List.getElem?_set, differs] using idle
  · exact ⟨sessions, accounts⟩

theorem step (step : Step) :
    ∃ later, (pool.step step).Accounts workers retries (accepted ++ pool.accepts step) later := by
  cases step with
  | enqueue job => exact ⟨sessions, accounts.enqueue job⟩
  | shutdown => exact ⟨sessions, by simpa [accepts] using accounts.shutdown⟩
  | take worker => simpa [accepts] using accounts.take worker
  | attempt worker result => simpa [accepts] using accounts.attempt worker result
  | leave worker => exact ⟨sessions, by simpa [accepts] using accounts.leave worker⟩

end Pool.Accounts

namespace Pool
variable {workers retries : Nat} {accepted : List IndexJob} {pool : Pool}
  {sessions : List Session}

theorem accepts_of_closed (closed : pool.channel.closed = true) (step : Step) :
    pool.accepts step = [] := by
  cases step <;> simp [accepts, closed]

theorem accepts_of_open (opened : pool.channel.closed = false) (step : Step) :
    pool.accepts step = handedOver [step] := by
  cases step <;> simp [accepts, handedOver, opened]

theorem closed_step (pool : Pool) (step : Step) :
    (pool.step step).channel.closed = true ↔ pool.channel.closed = true ∨ step = .shutdown := by
  cases step with
  | enqueue job =>
      unfold Pool.step Channel.enqueue
      cases closed : pool.channel.closed <;> simp [closed]
  | shutdown => simp [Pool.step, Channel.close]
  | take worker =>
      unfold Pool.step
      dsimp only
      split
      · next job rest idle waits =>
        rw [Channel.take_eq idle waits]
        split <;> simp
      · simp
  | attempt worker result =>
      unfold Pool.step
      dsimp only
      split
      · next job failures busy =>
        obtain ⟨next, endings, -, after⟩ := Channel.attempt_cases busy result
        simp [after]
      · simp
  | leave worker =>
      unfold Pool.step
      dsimp only
      split <;> simp

theorem exists_accounts_of_closed (accounts : pool.Accounts workers retries accepted sessions)
    (closed : pool.channel.closed = true) (steps : List Step) :
    ∃ later, (pool.run steps).Accounts workers retries accepted later := by
  induction steps generalizing pool sessions with
  | nil => exact ⟨sessions, accounts⟩
  | cons step rest ih =>
      obtain ⟨later, next⟩ := accounts.step step
      rw [accepts_of_closed closed, List.append_nil] at next
      exact ih next ((closed_step pool step).2 (Or.inl closed))

theorem exists_accounts_of_open (accounts : pool.Accounts workers retries accepted sessions)
    (opened : pool.channel.closed = false) {steps : List Step} (stays : .shutdown ∉ steps) :
    ∃ later, (pool.run steps).Accounts workers retries (accepted ++ handedOver steps) later := by
  induction steps generalizing pool sessions accepted with
  | nil =>
      refine ⟨sessions, ?_⟩
      rw [handedOver, List.filterMap_nil, List.append_nil]
      exact accounts
  | cons step rest ih =>
      obtain ⟨later, next⟩ := accounts.step step
      have stillOpen : (pool.step step).channel.closed = false := by
        rw [← Bool.not_eq_true, closed_step, opened]
        rintro (isClosed | rfl)
        · cases isClosed
        · exact stays (List.mem_cons_self ..)
      obtain ⟨last, done⟩ := ih next stillOpen fun inRest => stays (List.mem_cons_of_mem _ inRest)
      refine ⟨last, ?_⟩
      rw [accepts_of_open opened, List.append_assoc, handedOver, handedOver,
        ← List.filterMap_append] at done
      exact done

theorem accounts_start (workers retries : Nat) :
    (Pool.mk { retries, workers := List.replicate workers .idle } [] []).Accounts workers retries
      [] [] := by
  refine ⟨List.length_replicate .., rfl, rfl, rfl, fun _ => rfl, ?_, ?_, rfl, rfl, ?_⟩
  · intro session member
    cases member
  · intro worker state isState
    obtain rfl := List.eq_of_mem_replicate (List.mem_of_getElem? isState)
    intro session member
    cases member
  · intro worker member
    cases member

/-! ## Progress -/

/-- A bound on the steps that are left until no job waits and no worker is busy. -/
def rank (pool : Pool) : Nat :=
  2 * pool.channel.waiting.length + pool.channel.workers.countP Worker.isBusy

theorem rank_attempt {worker failures : Nat} {job : IndexJob}
    (busy : pool.channel.workers[worker]? = some (.busy job failures)) :
    (pool.step (.attempt worker (.ok ()))).rank < pool.rank := by
  obtain ⟨inRange, isBusy⟩ := List.getElem?_eq_some_iff.1 busy
  have counted : 0 < pool.channel.workers.countP Worker.isBusy :=
    List.countP_pos_iff.2 ⟨_, List.mem_of_getElem? busy, rfl⟩
  have after : (pool.step (.attempt worker (.ok ()))).rank = 2 * pool.channel.waiting.length +
      (pool.channel.workers.set worker .idle).countP Worker.isBusy := by
    simp only [rank, Pool.step, busy, Channel.attempt, Channel.finish]
  have fewer : (pool.channel.workers.set worker .idle).countP Worker.isBusy =
      pool.channel.workers.countP Worker.isBusy - 1 := by
    rw [List.countP_set inRange, isBusy]
    rfl
  rw [after, fewer, rank]
  omega

theorem rank_take {worker : Nat} {job : IndexJob} {rest : List IndexJob}
    (idle : pool.channel.workers[worker]? = some .idle)
    (waits : pool.channel.waiting = job :: rest) (here : worker ∉ pool.ended) :
    (pool.step (.take worker)).rank < pool.rank := by
  obtain ⟨inRange, isIdle⟩ := List.getElem?_eq_some_iff.1 idle
  have after : (pool.step (.take worker)).rank = 2 * rest.length +
      (pool.channel.workers.set worker (.busy job 0)).countP Worker.isBusy := by
    simp only [rank, Pool.step, idle, waits, here, if_false, Channel.take]
  have more : (pool.channel.workers.set worker (.busy job 0)).countP Worker.isBusy =
      pool.channel.workers.countP Worker.isBusy + 1 := by
    rw [List.countP_set inRange, isIdle]
    rfl
  rw [after, more, rank, waits, List.length_cons]
  omega

theorem ended_run_leave (closed : pool.channel.closed = true) (drained : pool.channel.waiting = [])
    {leaving : List Nat}
    (idle : ∀ worker ∈ leaving, pool.channel.workers[worker]? = some .idle) :
    (pool.run (leaving.map .leave)).channel = pool.channel ∧
      ∀ worker, worker ∈ leaving ∨ worker ∈ pool.ended →
        worker ∈ (pool.run (leaving.map .leave)).ended := by
  induction leaving generalizing pool with
  | nil => exact ⟨rfl, fun worker member => member.resolve_left List.not_mem_nil⟩
  | cons worker rest ih =>
      have left : pool.step (.leave worker) = { pool with ended := worker :: pool.ended } :=
        if_pos ⟨idle worker (List.mem_cons_self ..), closed, drained⟩
      obtain ⟨same, ended⟩ :=
        @ih { pool with ended := worker :: pool.ended } closed drained
          fun other inRest => idle other (List.mem_cons_of_mem _ inRest)
      have runs : pool.run ((worker :: rest).map .leave) =
          { pool with ended := worker :: pool.ended }.run (rest.map .leave) := by
        rw [← left]
        rfl
      rw [runs]
      refine ⟨same, fun other member => ended other ?_⟩
      simpa [or_assoc, or_comm, or_left_comm] using member

/-- Once a pool is closed, its workers can go on until the shutdown returns. -/
theorem Accounts.exists_shutDown (accounts : pool.Accounts workers retries accepted sessions)
    (manned : workers ≠ 0) (closed : pool.channel.closed = true) :
    ∃ steps, (pool.run steps).ShutDown := by
  induction bound : pool.rank using Nat.strongRecOn generalizing pool sessions with
  | ind rank ih =>
    subst bound
    by_cases allIdle : ∀ state ∈ pool.channel.workers, state = .idle
    · cases waits : pool.channel.waiting with
      | nil =>
          have idle : ∀ worker ∈ List.range workers,
              pool.channel.workers[worker]? = some .idle := by
            intro worker inPool
            have inRange : worker < pool.channel.workers.length :=
              accounts.manned.symm ▸ List.mem_range.1 inPool
            rw [List.getElem?_eq_getElem inRange, allIdle _ (List.getElem_mem inRange)]
          obtain ⟨same, ended⟩ := ended_run_leave closed waits idle
          refine ⟨(List.range workers).map .leave, ?_, ?_⟩
          · rw [same]
            exact closed
          · intro worker inRange
            rw [same, accounts.manned] at inRange
            exact ended worker (Or.inl (List.mem_range.2 inRange))
      | cons job rest =>
          have inRange : 0 < pool.channel.workers.length := by
            rw [accounts.manned]
            exact Nat.pos_of_ne_zero manned
          have idle : pool.channel.workers[0]? = some .idle := by
            rw [List.getElem?_eq_getElem inRange, allIdle _ (List.getElem_mem inRange)]
          have here : 0 ∉ pool.ended := by
            intro member
            have drained := (accounts.ended 0 member).2.1
            rw [waits] at drained
            cases drained
          obtain ⟨later, next⟩ := accounts.take 0
          obtain ⟨steps, returned⟩ := ih _ (rank_take idle waits here) next
            ((closed_step pool _).2 (Or.inl closed)) rfl
          exact ⟨.take 0 :: steps, returned⟩
    · obtain ⟨state, member, notIdle⟩ : ∃ state ∈ pool.channel.workers, state ≠ .idle := by
        simpa using allIdle
      obtain ⟨worker, isState⟩ := List.getElem?_of_mem member
      cases state with
      | idle => exact absurd rfl notIdle
      | busy job failures =>
          obtain ⟨later, next⟩ := accounts.attempt worker (.ok ())
          obtain ⟨steps, returned⟩ := ih _ (rank_attempt isState) next
            ((closed_step pool _).2 (Or.inl closed)) rfl
          exact ⟨.attempt worker (.ok ()) :: steps, returned⟩

theorem exists_shutDown {channel : Channel} (started : Channel.start workers retries = .ok channel)
    {before : List Step} (first : .shutdown ∉ before) :
    ∃ after, ((Pool.mk channel [] []).run (before ++ .shutdown :: after)).ShutDown := by
  obtain ⟨manned, rfl⟩ := Channel.start_eq_ok started
  obtain ⟨handed, atShutdown⟩ := exists_accounts_of_open (accounts_start workers retries) rfl first
  obtain ⟨after, returned⟩ := atShutdown.shutdown.exists_shutDown manned rfl
  refine ⟨after, ?_⟩
  rw [run, List.foldl_append]
  exact returned

/-! ## Accounts of a shutdown -/

/-- When a shutdown has returned, each job that was handed over before it has had a session of its
own, and no other job has had any.  Every worker has done just its sessions, one after the other,
every session went on until it succeeded or no attempt was left, and the counters tell how many of
them succeeded and how many there were. -/
theorem jobs_accounted_for {workers retries : Nat} {channel : Channel}
    (started : Channel.start workers retries = .ok channel) (before after : List Step)
    (first : .shutdown ∉ before)
    (returned : ((Pool.mk channel [] []).run (before ++ .shutdown :: after)).ShutDown) :
    let pool := (Pool.mk channel [] []).run (before ++ .shutdown :: after)
    ∃ sessions : List Session,
      sessions.map Session.job = handedOver before ∧
      (pool.history.filterMap Deed.taken? =
        sessions.map fun session => (session.worker, session.job)) ∧
      (∀ worker, (pool.history.filter fun deed => deed.worker = worker) =
        (ownedBy worker sessions).flatMap Session.deeds) ∧
      (∀ session ∈ sessions, session.worker < workers ∧ session.Thorough retries) ∧
      pool.channel.completed = sessions.countP Session.succeeded ∧
      pool.channel.completed + pool.channel.failed = (handedOver before).length := by
  intro pool
  obtain ⟨manned, rfl⟩ := Channel.start_eq_ok started
  obtain ⟨handed, atShutdown⟩ := exists_accounts_of_open (accounts_start workers retries) rfl first
  obtain ⟨sessions, accounts⟩ := exists_accounts_of_closed atShutdown.shutdown rfl after
  have same : (((Pool.mk { retries, workers := List.replicate workers .idle } [] []).run before).step
      .shutdown).run after = pool := by
    simp only [pool, run, List.foldl_append, List.foldl_cons]
  rw [same, List.nil_append] at accounts
  have hasEnded : ∀ worker, worker < workers → worker ∈ pool.ended := by
    intro worker inPool
    rw [← accounts.manned] at inPool
    exact returned.2 worker inPool
  have drained : pool.channel.waiting = [] :=
    (accounts.ended 0 (hasEnded 0 (Nat.pos_of_ne_zero manned))).2.1
  have thorough : ∀ session ∈ sessions, session.Thorough retries := by
    intro session member
    have inPool := accounts.inPool session member
    have idle := (accounts.ended session.worker (hasEnded session.worker inPool)).2.2
    exact accounts.stands session.worker .idle idle session
      (List.mem_filter.2 ⟨member, decide_eq_true rfl⟩)
  have jobs := accounts.jobs
  rw [drained, List.append_nil] at jobs
  have gaveUp : sessions.countP (Session.gaveUp retries) =
      sessions.countP fun session => !session.succeeded := by
    refine List.countP_congr fun session member => ?_
    rw [(thorough session member).gaveUp_eq]
  refine ⟨sessions, jobs, accounts.taken, accounts.deeds, ?_, accounts.completed, ?_⟩
  · intro session member
    exact ⟨accounts.inPool session member, thorough session member⟩
  · rw [accounts.completed, accounts.failed, gaveUp, ← jobs, List.length_map]
    simp [List.length_eq_countP_add_countP Session.succeeded]

/-- One job is given up after two attempts, another one is done meanwhile, and a third one comes
too late. -/
theorem library_jobs_accounted_for :
    let failure : Except SearchError Unit := .error (.backendUnavailable "offline")
    let before : List Step :=
      [.enqueue (.deindex ⟨Library.book, 1⟩), .take 1, .enqueue (.deindex ⟨Library.book, 2⟩),
        .attempt 1 failure]
    let after : List Step :=
      [.take 0, .enqueue (.deindex ⟨Library.book, 3⟩), .attempt 0 (.ok ()), .leave 0,
        .attempt 1 failure, .leave 1]
    ∃ channel, Channel.start 2 1 = .ok channel ∧
      let pool := (Pool.mk channel [] []).run (before ++ .shutdown :: after)
      pool.ShutDown ∧ pool.channel.completed = 1 ∧
        pool.channel.completed + pool.channel.failed = (handedOver before).length := by
  intro failure before after
  have started : Channel.start 2 1 = .ok { retries := 1, workers := [.idle, .idle] } := rfl
  have first : Step.shutdown ∉ before := by simp [before]
  obtain ⟨sessions, -, -, -, -, -, counted⟩ :=
    jobs_accounted_for started before after first (by decide)
  exact ⟨_, started, by decide, by decide, counted⟩

end Pool
end EntitySearch
