/-! A pool of workers that take tasks from one list, each at its own pace. `step?` says what one
move of one worker does; `drain` runs a pool to its end, and `collect` puts the results in order. A
run has a pool, or goes through its tasks one after another. -/
namespace HttpContract

/-- What a worker is at: nothing, a task, a task with its result, or nothing any more. -/
inductive Worker (β : Type) where
  | idle
  | holding (index : Nat)
  | finished (index : Nat) (result : β)
  | exited
  deriving Inhabited

inductive PoolMove where
  | fetch (index : Nat)
  | execute (index : Nat)
  | send (index : Nat)
  | exit
  deriving DecidableEq, Inhabited

/-- The number of the next task, the workers, and the results that were sent, with the numbers of
their tasks. -/
structure Pool (β : Type) where
  next : Nat := 0
  workers : List (Worker β)
  sent : List (Nat × β) := []

namespace Pool

variable {α β : Type}

/-- As many idle workers as asked for: at least one, and no more than there are tasks. -/
def start (workers tasks : Nat) : Pool β :=
  { workers := List.replicate (min (max workers 1) (max tasks 1)) .idle }

def setWorker (pool : Pool β) (number : Nat) (worker : Worker β) : Pool β :=
  { pool with workers := pool.workers.set number worker }

/-- The move of a worker. An idle one takes the next number, whether or not there is a task with
it; one that finds no task leaves. -/
def move? (execute : α → β) (tasks : List α) (pool : Pool β) (number : Nat) :
    Worker β → Option (PoolMove × Pool β)
  | .idle =>
    some (.fetch pool.next,
      { pool with next := pool.next + 1 }.setWorker number (.holding pool.next))
  | .holding index =>
    match tasks[index]? with
    | none => some (.exit, pool.setWorker number .exited)
    | some task => some (.execute index, pool.setWorker number (.finished index (execute task)))
  | .finished index result =>
    some (.send index,
      { pool with sent := pool.sent ++ [(index, result)] }.setWorker number .idle)
  | .exited => none

def step? (execute : α → β) (tasks : List α) (pool : Pool β) (number : Nat) :
    Option (PoolMove × Pool β) :=
  pool.workers[number]?.bind (pool.move? execute tasks number)

/-- How far a worker is from leaving, if it gets no more tasks. -/
def weight (count : Nat) : Worker β → Nat
  | .idle => 2
  | .holding index => if index < count then 4 else 1
  | .finished _ _ => 3
  | .exited => 0

def totalWeight (count : Nat) : List (Worker β) → Nat
  | [] => 0
  | worker :: workers => weight count worker + totalWeight count workers

/-- Bounds the moves that a pool has left. -/
def movesLeft (count : Nat) (pool : Pool β) : Nat :=
  4 * (count - pool.next) + totalWeight count pool.workers

theorem totalWeight_set (count : Nat) (workers : List (Worker β)) (number : Nat)
    (old new : Worker β) (h : workers[number]? = some old) :
    totalWeight count (workers.set number new) + weight count old =
      totalWeight count workers + weight count new := by
  induction workers generalizing number with
  | nil => simp at h
  | cons worker workers ih =>
    cases number with
    | zero =>
      simp only [List.getElem?_cons_zero, Option.some.injEq] at h
      simp only [List.set_cons_zero, totalWeight, h]
      omega
    | succ number =>
      have := ih number (by simpa using h)
      simp only [List.set_cons_succ, totalWeight]
      omega

theorem movesLeft_step (execute : α → β) (tasks : List α) (pool : Pool β) (number : Nat)
    (moved : PoolMove × Pool β) (h : pool.step? execute tasks number = some moved) :
    moved.2.movesLeft tasks.length < pool.movesLeft tasks.length := by
  obtain ⟨worker, held, moved_eq⟩ := Option.bind_eq_some_iff.1 h
  cases worker with
  | idle =>
    have := totalWeight_set tasks.length pool.workers number .idle (.holding pool.next) held
    simp only [move?, Option.some.injEq] at moved_eq
    subst moved_eq
    simp only [weight] at this
    simp only [movesLeft, setWorker]
    split at this <;> omega
  | holding index =>
    simp only [move?] at moved_eq
    split at moved_eq <;> rename_i found <;> simp only [Option.some.injEq] at moved_eq <;>
      subst moved_eq
    · have := totalWeight_set tasks.length pool.workers number _ .exited held
      simp only [weight] at this
      simp only [movesLeft, setWorker]
      split at this <;> omega
    · rename_i task
      have bound : index < tasks.length := (List.getElem?_eq_some_iff.1 found).1
      have := totalWeight_set tasks.length pool.workers number _
        (.finished index (execute task)) held
      simp only [weight, bound, if_true] at this
      simp only [movesLeft, setWorker]
      omega
  | finished index result =>
    have := totalWeight_set tasks.length pool.workers number _ .idle held
    simp only [move?, Option.some.injEq] at moved_eq
    subst moved_eq
    simp only [weight] at this
    simp only [movesLeft, setWorker]
    omega
  | exited => simp [move?] at moved_eq

def firstStep? (execute : α → β) (tasks : List α) (pool : Pool β) : Option (PoolMove × Pool β) :=
  (List.range pool.workers.length).findSome? (pool.step? execute tasks)

theorem movesLeft_firstStep (execute : α → β) (tasks : List α) (pool : Pool β)
    (moved : PoolMove × Pool β) (h : pool.firstStep? execute tasks = some moved) :
    moved.2.movesLeft tasks.length < pool.movesLeft tasks.length := by
  obtain ⟨number, _, stepped⟩ := List.exists_of_findSome?_eq_some h
  exact movesLeft_step execute tasks pool number moved stepped

def drain (execute : α → β) (tasks : List α) (pool : Pool β) : Pool β :=
  match h : pool.firstStep? execute tasks with
  | none => pool
  | some moved =>
    have := movesLeft_firstStep execute tasks pool moved h
    drain execute tasks moved.2
termination_by pool.movesLeft tasks.length

/-- The results in the order of their tasks. A task without a result is an error, given by its
number. -/
def collect (count : Nat) (sent : List (Nat × β)) : Except Nat (List β) :=
  let slots := sent.foldl (fun slots (index, result) => slots.set index (some result))
    (List.replicate count none)
  slots.zipIdx.mapM fun (slot, index) => slot.elim (.error index) .ok

end Pool

/-- How the cases of a run are executed: one after another, or by a pool of workers. -/
inductive Strategy where
  | sequential
  | pool (workers : Nat)
  deriving DecidableEq, Inhabited

namespace Strategy

variable {α β : Type}

/-- The results of all tasks in the order of the tasks. A task whose result got lost is an error,
given by its number. -/
def run (strategy : Strategy) (execute : α → β) (tasks : List α) : Except Nat (List β) :=
  match strategy with
  | sequential => .ok (tasks.map execute)
  | pool workers =>
    Pool.collect tasks.length ((Pool.start workers tasks.length).drain execute tasks).sent

end Strategy
end HttpContract
