import HttpContract.Run.Pool

/-! Runs of a worker pool under every schedule. A run is any sequence of moves of any workers; what
it keeps is that each number drawn so far is in one place only: with a worker, in the channel, or
with a worker that left because there is no task with it. -/
namespace HttpContract

namespace Worker

variable {β : Type}

def drawn : Worker β → List Nat
  | idle | exited => []
  | holding index | finished index _ => [index]

def result : Worker β → List (Nat × β)
  | finished index value => [(index, value)]
  | idle | holding _ | exited => []

def hasLeft : Worker β → Bool
  | exited => true
  | idle | holding _ | finished _ _ => false

end Worker

namespace Pool

variable {α β : Type} {execute : α → β} {tasks : List α}

/-- One move of one worker, with the workers before and after it left alone. -/
inductive Step (execute : α → β) (tasks : List α) : Pool β → PoolMove → Pool β → Prop
  | fetch (next before after sent) :
    Step execute tasks ⟨next, before ++ .idle :: after, sent⟩ (.fetch next)
      ⟨next + 1, before ++ .holding next :: after, sent⟩
  | execute (next before after sent) {index task} (held : tasks[index]? = some task) :
    Step execute tasks ⟨next, before ++ .holding index :: after, sent⟩ (.execute index)
      ⟨next, before ++ .finished index (execute task) :: after, sent⟩
  | send (next before after sent index value) :
    Step execute tasks ⟨next, before ++ .finished index value :: after, sent⟩ (.send index)
      ⟨next, before ++ .idle :: after, sent ++ [(index, value)]⟩
  | exit (next before after sent) {index} (none_left : tasks.length ≤ index) :
    Step execute tasks ⟨next, before ++ .holding index :: after, sent⟩ .exit
      ⟨next, before ++ .exited :: after, sent⟩

/-- Moves one after another, in any interleaving of the workers. -/
inductive Exec (execute : α → β) (tasks : List α) : Pool β → List PoolMove → Pool β → Prop
  | refl (pool) : Exec execute tasks pool [] pool
  | succ {pool move next moves last} : Step execute tasks pool move next →
    Exec execute tasks next moves last → Exec execute tasks pool (move :: moves) last

/-- A place in a list cuts it in three, and a change there keeps the parts around it. -/
theorem exists_split {γ : Type} {items : List γ} {number : Nat} {old : γ}
    (h : items[number]? = some old) :
    ∃ before after, items = before ++ old :: after ∧
      ∀ new, items.set number new = before ++ new :: after := by
  obtain ⟨bound, rfl⟩ := List.getElem?_eq_some_iff.1 h
  have replaced : ∀ new, items.set number new =
      items.take number ++ new :: items.drop (number + 1) := by
    intro new
    rw [List.set_eq_take_append_cons_drop, if_pos bound]
  refine ⟨_, _, ?_, replaced⟩
  rw [← replaced, List.set_getElem_self]

theorem step_of_step? {pool next : Pool β} {number : Nat} {move : PoolMove}
    (h : pool.step? execute tasks number = some (move, next)) :
    Step execute tasks pool move next := by
  obtain ⟨drawn, workers, sent⟩ := pool
  obtain ⟨worker, held, moved⟩ := Option.bind_eq_some_iff.1 h
  obtain ⟨before, after, rfl, replaced⟩ := exists_split held
  cases worker with
  | idle =>
    simp only [move?, setWorker, replaced, Option.some.injEq, Prod.mk.injEq] at moved
    obtain ⟨rfl, rfl⟩ := moved
    exact .fetch ..
  | holding index =>
    cases found : tasks[index]? with
    | none =>
      simp only [move?, found, setWorker, replaced, Option.some.injEq, Prod.mk.injEq] at moved
      obtain ⟨rfl, rfl⟩ := moved
      exact .exit _ _ _ _ (List.getElem?_eq_none_iff.1 found)
    | some task =>
      simp only [move?, found, setWorker, replaced, Option.some.injEq, Prod.mk.injEq] at moved
      obtain ⟨rfl, rfl⟩ := moved
      exact .execute _ _ _ _ found
  | finished index value =>
    simp only [move?, setWorker, replaced, Option.some.injEq, Prod.mk.injEq] at moved
    obtain ⟨rfl, rfl⟩ := moved
    exact .send ..
  | exited => simp [move?] at moved

theorem step?_of_step {pool next : Pool β} {move : PoolMove}
    (h : Step execute tasks pool move next) :
    ∃ number, pool.step? execute tasks number = some (move, next) := by
  cases h with
  | fetch drawn before after sent => exact ⟨before.length, by simp [step?, move?, setWorker]⟩
  | execute drawn before after sent held =>
    exact ⟨before.length, by simp [step?, move?, setWorker, held]⟩
  | send drawn before after sent index value =>
    exact ⟨before.length, by simp [step?, move?, setWorker]⟩
  | exit drawn before after sent none_left =>
    exact ⟨before.length, by simp [step?, move?, setWorker, none_left]⟩

def executed (moves : List PoolMove) : List Nat :=
  moves.filterMap fun
    | .execute index => some index
    | _ => none

/-- The results that there are: those that were sent, and those that workers still have. -/
def results (pool : Pool β) : List (Nat × β) := pool.workers.flatMap Worker.result ++ pool.sent

/-- Each number drawn so far is in one place: with a worker, in the channel, or among the spare
ones, with which workers have left. -/
structure DrawnOnce (count : Nat) (pool : Pool β) (spare : List Nat) : Prop where
  once : (pool.workers.flatMap Worker.drawn ++ pool.sent.map Prod.fst ++ spare).Perm
    (List.range pool.next)
  beyond : ∀ index ∈ spare, count ≤ index
  gone : spare.length = pool.workers.countP Worker.hasLeft

@[simp] theorem drawnOnce_start (workers count : Nat) :
    DrawnOnce count (start workers count : Pool β) [] where
  once := by simp [start, Worker.drawn]
  beyond := by simp
  gone := by simp [start, Worker.hasLeft, List.countP_replicate]

theorem drawnOnce_step {pool next : Pool β} {move : PoolMove} {spare : List Nat}
    (h : DrawnOnce tasks.length pool spare) (hs : Step execute tasks pool move next) :
    ∃ spare, DrawnOnce tasks.length next spare := by
  obtain ⟨once, beyond, gone⟩ := h
  cases hs with
  -- The number drawn is the one that the counter leaves behind.
  | fetch drawn before after sent =>
    refine ⟨spare, ?_, beyond, by simpa [List.countP_cons, Worker.hasLeft] using gone⟩
    rw [List.perm_iff_count] at once ⊢
    intro number
    have := once number
    simp only [List.flatMap_append, List.flatMap_cons, Worker.drawn, List.count_append,
      List.range_succ, List.nil_append] at this ⊢
    omega
  | execute drawn before after sent held =>
    exact ⟨spare, by simpa [Worker.drawn] using once, beyond,
      by simpa [List.countP_cons, Worker.hasLeft] using gone⟩
  | send drawn before after sent index value =>
    refine ⟨spare, ?_, beyond, by simpa [List.countP_cons, Worker.hasLeft] using gone⟩
    rw [List.perm_iff_count] at once ⊢
    intro number
    have := once number
    simp only [List.flatMap_append, List.flatMap_cons, Worker.drawn, List.count_append,
      List.map_append, List.map_cons, List.map_nil, List.nil_append] at this ⊢
    omega
  -- A worker that leaves does so with a number behind all tasks, which nobody has from then on.
  | @exit drawn before after sent index none_left =>
    refine ⟨index :: spare, ?_, by simpa using ⟨none_left, beyond⟩, ?_⟩
    · rw [List.perm_iff_count] at once ⊢
      intro number
      have := once number
      simp only [List.flatMap_append, List.flatMap_cons, Worker.drawn, List.count_append,
        List.nil_append, List.count_cons, List.count_nil] at this ⊢
      omega
    · simp only [List.countP_append, List.countP_cons, Worker.hasLeft, List.length_cons,
        Bool.false_eq_true, if_false, if_true] at gone ⊢
      omega

/-- The executed tasks are those that there are results of, and each result is that of its
task. -/
structure Executed (execute : α → β) (tasks : List α) (moves : List PoolMove)
    (pool : Pool β) : Prop where
  each : (executed moves).Perm (pool.results.map Prod.fst)
  right : ∀ message ∈ pool.results, tasks[message.1]?.map execute = some message.2

@[simp] theorem executed_start (execute : α → β) (tasks : List α) (workers : Nat) :
    Executed execute tasks [] (start workers tasks.length : Pool β) where
  each := by simp [executed, results, start, Worker.result]
  right := by simp [results, start, Worker.result]

theorem executed_step {moves : List PoolMove} {pool next : Pool β} {move : PoolMove}
    (h : Executed execute tasks moves pool) (hs : Step execute tasks pool move next) :
    Executed execute tasks (moves ++ [move]) next := by
  obtain ⟨each, right⟩ := h
  cases hs with
  | fetch drawn before after sent =>
    exact ⟨by simpa [executed, results, Worker.result] using each,
      by simpa [results, Worker.result] using right⟩
  | @execute drawn before after sent index task held =>
    constructor
    · rw [List.perm_iff_count] at each ⊢
      intro number
      have := each number
      simp only [executed, results, List.filterMap_append, List.filterMap_cons, List.filterMap_nil,
        List.flatMap_append, List.flatMap_cons, Worker.result, List.map_append, List.map_cons,
        List.map_nil, List.nil_append, List.count_append] at this ⊢
      omega
    · intro message hm
      have hm : message = (index, execute task) ∨
          message ∈ results ⟨drawn, before ++ .holding index :: after, sent⟩ := by
        simp only [results, List.flatMap_append, List.flatMap_cons, Worker.result,
          List.mem_append, List.mem_singleton, List.nil_append] at hm ⊢
        grind
      obtain rfl | hm := hm
      · simp [held]
      · exact right message hm
  | send drawn before after sent index value =>
    have moved : (results ⟨drawn, before ++ .idle :: after, sent ++ [(index, value)]⟩).Perm
        (results ⟨drawn, before ++ .finished index value :: after, sent⟩) := by
      classical
      rw [List.perm_iff_count]
      intro message
      simp only [results, List.flatMap_append, List.flatMap_cons, Worker.result, List.nil_append,
        List.count_append]
      omega
    refine ⟨?_, fun message hm => right message (moved.mem_iff.1 hm)⟩
    simpa [executed] using each.trans (moved.map Prod.fst).symm
  | exit drawn before after sent none_left =>
    exact ⟨by simpa [executed, results, Worker.result] using each,
      by simpa [results, Worker.result] using right⟩

/-- A run keeps both, whatever the schedule. -/
theorem exec_kept {moves before : List PoolMove} {pool last : Pool β} {spare : List Nat}
    (hx : Exec execute tasks pool moves last) (hd : DrawnOnce tasks.length pool spare)
    (he : Executed execute tasks before pool) :
    (∃ spare, DrawnOnce tasks.length last spare) ∧
      Executed execute tasks (before ++ moves) last := by
  induction hx generalizing before spare with
  | refl => exact ⟨⟨spare, hd⟩, by simpa using he⟩
  | succ hs _ ih =>
    obtain ⟨spare', hd'⟩ := drawnOnce_step hd hs
    simpa using ih hd' (executed_step he hs)

theorem exec_length {moves : List PoolMove} {pool last : Pool β}
    (hx : Exec execute tasks pool moves last) : last.workers.length = pool.workers.length := by
  induction hx with
  | refl => rfl
  | succ hs _ ih => rw [ih]; cases hs <;> simp

theorem flatMap_exited {γ : Type} {workers : List (Worker β)} (f : Worker β → List γ)
    (hf : f .exited = []) (h : ∀ worker ∈ workers, worker = .exited) : workers.flatMap f = [] :=
  List.flatMap_eq_nil_iff.2 fun worker hw => h worker hw ▸ hf

end Pool
end HttpContract
