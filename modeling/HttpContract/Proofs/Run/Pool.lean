import HttpContract.Proofs.Run.Schedule
import Mathlib.Data.List.Nodup

/-! What a worker pool gives when all its workers have left: every task was executed once, the
channel holds the result of every task once, and the results come in the order of the tasks. -/
namespace HttpContract
namespace Pool

variable {α β : Type} {execute : α → β} {tasks : List α}

/-- The messages that a channel should hold: the result of each task with the number of the
task. -/
def messages (execute : α → β) (tasks : List α) : List (Nat × β) :=
  tasks.zipIdx.map fun (task, index) => (index, execute task)

@[simp] theorem mem_messages {message : Nat × β} :
    message ∈ messages execute tasks ↔ tasks[message.1]?.map execute = some message.2 := by
  obtain ⟨index, value⟩ := message
  simp only [messages, List.mem_map, Prod.exists, Prod.mk.injEq, List.mk_mem_zipIdx_iff_getElem?,
    Option.map_eq_some_iff]
  grind

@[simp] theorem map_fst_messages : (messages execute tasks).map Prod.fst =
    List.range tasks.length := by
  simp [messages, Function.comp_def, List.zipIdx_map_snd, List.range_eq_range']

/-- When all workers have left, every number below the count of tasks was sent once, and no
other. -/
theorem DrawnOnce.sent_perm {pool : Pool β} {count : Nat} {spare : List Nat}
    (h : DrawnOnce count pool spare) (hn : pool.workers ≠ [])
    (ended : ∀ worker ∈ pool.workers, worker = .exited)
    (bound : ∀ message ∈ pool.sent, message.1 < count) :
    (pool.sent.map Prod.fst).Perm (List.range count) := by
  obtain ⟨once, beyond, gone⟩ := h
  rw [flatMap_exited _ rfl ended, List.nil_append] at once
  -- A worker has left, so a number behind all tasks was drawn.
  have left : spare.length ≠ 0 := by
    obtain ⟨worker, others, h⟩ := List.exists_cons_of_ne_nil hn
    rw [gone, h, List.countP_cons, ended worker (by simp [h])]
    simp [Worker.hasLeft]
  obtain ⟨index, hi⟩ := List.exists_mem_of_length_pos (Nat.pos_of_ne_zero left)
  have passed : count < pool.next := by
    have drawn := once.mem_iff.1 (List.mem_append_right _ hi)
    have := beyond index hi
    simp only [List.mem_range] at drawn
    omega
  have nodup := once.nodup_iff.2 List.nodup_range
  rw [List.perm_ext_iff_of_nodup (List.nodup_append.1 nodup).1 List.nodup_range]
  intro number
  constructor
  · intro h
    obtain ⟨message, hm, rfl⟩ := List.mem_map.1 h
    exact List.mem_range.2 (bound message hm)
  · intro h
    have hl := List.mem_range.1 h
    have drawn := once.mem_iff.2 (List.mem_range.2 (Nat.lt_trans hl passed))
    refine (List.mem_append.1 drawn).resolve_right fun hs => ?_
    have := beyond number hs
    omega

theorem perm_messages {sent : List (Nat × β)}
    (numbers : (sent.map Prod.fst).Perm (List.range tasks.length))
    (right : ∀ message ∈ sent, tasks[message.1]?.map execute = some message.2) :
    sent.Perm (messages execute tasks) := by
  have nodup : sent.Nodup := (numbers.nodup_iff.2 List.nodup_range).of_map _
  have nodup' : (messages execute tasks).Nodup :=
    List.Nodup.of_map Prod.fst (by simpa using List.nodup_range)
  rw [List.perm_ext_iff_of_nodup nodup nodup']
  intro message
  rw [mem_messages]
  refine ⟨right message, fun h => ?_⟩
  have bound : message.1 ∈ List.range tasks.length := by
    obtain ⟨task, found, -⟩ := Option.map_eq_some_iff.1 h
    exact List.mem_range.2 (List.getElem?_eq_some_iff.1 found).1
  obtain ⟨other, ho, he⟩ := List.mem_map.1 (numbers.mem_iff.2 bound)
  have same : other = message := by
    have := right other ho
    rw [he, h] at this
    exact Prod.ext he (Option.some.inj this).symm
  exact same ▸ ho

/-- Filling the slots: a slot that is right stays so, and one with a message becomes right. -/
theorem getElem?_fill {sent : List (Nat × β)} {slots : List (Option β)} {index : Nat}
    (hl : slots.length = tasks.length)
    (right : ∀ message ∈ sent, tasks[message.1]?.map execute = some message.2)
    (h : index ∈ sent.map Prod.fst ∨ slots[index]? = tasks[index]?.map (some ∘ execute)) :
    (sent.foldl (fun slots (index, result) => slots.set index (some result)) slots)[index]? =
      tasks[index]?.map (some ∘ execute) := by
  induction sent generalizing slots with
  | nil => simpa using h
  | cons message sent ih =>
    refine ih (by simpa using hl) (fun other ho => right other (by simp [ho])) ?_
    by_cases he : message.1 = index
    · right
      obtain ⟨task, found, told⟩ := Option.map_eq_some_iff.1 (right message (by simp))
      have bound : message.1 < slots.length := hl ▸ (List.getElem?_eq_some_iff.1 found).1
      rw [← he, List.getElem?_set_self bound, found, Option.map_some, Function.comp_apply, told]
    · simpa [he, Ne.symm he] using h

@[simp] theorem mapM_full (results : List β) (first : Nat) :
    ((results.map some).zipIdx first).mapM (fun (slot, index) =>
      (slot.elim (.error index) .ok : Except Nat β)) = .ok results := by
  induction results generalizing first with
  | nil => rfl
  | cons result results ih =>
    simp only [List.map_cons, List.zipIdx_cons, List.mapM_cons, Option.elim_some, ih]
    rfl

/-- The messages of all tasks give the results in the order of the tasks, in whatever order they
are received. -/
theorem collect_eq_ok {received : List (Nat × β)}
    (h : received.Perm (messages execute tasks)) :
    collect tasks.length received = .ok (tasks.map execute) := by
  have filled : received.foldl (fun slots (index, result) => slots.set index (some result))
      (List.replicate tasks.length none) = (tasks.map execute).map some := by
    refine List.ext_getElem? fun index => ?_
    rw [List.map_map, List.getElem?_map]
    refine getElem?_fill (by simp) (fun message hm => mem_messages.1 (h.mem_iff.1 hm)) ?_
    by_cases bound : index < tasks.length
    · left
      rw [(h.map Prod.fst).mem_iff, map_fst_messages]
      exact List.mem_range.2 bound
    · right
      rw [List.getElem?_eq_none (by simpa using bound), List.getElem?_eq_none (by omega)]
      rfl
  rw [collect, filled]
  exact mapM_full _ 0

@[simp] theorem start_workers_ne_nil (workers tasks : Nat) :
    (start workers tasks : Pool β).workers ≠ [] := by
  simp only [start, ne_eq, List.replicate_eq_nil_iff]
  omega

theorem sent_perm_messages {workers : Nat} {moves : List PoolMove} {pool : Pool β}
    (run : Exec execute tasks (start workers tasks.length) moves pool)
    (ended : ∀ worker ∈ pool.workers, worker = .exited) :
    pool.sent.Perm (messages execute tasks) ∧
      (executed moves).Perm (List.range tasks.length) := by
  obtain ⟨⟨spare, drawn⟩, each, right⟩ :=
    exec_kept run (drawnOnce_start workers _) (executed_start execute tasks workers)
  have sent : pool.results = pool.sent := by
    rw [results, flatMap_exited _ rfl ended, List.nil_append]
  rw [sent] at each right
  have remain : pool.workers ≠ [] := by
    have same := exec_length run
    have := start_workers_ne_nil (β := β) workers tasks.length
    rw [← List.length_pos_iff] at this ⊢
    omega
  have numbers := drawn.sent_perm remain ended fun message hm => by
    obtain ⟨task, found, -⟩ := Option.map_eq_some_iff.1 (right message hm)
    exact (List.getElem?_eq_some_iff.1 found).1
  exact ⟨perm_messages numbers right, each.trans numbers⟩

theorem exists_step (execute : α → β) (tasks : List α) {pool : Pool β} {worker : Worker β}
    (hw : worker ∈ pool.workers) (h : worker ≠ .exited) :
    ∃ move next, Step execute tasks pool move next := by
  obtain ⟨drawn, workers, sent⟩ := pool
  obtain ⟨before, after, rfl⟩ := List.append_of_mem hw
  cases worker with
  | idle => exact ⟨_, _, .fetch ..⟩
  | holding index =>
    cases found : tasks[index]? with
    | none => exact ⟨_, _, .exit _ _ _ _ (List.getElem?_eq_none_iff.1 found)⟩
    | some task => exact ⟨_, _, .execute _ _ _ _ found⟩
  | finished index value => exact ⟨_, _, .send ..⟩
  | exited => exact absurd rfl h

theorem step_of_firstStep? {pool next : Pool β} {move : PoolMove}
    (h : pool.firstStep? execute tasks = some (move, next)) :
    Step execute tasks pool move next := by
  obtain ⟨number, -, stepped⟩ := List.exists_of_findSome?_eq_some h
  exact step_of_step? stepped

theorem exited_of_firstStep?_eq_none {pool : Pool β} (h : pool.firstStep? execute tasks = none) :
    ∀ worker ∈ pool.workers, worker = .exited := by
  intro worker hw
  by_contra remains
  obtain ⟨move, next, hs⟩ := exists_step execute tasks hw remains
  obtain ⟨number, stepped⟩ := step?_of_step hs
  have bound : number ∈ List.range pool.workers.length := by
    obtain ⟨worker, held, -⟩ := Option.bind_eq_some_iff.1 stepped
    exact List.mem_range.2 (List.getElem?_eq_some_iff.1 held).1
  rw [List.findSome?_eq_none_iff.1 h number bound] at stepped
  cases stepped

theorem exec_drain (execute : α → β) (tasks : List α) (pool : Pool β) :
    (∃ moves, Exec execute tasks pool moves (pool.drain execute tasks)) ∧
      ∀ worker ∈ (pool.drain execute tasks).workers, worker = .exited := by
  fun_induction drain execute tasks pool with
  | case1 pool h => exact ⟨⟨[], .refl pool⟩, exited_of_firstStep?_eq_none h⟩
  | case2 pool moved h _ ih =>
    obtain ⟨⟨moves, run⟩, ended⟩ := ih
    exact ⟨⟨_, .succ (step_of_firstStep? h) run⟩, ended⟩

theorem run_pool_eq_sequential (execute : α → β) (tasks : List α) (workers : Nat) :
    (Strategy.pool workers).run execute tasks = Strategy.sequential.run execute tasks := by
  obtain ⟨⟨moves, run⟩, ended⟩ := exec_drain execute tasks (start workers tasks.length)
  exact collect_eq_ok (sent_perm_messages run ended).1

/-- Whatever the schedule, a pool whose workers have all left has executed each task exactly once
and sent one message for each; received in any order, they give what the sequential strategy
gives. -/
theorem exec_refines_sequential (execute : α → β) (tasks : List α) (workers : Nat)
    {moves : List PoolMove} {pool : Pool β}
    (run : Exec execute tasks (start workers tasks.length) moves pool)
    (ended : ∀ worker ∈ pool.workers, worker = .exited) :
    (executed moves).Perm (List.range tasks.length) ∧
    pool.sent.Perm (messages execute tasks) ∧
    ∀ received, received.Perm pool.sent →
      (∀ message ∈ received, message.1 < tasks.length) ∧
      collect tasks.length received = .ok (tasks.map execute) ∧
      Strategy.sequential.run execute tasks = .ok (tasks.map execute) := by
  obtain ⟨all, each⟩ := sent_perm_messages run ended
  refine ⟨each, all, fun received hr => ⟨fun message hm => ?_, collect_eq_ok (hr.trans all), rfl⟩⟩
  have told := mem_messages.1 ((hr.trans all).mem_iff.1 hm)
  obtain ⟨task, found, -⟩ := Option.map_eq_some_iff.1 told
  exact (List.getElem?_eq_some_iff.1 found).1

/-- More workers than tasks: the worker that starts second sends first. -/
theorem exec_refines_sequential_overtaking :
    let execute : Nat → Nat := fun task => task * 10
    let moves := [.fetch 0, .fetch 1, .execute 1, .send 1, .fetch 2, .execute 0, .exit, .send 0,
      .fetch 3, .exit]
    let pool : Pool Nat := ⟨4, [.exited, .exited], [(1, 60), (0, 50)]⟩
    Exec execute [5, 6] (start 5 2) moves pool ∧
    (∀ worker ∈ pool.workers, worker = .exited) ∧
    (executed moves).Perm [0, 1] ∧ pool.sent.Perm (messages execute [5, 6]) ∧
    collect 2 pool.sent = .ok [50, 60] := by
  intro execute moves pool
  have run : Exec execute [5, 6] (start 5 [5, 6].length) moves pool :=
    .succ (.fetch 0 [.idle] [] []) <|
    .succ (.fetch 1 [] [.holding 0] []) <|
    .succ (.execute 2 [] [.holding 0] [] rfl) <|
    .succ (.send 2 [] [.holding 0] [] 1 60) <|
    .succ (.fetch 2 [] [.holding 0] [(1, 60)]) <|
    .succ (.execute 3 [.holding 2] [] [(1, 60)] rfl) <|
    .succ (.exit 3 [] [.finished 0 50] [(1, 60)] (Nat.le_refl 2)) <|
    .succ (.send 3 [.exited] [] [(1, 60)] 0 50) <|
    .succ (.fetch 3 [.exited] [] [(1, 60), (0, 50)]) <|
    .succ (.exit 4 [.exited] [] [(1, 60), (0, 50)] (by decide)) (.refl _)
  have ended : ∀ worker ∈ pool.workers, worker = .exited := by simp [pool]
  obtain ⟨each, all, told⟩ := exec_refines_sequential execute [5, 6] 5 run ended
  exact ⟨run, ended, each, all, (told _ (.refl _)).2.1⟩

end Pool
end HttpContract
