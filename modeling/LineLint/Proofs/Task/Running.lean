import LineLint.Program
import LineLint.Proofs.Lists

/-!
# Running the tasks of folders

The tasks of a list of folders are started in the order of the folders, each once, up to the first
that cannot be started. That one is then the error; else it is an error if any has failed, with the
number of those that have.

How tasks are started is left open, and what comes of a task may depend on all that was done before:
the surroundings act on a world of any type. What the program does is written down beside it.

* `outcomesFrom`, `worldAfter` — what comes of starting tasks one after the other, all of them.
* `Deed`, `Surroundings.recorded` — surroundings that write down what the program does.
* `Erases` — an action that does the same as another one, and writes it down.
* `RunsInOrder` — what running the tasks of folders does and answers.

Results:

* `run_countFailures_append`: tasks that can be started are counted and passed.
* `run_runTasks_stopped`, `run_runTasks_completed`: a run that ends at a task, or with the last.
* `erases_tasksCommand`: what is written down changes nothing.
* `worldAfter_recorded`: what is written down of tasks that are all started.
* `runsInOrder`, `tasks_run_in_order`: running the tasks of folders.
* `outcomesFrom_dealing`: tasks may have any outcomes.
-/

namespace LineLint

variable {σ α β : Type}

/-! ## Starting tasks -/

section

variable {start : Task → StateM σ TaskOutcome} {w w' : σ} {task : Task} {tasks more : List Task}
  {outcome : TaskOutcome} {fault : StartFault}

/-- The outcomes of tasks if all of them are started, one after the other, also those after one that
cannot be started. -/
def outcomesFrom (start : Task → StateM σ TaskOutcome) (w : σ) (tasks : List Task) :
    List TaskOutcome :=
  ((tasks.mapM start).run w).1

/-- The world after all tasks are started, one after the other. -/
def worldAfter (start : Task → StateM σ TaskOutcome) (w : σ) (tasks : List Task) : σ :=
  ((tasks.mapM start).run w).2

/-- All tasks can be started. -/
def AllStart (outcomes : List TaskOutcome) : Prop := ∀ fault, .refused fault ∉ outcomes

@[simp]
theorem outcomesFrom_cons (start : Task → StateM σ TaskOutcome) (w : σ) (task : Task)
    (tasks : List Task) :
    outcomesFrom start w (task :: tasks) =
      ((start task).run w).1 :: outcomesFrom start ((start task).run w).2 tasks := by
  unfold outcomesFrom
  rw [List.mapM_cons]
  rfl

@[simp]
theorem worldAfter_cons (start : Task → StateM σ TaskOutcome) (w : σ) (task : Task)
    (tasks : List Task) :
    worldAfter start w (task :: tasks) = worldAfter start ((start task).run w).2 tasks := by
  unfold worldAfter
  rw [List.mapM_cons]
  rfl

@[simp]
theorem outcomesFrom_append (start : Task → StateM σ TaskOutcome) (w : σ) (tasks more : List Task) :
    outcomesFrom start w (tasks ++ more) =
      outcomesFrom start w tasks ++ outcomesFrom start (worldAfter start w tasks) more := by
  unfold outcomesFrom worldAfter
  rw [List.mapM_append]
  rfl

@[simp]
theorem worldAfter_append (start : Task → StateM σ TaskOutcome) (w : σ) (tasks more : List Task) :
    worldAfter start w (tasks ++ more) = worldAfter start (worldAfter start w tasks) more := by
  unfold worldAfter
  rw [List.mapM_append]
  rfl

@[simp]
theorem length_outcomesFrom (start : Task → StateM σ TaskOutcome) (w : σ) (tasks : List Task) :
    (outcomesFrom start w tasks).length = tasks.length := by
  induction tasks generalizing w with
  | nil => rfl
  | cons task tasks ih => simp [ih]

theorem outcomesFrom_take (start : Task → StateM σ TaskOutcome) (w : σ) (tasks : List Task)
    (k : ℕ) : outcomesFrom start w (tasks.take k) = (outcomesFrom start w tasks).take k := by
  induction tasks generalizing w k with
  | nil => rw [List.take_nil]; exact List.take_nil.symm
  | cons task tasks ih =>
    cases k with
    | zero => rfl
    | succ k => simp [ih]

theorem run_runTask_refused (h : (start task).run w = (.refused fault, w')) :
    (runTask start task).run w = (.error (.start task.name fault), w') := by
  rw [runTask, StateT.run_bind, h]
  rfl

theorem run_runTask_ended (h : (start task).run w = (outcome, w'))
    (ho : ∀ fault, outcome ≠ .refused fault) :
    (runTask start task).run w = (.ok (decide (outcome = .succeeded)), w') := by
  rw [runTask, StateT.run_bind, h]
  cases outcome with
  | succeeded => rfl
  | failed => rfl
  | refused fault => exact absurd rfl (ho fault)

/-- A task that cannot be started ends the run. -/
theorem run_countFailures_refused (h : (start task).run w = (.refused fault, w')) :
    (countFailures start (task :: more)).run w = (.error (.start task.name fault), w') := by
  rw [countFailures, StateT.run_bind, run_runTask_refused h]
  rfl

/-- A task that can be started is counted if it fails, and the run goes on. -/
theorem run_countFailures_ended (h : (start task).run w = (outcome, w'))
    (ho : ∀ fault, outcome ≠ .refused fault) :
    (countFailures start (task :: more)).run w =
      (((countFailures start more).run w').1.map (· + [outcome].count .failed),
        ((countFailures start more).run w').2) := by
  rw [countFailures, StateT.run_bind, run_runTask_ended h ho]
  show (countFailures start more >>= _ : StateM σ (Except CommandError ℕ)).run w' = _
  rw [StateT.run_bind]
  rcases (countFailures start more).run w' with ⟨answer, w''⟩
  cases answer with
  | error e => rfl
  | ok failed =>
    cases outcome with
    | succeeded => rfl
    | failed => rfl
    | refused fault => exact absurd rfl (ho fault)

theorem allStart_cons {outcomes : List TaskOutcome} :
    AllStart (outcome :: outcomes) ↔ (∀ fault, outcome ≠ .refused fault) ∧ AllStart outcomes := by
  unfold AllStart
  simp only [List.mem_cons, not_or, forall_and, ne_eq, eq_comm]

/-- Tasks that can be started are passed one by one, and those that fail are counted. -/
theorem run_countFailures_append (h : AllStart (outcomesFrom start w tasks)) :
    (countFailures start (tasks ++ more)).run w =
      (((countFailures start more).run (worldAfter start w tasks)).1.map
          (· + (outcomesFrom start w tasks).count .failed),
        ((countFailures start more).run (worldAfter start w tasks)).2) := by
  induction tasks generalizing w with
  | nil =>
    have hsame : worldAfter start w [] = w := rfl
    rw [List.nil_append, hsame]
    rcases (countFailures start more).run w with ⟨answer, w'⟩
    cases answer <;> rfl
  | cons task tasks ih =>
    -- the count of the first task comes on top of that of the others, from the world it leaves
    rw [outcomesFrom_cons, allStart_cons] at h
    rcases hfirst : (start task).run w with ⟨outcome, w'⟩
    rw [hfirst] at h
    have hsum : (outcome :: outcomesFrom start w' tasks).count .failed =
        (outcomesFrom start w' tasks).count .failed + [outcome].count .failed := by
      rw [← List.singleton_append, List.count_append, Nat.add_comm]
    rw [List.cons_append, run_countFailures_ended hfirst h.1, ih h.2, worldAfter_cons,
      outcomesFrom_cons, hfirst]
    dsimp only
    rw [hsum]
    rcases (countFailures start more).run (worldAfter start w' tasks) with ⟨answer, w''⟩
    cases answer with
    | error e => rfl
    | ok failed => exact Prod.ext (congrArg Except.ok (Nat.add_assoc _ _ _)) rfl

/-- A run that ends at a task that cannot be started: nothing is told of those that have failed, and
the tasks that follow are left out. -/
theorem run_runTasks_stopped {k : ℕ} (htask : tasks[k]? = some task)
    (hrefused : (outcomesFrom start w tasks)[k]? = some (.refused fault))
    (hstart : AllStart ((outcomesFrom start w tasks).take k)) :
    (runTasks start tasks).run w =
      (.error (.start task.name fault), worldAfter start w (tasks.take (k + 1))) := by
  -- the tasks before the one that cannot be started are passed, and it ends the run
  obtain ⟨before, more, rfl, rfl⟩ : ∃ before more, tasks = before ++ task :: more ∧
      before.length = k := by
    have hk := (List.getElem?_eq_some_iff.mp htask).1
    exact ⟨_, _, take_append_cons_drop htask, List.length_take_of_le (Nat.le_of_lt hk)⟩
  have hlength := length_outcomesFrom start w before
  rw [outcomesFrom_append, List.take_left' hlength] at hstart
  rw [outcomesFrom_append, outcomesFrom_cons, List.getElem?_append_right (by omega), hlength,
    Nat.sub_self] at hrefused
  rcases hlast : (start task).run (worldAfter start w before) with ⟨outcome, w'⟩
  rw [hlast] at hrefused
  obtain rfl : outcome = .refused fault := Option.some.inj hrefused
  have hworld : worldAfter start w ((before ++ task :: more).take (before.length + 1)) = w' := by
    rw [List.take_length_add_append, worldAfter_append]
    show worldAfter start _ [task] = w'
    rw [worldAfter_cons, hlast]
    rfl
  unfold runTasks
  rw [StateT.run_bind, run_countFailures_append hstart, run_countFailures_refused hlast, hworld]
  rfl

/-- A run in which all tasks can be started. -/
theorem run_runTasks_completed (h : AllStart (outcomesFrom start w tasks)) :
    (runTasks start tasks).run w =
      (if (outcomesFrom start w tasks).count .failed = 0 then .ok ()
        else .error (.someFailed ((outcomesFrom start w tasks).count .failed) tasks.length),
        worldAfter start w tasks) := by
  have hcount : (countFailures start tasks).run w =
      (.ok ((outcomesFrom start w tasks).count .failed), worldAfter start w tasks) := by
    have happend : (countFailures start (tasks ++ [])).run w = _ := run_countFailures_append h
    rw [List.append_nil] at happend
    rw [happend]
    exact Prod.ext (congrArg Except.ok (Nat.zero_add _)) rfl
  unfold runTasks
  rw [StateT.run_bind, hcount]
  cases (outcomesFrom start w tasks).count .failed <;> rfl

end

/-! ## What is written down -/

/-- Something that the program does. -/
inductive Deed where
  | printed (text : String)
  | noted (text : String)
  | started (execution : Execution) (outcome : TaskOutcome)
  deriving DecidableEq

/-- The directory in which a task was started. -/
def Deed.directory? : Deed → Option Bytes
  | started execution _ => some execution.cwd
  | _ => none

/-- The same action on a world beside which it is written down what is done. -/
def noting (action : StateM σ α) (deeds : α → List Deed) : StateM (σ × List Deed) α :=
  fun (w, past) => ((action.run w).1, (action.run w).2, past ++ deeds (action.run w).1)

/-- The same surroundings, with all written down that the program does. -/
def Surroundings.recorded (s : Surroundings (StateM σ)) :
    Surroundings (StateM (σ × List Deed)) where
  print text := noting (s.print text) fun _ => [.printed text]
  note text := noting (s.note text) fun _ => [.noted text]
  readInput := noting s.readInput fun _ => []
  currentDirectory := noting s.currentDirectory fun _ => []
  start execution := noting (s.start execution) fun outcome => [.started execution outcome]
  serve options := noting (s.serve options) fun _ => []

/-- An action does the same as another one, apart from what is written down. -/
def Erases (x : StateM (σ × List Deed) α) (y : StateM σ α) : Prop :=
  ∀ w past, ((x.run (w, past)).1, (x.run (w, past)).2.1) = y.run w

theorem Erases.pure (a : α) :
    Erases (Pure.pure a : StateM (σ × List Deed) α) (Pure.pure a) := fun _ _ => rfl

theorem Erases.bind {x : StateM (σ × List Deed) α} {y : StateM σ α}
    {f : α → StateM (σ × List Deed) β} {g : α → StateM σ β} (h : Erases x y)
    (hf : ∀ a, Erases (f a) (g a)) : Erases (x >>= f) (y >>= g) := by
  intro w past
  simp only [StateT.run_bind]
  rw [← h w past]
  exact hf _ _ _

theorem erases_noting (y : StateM σ α) (deeds : α → List Deed) : Erases (noting y deeds) y :=
  fun _ _ => rfl

section

variable (s : Surroundings (StateM σ))

theorem erases_startTask (task : Task) : Erases (s.recorded.startTask task) (s.startTask task) := by
  have hnote (text : String) : Erases (s.recorded.note text) (s.note text) := erases_noting _ _
  exact (hnote _).bind fun _ => erases_noting _ _

theorem erases_countFailures (tasks : List Task) :
    Erases (countFailures s.recorded.startTask tasks) (countFailures s.startTask tasks) := by
  induction tasks with
  | nil => exact .pure _
  | cons task tasks ih =>
    refine Erases.bind (Erases.bind (erases_startTask s task) fun outcome => ?_) fun answer => ?_
    · cases outcome <;> exact .pure _
    · cases answer with
      | error e => exact .pure _
      | ok succeeded =>
        refine ih.bind fun answer => ?_
        cases answer <;> exact .pure _

theorem erases_runTasks (tasks : List Task) :
    Erases (runTasks s.recorded.startTask tasks) (runTasks s.startTask tasks) := by
  refine (erases_countFailures s tasks).bind fun answer => ?_
  rcases answer with e | _ | failed <;> exact .pure _

theorem erases_foldersOr (folders : List Bytes) :
    Erases (s.recorded.foldersOr folders) (s.foldersOr folders) := by
  have hdirectory : Erases s.recorded.currentDirectory s.currentDirectory := erases_noting _ _
  unfold Surroundings.foldersOr
  split_ifs
  · refine hdirectory.bind fun answer => ?_
    cases answer <;> exact .pure _
  · exact .pure _

/-- What is written down changes nothing in what the command does. -/
theorem erases_tasksCommand (folders : List Bytes) :
    Erases (s.recorded.tasksCommand folders true) (s.tasksCommand folders true) := by
  refine (erases_foldersOr s folders).bind fun answer => ?_
  cases answer with
  | error e => exact .pure _
  | ok paths => exact erases_runTasks s _

/-- What is written down when a task is started: its name is shown before. -/
def launch (task : Task) (outcome : TaskOutcome) : List Deed :=
  [.noted ("> " ++ task.name ++ "\n"), .started task.execution outcome]

theorem run_startTask_recorded (task : Task) (w : σ) (past : List Deed) :
    (s.recorded.startTask task).run (w, past) =
      (((s.startTask task).run w).1, ((s.startTask task).run w).2,
        past ++ launch task ((s.startTask task).run w).1) := by
  rw [launch, ← List.singleton_append, ← List.append_assoc]
  rfl

theorem outcomesFrom_recorded (tasks : List Task) (w : σ) (past : List Deed) :
    outcomesFrom s.recorded.startTask (w, past) tasks = outcomesFrom s.startTask w tasks := by
  induction tasks generalizing w past with
  | nil => rfl
  | cons task tasks ih => simp [run_startTask_recorded, ih]

/-- What is written down when tasks are started, all of them. -/
theorem worldAfter_recorded (tasks : List Task) (w : σ) (past : List Deed) :
    worldAfter s.recorded.startTask (w, past) tasks =
      (worldAfter s.startTask w tasks,
        past ++ (List.zipWith launch tasks (outcomesFrom s.startTask w tasks)).flatten) := by
  induction tasks generalizing w past with
  | nil =>
    rw [List.zipWith_nil_left, List.flatten_nil, List.append_nil]
    rfl
  | cons task tasks ih => simp [run_startTask_recorded, ih]

end

/-! ## The tasks of folders -/

/-- The tasks of the folders at some paths. -/
def tasksOf (paths : List Bytes) : List Task := Task.provided (paths.map Folder.ofPath)

/-- What running the tasks of folders does and answers, by the outcome that each task has. -/
structure RunsInOrder (paths : List Bytes) (outcomes : List TaskOutcome)
    (answer : Except CommandError Unit) (deeds : List Deed) : Prop where
  /-- Each task has an outcome. -/
  assigned : outcomes.length = (tasksOf paths).length
  /-- If there is a first task that cannot be started, it is the last one that is tried, and the
  answer names it. -/
  stopped : ∀ k task fault, (tasksOf paths)[k]? = some task →
    outcomes[k]? = some (.refused fault) → AllStart (outcomes.take k) →
    deeds = ((List.zipWith launch (tasksOf paths) outcomes).take (k + 1)).flatten ∧
    deeds.filterMap Deed.directory? = paths.take (k + 1) ∧
    answer = .error (.start task.name fault) ∧
    (CommandError.start task.name fault).message = "Failed to run task " ++ task.name
  /-- If all tasks can be started, they are, and it is an error if some fail, with their number. -/
  completed : AllStart outcomes →
    deeds = (List.zipWith launch (tasksOf paths) outcomes).flatten ∧
    deeds.filterMap Deed.directory? = paths ∧
    (answer = .ok () ↔ ∀ outcome ∈ outcomes, outcome = .succeeded) ∧
    (answer ≠ .ok () → ∃ failed total, failed = outcomes.count .failed ∧ total = paths.length ∧
      answer = .error (.someFailed failed total) ∧
      (CommandError.someFailed failed total).message =
        toString failed ++ " of " ++ toString total ++ " lint tasks reported problems")

/-- Tasks are started in the directories of their executions. -/
theorem directories_launches {tasks : List Task} {outcomes : List TaskOutcome}
    (h : outcomes.length = tasks.length) :
    (List.zipWith launch tasks outcomes).flatten.filterMap Deed.directory? =
      tasks.map fun task => task.execution.cwd := by
  induction tasks generalizing outcomes with
  | nil => rfl
  | cons task tasks ih =>
    cases outcomes with
    | nil => cases h
    | cons outcome outcomes =>
      rw [List.zipWith_cons_cons, List.flatten_cons, List.filterMap_append,
        ih (Nat.succ.inj h), List.map_cons]
      rfl

theorem directories_tasksOf (paths : List Bytes) :
    (tasksOf paths).map (fun task => task.execution.cwd) = paths := by
  simp [tasksOf, Task.provided, Task.make, Task.executionIn, Folder.ofPath, Function.comp_def]

theorem length_tasksOf (paths : List Bytes) : (tasksOf paths).length = paths.length := by
  simp [tasksOf, Task.provided]

/-- Tasks that can all be started succeed unless one is counted. -/
theorem AllStart.count_eq_zero_iff {outcomes : List TaskOutcome} (h : AllStart outcomes) :
    outcomes.count .failed = 0 ↔ ∀ outcome ∈ outcomes, outcome = .succeeded := by
  rw [List.count_eq_zero]
  constructor
  · intro hnone outcome ho
    cases outcome with
    | succeeded => rfl
    | failed => exact absurd ho hnone
    | refused fault => exact absurd ho (h fault)
  · intro hall hfailed
    cases hall _ hfailed

section

variable (s : Surroundings (StateM σ))

/-- The tasks of folders, run in surroundings that write down what is done. -/
theorem runsInOrder (paths : List Bytes) (w : σ) :
    RunsInOrder paths (outcomesFrom s.startTask w (tasksOf paths))
      ((runTasks s.recorded.startTask (tasksOf paths)).run (w, [])).1
      ((runTasks s.recorded.startTask (tasksOf paths)).run (w, [])).2.2 := by
  have houtcomes := outcomesFrom_recorded s (tasksOf paths) w []
  have hlength := length_outcomesFrom s.startTask w (tasksOf paths)
  refine ⟨hlength, fun k task fault htask hrefused hstart => ?_, fun hstart => ?_⟩
  · rw [← houtcomes] at hrefused hstart
    rw [run_runTasks_stopped htask hrefused hstart, worldAfter_recorded, outcomesFrom_take,
      ← List.take_zipWith, List.nil_append]
    refine ⟨rfl, ?_, rfl, rfl⟩
    have htaken : ((outcomesFrom s.startTask w (tasksOf paths)).take (k + 1)).length =
        ((tasksOf paths).take (k + 1)).length := by
      rw [List.length_take, List.length_take, hlength]
    rw [List.take_zipWith, directories_launches htaken, List.map_take, directories_tasksOf]
  · have hrecorded := hstart
    rw [← houtcomes] at hrecorded
    rw [run_runTasks_completed hrecorded, worldAfter_recorded, List.nil_append, houtcomes]
    refine ⟨rfl, ?_, ?_, fun hfails => ?_⟩
    · rw [directories_launches hlength, directories_tasksOf]
    · rw [← hstart.count_eq_zero_iff]
      split_ifs with hnone
      · simp [hnone]
      · simp [hnone]
    · split_ifs at hfails ⊢ with hnone
      · exact absurd rfl hfails
      · exact ⟨_, _, rfl, length_tasksOf paths, rfl, rfl⟩

/-- Of a single folder the task is started, whatever comes of it. -/
theorem RunsInOrder.single {path : Bytes} {outcomes : List TaskOutcome}
    {answer : Except CommandError Unit} {deeds : List Deed}
    (h : RunsInOrder [path] outcomes answer deeds) : deeds.filterMap Deed.directory? = [path] := by
  obtain ⟨outcome, rfl⟩ : ∃ outcome, outcomes = [outcome] :=
    List.length_eq_one_iff.mp (h.assigned.trans (length_tasksOf _))
  cases outcome with
  | refused fault => exact (h.stopped 0 _ fault rfl rfl (by simp [AllStart])).2.1
  | succeeded => exact (h.completed (by simp [AllStart])).2.1
  | failed => exact (h.completed (by simp [AllStart])).2.1

variable {s} {w w' : σ} {folders : List Bytes} {path : Bytes} {e : SystemError}

theorem run_tasksCommand_given (h : folders ≠ []) :
    (s.tasksCommand folders true).run w = (runTasks s.startTask (tasksOf folders)).run w := by
  obtain ⟨first, more, rfl⟩ := List.exists_cons_of_ne_nil h
  rfl

theorem run_tasksCommand_nil (h : s.currentDirectory.run w = (.ok path, w')) :
    (s.tasksCommand [] true).run w = (runTasks s.startTask (tasksOf [path])).run w' := by
  unfold Surroundings.tasksCommand Surroundings.foldersOr
  simp only [List.isEmpty_nil, if_true, StateT.run_bind, h]
  rfl

theorem run_tasksCommand_lost (h : s.currentDirectory.run w = (.error e, w')) :
    (s.tasksCommand [] true).run w = (.error (.currentDirectory e), w') := by
  unfold Surroundings.tasksCommand Surroundings.foldersOr
  simp only [List.isEmpty_nil, if_true, StateT.run_bind, h]
  rfl

/-- The current directory is found with nothing written down. -/
theorem run_currentDirectory_recorded {found : Except SystemError Bytes}
    (h : s.currentDirectory.run w = (found, w')) :
    s.recorded.currentDirectory.run (w, []) = (found, w', []) := by
  show ((s.currentDirectory.run w).1, (s.currentDirectory.run w).2, [] ++ []) = _
  rw [h]
  rfl

end

/-- **Tasks are run in the order of their folders.** In any surroundings, whatever comes of tasks,
they are started in the order of the folders, each once, up to and with the first that cannot be
started. If there is one, the answer names it; else all is well exactly if every task succeeds, and
otherwise the answer tells how many of how many have failed. Without folders there is one task, for
the current directory; if that is not found, nothing is started. To write down what is done changes
nothing in it. -/
theorem tasks_run_in_order (s : Surroundings (StateM σ)) (w : σ) (folders : List Bytes) :
    let ran := (s.recorded.tasksCommand folders true).run (w, [])
    (s.tasksCommand folders true).run w = (ran.1, ran.2.1) ∧
    (folders ≠ [] →
      RunsInOrder folders (outcomesFrom s.startTask w (tasksOf folders)) ran.1 ran.2.2) ∧
    (folders = [] → ∀ path w', s.currentDirectory.run w = (.ok path, w') →
      RunsInOrder [path] (outcomesFrom s.startTask w' (tasksOf [path])) ran.1 ran.2.2 ∧
        ran.2.2.filterMap Deed.directory? = [path]) ∧
    (folders = [] → ∀ e w', s.currentDirectory.run w = (.error e, w') →
      ran.1 = .error (.currentDirectory e) ∧ ran.2.2 = []) := by
  refine ⟨(erases_tasksCommand s folders w []).symm, fun hsome => ?_, ?_, ?_⟩
  · rw [run_tasksCommand_given hsome]
    exact runsInOrder s folders w
  · rintro rfl path w' hpath
    rw [run_tasksCommand_nil (run_currentDirectory_recorded hpath)]
    have hruns := runsInOrder s [path] w'
    exact ⟨hruns, hruns.single⟩
  · rintro rfl e w' hlost
    rw [run_tasksCommand_lost (run_currentDirectory_recorded hlost)]
    exact ⟨rfl, rfl⟩

/-- Surroundings in which the tasks have given outcomes, in the order in which they are started. -/
def dealing (cwd : Bytes) : Surroundings (StateM (List TaskOutcome)) where
  print _ := return ()
  note _ := return ()
  readInput := return []
  currentDirectory := return .ok cwd
  start _ := fun hand => (hand.headD .succeeded, hand.tail)
  serve _ := return .ok ()

/-- Every assignment of outcomes to tasks is met in some surroundings. -/
theorem outcomesFrom_dealing (cwd : Bytes) {tasks : List Task} {hand : List TaskOutcome}
    (h : hand.length = tasks.length) : outcomesFrom (dealing cwd).startTask hand tasks = hand := by
  induction tasks generalizing hand with
  | nil => exact (List.length_eq_zero_iff.mp h).symm
  | cons task tasks ih =>
    cases hand with
    | nil => cases h
    | cons outcome hand =>
      rw [outcomesFrom_cons]
      exact congrArg (outcome :: ·) (ih (Nat.succ.inj h))

/-- Folders, one of them twice. -/
def repeated : List Bytes :=
  [textBytes "/work/api", textBytes "/work/web/.", textBytes "/work/api"]

/-- What comes of running the tasks of folders that have given outcomes, with all written down. -/
def dealt (folders : List Bytes) (hand : List TaskOutcome) :
    Except CommandError Unit × List TaskOutcome × List Deed :=
  ((dealing (textBytes "/work")).recorded.tasksCommand folders true).run (hand, [])

theorem tasks_run_in_order_dealt :
    (dealt repeated [.failed, .refused .nulByte, .succeeded]).1 =
        .error (.start "lint web" .nulByte) ∧
      (dealt repeated [.failed, .refused .nulByte, .succeeded]).2.2 =
        [.noted "> lint api\n", .started (Task.executionIn (textBytes "/work/api")) .failed,
          .noted "> lint web\n",
          .started (Task.executionIn (textBytes "/work/web/.")) (.refused .nulByte)] ∧
      (∃ e, (dealt repeated [.failed, .succeeded, .failed]).1 = .error e ∧
        e.message = "2 of 3 lint tasks reported problems") ∧
      (dealt [] [.succeeded]).2.2.filterMap Deed.directory? = [textBytes "/work"] := by
  have hruns (hand : List TaskOutcome) (h : hand.length = 3) :
      RunsInOrder repeated hand (dealt repeated hand).1 (dealt repeated hand).2.2 := by
    have hall := (tasks_run_in_order (dealing (textBytes "/work")) hand repeated).2.1 (by decide)
    rwa [outcomesFrom_dealing _ (h.trans (length_tasksOf repeated).symm)] at hall
  obtain ⟨hdeeds, -, hanswer, -⟩ := (hruns [.failed, .refused .nulByte, .succeeded] rfl).stopped
    1 _ _ rfl rfl (by simp [AllStart])
  obtain ⟨-, -, hok, herror⟩ := (hruns [.failed, .succeeded, .failed] rfl).completed
    (by simp [AllStart])
  refine ⟨hanswer.trans (by decide), hdeeds.trans (by decide), ?_, ?_⟩
  · have hfails : (dealt repeated [.failed, .succeeded, .failed]).1 ≠ .ok () := by
      intro h
      have hall := hok.mp h .failed (by simp)
      cases hall
    obtain ⟨failed, total, rfl, rfl, hanswer, hmessage⟩ := herror hfails
    exact ⟨_, hanswer, hmessage.trans (by decide)⟩
  · exact ((tasks_run_in_order (dealing (textBytes "/work")) [.succeeded] []).2.2.1 rfl
      (textBytes "/work") _ rfl).2

end LineLint
