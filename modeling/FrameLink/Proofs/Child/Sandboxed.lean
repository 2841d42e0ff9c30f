import FrameLink.Proofs.Child.Supervision
import FrameLink.Sandbox.Machine
import Mathlib
/-!
The machine of the sandbox does what supervision relies on: programs run on, exit and are killed, and
only a spawn brings a new one.
-/

namespace FrameLink.Sandbox

open Child

theorem Task.runUntil_dwindles (moment : Instant) (task : Task) (store : Store) :
    (task.runUntil moment store).1.pid = task.pid ∧
      ((task.runUntil moment store).1.program.isSome → task.program.isSome) := by
  fun_induction Task.runUntil moment task store with
  | case1 | case3 | case10 => exact ⟨rfl, id⟩
  | case2 | case8 | case9 => simp
  | case4 task store program running _ _ _ _ _ _ ih
  | case5 task store program running _ _ _ _ _ _ _ ih
  | case6 task store program running _ _ _ _ _ _ _ _ ih
  | case7 task store program running _ _ _ _ _ _ _ _ ih =>
    refine ⟨ih.1, ?_⟩
    simp [running]

namespace Machine

def alive : Census Machine := fun machine pid => machine.isAlive pid = true

theorem alive_iff {machine : Machine} {pid : Nat} :
    alive machine pid ↔ ∃ task, machine.tasks.find? (·.pid = pid) = some task ∧ task.program.isSome := by
  simp only [alive, isAlive, task?, Option.any_eq_true]

theorem fewer_of_tasks {before after : Machine}
    (same : List.Forall₂ (fun task task' => task'.pid = task.pid ∧
      (task'.program.isSome → task.program.isSome)) before.tasks after.tasks) :
    Fewer alive before after := by
  intro pid
  rw [alive_iff, alive_iff]
  generalize before.tasks = tasks at same ⊢
  generalize after.tasks = tasks' at same ⊢
  induction same with
  | nil => simp
  | @cons task task' rest rest' pair _ ih =>
    rw [List.find?_cons, List.find?_cons, pair.1]
    by_cases own : task.pid = pid
    · simpa [own] using pair.2
    · simpa [own] using ih

theorem fewer_update (pid : Nat) (change : Task → Task) (machine : Machine)
    (same : ∀ task, (change task).pid = task.pid)
    (ran : ∀ task, (change task).program.isSome → task.program.isSome) :
    Fewer alive machine (machine.update pid change) := by
  apply fewer_of_tasks
  rw [update, List.forall₂_map_right_iff, List.forall₂_same]
  intro task _
  split
  · exact ⟨same task, ran task⟩
  · exact ⟨rfl, id⟩

theorem runTasks_dwindles (moment : Instant) (tasks : List Task) (store : Store) :
    List.Forall₂ (fun task task' => task'.pid = task.pid ∧
      (task'.program.isSome → task.program.isSome)) tasks (runTasks moment tasks store).1 := by
  induction tasks generalizing store with
  | nil => exact .nil
  | cons task rest ih => exact .cons (task.runUntil_dwindles moment store) (ih _)

theorem spawn_cases (command : Command) (machine : Machine) :
    (∃ message, machine.spawn command = (.error message, machine)) ∨
      ∃ program, machine.spawn command = (.ok machine.nextPid, { machine with
        nextPid := machine.nextPid + 1
        tasks := machine.tasks ++ [⟨machine.nextPid, some program, machine.now⟩] }) := by
  unfold spawn
  dsimp only
  split
  next refusal _ => exact .inl ⟨_, rfl⟩
  next program _ => exact .inr ⟨_, rfl⟩

theorem lawful : LawfulSystem alive where
  spawn_ok command machine pid spawned other lives := by
    rcases spawn_cases command machine with ⟨message, failed⟩ | ⟨program, started⟩
    · rw [show System.spawn command machine = _ from failed] at spawned
      cases spawned
    · rw [show System.spawn command machine = _ from started] at spawned lives
      cases spawned
      obtain ⟨task, found, runs⟩ := alive_iff.mp lives
      rw [List.find?_append, Option.or_eq_some_iff] at found
      rcases found with before | ⟨_, new⟩
      · exact .inr (alive_iff.mpr ⟨task, before, runs⟩)
      · have own := List.find?_some new
        have last := List.mem_singleton.mp (List.mem_of_find?_eq_some new)
        subst last
        have same : machine.nextPid = other := by simpa using own
        exact .inl same.symm
  spawn_error command machine fault failed := by
    rcases spawn_cases command machine with ⟨message, refused⟩ | ⟨program, started⟩
    · rw [show System.spawn command machine = _ from refused]
      exact fun _ => id
    · rw [show System.spawn command machine = _ from started] at failed
      cases failed
  look pid machine := fun _ => id
  look_gone pid machine seen lives := by
    obtain ⟨task, found, runs⟩ := alive_iff.mp lives
    have held : machine.tasks.find? (·.pid = pid) = some task := found
    apply seen
    unfold System.look instSystem task?
    dsimp only
    rw [held]
    exact if_pos runs
  requestExit pid machine := by
    apply fewer_update
    · intro task
      rfl
    · intro task
      simp
  kill pid machine := by
    apply fewer_update
    · intro task
      rfl
    · simp
  kill_ok pid machine _ lives := by
    obtain ⟨task, found, runs⟩ := alive_iff.mp lives
    have own := List.find?_some found
    obtain ⟨task', _, rfl⟩ := List.mem_map.mp (List.mem_of_find?_eq_some found)
    by_cases aimed : task'.pid = pid
    · rw [if_pos aimed] at runs
      cases runs
    · rw [if_neg aimed] at own
      exact aimed (by simpa using own)
  pause span machine := fewer_of_tasks (runTasks_dwindles _ machine.tasks machine.store)

def sleeper : Process (Recorded Machine) :=
  Process.run [.start "sleep" ["60"] ""] { system := { now := {} }, output := .discard }

theorem sleeper_stopped_for_nothing :
    (∀ pid, ¬alive {} pid) ∧ sleeper.child = some { pid := 1000 } ∧
      ∃ message after, sleeper.start "nothing" [] "" =
          (.error (.spawnFailed "nothing" message), after) ∧
        after.path = "sleep" ∧ ∀ pid, ¬alive after.system.now pid := by
  have nobody : ∀ pid, ¬alive {} pid := by
    intro pid lives
    obtain ⟨_, found, _⟩ := alive_iff.mp lives
    cases found
  have held : sleeper.child = some { pid := 1000 } := by cbv
  have path : sleeper.path = "sleep" := by cbv
  have failed : (sleeper.start "nothing" [] "").1 =
      .error (.spawnFailed "nothing" "No such file or directory (os error 2)") := by cbv
  obtain ⟨_, _, starts⟩ := Process.one_child_at_most lawful {} nobody {} .discard
    [.start "sleep" ["60"] ""]
  have last := starts "nothing" [] ""
  rw [show Process.run _ _ = sleeper from rfl] at last
  rcases started : sleeper.start "nothing" [] "" with ⟨outcome, after⟩
  rw [started] at failed last
  cases failed
  exact ⟨nobody, held, _, after, rfl, last.1.trans path, last.2.2.2⟩

end Machine

end FrameLink.Sandbox
