import Mathlib.Logic.Function.Basic
import Mathlib.Logic.Relation
import PosixBridge.Proofs.Steps

/-!
# Calls on many threads at once

A call is not atomic. It saves errno, runs the host, which writes errno, encodes the errno it
finds, and restores the saved one, and between any two of these steps other threads may take
theirs. This is safe because each thread has an errno of its own and keeps the saved number to
itself.

`Atomic` are the steps, and `Machine.Step` is one of them on one thread of many, over one memory
in which `location` is where a thread's errno is. What the library of the host has to promise is
that `location` is injective.

> `calls_interleave_safely`: wherever an interleaving has got to, each thread is where its own
> steps take it when it runs alone. When it has taken them all, its calls have returned what they
> return one after the other, and each call leaves the errno that it has found.

The invariant is a projection: a step on a thread is a step of this thread alone, and for all
other threads it is none (`Machine.thread_put_of_ne`).
-/

namespace PosixBridge

open Procedure Bridge

/-- The encoded result of a call. -/
structure Answer where
  type : ReturnType
  value : type.Word

/-- What a thread is to do: to set errno, or to make a call, whose host writes errno as often as
it likes and answers `raw`. -/
inductive Task
  | set (value : Int32)
  | call (type : ReturnType) (raw : type.Word) (writes : List Int32)

/-- What a thread does without being interrupted. -/
inductive Atomic
  | write (value : Int32)
  /-- Saves errno for the time of a call. -/
  | save
  /-- Tests the host's answer and encodes errno if it is the sentinel. -/
  | encode (type : ReturnType) (raw : type.Word)
  /-- Restores the errno that was saved last. -/
  | restore

namespace Task

/-- The task with nothing in between, and the results of its calls. -/
def perform : Task → Procedure (List Answer)
  | .set value => do
    setErrno value
    return []
  | .call type raw writes => do
    let value ← Bridge.call type do
      writes.forM setErrno
      return raw
    return [⟨type, value⟩]

/-- What a thread does with its tasks: one after another, their answers in order. -/
def performAll : List Task → Procedure (List Answer)
  | [] => return []
  | task :: rest => do
    let answers ← task.perform
    return answers ++ (← performAll rest)

/-- The atomic steps of a task. A call saves errno, runs the host, encodes and restores. -/
def steps : Task → List Atomic
  | .set value => [.write value]
  | .call type raw writes => .save :: (writes.map .write ++ [.encode type raw, .restore])

end Task

/-- What a thread has to itself. -/
structure Registers where
  /-- The steps that are still to be taken. -/
  todo : List Atomic
  /-- The numbers that are saved and not yet restored, the last one first. -/
  saved : List Int32
  /-- The results of its calls so far. -/
  answers : List Answer
  /-- The errno before and after each step so far. -/
  seen : List (Int32 × Int32)

/-- A thread with its errno. -/
structure Thread extends Registers where
  errno : Int32

namespace Thread

/-- A thread with its tasks before it. -/
def start (tasks : List Task) (errno : Int32) : Thread :=
  ⟨⟨tasks.flatMap Task.steps, [], [], []⟩, errno⟩

/-- What an atomic step does to a thread's own cells. -/
def act (t : Thread) : Atomic → Thread
  | .write value => { t with errno := value }
  | .save => { t with saved := t.errno :: t.saved }
  | .encode type raw =>
    { t with answers := t.answers ++ [⟨type, type.inBand raw t.errno⟩] }
  | .restore =>
    match t.saved with
    | [] => t
    | errno :: saved => { t with errno, saved }

/-- The thread after its next step, which is the given one. -/
def step (t : Thread) (a : Atomic) : Thread :=
  { t.act a with todo := t.todo.tail, seen := t.seen ++ [(t.errno, (t.act a).errno)] }

/-- The thread after its next step, if it has one to do. -/
def next? (t : Thread) : Option Thread := t.todo.head?.map t.step

/-- The thread after steps that it takes alone. -/
def run (t : Thread) (steps : List Atomic) : Thread := steps.foldl step t

end Thread

/-- Threads over one memory. -/
structure Machine (ι Address : Type) where
  memory : Address → Int32
  registers : ι → Registers

namespace Machine

variable {ι Address : Type} [DecidableEq ι] [DecidableEq Address] (location : ι → Address)

/-- The machine on which each thread has the given tasks to do. -/
def start (tasks : ι → List Task) (memory : Address → Int32) : Machine ι Address :=
  ⟨memory, fun i => (Thread.start (tasks i) (memory (location i))).toRegisters⟩

/-- A thread with the errno that it finds in its cell. -/
def thread (m : Machine ι Address) (i : ι) : Thread :=
  { m.registers i with errno := m.memory (location i) }

/-- The machine with another state of one thread. -/
def put (m : Machine ι Address) (i : ι) (t : Thread) : Machine ι Address :=
  ⟨Function.update m.memory (location i) t.errno, Function.update m.registers i t.toRegisters⟩

/-- One step of one thread. -/
inductive Step (m : Machine ι Address) : Machine ι Address → Prop
  | turn (i : ι) {t : Thread} (h : (m.thread location i).next? = some t) :
    Step m (m.put location i t)

/-- One machine comes from another by steps of its threads, in any order. -/
def Reaches (m m' : Machine ι Address) : Prop := Relation.ReflTransGen (Step location) m m'

end Machine

/-! ## One thread -/

namespace Thread

variable {t t' : Thread}

theorem todo_step (t : Thread) (a : Atomic) : (t.step a).todo = t.todo.tail := rfl

theorem run_append (t : Thread) (xs ys : List Atomic) : t.run (xs ++ ys) = (t.run xs).run ys :=
  List.foldl_append

/-- A thread goes on exactly by the first of the steps it has to do. -/
theorem next?_eq_some_iff :
    t.next? = some t' ↔ ∃ a rest, t.todo = a :: rest ∧ t.step a = t' := by
  unfold next?
  cases t.todo with
  | nil => simp
  | cons a rest => simp

/-- After the host's writes, errno is the last of them, and nothing else has changed. -/
theorem run_writes (writes : List Int32) (t : Thread) :
    (t.run (writes.map .write)).errno = writes.getLastD t.errno ∧
      (t.run (writes.map .write)).saved = t.saved ∧
      (t.run (writes.map .write)).answers = t.answers := by
  induction writes generalizing t with
  | nil => exact ⟨rfl, rfl, rfl⟩
  | cons value writes ih =>
    rw [List.getLastD_cons]
    exact ih (t.step (.write value))

/-- A call ends with the errno and the saved numbers with which it has begun. -/
theorem run_call (type : ReturnType) (raw : type.Word) (writes : List Int32) (t : Thread) :
    (t.run (Task.call type raw writes).steps).errno = t.errno ∧
      (t.run (Task.call type raw writes).steps).saved = t.saved ∧
      (t.run (Task.call type raw writes).steps).answers =
        t.answers ++ [⟨type, type.inBand raw (writes.getLastD t.errno)⟩] := by
  have hsteps : t.run (Task.call type raw writes).steps =
      (((t.step .save).run (writes.map .write)).step (.encode type raw)).step .restore := by
    rw [Task.steps, ← List.singleton_append, run_append, run_append]
    rfl
  obtain ⟨herrno, hsaved, hanswers⟩ := run_writes writes (t.step .save)
  rw [hsteps]
  generalize (t.step .save).run (writes.map .write) = u at herrno hsaved hanswers
  have hbefore : u.saved = t.errno :: t.saved := hsaved
  refine ⟨?_, ?_, ?_⟩
  · simp [step, act, hbefore]
  · simp [step, act, hbefore]
  · simp only [step, act, hbefore, hanswers, herrno]

end Thread

/-! ## One thread against the calls it makes -/

namespace Task

/-- As a procedure too, the host's writes leave the last of them. -/
theorem writes_apply (writes : List Int32) (s : State) :
    writes.forM setErrno s = ⟨[], { s with errno := writes.getLastD s.errno }, .returned ()⟩ := by
  induction writes generalizing s with
  | nil => rfl
  | cons value writes ih =>
    refine (bind_of_returned (setErrno_apply value s)).trans ?_
    rw [ih, List.getLastD_cons]
    rfl

/-- A call gives one answer and leaves the state as it was. -/
theorem perform_call (type : ReturnType) (raw : type.Word) (writes : List Int32) (s : State) :
    ∃ trace, (Task.call type raw writes).perform s =
      ⟨trace, s, .returned [⟨type, type.inBand raw (writes.getLastD s.errno)⟩]⟩ := by
  have hraw := bind_of_returned (f := fun _ => (pure raw : Procedure type.Word))
    (writes_apply writes s)
  have hcall := call_apply type (do writes.forM setErrno; return raw) s
  rw [hraw] at hcall
  exact ⟨_, bind_of_returned hcall⟩

/-- The steps of a task leave the errno and the answers that the task leaves. -/
theorem perform_eq (task : Task) (t : Thread) {s : State} (hs : s.errno = t.errno) :
    ∃ trace answers, task.perform s =
        ⟨trace, { s with errno := (t.run task.steps).errno }, .returned answers⟩ ∧
      (t.run task.steps).answers = t.answers ++ answers := by
  cases task with
  | set value => exact ⟨[], [], rfl, (List.append_nil _).symm⟩
  | call type raw writes =>
    obtain ⟨herrno, -, hanswers⟩ := t.run_call type raw writes
    obtain ⟨trace, hcall⟩ := perform_call type raw writes s
    rw [herrno, ← hs]
    exact ⟨trace, _, hcall, hs ▸ hanswers⟩

/-- A thread that nobody interrupts does what its tasks do one after another. -/
theorem performAll_eq (tasks : List Task) (t : Thread) {s : State} (hs : s.errno = t.errno) :
    ∃ trace answers, performAll tasks s =
        ⟨trace, { s with errno := (t.run (tasks.flatMap steps)).errno }, .returned answers⟩ ∧
      (t.run (tasks.flatMap steps)).answers = t.answers ++ answers := by
  induction tasks generalizing t s with
  | nil =>
    refine ⟨[], [], ?_, (List.append_nil _).symm⟩
    show _ = Run.mk [] { s with errno := t.errno } _
    rw [← hs]
    rfl
  | cons task rest ih =>
    obtain ⟨trace, answers, htask, hanswers⟩ := task.perform_eq t hs
    obtain ⟨trace', answers', hrest, hanswers'⟩ :=
      ih (t.run task.steps) (s := { s with errno := (t.run task.steps).errno }) rfl
    rw [List.flatMap_cons, Thread.run_append]
    refine ⟨trace ++ trace', answers ++ answers', ?_, ?_⟩
    · rw [performAll, bind_of_returned htask, bind_of_returned hrest]
      simp [pure_apply]
    · rw [hanswers', hanswers, List.append_assoc]

end Task

/-! ## Many threads -/

namespace Machine

variable {ι Address : Type} [DecidableEq ι] [DecidableEq Address] {location : ι → Address}
  {m m' : Machine ι Address}

theorem thread_put_self (m : Machine ι Address) (i : ι) (t : Thread) :
    (m.put location i t).thread location i = t := by
  simp [thread, put]

/-- A thread does not notice the steps of others. -/
theorem thread_put_of_ne (hlocation : Function.Injective location) (m : Machine ι Address)
    {i j : ι} (h : j ≠ i) (t : Thread) :
    (m.put location i t).thread location j = m.thread location j := by
  simp [thread, put, Function.update_of_ne h, Function.update_of_ne (hlocation.ne h)]

/-- Wherever an interleaving gets to, each thread has gone some way alone. -/
theorem Reaches.thread_eq_run (hlocation : Function.Injective location)
    (h : m.Reaches location m') (i : ι) :
    ∃ done, (m.thread location i).todo = done ++ (m'.thread location i).todo ∧
      m'.thread location i = (m.thread location i).run done := by
  induction h with
  | refl => exact ⟨[], rfl, rfl⟩
  | @tail m₁ m₂ _ hstep ih =>
    obtain ⟨done, htodo, hrun⟩ := ih
    cases hstep with
    | @turn j t hnext =>
      by_cases hij : i = j
      · subst hij
        obtain ⟨a, rest, htodo', rfl⟩ := Thread.next?_eq_some_iff.mp hnext
        rw [thread_put_self]
        refine ⟨done ++ [a], ?_, ?_⟩
        · rw [htodo, Thread.todo_step, htodo']
          simp
        · rw [Thread.run_append, ← hrun]
          rfl
      · rw [thread_put_of_ne hlocation _ hij]
        exact ⟨done, htodo, hrun⟩

/-- Nothing keeps a thread from taking all its steps. -/
theorem exists_finished (m : Machine ι Address) (i : ι) :
    ∃ m', m.Reaches location m' ∧ (m'.registers i).todo = [] := by
  generalize htodo : (m.registers i).todo = todo
  induction todo generalizing m with
  | nil => exact ⟨m, .refl, htodo⟩
  | cons a rest ih =>
    let t := (m.thread location i).step a
    have hnext : (m.thread location i).next? = some t :=
      Thread.next?_eq_some_iff.mpr ⟨a, rest, htodo, rfl⟩
    have hself : (m.put location i t).thread location i = t := thread_put_self m i t
    have hrest : ((m.put location i t).registers i).todo = rest :=
      (congrArg (·.todo) hself).trans (congrArg List.tail htodo)
    obtain ⟨m', hreaches, hfinished⟩ := ih _ hrest
    exact ⟨m', .head (.turn i hnext) hreaches, hfinished⟩

end Machine

/-- **Calls are safe although they are not atomic.** Let any number of threads, each with an errno
of its own, set errno and make calls, and let their steps be interleaved in any way. At every
point each thread has the errno and the answers, and has seen at each of its steps the errno, that
it has when it takes the same steps alone. When it has taken them all, the answers and the errno
are those of the calls, made one after the other on a thread that nobody interrupts. From the
beginning of each call to its end errno comes back to what it was; and a thread can always take
the steps that it has left. -/
theorem calls_interleave_safely {ι Address : Type} [DecidableEq ι] [DecidableEq Address]
    (location : ι → Address) (hlocation : Function.Injective location)
    (tasks : ι → List Task) (memory : Address → Int32) {m : Machine ι Address}
    (hm : (Machine.start location tasks memory).Reaches location m) (i : ι) :
    let alone := Thread.start (tasks i) (memory (location i))
    (∃ done, alone.todo = done ++ (m.registers i).todo ∧ m.thread location i = alone.run done) ∧
    ((m.registers i).todo = [] →
      m.thread location i = alone.run alone.todo ∧
      ∀ s : State, s.errno = memory (location i) →
        (Task.performAll (tasks i) s).outcome = .returned (m.registers i).answers ∧
        (Task.performAll (tasks i) s).state = { s with errno := m.memory (location i) }) ∧
    (∀ type raw writes rest m', m.Reaches location m' →
      (m.registers i).todo = (Task.call type raw writes :: rest).flatMap Task.steps →
      (m'.registers i).todo = rest.flatMap Task.steps →
      m'.memory (location i) = m.memory (location i)) ∧
    ∃ m', m.Reaches location m' ∧ (m'.registers i).todo = [] := by
  intro alone
  obtain ⟨done, htodo, hrun⟩ := hm.thread_eq_run hlocation i
  refine ⟨⟨done, htodo, hrun⟩, ?_, ?_, m.exists_finished i⟩
  · intro hfinished
    have hall : alone.todo = done := by
      have hrest : (m.thread location i).todo = [] := hfinished
      rw [hrest, List.append_nil] at htodo
      exact htodo
    have hthread : m.thread location i = alone.run alone.todo := by
      rw [hall]
      exact hrun
    refine ⟨hthread, fun s hs => ?_⟩
    obtain ⟨trace, answers, hperform, hanswers⟩ := Task.performAll_eq (tasks i) alone hs
    have herrno : m.memory (location i) = (alone.run alone.todo).errno :=
      congrArg Thread.errno hthread
    have hsame : (m.registers i).answers = answers :=
      (congrArg (·.answers) hthread).trans hanswers
    rw [hperform, herrno, hsame]
    exact ⟨rfl, rfl⟩
  · intro type raw writes rest m' hreaches hbegin hend
    obtain ⟨steps, hsteps, hcall⟩ := hreaches.thread_eq_run hlocation i
    have heq : (Task.call type raw writes).steps = steps := by
      have hsplit : (m.registers i).todo = steps ++ (m'.registers i).todo := hsteps
      rw [hbegin, hend, List.flatMap_cons] at hsplit
      exact List.append_cancel_right hsplit
    rw [← heq] at hcall
    exact (congrArg Thread.errno hcall).trans (Thread.run_call type raw writes _).1

/-- Two threads make a call, and both hosts have failed before either bridge looks at errno. -/
theorem calls_interleave_safely_both_failing :
    let location : Fin 2 → Nat := fun i => 0x1000 * i.val
    let tasks : Fin 2 → List Task := fun i =>
      if i = 0 then [.call .int ReturnType.int.sentinel [2]]
      else [.call .ident ReturnType.ident.sentinel [13]]
    let memory : Nat → Int32 := fun _ => 7
    Function.Injective location ∧
      ∃ m, (Machine.start location tasks memory).Reaches location m ∧
        (m.registers 0).answers = [⟨.int, ReturnType.int.encode 2⟩] ∧ m.memory 0 = 7 ∧
        (m.registers 1).answers = [⟨.ident, ReturnType.ident.encode 13⟩] ∧
        m.memory 0x1000 = 7 := by
  intro location tasks memory
  have hlocation : Function.Injective location := by
    intro i j h
    have hval : 0x1000 * i.val = 0x1000 * j.val := h
    exact Fin.ext (by omega)
  obtain ⟨m, hm, hfinished₀, hfinished₁⟩ :
      ∃ m, (Machine.start location tasks memory).Reaches location m ∧
        (m.registers 0).todo = [] ∧ (m.registers 1).todo = [] :=
    ⟨_, .head (.turn 0 rfl) (.head (.turn 1 rfl) (.head (.turn 0 rfl) (.head (.turn 1 rfl)
      (.head (.turn 0 rfl) (.head (.turn 1 rfl) (.head (.turn 0 rfl) (.head (.turn 1 rfl)
        .refl))))))), rfl, rfl⟩
  have h₀ := ((calls_interleave_safely location hlocation tasks memory hm 0).2.1 hfinished₀).1
  have h₁ := ((calls_interleave_safely location hlocation tasks memory hm 1).2.1 hfinished₁).1
  refine ⟨hlocation, m, hm, ?_, congrArg Thread.errno h₀, ?_, congrArg Thread.errno h₁⟩
  · have hcode : ReturnType.int.inBand ReturnType.int.sentinel 2 = ReturnType.int.encode 2 := by
      decide
    exact (congrArg (·.answers) h₀).trans (congrArg (fun v => [Answer.mk .int v]) hcode)
  · have hcode : ReturnType.ident.inBand ReturnType.ident.sentinel 13 =
        ReturnType.ident.encode 13 := by decide
    exact (congrArg (·.answers) h₁).trans (congrArg (fun v => [Answer.mk .ident v]) hcode)

end PosixBridge
