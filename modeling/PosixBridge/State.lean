import PosixBridge.Diagnostic

/-!
# The state of a running program

Errno is one cell per thread. Only one thread runs at a time, the others being its
ancestors waiting for it to end, so the cells form a stack: `State.errno` is the running
thread's, `State.waiting` holds the others. A named guard is a number that some thread
saved under a name; names are shared by all threads, and so are the log settings.

`Slots` is used through `get?`, `insert` and `erase` and their lemmas.
-/

namespace PosixBridge

/-- The errno values saved under names. -/
@[ext] structure Slots where
  /-- The number saved under a name, if the name is in use. -/
  get? : String → Option Int32

namespace Slots

def empty : Slots := ⟨fun _ => none⟩

/-- The slots with a number saved under a name, whatever was saved there. -/
def insert (slots : Slots) (name : String) (errno : Int32) : Slots :=
  ⟨fun n => if n = name then some errno else slots.get? n⟩

/-- The slots with a name freed. -/
def erase (slots : Slots) (name : String) : Slots :=
  ⟨fun n => if n = name then none else slots.get? n⟩

@[simp] theorem get?_empty (n : String) : empty.get? n = none := rfl

@[simp] theorem get?_insert_self (slots : Slots) (n : String) (e : Int32) :
    (slots.insert n e).get? n = some e := by simp [insert]

theorem get?_insert_of_ne (slots : Slots) {n m : String} (e : Int32) (h : m ≠ n) :
    (slots.insert n e).get? m = slots.get? m := by simp [insert, h]

@[simp] theorem get?_erase_self (slots : Slots) (n : String) :
    (slots.erase n).get? n = none := by simp [erase]

theorem get?_erase_of_ne (slots : Slots) {n m : String} (h : m ≠ n) :
    (slots.erase n).get? m = slots.get? m := by simp [erase, h]

/-- Saving under a free name and freeing it again leaves no trace. -/
theorem erase_insert (slots : Slots) {n : String} (e : Int32) (h : slots.get? n = none) :
    (slots.insert n e).erase n = slots := by
  ext m : 2
  by_cases hm : m = n
  · subst hm; simp [h]
  · rw [get?_erase_of_ne _ hm, get?_insert_of_ne _ _ hm]

/-- Savings under different names do not touch each other. -/
theorem insert_comm (slots : Slots) {n m : String} (e f : Int32) (h : m ≠ n) :
    (slots.insert n e).insert m f = (slots.insert m f).insert n e := by
  ext k : 2
  by_cases hn : k = n
  · subst hn
    rw [get?_insert_of_ne _ _ h.symm, get?_insert_self, get?_insert_self]
  · by_cases hm : k = m
    · subst hm
      rw [get?_insert_self, get?_insert_of_ne _ _ hn, get?_insert_self]
    · rw [get?_insert_of_ne _ _ hm, get?_insert_of_ne _ _ hn, get?_insert_of_ne _ _ hn,
        get?_insert_of_ne _ _ hm]

/-- Saving under one name and freeing another can be done in either order. -/
theorem erase_insert_of_ne (slots : Slots) {n m : String} (e : Int32) (h : m ≠ n) :
    (slots.insert n e).erase m = (slots.erase m).insert n e := by
  ext k : 2
  by_cases hm : k = m
  · subst hm
    rw [get?_erase_self, get?_insert_of_ne _ _ h, get?_erase_self]
  · by_cases hn : k = n
    · subst hn
      rw [get?_erase_of_ne _ hm, get?_insert_self, get?_insert_self]
    · rw [get?_erase_of_ne _ hm, get?_insert_of_ne _ _ hn, get?_insert_of_ne _ _ hn,
        get?_erase_of_ne _ hm]

end Slots

/-- What a program can change and a later step can notice. -/
@[ext] structure State where
  errno : Int32
  /-- The errno values of the threads that wait for it, the nearest ancestor first. -/
  waiting : List Int32
  slots : Slots
  log : LogSettings

namespace State

/-- The state in which a program starts: one thread, nothing saved, the log off. -/
def initial : State := ⟨0, [], .empty, .initial⟩

/-- Starts a new thread and lets the running one wait for it. -/
def spawn (s : State) : State := { s with errno := 0, waiting := s.errno :: s.waiting }

/-- Ends the running thread; the nearest ancestor goes on. With no ancestor there is
nobody to go on, and the state is kept. -/
def join (s : State) : State :=
  match s.waiting with
  | [] => s
  | errno :: waiting => { s with errno, waiting }

/-- A thread that does nothing leaves no trace. -/
@[simp] theorem join_spawn (s : State) : s.spawn.join = s := rfl

/-- A thread whose parent is in the state `s` leaves its own slots and log settings. -/
theorem join_eq {s t : State} (h : t.waiting = s.errno :: s.waiting) :
    t.join = { s with slots := t.slots, log := t.log } := by
  unfold join
  rw [h]

@[simp] theorem slots_join (s : State) : s.join.slots = s.slots := by
  unfold join
  split <;> rfl

@[simp] theorem log_join (s : State) : s.join.log = s.log := by
  unfold join
  split <;> rfl

end State

end PosixBridge
