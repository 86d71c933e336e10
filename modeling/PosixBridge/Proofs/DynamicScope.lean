import Mathlib.Data.List.Find
import PosixBridge.Proofs.Course

/-!
# Errno as a dynamically scoped variable

The run of a program saves and restores errno in many places: calls, guards and forwarded
operations nest, end by a panic or normally, and run on several threads. Seen from outside
all of this is one rule. `History` reads the steps that have been performed, off the text of
the program (`Program.wholeCourse`), and notes for every write to errno which thread made it
and which scopes of that thread it was made in. It knows nothing of what the bridge saves and
restores, nor of the marks that a run leaves. The rule is `History.errnoOf`:

> a thread's errno is the value of its most recent write outside all the scopes that have
> been left, and 0 if there is no such write.

`errno_dynamically_scoped` says that this is the errno at every point of every run of a
native program.

The proof carries three facts through a run together (`History.Follows`): the rule explains
each point passed, the history `Fits` the state, and it only `Grows`: whatever is added
is a write inside the scopes that are open, a write of a thread started since, or the end
of a scope entered since. Growing is what makes leaving a scope work: all writes added since
its start are inside it or on other threads, and so the rule falls back on the writes before.
-/

namespace PosixBridge

open Procedure

/-- The value that a reported step has written to errno, if it has written one. -/
def Report.written? : Report → Option Int32
  | .set value => some value
  | .drop _ value => value
  | _ => none

/-- A write to errno: its value, the thread that made it, and the scopes of that thread in
which it was made. -/
structure Write where
  value : Int32
  thread : Nat
  scopes : List Nat

/-- What there is to know about errno from the stages of a run that have passed. Threads and
scopes are named by numbers in the order of their start. -/
structure History where
  /-- The next name. -/
  fresh : Nat
  /-- The running thread. -/
  thread : Nat
  /-- The scopes that the running thread is in, the innermost first. -/
  scopes : List Nat
  /-- The waiting threads, the nearest ancestor first, and the scopes that each is in. -/
  waiting : List (Nat × List Nat)
  /-- The scopes that have been left. -/
  left : List Nat
  /-- The writes, the most recent first. -/
  writes : List Write
  /-- The numbers that named guards hold. -/
  held : Slots

namespace History

/-- Before the first step: one thread, which has written nothing. -/
def start : History := ⟨1, 0, [], [], [], [], .empty⟩

/-- Whether a write counts for a thread: the thread made it, and has left none of the scopes
in which it was made. -/
def Counts (h : History) (thread : Nat) (w : Write) : Prop :=
  w.thread = thread ∧ ∀ n ∈ w.scopes, n ∉ h.left

instance (h : History) (thread : Nat) (w : Write) : Decidable (h.Counts thread w) :=
  inferInstanceAs (Decidable (_ ∧ _))

/-- A thread's errno: the value of its most recent write that counts, and 0 at first. -/
def errnoOf (h : History) (thread : Nat) : Int32 :=
  match h.writes.find? fun w => h.Counts thread w with
  | some w => w.value
  | none => 0

/-- The running thread's errno. -/
def errno (h : History) : Int32 := h.errnoOf h.thread

/-- The history with one more write of the running thread. -/
def write (h : History) (value : Int32) : History :=
  { h with writes := ⟨value, h.thread, h.scopes⟩ :: h.writes }

/-- The history with one more stage. A step that sets errno is a write, and so is one that
drops a guard in use; a capture takes the number that the rule gives. -/
def next (h : History) : Stage → History
  | .acted (.set value) => h.write value
  | .acted (.capture slot) =>
    match h.held.get? slot with
    | some _ => h
    | none => { h with held := h.held.insert slot h.errno }
  | .acted (.drop slot) =>
    match h.held.get? slot with
    | some value => { h.write value with held := h.held.erase slot }
    | none => h
  | .entered .keeping => { h with fresh := h.fresh + 1, scopes := h.fresh :: h.scopes }
  | .left .keeping =>
    match h.scopes with
    | [] => h
    | n :: scopes => { h with scopes, left := n :: h.left }
  | .entered .thread =>
    { h with
      fresh := h.fresh + 1, thread := h.fresh, scopes := [],
      waiting := (h.thread, h.scopes) :: h.waiting }
  | .left .thread =>
    match h.waiting with
    | [] => h
    | (thread, scopes) :: waiting => { h with thread, scopes, waiting }
  | .acted (.saved _) | .acted (.stub _) | .acted (.log _) | .acted .panic
  | .hosted _ | .ended _ | .uncaught => h

/-- The history with the stages of a part of a run added. -/
def read (h : History) (stages : List Stage) : History := stages.foldl next h

/-- The history of a run that has passed the given stages. -/
def ofCourse (stages : List Stage) : History := start.read stages

theorem read_append (h : History) (as bs : List Stage) :
    h.read (as ++ bs) = (h.read as).read bs :=
  List.foldl_append

/-- All threads there are, the running one first, with the scopes that they are in. -/
def threads (h : History) : List (Nat × List Nat) := (h.thread, h.scopes) :: h.waiting

/-- The names of all threads. -/
def names (h : History) : List Nat := h.thread :: h.waiting.map Prod.fst

/-- All scopes that some thread is in. -/
def entered (h : History) : List Nat := h.scopes ++ h.waiting.flatMap Prod.snd

/-! ## Which write a thread's errno comes from -/

/-- With no write that counts, errno is the 0 that a thread starts with. -/
theorem errnoOf_eq_zero {h : History} {thread : Nat}
    (hnone : ∀ w ∈ h.writes, ¬ h.Counts thread w) : h.errnoOf thread = 0 := by
  have hfind : h.writes.find? (fun w => h.Counts thread w) = none := by
    rw [List.find?_eq_none]
    intro w hmem
    simpa using hnone w hmem
  unfold errnoOf
  rw [hfind]

/-- If the last write counts, errno is its value. -/
theorem errnoOf_of_counts {h : History} {thread : Nat} {w : Write} {older : List Write}
    (hw : h.writes = w :: older) (hc : h.Counts thread w) : h.errnoOf thread = w.value := by
  unfold errnoOf
  rw [hw, List.find?_cons, decide_eq_true hc]

/-- A thread's errno does not change by writes that do not count for it, as long as no scope
of an older write is left. -/
theorem errnoOf_congr {h h' : History} {thread : Nat} {new : List Write}
    (hw : h'.writes = new ++ h.writes) (hnew : ∀ w ∈ new, ¬ h'.Counts thread w)
    (hold : ∀ w ∈ h.writes, ∀ n ∈ w.scopes, n ∈ h'.left ↔ n ∈ h.left) :
    h'.errnoOf thread = h.errnoOf thread := by
  have hskip : new.find? (fun w => h'.Counts thread w) = none := by
    rw [List.find?_eq_none]
    intro w hmem
    simpa using hnew w hmem
  have hsame : h.writes.find? (fun w => h'.Counts thread w) =
      h.writes.find? (fun w => h.Counts thread w) := by
    refine List.find?_congr (fun w hmem => decide_eq_decide.mpr ?_)
    refine and_congr_right (fun _ => forall₂_congr fun n hn => not_congr ?_)
    exact hold w hmem n hn
  unfold errnoOf
  rw [hw, List.find?_append, hskip, Option.none_or, hsame]

/-- Names are used as they are meant: every name in use has been given out, threads have
different names, and no thread is in a scope that has been left. -/
structure Sound (h : History) : Prop where
  names_lt : ∀ n ∈ h.names, n < h.fresh
  distinct : h.names.Nodup
  entered_open : ∀ n ∈ h.entered, n < h.fresh ∧ n ∉ h.left
  writes_lt : ∀ w ∈ h.writes, w.thread < h.fresh ∧ ∀ n ∈ w.scopes, n < h.fresh
  left_lt : ∀ n ∈ h.left, n < h.fresh

/-- The rule gives the errno of every thread in the state, and the guards are those held. -/
structure Fits (h : History) (s : State) : Prop extends h.Sound where
  running : s.errno = h.errno
  suspended : s.waiting = h.waiting.map fun t => h.errnoOf t.1
  guards : s.slots = h.held

/-- What a finished part of a run adds: writes of the running thread inside all its open
scopes, writes of threads started since, and ends of scopes entered since. -/
structure Grows (h h' : History) : Prop where
  fresh_le : h.fresh ≤ h'.fresh
  threads_eq : h'.threads = h.threads
  writes : ∃ new, h'.writes = new ++ h.writes ∧ ∀ w ∈ new,
    h.fresh ≤ w.thread ∨ w.thread = h.thread ∧ ∀ n ∈ h.scopes, n ∈ w.scopes
  left_kept : ∀ n ∈ h.left, n ∈ h'.left
  left_new : ∀ n ∈ h'.left, n ∈ h.left ∨ h.fresh ≤ n

variable {h h₁ h₂ : History} {s t : State}

theorem threads_eq_iff : h₁.threads = h₂.threads ↔
    h₁.thread = h₂.thread ∧ h₁.scopes = h₂.scopes ∧ h₁.waiting = h₂.waiting := by
  simp [threads, and_assoc]

theorem grows_refl (h : History) : h.Grows h :=
  ⟨Nat.le_refl _, rfl, ⟨[], rfl, by simp⟩, fun _ hn => hn, fun _ hn => Or.inl hn⟩

/-- One part after another adds to the same threads and scopes. -/
theorem Grows.trans (h01 : h.Grows h₁) (h12 : h₁.Grows h₂) : h.Grows h₂ := by
  obtain ⟨new₁, hw₁, hnew₁⟩ := h01.writes
  obtain ⟨new₂, hw₂, hnew₂⟩ := h12.writes
  obtain ⟨hthread, hscopes, -⟩ := threads_eq_iff.mp h01.threads_eq
  refine ⟨Nat.le_trans h01.fresh_le h12.fresh_le, h12.threads_eq.trans h01.threads_eq,
    ⟨new₂ ++ new₁, by rw [hw₂, hw₁, List.append_assoc], ?_⟩,
    fun n hn => h12.left_kept n (h01.left_kept n hn), ?_⟩
  · intro w hw
    rcases List.mem_append.mp hw with hw | hw
    · rcases hnew₂ w hw with hlt | hin
      · exact Or.inl (Nat.le_trans h01.fresh_le hlt)
      · rw [hthread, hscopes] at hin
        exact Or.inr hin
    · exact hnew₁ w hw
  · intro n hn
    rcases h12.left_new n hn with hn | hn
    · exact h01.left_new n hn
    · exact Or.inr (Nat.le_trans h01.fresh_le hn)

/-- No scope of an older write is left while a history grows. -/
theorem Grows.left_iff (hg : h.Grows h₁) (hs : h.Sound) {w : Write} (hw : w ∈ h.writes)
    {n : Nat} (hn : n ∈ w.scopes) : n ∈ h₁.left ↔ n ∈ h.left := by
  refine ⟨fun hl => ?_, hg.left_kept n⟩
  have hlt := (hs.writes_lt w hw).2 n hn
  rcases hg.left_new n hl with hl | hge
  · exact hl
  · omega

/-- Growth does not touch the waiting threads. -/
theorem Grows.errnoOf_waiting (hg : h.Grows h₁) (hs : h.Sound) {u : Nat × List Nat}
    (hu : u ∈ h.waiting) : h₁.errnoOf u.1 = h.errnoOf u.1 := by
  obtain ⟨new, hw, hnew⟩ := hg.writes
  refine errnoOf_congr hw ?_ (fun w hw n hn => hg.left_iff hs hw hn)
  intro w hmem hc
  -- Only the running thread and newer threads have written, and `u` is neither.
  have hname : u.1 ∈ h.waiting.map Prod.fst := List.mem_map_of_mem hu
  have hlt : u.1 < h.fresh := hs.names_lt _ (List.mem_cons_of_mem _ hname)
  have hne : u.1 ≠ h.thread := fun he => (List.nodup_cons.mp hs.distinct).1 (he ▸ hname)
  rcases hnew w hmem with hge | ⟨hthread, -⟩
  · have := hc.1
    omega
  · exact hne (hc.1.symm.trans hthread)

/-- So the waiting threads have the same errno at the end of a part as at its start. -/
theorem Grows.waiting_eq (hg : h.Grows h₁) (hf : h.Fits s) (hf₁ : h₁.Fits t) :
    t.waiting = s.waiting := by
  rw [hf₁.suspended, hf.suspended, (threads_eq_iff.mp hg.threads_eq).2.2]
  exact List.map_congr_left (fun u hu => hg.errnoOf_waiting hf.toSound hu)

/-! ## The points of a run -/

/-- A history with the same threads and the same errno for each fits the same cells. -/
theorem Fits.of_same (hf : h.Fits s) (hs : h₁.Sound) (hthreads : h₁.threads = h.threads)
    (hsame : ∀ u ∈ h.names, h₁.errnoOf u = h.errnoOf u) (herrno : t.errno = s.errno)
    (hwaiting : t.waiting = s.waiting) (hslots : t.slots = h₁.held) : h₁.Fits t := by
  obtain ⟨hthread, -, hwait⟩ := threads_eq_iff.mp hthreads
  refine ⟨hs, ?_, ?_, hslots⟩
  · rw [herrno, hf.running, errno, errno, hthread]
    exact (hsame _ (List.mem_cons_self ..)).symm
  · rw [hwaiting, hf.suspended, hwait]
    refine List.map_congr_left fun u hu => (hsame u.1 ?_).symm
    exact List.mem_cons_of_mem _ (List.mem_map_of_mem hu)

/-- Giving out the next name, to a scope or to a thread, keeps names sound. -/
theorem Sound.enter (hs : h.Sound) (hfresh : h₁.fresh = h.fresh + 1)
    (hnames : ∀ n ∈ h₁.names, n = h.fresh ∨ n ∈ h.names) (hdistinct : h₁.names.Nodup)
    (hentered : ∀ n ∈ h₁.entered, n = h.fresh ∨ n ∈ h.entered)
    (hwrites : h₁.writes = h.writes) (hleft : h₁.left = h.left) : h₁.Sound := by
  refine ⟨?_, hdistinct, ?_, ?_, ?_⟩
  · intro n hn
    rcases hnames n hn with rfl | hn
    · omega
    · have := hs.names_lt n hn
      omega
  · intro n hn
    rw [hleft]
    rcases hentered n hn with rfl | hn
    · exact ⟨by omega, fun hl => Nat.lt_irrefl _ (hs.left_lt _ hl)⟩
    · obtain ⟨hlt, hopen⟩ := hs.entered_open n hn
      exact ⟨by omega, hopen⟩
  · intro w hw
    rw [hwrites] at hw
    obtain ⟨hthread, hscopes⟩ := hs.writes_lt w hw
    exact ⟨by omega, fun n hn => by have := hscopes n hn; omega⟩
  · intro n hn
    rw [hleft] at hn
    have := hs.left_lt n hn
    omega

/-- Entering a scope changes no errno. -/
theorem fits_entered_keeping (hf : h.Fits s) : (h.next (.entered .keeping)).Fits s := by
  refine ⟨hf.toSound.enter rfl (fun n hn => Or.inr hn) hf.distinct ?_ rfl rfl,
    hf.running, hf.suspended, hf.guards⟩
  intro n hn
  exact List.mem_cons.mp hn

/-- A new thread has written nothing, so its errno is 0. -/
theorem fits_entered_thread (hf : h.Fits s) : (h.next (.entered .thread)).Fits s.spawn := by
  have hzero : (h.next (.entered .thread)).errno = 0 := by
    refine errnoOf_eq_zero (fun w hw hc => ?_)
    have hlt := (hf.writes_lt w hw).1
    have heq : w.thread = h.fresh := hc.1
    omega
  refine ⟨hf.toSound.enter rfl ?_ ?_ (fun n hn => Or.inr hn) rfl rfl, hzero.symm, ?_,
    hf.guards⟩
  · intro n hn
    exact List.mem_cons.mp hn
  · refine List.nodup_cons.mpr ⟨fun hmem => ?_, hf.distinct⟩
    exact Nat.lt_irrefl _ (hf.names_lt _ hmem)
  · -- The parent becomes the first of the waiting threads.
    show s.errno :: s.waiting = _
    rw [hf.running, hf.suspended]
    rfl

/-! ## Leaving a scope or a thread -/

/-- The history `h₂` once the scope that `h` entered next has been left. -/
def closed (h h₂ : History) : History :=
  { h₂ with scopes := h.scopes, left := h.fresh :: h₂.left }

/-- The history `h₂` once the thread that `h` started next has ended. -/
def joined (h h₂ : History) : History :=
  { h₂ with thread := h.thread, scopes := h.scopes, waiting := h.waiting }

/-- The scope that is left is the one that was entered, whatever happened in it. -/
theorem next_left_keeping (hg : (h.next (.entered .keeping)).Grows h₂) :
    h₂.next (.left .keeping) = h.closed h₂ := by
  obtain ⟨-, hscopes, -⟩ := threads_eq_iff.mp hg.threads_eq
  unfold next
  rw [hscopes]
  rfl

/-- The thread that goes on is the one that has been waiting. -/
theorem next_left_thread (hg : (h.next (.entered .thread)).Grows h₂) :
    h₂.next (.left .thread) = h.joined h₂ := by
  obtain ⟨-, -, hwaiting⟩ := threads_eq_iff.mp hg.threads_eq
  unfold next
  rw [hwaiting]
  rfl

/-- Seen from outside, a scope adds writes inside the scopes around it. -/
theorem grows_closed (hg : (h.next (.entered .keeping)).Grows h₂) : h.Grows (h.closed h₂) := by
  obtain ⟨hthread, -, hwaiting⟩ := threads_eq_iff.mp hg.threads_eq
  obtain ⟨new, hw, hnew⟩ := hg.writes
  refine ⟨Nat.le_of_succ_le hg.fresh_le, threads_eq_iff.mpr ⟨hthread, rfl, hwaiting⟩,
    ⟨new, hw, ?_⟩, fun n hn => List.mem_cons_of_mem _ (hg.left_kept n hn), ?_⟩
  · intro w hmem
    rcases hnew w hmem with hge | ⟨hon, hin⟩
    · exact Or.inl (Nat.le_of_succ_le hge)
    · exact Or.inr ⟨hon, fun n hn => hin n (List.mem_cons_of_mem _ hn)⟩
  · intro n hn
    rcases List.mem_cons.mp hn with rfl | hn
    · exact Or.inr (Nat.le_refl _)
    · exact (hg.left_new n hn).imp_right Nat.le_of_succ_le

/-- Seen from outside, a thread adds writes of newer threads only. -/
theorem grows_joined (hg : (h.next (.entered .thread)).Grows h₂) : h.Grows (h.joined h₂) := by
  obtain ⟨new, hw, hnew⟩ := hg.writes
  refine ⟨Nat.le_of_succ_le hg.fresh_le, rfl, ⟨new, hw, ?_⟩, hg.left_kept, ?_⟩
  · intro w hmem
    -- The thread is new, so what it has written itself is a new thread's as well.
    rcases hnew w hmem with hge | ⟨hon, -⟩
    · exact Or.inl (Nat.le_of_succ_le hge)
    · exact Or.inl (Nat.le_of_eq hon.symm)
  · intro n hn
    exact (hg.left_new n hn).imp_right Nat.le_of_succ_le

/-- No thread is in the scope that has just been left. -/
theorem sound_closed (hs : h.Sound) (hg : (h.next (.entered .keeping)).Grows h₂)
    (hs₂ : h₂.Sound) : (h.closed h₂).Sound := by
  obtain ⟨-, hscopes, hwaiting⟩ := threads_eq_iff.mp hg.threads_eq
  have hinside : h₂.entered = h.fresh :: h.entered := by
    rw [entered, hscopes, hwaiting]
    rfl
  have houtside : (h.closed h₂).entered = h.entered := by
    rw [entered, show (h.closed h₂).waiting = h.waiting from hwaiting]
    rfl
  refine ⟨hs₂.names_lt, hs₂.distinct, ?_, hs₂.writes_lt, ?_⟩
  · intro n hn
    rw [houtside] at hn
    -- The scope that has just been left has a newer name than those around it.
    have hlt := (hs.entered_open n hn).1
    have hopen := hs₂.entered_open n (by rw [hinside]; exact List.mem_cons_of_mem _ hn)
    refine ⟨hopen.1, fun hl => ?_⟩
    rcases List.mem_cons.mp hl with rfl | hl
    · exact Nat.lt_irrefl _ hlt
    · exact hopen.2 hl
  · intro n hn
    rcases List.mem_cons.mp hn with rfl | hn
    · exact hg.fresh_le
    · exact hs₂.left_lt n hn

/-- No thread goes by the name of the one that has ended. -/
theorem sound_joined (hg : (h.next (.entered .thread)).Grows h₂) (hs₂ : h₂.Sound) :
    (h.joined h₂).Sound := by
  obtain ⟨hthread, hscopes, hwaiting⟩ := threads_eq_iff.mp hg.threads_eq
  have hnames : h₂.names = h.fresh :: h.names := by
    rw [names, hthread, hwaiting]
    rfl
  have hentered : h₂.entered = h.entered := by
    rw [entered, hscopes, hwaiting]
    rfl
  refine ⟨fun n hn => hs₂.names_lt n ?_, ?_, fun n hn => hs₂.entered_open n ?_,
    hs₂.writes_lt, hs₂.left_lt⟩
  · rw [hnames]
    exact List.mem_cons_of_mem _ hn
  · have hdistinct := hs₂.distinct
    rw [hnames] at hdistinct
    exact (List.nodup_cons.mp hdistinct).2
  · rw [hentered]
    exact hn

/-- A history that has grown by writes that count for no thread fits the same cells. -/
theorem Fits.of_grows {new : List Write} (hf : h.Fits s) (hs : h₁.Sound) (hg : h.Grows h₁)
    (hw : h₁.writes = new ++ h.writes)
    (hnew : ∀ w ∈ new, ∀ u ∈ h.names, ¬ h₁.Counts u w) (herrno : t.errno = s.errno)
    (hwaiting : t.waiting = s.waiting) (hslots : t.slots = h₁.held) : h₁.Fits t := by
  refine hf.of_same hs hg.threads_eq (fun u hu => ?_) herrno hwaiting hslots
  exact errnoOf_congr hw (fun w hmem => hnew w hmem u hu)
    (fun w hmem n hn => hg.left_iff hf.toSound hmem hn)

/-- What was added between the start and the end of a scope counts for no older thread, so
its end brings back the errno from before its start. -/
theorem fits_closed (hf : h.Fits s) (hg : (h.next (.entered .keeping)).Grows h₂)
    (hf₂ : h₂.Fits t) : (h.closed h₂).Fits { t with errno := s.errno } := by
  have hwaiting : t.waiting = s.waiting := hg.waiting_eq (fits_entered_keeping hf) hf₂
  obtain ⟨new, hw, hnew⟩ := hg.writes
  refine hf.of_grows (sound_closed hf.toSound hg hf₂.toSound) (grows_closed hg) hw ?_ rfl
    hwaiting hf₂.guards
  intro w hmem u hu ⟨hon, hopen⟩
  -- Either the writing thread is too new to be `u`, or the write is in the scope just left.
  rcases hnew w hmem with hge | ⟨-, hin⟩
  · have hlt := hf.names_lt u hu
    have : h.fresh + 1 ≤ w.thread := hge
    omega
  · exact hopen h.fresh (hin _ (List.mem_cons_self ..)) (List.mem_cons_self ..)

/-- A thread writes to its own errno only, so its end finds its parent's as it was. -/
theorem fits_joined (hf : h.Fits s) (hg : (h.next (.entered .thread)).Grows h₂)
    (hf₂ : h₂.Fits t) : (h.joined h₂).Fits t.join := by
  have hwaiting : t.waiting = s.errno :: s.waiting :=
    hg.waiting_eq (fits_entered_thread hf) hf₂
  obtain ⟨new, hw, hnew⟩ := hg.writes
  rw [State.join_eq hwaiting]
  refine hf.of_grows (sound_joined hg hf₂.toSound) (grows_joined hg) hw ?_ rfl rfl
    hf₂.guards
  intro w hmem u hu ⟨hon, _⟩
  have hlt := hf.names_lt u hu
  rcases hnew w hmem with hge | ⟨hown, -⟩
  · have : h.fresh + 1 ≤ w.thread := hge
    omega
  · have : w.thread = h.fresh := hown
    omega

/-! ## Writes -/

/-- A write adds itself, inside the scopes that are open. -/
theorem grows_write (h : History) (value : Int32) : h.Grows (h.write value) := by
  refine ⟨Nat.le_refl _, rfl, ⟨[⟨value, h.thread, h.scopes⟩], rfl, fun w hw => ?_⟩,
    fun _ hn => hn, fun _ hn => Or.inl hn⟩
  obtain rfl := List.mem_singleton.mp hw
  exact Or.inr ⟨rfl, fun _ hn => hn⟩

/-- A write counts at once, because the scopes it is in are open. -/
theorem fits_write (hf : h.Fits s) (value : Int32) :
    (h.write value).Fits { s with errno := value } := by
  have hopen (n : Nat) (hn : n ∈ h.scopes) := hf.entered_open n (List.mem_append_left _ hn)
  have hsound : (h.write value).Sound := by
    refine ⟨hf.names_lt, hf.distinct, hf.entered_open, fun w hw => ?_, hf.left_lt⟩
    rcases List.mem_cons.mp hw with rfl | hw
    · exact ⟨hf.names_lt _ (List.mem_cons_self ..), fun n hn => (hopen n hn).1⟩
    · exact hf.writes_lt w hw
  have hcounts : (h.write value).Counts h.thread ⟨value, h.thread, h.scopes⟩ :=
    ⟨rfl, fun n hn => (hopen n hn).2⟩
  refine ⟨hsound, (errnoOf_of_counts rfl hcounts).symm, ?_, hf.guards⟩
  show s.waiting = _
  rw [hf.suspended]
  exact List.map_congr_left fun u hu => ((h.grows_write value).errnoOf_waiting hf.toSound hu).symm

/-- The rule does not ask which numbers are held. -/
theorem Fits.holding (hf : h.Fits s) (slots : Slots) :
    Fits { h with held := slots } { s with slots := slots } :=
  ⟨⟨hf.names_lt, hf.distinct, hf.entered_open, hf.writes_lt, hf.left_lt⟩, hf.running,
    hf.suspended, rfl⟩

theorem Grows.holding (hg : h.Grows h₁) (slots : Slots) : h.Grows { h₁ with held := slots } :=
  ⟨hg.fresh_le, hg.threads_eq, hg.writes, hg.left_kept, hg.left_new⟩

/-! ## Runs -/

/-- At every point of the trace, the rule gives the errno that is noted there. -/
def Explains (h : History) : Trace → List Stage → Prop
  | [], [] => True
  | m :: trace, stage :: stages =>
    m.errno = (h.next stage).errno ∧ (h.next stage).Explains trace stages
  | [], _ :: _ | _ :: _, [] => False

/-- A finished part of a run: its points are explained, and its history fits and grows. -/
structure Follows (h : History) (trace : Trace) (stages : List Stage) (s : State) : Prop where
  explains : h.Explains trace stages
  fits : (h.read stages).Fits s
  grows : h.Grows (h.read stages)

section
variable {trace xs ys : Trace} {stages as bs : List Stage}

theorem Explains.append (hx : h.Explains xs as) (hy : (h.read as).Explains ys bs) :
    h.Explains (xs ++ ys) (as ++ bs) := by
  induction xs generalizing h as with
  | nil =>
    cases as with
    | nil => exact hy
    | cons => exact absurd hx id
  | cons m xs ih =>
    cases as with
    | nil => exact absurd hx id
    | cons stage as => exact ⟨hx.1, ih hx.2 hy⟩

/-- The stages up to a mark explain its errno. -/
theorem Explains.errno_eq {past future : Trace} {m : Mark}
    (hx : h.Explains (past ++ m :: future) stages) :
    m.errno = (h.read (stages.take (past.length + 1))).errno := by
  induction past generalizing h stages with
  | nil =>
    cases stages with
    | nil => exact absurd hx id
    | cons stage stages => exact hx.1
  | cons m' past ih =>
    cases stages with
    | nil => exact absurd hx id
    | cons stage stages => exact ih hx.2

theorem follows_nil (hf : h.Fits s) : h.Follows [] [] s :=
  ⟨trivial, hf, grows_refl h⟩

theorem Follows.append (hx : h.Follows xs as s) (hy : (h.read as).Follows ys bs t) :
    h.Follows (xs ++ ys) (as ++ bs) t := by
  refine ⟨hx.explains.append hy.explains, ?_, ?_⟩
  · rw [read_append]
    exact hy.fits
  · rw [read_append]
    exact hx.grows.trans hy.grows

/-- One mark is explained if its stage brings the history to the state that the mark is from. -/
theorem follows_one {stage : Stage} {point : Point} (hfit : (h.next stage).Fits t)
    (hgrows : h.Grows (h.next stage)) : h.Follows [⟨point, t.errno⟩] [stage] t :=
  ⟨⟨hfit.running, trivial⟩, hfit, hgrows⟩

/-- A stage that the rule passes over, at a state that may differ in the log settings only. -/
theorem follows_quiet {stage : Stage} {point : Point} (hf : h.Fits s) (hstage : h.next stage = h)
    (herrno : t.errno = s.errno) (hwaiting : t.waiting = s.waiting)
    (hslots : t.slots = s.slots) : h.Follows [⟨point, t.errno⟩] [stage] t := by
  have hfit : h.Fits t := hf.of_same hf.toSound rfl (fun _ _ => rfl) herrno hwaiting
    (hslots.trans hf.guards)
  refine follows_one ?_ ?_
  · rw [hstage]
    exact hfit
  · rw [hstage]
    exact grows_refl h

/-- The rule follows every simple step: those on slots by the numbers that it has noted. -/
theorem follows_action (a : Action Call) (hf : h.Fits s) :
    h.Follows [⟨.reported (a.reported s), (a.after s).errno⟩] [.acted a] (a.after s) := by
  cases a with
  | set value => exact follows_one (fits_write hf value) (grows_write h value)
  | saved | stub | log | panic => exact follows_quiet hf rfl rfl rfl rfl
  | capture slot =>
    cases hs : s.slots.get? slot with
    | some value =>
      have hnext : h.next (.acted (.capture slot)) = h := by simp [next, ← hf.guards, hs]
      rw [Action.after_capture_of_held hs]
      exact follows_quiet hf hnext rfl rfl rfl
    | none =>
      -- The number captured is the errno of the state, which is the one that the rule gives.
      have hnext : h.next (.acted (.capture slot)) =
          { h with held := s.slots.insert slot s.errno } := by
        simp [next, ← hf.guards, hs, hf.running]
      rw [Action.after_capture_of_free hs]
      refine follows_one ?_ ?_
      · rw [hnext]
        exact hf.holding _
      · rw [hnext]
        exact (grows_refl h).holding _
  | drop slot =>
    cases hs : s.slots.get? slot with
    | none =>
      have hnext : h.next (.acted (.drop slot)) = h := by simp [next, ← hf.guards, hs]
      rw [Action.after_drop_of_free hs]
      exact follows_quiet hf hnext rfl rfl rfl
    | some value =>
      have hnext : h.next (.acted (.drop slot)) =
          { h.write value with held := s.slots.erase slot } := by
        simp [next, ← hf.guards, hs]
      rw [Action.after_drop_of_held hs]
      refine follows_one ?_ ?_
      · rw [hnext]
        exact (fits_write hf value).holding _
      · rw [hnext]
        exact (grows_write h value).holding _

/-- A part of a run between the mark that enters something and the mark that leaves it. -/
theorem Follows.around {first last : Stage} {p q : Point} {errno : Int32} {u : State}
    (hbody : (h.next first).Follows trace stages t) (herrno : errno = (h.next first).errno)
    (hfit : (((h.next first).read stages).next last).Fits u)
    (hgrows : h.Grows (((h.next first).read stages).next last)) :
    h.Follows (⟨p, errno⟩ :: (trace ++ [⟨q, u.errno⟩])) (first :: (stages ++ [last])) u := by
  have hread : h.read (first :: (stages ++ [last])) =
      ((h.next first).read stages).next last := read_append (h.next first) stages [last]
  refine ⟨⟨herrno, hbody.explains.append ⟨hfit.running, trivial⟩⟩, ?_, ?_⟩
  · rw [hread]
    exact hfit
  · rw [hread]
    exact hgrows

/-- A scope around a part of a run, left at the errno that it was entered with. -/
theorem Follows.keeping (hf : h.Fits s)
    (hbody : (h.next (.entered .keeping)).Follows trace stages t) :
    h.Follows (⟨.entered .keeping, s.errno⟩ :: (trace ++ [⟨.left .keeping, s.errno⟩]))
      (.entered .keeping :: (stages ++ [.left .keeping])) { t with errno := s.errno } := by
  have hfit := fits_closed hf hbody.grows hbody.fits
  have hgrows := grows_closed hbody.grows
  rw [← next_left_keeping hbody.grows] at hfit hgrows
  exact hbody.around hf.running hfit hgrows

/-- A thread around a part of a run, with an errno of its own. -/
theorem Follows.thread (hf : h.Fits s)
    (hbody : (h.next (.entered .thread)).Follows trace stages t) :
    h.Follows (⟨.entered .thread, 0⟩ :: (trace ++ [⟨.left .thread, t.join.errno⟩]))
      (.entered .thread :: (stages ++ [.left .thread])) t.join := by
  have hfit := fits_joined hf hbody.grows hbody.fits
  have hgrows := grows_joined hbody.grows
  rw [← next_left_thread hbody.grows] at hfit hgrows
  exact hbody.around (fits_entered_thread hf).running hfit hgrows

/-- A step with a body, before it reports, around a body that any fitting history follows. -/
theorem follows_scope {head : Scope HostedCall} (hf : h.Fits s)
    (hbody : ∀ {h : History}, h.Fits (head.inner s) → h.Follows trace stages t) :
    h.Follows (head.opening s ++ (trace ++ head.closing s t))
      (head.before ++ (stages ++ head.behind)) (head.after s t) := by
  cases head with
  | call type raw => exact Follows.keeping hf (hbody (fits_entered_keeping hf))
  | guard => exact Follows.keeping hf (hbody (fits_entered_keeping hf))
  | posix c =>
    have hfit := fits_entered_keeping hf
    have hhost : (h.next (.entered .keeping)).Follows
        [⟨.reported (.host c.op c.args), s.errno⟩] [.hosted c] s :=
      follows_quiet hfit rfl rfl rfl rfl
    exact Follows.keeping hf (hhost.append (hbody hfit))
  | recover =>
    show h.Follows (trace ++ []) (stages ++ []) t
    rw [List.append_nil, List.append_nil]
    exact hbody hf
  | thread => exact Follows.thread hf (hbody (fits_entered_thread hf))

/-- A body starts in a history of its own, so the relation is one over all histories. -/
theorem composes_follows : Program.Composes fun s trace stages t =>
    ∀ {h : History}, h.Fits s → h.Follows trace stages t where
  nil _ _ hf := follows_nil hf
  append hxs hys _ hf := (hxs hf).append (hys (hxs hf).fits)
  scope _ _ _ _ _ hbody _ hf := follows_scope hf hbody
  ended _ _ _ _ _ hf := follows_quiet hf rfl rfl rfl rfl
  uncaught _ _ hf := follows_quiet hf rfl rfl rfl rfl

/-- The rule fits the state in which a program starts. -/
theorem fits_start : start.Fits .initial :=
  ⟨⟨by decide, by decide, by decide, by decide, by decide⟩, by decide, rfl, rfl⟩

/-- The rule follows every native program. -/
theorem follows_execute (p : Program) :
    start.Follows (p.execute .native).trace p.wholeCourse (p.execute .native).state :=
  Program.execute_rel composes_follows p (fun a _ _ _ hf => follows_action a hf) fits_start

end

/-- No event changes errno but a step that sets it and a drop of a guard in use. -/
theorem errno_eq_of_quiet (p : Program) :
    ∀ m ∈ (p.execute .native).trace.moments 0, m.event.report.written? = none →
      m.event.errno = m.before := by
  refine Program.forall_moments (fun a s => ?_) (fun _ _ _ => rfl) (fun _ _ _ _ _ _ => rfl)
    (fun _ _ => rfl) p
  cases a with
  | set value => exact fun h => absurd h (by simp [Action.reported, Report.written?])
  | saved | stub | log | panic => exact fun _ => rfl
  | capture slot =>
    intro _
    cases hs : s.slots.get? slot with
    | none => rw [Action.after_capture_of_free hs]
    | some held => rw [Action.after_capture_of_held hs]
  | drop slot =>
    intro h
    have hs : s.slots.get? slot = none := h
    rw [Action.after_drop_of_free hs]

end History

/-- **Errno is dynamically scoped.** A native run goes through the course of its program, one
mark for each stage. At every mark, the running thread's errno is the value of the last write
that the thread made outside all its calls, guards and forwarded operations that have been
left by then, normally or by a panic, and 0 if there is none; and so it is when the run has
ended. From the mark before an event to the event, errno changes at a write only. -/
theorem errno_dynamically_scoped (p : Program) :
    let run := p.execute .native
    let course := p.wholeCourse
    List.Forall₂ Mark.Shows run.trace course ∧
    (∀ past m future, run.trace = past ++ m :: future →
      m.errno = (History.ofCourse (course.take (past.length + 1))).errno) ∧
    run.state.errno = (History.ofCourse course).errno ∧
    ∀ m ∈ run.trace.moments 0, m.event.report.written? = none → m.event.errno = m.before := by
  have hrun := History.follows_execute p
  refine ⟨p.shows_execute, ?_, hrun.fits.running, History.errno_eq_of_quiet p⟩
  intro past m future htrace
  have hexplains := hrun.explains
  rw [htrace] at hexplains
  exact hexplains.errno_eq

/-- Of two writes in a guard, one by a thread, none counts after it. -/
example :
    let inner : Program := .scope .thread (.step (.set 7) .done) (.step (.set 5) .done)
    let p : Program := .step (.set 2) (.scope .guard inner .done)
    (History.ofCourse (p.wholeCourse.take 7)).errno = 5 ∧
      (History.ofCourse p.wholeCourse).errno = 2 := by
  decide

end PosixBridge
