import PosixBridge.Trace

/-!
# Procedures that may panic

A procedure starts in a state and ends in one, whichever way it ends: it returns a
value, or it panics. Either way it leaves a trace behind. Sequencing stops at the first
panic; `Procedure.ensuring` runs its last part on both ways out, and
`Procedure.catching` turns a panic into a value.

The procedures form a lawful monad, and everything the bridge does is built from the
primitives below.
-/

namespace PosixBridge

/-- How a run ends: with a value or by a panic. -/
inductive Outcome (α : Type)
  | returned (value : α)
  | panicked
  deriving DecidableEq, Repr

/-- A finished run of a procedure. -/
@[ext] structure Run (α : Type) where
  trace : Trace
  state : State
  outcome : Outcome α

/-- A procedure, as the run it makes of a state. -/
def Procedure (α : Type) := State → Run α

namespace Procedure

variable {α β : Type}

/-- Returns a value and does nothing. -/
protected def pure (a : α) : Procedure α := fun s => ⟨[], s, .returned a⟩

/-- Runs one procedure and then the next, unless the first panics. -/
protected def bind (x : Procedure α) (f : α → Procedure β) : Procedure β := fun s =>
  let first := x s
  match first.outcome with
  | .returned a =>
    let second := f a first.state
    ⟨first.trace ++ second.trace, second.state, second.outcome⟩
  | .panicked => ⟨first.trace, first.state, .panicked⟩

instance : Monad Procedure where
  pure := Procedure.pure
  bind := Procedure.bind

private theorem id_map_eq (x : Procedure α) : id <$> x = x := by
  funext s
  simp only [Functor.map, Procedure.bind]
  cases h : (x s).outcome <;> ext1 <;> simp [Function.comp, Procedure.pure, h]

private theorem pure_bind_eq (a : α) (f : α → Procedure β) : pure a >>= f = f a := by
  funext s
  simp [Bind.bind, Pure.pure, Procedure.bind, Procedure.pure]

private theorem bind_bind_eq {γ : Type} (x : Procedure α) (f : α → Procedure β)
    (g : β → Procedure γ) : x >>= f >>= g = x >>= fun a => f a >>= g := by
  funext s
  simp only [Bind.bind, Procedure.bind]
  cases (x s).outcome with
  | panicked => rfl
  | returned a =>
    dsimp only
    cases (f a (x s).state).outcome <;> simp

instance : LawfulMonad Procedure := LawfulMonad.mk' Procedure id_map_eq pure_bind_eq bind_bind_eq

/-! ## Primitives -/

def getState : Procedure State := fun s => ⟨[], s, .returned s⟩

def modifyState (f : State → State) : Procedure Unit := fun s => ⟨[], f s, .returned ()⟩

/-- Leaves a mark, with the errno of that moment. -/
def mark (point : Point) : Procedure Unit := fun s => ⟨[⟨point, s.errno⟩], s, .returned ()⟩

def panicking : Procedure α := fun s => ⟨[], s, .panicked⟩

/-- Runs `last` after `body`, whichever way `body` ends, and ends as `body` did. -/
def ensuring (body : Procedure α) (last : Procedure Unit) : Procedure α := fun s =>
  let first := body s
  let second := last first.state
  ⟨first.trace ++ second.trace, second.state,
    match second.outcome with
    | .returned _ => first.outcome
    | .panicked => .panicked⟩

/-- Runs `body` and says whether it panicked. -/
def catching (body : Procedure Unit) : Procedure Bool := fun s =>
  let first := body s
  ⟨first.trace, first.state,
    .returned (match first.outcome with
      | .returned _ => false
      | .panicked => true)⟩

/-! ## Errno and reports -/

/-- Reads the running thread's errno. -/
def getErrno : Procedure Int32 := return (← getState).errno

def setErrno (value : Int32) : Procedure Unit := modifyState ({ · with errno := value })

/-- Reports something. -/
def report (r : Report) : Procedure Unit := mark (.reported r)

/-- Runs `body` on a thread of its own and waits for it to end; gives the errno with which
the thread ended. -/
def onThread (body : Procedure Unit) : Procedure Int32 := do
  modifyState State.spawn
  mark (.entered .thread)
  ensuring (do body; getErrno) (do modifyState State.join; mark (.left .thread))

/-! ## How they run

One equation per building block; past this point a procedure is not unfolded. -/

theorem pure_apply (a : α) (s : State) : (pure a : Procedure α) s = ⟨[], s, .returned a⟩ :=
  rfl

/-- After a first part that returns, the second runs from the state it has left. -/
theorem bind_of_returned {x : Procedure α} {f : α → Procedure β} {s t : State}
    {trace : Trace} {a : α} (h : x s = ⟨trace, t, .returned a⟩) :
    (x >>= f) s = ⟨trace ++ (f a t).trace, (f a t).state, (f a t).outcome⟩ := by
  simp [Bind.bind, Procedure.bind, h]

/-- After a first part that panics, nothing runs. -/
theorem bind_of_panicked {x : Procedure α} {f : α → Procedure β} {s t : State}
    {trace : Trace} (h : x s = ⟨trace, t, .panicked⟩) :
    (x >>= f) s = ⟨trace, t, .panicked⟩ := by
  simp [Bind.bind, Procedure.bind, h]

theorem getState_apply (s : State) : getState s = ⟨[], s, .returned s⟩ := rfl

theorem modifyState_apply (f : State → State) (s : State) :
    modifyState f s = ⟨[], f s, .returned ()⟩ := rfl

theorem mark_apply (point : Point) (s : State) :
    mark point s = ⟨[⟨point, s.errno⟩], s, .returned ()⟩ := rfl

theorem getErrno_apply (s : State) : getErrno s = ⟨[], s, .returned s.errno⟩ := rfl

theorem setErrno_apply (value : Int32) (s : State) :
    setErrno value s = ⟨[], { s with errno := value }, .returned ()⟩ := rfl

theorem report_apply (r : Report) (s : State) :
    report r s = ⟨[⟨.reported r, s.errno⟩], s, .returned ()⟩ := rfl

end Procedure

end PosixBridge
