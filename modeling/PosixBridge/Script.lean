/-!
# Scripts

A script is a list of steps, some of which hold a script of their own. What the steps are
is left open: `α` are the simple ones and `σ` the ones that hold a body. The two kinds of
recursion, along the list and into the bodies, are one recursion here, so functions on
scripts and proofs about them follow a single induction.
-/

namespace PosixBridge

/-- A list of steps, simple or holding a body. -/
inductive Script (α σ : Type)
  | done
  | step (action : α) (rest : Script α σ)
  | scope (head : σ) (body rest : Script α σ)

namespace Script

variable {α β σ τ ε : Type}

/-- Replaces every step, or gives the first refusal, in the order of the script. -/
def traverse (f : α → Except ε β) (g : σ → Except ε τ) : Script α σ → Except ε (Script β τ)
  | done => return done
  | step action rest => return step (← f action) (← traverse f g rest)
  | scope head body rest =>
    return scope (← g head) (← traverse f g body) (← traverse f g rest)

/-- The first answer that a step gives, in the order of the script. -/
def findSome? (f : α → Option ε) (g : σ → Option ε) : Script α σ → Option ε
  | done => none
  | step action rest => (f action).or (findSome? f g rest)
  | scope head body rest => ((g head).or (findSome? f g body)).or (findSome? f g rest)

end Script

end PosixBridge
