import PosixBridge.Proofs.InBand

/-!
# One call to the host, and its answer in one word

What the native build exports under an operation's name is the host's operation of that
name, made to tell its failures in band. The statement is about all hosts: a host may
behave differently for every operation and every argument list, run for as long as it
likes, and call back into the bridge. Only what it reports is fixed, so that a call can be
seen: `Host.reporting` notes the operation, the arguments and the errno it finds, and then
behaves as it pleases.

> `native_call_exact`: one call, of the same operation, with the same arguments and the
> caller's errno; the answer as it is, or the code in place of the sentinel; errno kept.

A host that keeps to the convention of its result type (`Genuine` answers, and codes from 1
to 4095 behind a sentinel) is understood without loss.

> `mmap_sentinel_iff`: a caller of `mmap` gets the address that a host marks a failure with, all
> ones, when the host has failed with the code 1, and never otherwise.
-/

namespace PosixBridge

open Procedure Bridge

/-- The host that reports every call, with the errno it finds, and then behaves as given. -/
def Host.reporting (behave : Host) : Host := fun op args => do
  report (.host op args)
  behave op args

/-- The report comes first, with the errno that the host finds. -/
theorem Host.reporting_apply (behave : Host) (op : Operation)
    (args : Arguments op.parameters) (s : State) :
    Host.reporting behave op args s =
      ⟨⟨.reported (.host op args), s.errno⟩ :: (behave op args s).trace,
        (behave op args s).state, (behave op args s).outcome⟩ := by
  rw [Host.reporting, bind_of_returned (report_apply _ s)]
  rfl

namespace Operation

/-- What a host may answer when a call has succeeded: no negative number, no id at or above
2^31 where ids are returned as numbers, and no id or address in the window of the codes. -/
def Genuine (op : Operation) (r : op.hostResult.Word) : Prop :=
  match op.result.ctype.reading, op.hostResult.ctype.reading with
  | .signed, .signed => 0 ≤ r.toInt
  | .signed, _ => r.toNat < 2 ^ 31
  | _, _ => ¬ (-4095 ≤ r.toInt ∧ r.toInt ≤ -1)

theorem toNat_ofHost (op : Operation) (r : op.hostResult.Word) :
    (op.ofHost r).toNat = r.toNat :=
  BitVec.toNat_cast op.width_hostResult r

/-- The declared type reads the same bits: the signed value stays. -/
theorem toInt_ofHost (op : Operation) (r : op.hostResult.Word) :
    (op.ofHost r).toInt = r.toInt :=
  ReturnType.toInt_eq_of_bits op.width_hostResult.symm (op.toNat_ofHost r)

/-- A genuine answer is neither the sentinel nor mistaken for a failure. -/
theorem Genuine.understood {op : Operation} {r : op.hostResult.Word} (h : op.Genuine r) :
    op.ofHost r ≠ op.result.sentinel ∧ ¬ op.result.Mistakes (op.ofHost r) := by
  rw [Ne, ReturnType.eq_sentinel_iff]
  unfold Genuine at h
  unfold ReturnType.Mistakes
  rw [toInt_ofHost]
  cases hr : op.result.ctype.reading with
  | signed =>
    rw [hr] at h
    have hpos : 0 ≤ r.toInt := by
      cases hh : op.hostResult.ctype.reading with
      | signed => rw [hh] at h; exact h
      | unsigned | address =>
        rw [hh] at h
        have hw : 2 ^ 32 ≤ 2 ^ op.hostResult.ctype.width :=
          Nat.pow_le_pow_right (by decide) op.hostResult.width_ge
        rw [BitVec.toInt_eq_toNat_of_lt (by dsimp only at h; omega)]
        exact Int.natCast_nonneg _
    dsimp only
    omega
  | unsigned | address =>
    rw [hr] at h
    dsimp only at h ⊢
    omega

end Operation

namespace ReturnType

/-- The codes from 1 to 4095 are lost by no type. -/
theorem not_loses {t : ReturnType} {code : Int32} (h1 : 1 ≤ code.toInt)
    (h2 : code.toInt ≤ 4095) : ¬ t.Loses code := by
  unfold Loses
  cases t <;> dsimp only <;> omega

end ReturnType

/-- **One call, understood exactly.** Whatever the host's operation does, as long as it
returns: it is called once, with the caller's arguments and errno, and nothing else is
called around it; its answer `r` comes back as it is, or as the encoded errno if it is the
sentinel; and the caller's errno is what it was. A failure with a code from 1 to 4095 and a
genuine answer are decoded as what they are. -/
theorem native_call_exact (op : Operation) (args : Arguments op.parameters) (behave : Host)
    (s : State) {r : op.hostResult.Word}
    (h : (behave op args s).outcome = .returned r) :
    let run := exported .native (Host.reporting behave) op args s
    let errno := (behave op args s).state.errno
    run.trace.events =
      ⟨.host op args, s.errno⟩ :: Trace.events (behave op args s).trace ∧
    run.state = { (behave op args s).state with errno := s.errno } ∧
    ∃ v, run.outcome = .returned ⟨v, .silent⟩ ∧
      (op.ofHost r = op.result.sentinel → v = op.result.encode errno) ∧
      (op.ofHost r ≠ op.result.sentinel → v = op.ofHost r ∧ v.toNat = r.toNat) ∧
      (op.ofHost r = op.result.sentinel → 1 ≤ errno.toInt → errno.toInt ≤ 4095 →
        op.result.decode v = .error ⟨errno⟩) ∧
      (op.Genuine r → op.result.decode v = .ok (op.ofHost r)) := by
  have hrun := exported_native_apply (Host.reporting behave) op args s
  rw [Host.reporting_apply, h] at hrun
  dsimp only
  rw [hrun]
  refine ⟨?_, rfl, op.result.inBand (op.ofHost r) (behave op args s).state.errno, rfl,
    ?_, ?_, ?_, ?_⟩
  · rw [List.cons_append, Trace.events_entered, Trace.events_reported, Trace.events_append,
      Trace.events_left, Trace.events_nil, List.append_nil]
  · intro hs
    rw [hs, ReturnType.inBand_sentinel]
  · intro hs
    rw [ReturnType.inBand_of_ne hs]
    exact ⟨rfl, op.toNat_ofHost r⟩
  · intro hs h1 h2
    rw [hs, ReturnType.inBand_sentinel, ReturnType.decode_encode (ReturnType.not_loses h1 h2)]
  · intro hg
    exact ReturnType.decode_inBand_of_ne hg.understood.1 hg.understood.2 _

/-- The host on which every call fails with the given code. -/
def Host.failing (code : Int32) : Host := fun op _ => do
  setErrno code
  return op.hostResult.sentinel

/-- A mapping refused for want of memory, asked for with errno 7: the address that the host
marks as failed comes back as the code 12. -/
theorem native_call_exact_mmap :
    let args : Arguments Operation.mmap.parameters :=
      .cons 0x1000#64 (.cons 8192#64 (.cons 3#32 (.cons 34#32 (.cons 0xFFFFFFFF#32
        (.cons 0#64 .nil)))))
    let s : State := { State.initial with errno := 7 }
    (Host.failing 12 .mmap args s).outcome = .returned ReturnType.pointer.sentinel ∧
      (exported .native (.reporting (.failing 12)) .mmap args s).state.errno = 7 ∧
      ∃ v, (exported .native (.reporting (.failing 12)) .mmap args s).outcome =
          .returned ⟨v, .silent⟩ ∧
        v.toInt = -12 ∧ ReturnType.pointer.decode v = .error ⟨12⟩ := by
  intro args s
  obtain ⟨-, hstate, v, hv, hfailed, -, hdecode, -⟩ :=
    native_call_exact .mmap args (.failing 12) s (r := ReturnType.pointer.sentinel) rfl
  refine ⟨rfl, by rw [hstate], v, hv, ?_, hdecode rfl (by decide) (by decide)⟩
  rw [hfailed rfl]
  decide

/-! ## Mappings -/

/-- **The address of a failed mapping.** Where the host has failed, the caller gets the address
whose signed reading is the negated errno, and otherwise the host's address. This is the address
of all ones, the host's own mark of a failure, exactly when the host has failed with the code 1. -/
theorem mmap_sentinel_iff (host : Host) (args : Arguments Operation.mmap.parameters) (s : State)
    {r : ReturnType.pointer.Word} (h : (host .mmap args s).outcome = .returned r) :
    let errno := (host .mmap args s).state.errno
    ∃ v : ReturnType.pointer.Word,
      (exported .native host .mmap args s).outcome = .returned ⟨v, .silent⟩ ∧
      (r = ReturnType.pointer.sentinel → v.toInt = -errno.toInt) ∧
      (r ≠ ReturnType.pointer.sentinel → v = r) ∧
      (v = ReturnType.pointer.sentinel ↔ r = ReturnType.pointer.sentinel ∧ errno = 1) := by
  intro errno
  have hrun := exported_native_apply host .mmap args s
  rw [h] at hrun
  refine ⟨ReturnType.pointer.inBand r errno, congrArg Run.outcome hrun, ?_, ?_,
    ReturnType.inBand_eq_sentinel_iff⟩
  · rintro rfl
    rw [ReturnType.inBand_sentinel]
    exact ReturnType.toInt_encode_of_width_ne (by decide) errno
  · intro hr
    exact ReturnType.inBand_of_ne hr errno

/-- A file that cannot be mapped because its descriptor is bad (code 9), asked for with errno 5. -/
theorem mmap_sentinel_iff_bad_descriptor :
    let args : Arguments Operation.mmap.parameters :=
      .cons 0#64 (.cons 4096#64 (.cons 1#32 (.cons 2#32 (.cons 0xFFFFFFFF#32
        (.cons 0#64 .nil)))))
    let s : State := { State.initial with errno := 5 }
    (Host.failing 9 .mmap args s).outcome = .returned ReturnType.pointer.sentinel ∧
      ∃ v : ReturnType.pointer.Word,
        (exported .native (.failing 9) .mmap args s).outcome = .returned ⟨v, .silent⟩ ∧
        v.toInt = -9 ∧ v ≠ ReturnType.pointer.sentinel := by
  intro args s
  have hfailed : (Host.failing 9 .mmap args s).outcome = .returned ReturnType.pointer.sentinel :=
    rfl
  obtain ⟨v, hv, hcode, -, hones⟩ := mmap_sentinel_iff (.failing 9) args s hfailed
  exact ⟨hfailed, v, hv, hcode rfl, fun h => absurd (hones.mp h).2 (by decide)⟩

/-- A page at the address 0, asked for at this very place and not permitted (code 1): the caller
gets the address of all ones. -/
theorem mmap_not_permitted_sentinel :
    let args : Arguments Operation.mmap.parameters :=
      .cons 0#64 (.cons 4096#64 (.cons 1#32 (.cons 50#32 (.cons 0xFFFFFFFF#32
        (.cons 0#64 .nil)))))
    (exported .native (.failing 1) .mmap args .initial).outcome =
      .returned ⟨0xFFFFFFFFFFFFFFFF#64, .silent⟩ := by
  rfl

end PosixBridge
