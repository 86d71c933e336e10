import PosixBridge.Proofs.Forwarding
import PosixBridge.Proofs.RoundTrip
import PosixBridge.Proofs.Widths

/-!
# One id in two types

The host answers all its identity queries with an id. The bridge returns the effective ids as
ids and the real ones as numbers, so one and the same answer is encoded and decoded in two
types of one width. The encoder does not notice, for it looks at bits. The decoder does: it
takes every negative number for a failure, and of the ids the top 4095 only.

> `real_and_effective_id_exact`: the two queries return the same bits, and a caller learns the
> same from them, unless these bits read as a number below -4095. That is so for the `Disputed`
> answers: the ids from 2^31 up to the window of the codes, and a sentinel in front of a code
> above that window or of the least code, whose negation is itself.
-/

namespace PosixBridge

open Procedure Bridge

/-! ## One word in two types -/

namespace ReturnType

variable {t u : ReturnType}

/-- What a caller learns from a word, a value being known by its bits. -/
def learned (t : ReturnType) (v : t.Word) : Except Failure Nat := (t.decode v).map BitVec.toNat

theorem learned_of_isError {v : t.Word} (h : t.isError v = true) :
    t.learned v = .error ⟨t.lowCode v⟩ := by
  rw [learned, decode_eq_lowCode h]
  rfl

theorem learned_of_not_isError {v : t.Word} (h : ¬ t.isError v = true) :
    t.learned v = .ok v.toNat := by
  rw [learned, decode_of_not_isError h]
  rfl

/-- The same bits in two types of one width tell the same, unless they are a failure in one
type only. -/
theorem learned_eq_iff (hwidth : t.width = u.width) {v : t.Word} {w : u.Word}
    (hbits : v.toNat = w.toNat) :
    t.learned v = u.learned w ↔ (t.isError v = true ↔ u.isError w = true) := by
  have hcode : t.lowCode v = u.lowCode w := by
    rw [← Int32.toInt_inj, toInt_lowCode, toInt_lowCode, toInt_eq_of_bits hwidth hbits]
  by_cases hv : t.isError v = true
  · by_cases hw : u.isError w = true
    · rw [learned_of_isError hv, learned_of_isError hw, hcode]
      exact iff_of_true rfl (iff_of_true hv hw)
    · rw [learned_of_isError hv, learned_of_not_isError hw]
      exact iff_of_false nofun (fun h => hw (h.mp hv))
  · by_cases hw : u.isError w = true
    · rw [learned_of_not_isError hv, learned_of_isError hw]
      exact iff_of_false nofun (fun h => hv (h.mpr hw))
    · rw [learned_of_not_isError hv, learned_of_not_isError hw, hbits]
      exact iff_of_true rfl (iff_of_false hv hw)

/-- Bits encoded in two types of one width are the same bits again. -/
theorem inBand_bits (hwidth : t.width = u.width) {v : t.Word} {w : u.Word}
    (hbits : v.toNat = w.toNat) (code : Int32) :
    (t.inBand v code).toNat = (u.inBand w code).toNat := by
  obtain rfl : v.cast hwidth = w := BitVec.eq_of_toNat_eq hbits
  rw [inBand_cast, BitVec.toNat_cast]

end ReturnType

/-! ## Numbers and ids -/

open ReturnType

/-- As an id, a word is a failure if it reads as one of the 4095 highest ids. -/
theorem ident_isError_iff {v : ReturnType.ident.Word} :
    ReturnType.ident.isError v = true ↔ v.toInt < 0 ∧ -4095 ≤ v.toInt := by
  rw [isError_iff_toInt]
  exact and_congr_right fun _ => or_iff_right nofun

/-- A number and an id with the same bits tell the same, unless the number is too low for the
code of an id. -/
theorem learned_int_eq_ident_iff {v : ReturnType.int.Word} {w : ReturnType.ident.Word}
    (hbits : v.toNat = w.toNat) :
    ReturnType.int.learned v = ReturnType.ident.learned w ↔ ¬ v.toInt < -4095 := by
  have hreading : v.toInt = w.toInt := toInt_eq_of_bits rfl hbits
  rw [learned_eq_iff (t := .int) (u := .ident) rfl hbits, isError_iff_of_signed rfl,
    ident_isError_iff, ← hreading]
  omega

/-- The answers of a host, an id and the errno that it leaves, that are a failure to a caller
who takes them for a number, and a value to one who takes them for an id. -/
def Disputed (id : Nat) (errno : Int32) : Prop :=
  2 ^ 31 ≤ id ∧ id ≤ 2 ^ 32 - 4096 ∨
    id = 2 ^ 32 - 1 ∧ (4095 < errno.toInt ∨ errno.toInt = -2 ^ 31)

/-- The answer reads below the window exactly where the two types disagree. -/
theorem int_inBand_lt_iff (r : ReturnType.int.Word) (errno : Int32) :
    (ReturnType.int.inBand r errno).toInt < -4095 ↔ Disputed r.toNat errno := by
  unfold Disputed
  by_cases hr : r = ReturnType.int.sentinel
  · have hones : ReturnType.int.sentinel.toNat = 2 ^ 32 - 1 := by decide
    have hcode : (ReturnType.int.encode errno).toInt =
        if errno.toInt = -2 ^ 31 then -2 ^ 31 else -errno.toInt := by
      rw [toInt_encode]
      simp
    rw [hr, inBand_sentinel, hones]
    split at hcode <;> omega
  · have hsigned : r.toInt = if 2 * r.toNat < 2 ^ 32 then (r.toNat : Int)
        else (r.toNat : Int) - 2 ^ 32 := BitVec.toInt_eq_toNat_cond r
    have hne : r.toInt ≠ -1 := fun h => hr (eq_sentinel_iff.mpr h)
    have hlt : r.toNat < 2 ^ 32 := r.isLt
    rw [inBand_of_ne hr]
    split at hsigned <;> omega

/-- A disputed answer is a failure as a number and a value as an id. -/
theorem decode_of_disputed {r : ReturnType.int.Word} {r' : ReturnType.ident.Word}
    (hid : r.toNat = r'.toNat) {errno : Int32} (h : Disputed r.toNat errno) :
    let v' := ReturnType.ident.inBand r' errno
    (∃ f, ReturnType.int.decode (ReturnType.int.inBand r errno) = .error f) ∧
      ReturnType.ident.decode v' = .ok v' := by
  intro v'
  have hlow := (int_inBand_lt_iff r errno).mpr h
  have hreading : (ReturnType.int.inBand r errno).toInt = v'.toInt :=
    toInt_eq_of_bits rfl (inBand_bits (t := .int) (u := .ident) rfl hid errno)
  constructor
  · exact ⟨_, decode_of_isError ((isError_iff_of_signed rfl).mpr (by omega))⟩
  · refine decode_of_not_isError (fun hfails => ?_)
    have hwindow := (ident_isError_iff.mp hfails).2
    omega

/-- An id that is no sentinel comes back as it is. -/
theorem ident_inBand_bits {r : ReturnType.ident.Word} (h : r.toNat ≠ 2 ^ 32 - 1) (errno : Int32) :
    (ReturnType.ident.inBand r errno).toNat = r.toNat := by
  have hne : r ≠ ReturnType.ident.sentinel := by
    rintro rfl
    exact h rfl
  rw [inBand_of_ne hne]

/-- One id and one errno in the two types. -/
theorem inBand_int_ident {r : ReturnType.int.Word} {r' : ReturnType.ident.Word}
    (hid : r.toNat = r'.toNat) (errno : Int32) :
    let v := ReturnType.int.inBand r errno
    let v' := ReturnType.ident.inBand r' errno
    v.toNat = v'.toNat ∧
      (ReturnType.int.learned v = ReturnType.ident.learned v' ↔ ¬ v.toInt < -4095) ∧
      (v.toInt < -4095 ↔ Disputed r.toNat errno) ∧
      (Disputed r.toNat errno →
        (∃ f, ReturnType.int.decode v = .error f) ∧ ReturnType.ident.decode v' = .ok v') ∧
      (r.toNat ≠ 2 ^ 32 - 1 → v'.toNat = r.toNat) := by
  intro v v'
  have hbits : v.toNat = v'.toNat := inBand_bits (t := .int) (u := .ident) rfl hid errno
  refine ⟨hbits, learned_int_eq_ident_iff hbits, int_inBand_lt_iff r errno,
    decode_of_disputed hid, ?_⟩
  rw [hid]
  exact fun hgenuine => ident_inBand_bits hgenuine errno

/-! ## The identity queries -/

/-- Whose id is asked for. -/
inductive Principal
  | user | group
  deriving DecidableEq, Repr

namespace Principal

/-- The query for the real id, which is returned as a number. -/
def real : Principal → Operation
  | .user => .getuid
  | .group => .getgid

/-- The query for the effective id, which is returned as an id. -/
def effective : Principal → Operation
  | .user => .geteuid
  | .group => .getegid

end Principal

/-- **Real and effective ids agree up to a window.** Let a host answer the two queries with one
id and leave one errno behind, whatever else it does and whoever calls. Both callers get the
same bits. They learn the same from them exactly unless the bits read as a number below -4095,
which is exactly when the answer is `Disputed`. Then the real id is a failure to its caller and
the effective id is a value; and any id but the sentinel is returned as it is, so that the
highest ids are refused by one query and told by the other. -/
theorem real_and_effective_id_exact (p : Principal) (host : Host) (s s' : State)
    (args : Arguments p.real.parameters) (args' : Arguments p.effective.parameters)
    {r : p.real.hostResult.Word} {r' : p.effective.hostResult.Word}
    (hreal : (host p.real args s).outcome = .returned r)
    (heffective : (host p.effective args' s').outcome = .returned r')
    (hid : r.toNat = r'.toNat)
    (herrno : (host p.real args s).state.errno = (host p.effective args' s').state.errno) :
    let errno := (host p.real args s).state.errno
    ∃ v v',
      (exported .native host p.real args s).outcome = .returned ⟨v, .silent⟩ ∧
      (exported .native host p.effective args' s').outcome = .returned ⟨v', .silent⟩ ∧
      v.toNat = v'.toNat ∧
      (p.real.result.learned v = p.effective.result.learned v' ↔ ¬ v.toInt < -4095) ∧
      (v.toInt < -4095 ↔ Disputed r.toNat errno) ∧
      (Disputed r.toNat errno →
        (∃ f, p.real.result.decode v = .error f) ∧ p.effective.result.decode v' = .ok v') ∧
      (r.toNat ≠ 2 ^ 32 - 1 → v'.toNat = r.toNat) := by
  intro errno
  have hrun := exported_native_apply host p.real args s
  have hrun' := exported_native_apply host p.effective args' s'
  rw [hreal] at hrun
  rw [heffective, ← herrno] at hrun'
  have hbits : (p.real.ofHost r).toNat = (p.effective.ofHost r').toNat := by
    rw [Operation.toNat_ofHost, Operation.toNat_ofHost, hid]
  rw [← p.real.toNat_ofHost r]
  refine ⟨_, _, congrArg Run.outcome hrun, congrArg Run.outcome hrun', ?_⟩
  cases p with
  | user => exact inBand_int_ident hbits errno
  | group => exact inBand_int_ident hbits errno

/-- The user with the id 3000000000, of whom a host tells both queries, the second on behalf of
a caller whose errno is 7: the real id comes back as a failure, and the effective one as it is. -/
theorem real_and_effective_id_exact_high :
    let host : Host := fun op _ => do
      setErrno 4
      return BitVec.ofNat op.hostResult.width 3000000000
    let s : State := { State.initial with errno := 7 }
    (host .getuid .nil .initial).outcome = .returned 3000000000#32 ∧
      (host .geteuid .nil s).outcome = .returned 3000000000#32 ∧
      ∃ v v',
        (exported .native host .getuid .nil .initial).outcome = .returned ⟨v, .silent⟩ ∧
        (exported .native host .geteuid .nil s).outcome = .returned ⟨v', .silent⟩ ∧
        (∃ f, Operation.getuid.result.decode v = .error f) ∧
        Operation.geteuid.result.decode v' = .ok v' ∧ v'.toNat = 3000000000 := by
  intro host s
  have hreal : (host .getuid .nil .initial).outcome = .returned 3000000000#32 := rfl
  have heffective : (host .geteuid .nil s).outcome = .returned 3000000000#32 := rfl
  obtain ⟨v, v', hv, hv', -, -, -, hread, hgenuine⟩ :=
    real_and_effective_id_exact .user host .initial s .nil .nil hreal heffective rfl rfl
  obtain ⟨hfails, hholds⟩ := hread (.inl (by decide))
  exact ⟨hreal, heffective, v, v', hv, hv', hfails, hholds, hgenuine (by decide)⟩

end PosixBridge
