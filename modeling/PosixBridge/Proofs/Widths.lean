import PosixBridge.Proofs.InBand

/-!
# One call at every width

The result types differ in two things, the width of a word and its reading, and the encoder
looks at the width only. So a call is one function seen at two widths. Between types of one
width it makes no difference when the bits are given the other type, before the call or after
it. Between the widths it does, at two corners:

* A failure is a failure at both widths, and its code is negated at both. The least code is
  its own negation in 32 bits and has a negation in 64.
* Half of a word may look like the sentinel where the word does not. Then the failure is
  seen at the smaller width only, where its code takes the place of the bits; these are the
  bits of the code 1.

> `call_at_every_width`: changing the width before the call is changing it after the call,
> exactly off these corners.
-/

namespace PosixBridge

open Procedure Bridge

namespace ReturnType

variable {t u : ReturnType}

/-! ## Types of one width -/

/-- What is defined alike at every width is the same at equal widths. -/
private theorem cast_family (f : (w : Nat) → BitVec w) {n m : Nat} (h : n = m) :
    (f n).cast h = f m := by
  subst h
  rfl

/-- Types of one width encode a code alike. -/
theorem cast_encode (h : t.width = u.width) (code : Int32) :
    (t.encode code).cast h = u.encode code :=
  cast_family (fun w => -(code.toBitVec.signExtend w)) h

theorem cast_eq_sentinel_iff (h : t.width = u.width) {r : t.Word} :
    r.cast h = u.sentinel ↔ r = t.sentinel := by
  have hsentinel : t.sentinel.cast h = u.sentinel := cast_family BitVec.allOnes h
  rw [← hsentinel, ← BitVec.toNat_inj, BitVec.toNat_cast, BitVec.toNat_cast, BitVec.toNat_inj]

/-- Types of one width answer alike. -/
theorem inBand_cast (h : t.width = u.width) (r : t.Word) (code : Int32) :
    u.inBand (r.cast h) code = (t.inBand r code).cast h := by
  by_cases hr : r = t.sentinel
  · have hcast := (cast_eq_sentinel_iff h).mpr hr
    rw [hcast, hr, inBand_sentinel, inBand_sentinel, cast_encode]
  · have hcast : r.cast h ≠ u.sentinel := fun hs => hr ((cast_eq_sentinel_iff h).mp hs)
    rw [inBand_of_ne hcast, inBand_of_ne hr]

/-! ## From the smaller width to the larger -/

theorem width_eq (t : ReturnType) : t.width = 32 ∨ t.width = 64 := by cases t <;> decide

/-- A type that is narrower than another has 32 bits, and the other 64. -/
theorem width_eq_of_lt (h : t.width < u.width) : t.width = 32 ∧ u.width = 64 := by
  have ht := t.width_eq
  have hu := u.width_eq
  omega

/-- An encoded code is sign-extended to its encoding in 64 bits, unless it is the least code. -/
theorem signExtend_encode_iff (h : t.width < u.width) (code : Int32) :
    u.encode code = (t.encode code).signExtend u.width ↔ code.toInt ≠ -2 ^ 31 := by
  obtain ⟨ht, hu⟩ := width_eq_of_lt h
  rw [← BitVec.toInt_inj, BitVec.toInt_signExtend_of_le (Nat.le_of_lt h), toInt_encode,
    toInt_encode, ht, hu]
  by_cases hleast : code.toInt = -2 ^ 31
  · -- Its own negation in 32 bits, and 2^31 in 64.
    rw [hleast]
    decide
  · rw [if_neg (fun hw => hleast hw.2), if_neg (fun hw => hleast hw.2)]
    exact iff_of_true rfl hleast

/-- Extending the sign takes the sentinel, and only it, to the sentinel. -/
theorem signExtend_eq_sentinel_iff (h : t.width < u.width) {r : t.Word} :
    r.signExtend u.width = u.sentinel ↔ r = t.sentinel := by
  rw [eq_sentinel_iff, eq_sentinel_iff, BitVec.toInt_signExtend_of_le (Nat.le_of_lt h)]

/-- Answering and extending the sign commute but for the one code with no negation. -/
theorem inBand_signExtend_iff (h : t.width < u.width) (r : t.Word) (code : Int32) :
    u.inBand (r.signExtend u.width) code = (t.inBand r code).signExtend u.width ↔
      ¬ (r = t.sentinel ∧ code.toInt = -2 ^ 31) := by
  by_cases hr : r = t.sentinel
  · have hwide := (signExtend_eq_sentinel_iff h).mpr hr
    rw [hwide, hr, inBand_sentinel, inBand_sentinel, signExtend_encode_iff h]
    simp
  · have hwide : r.signExtend u.width ≠ u.sentinel :=
      fun hs => hr ((signExtend_eq_sentinel_iff h).mp hs)
    rw [inBand_of_ne hwide, inBand_of_ne hr]
    exact iff_of_true rfl (fun hc => hr hc.1)

/-! ## From the larger width to the smaller -/

/-- The low half of an encoded code is the encoded code. -/
theorem setWidth_encode (h : t.width < u.width) (code : Int32) :
    (u.encode code).setWidth t.width = t.encode code := by
  have hle := Nat.le_of_lt h
  have hbits : (code.toBitVec.signExtend u.width).setWidth t.width =
      code.toBitVec.signExtend t.width := by
    ext i hi
    simp [BitVec.getElem_signExtend, Nat.lt_of_lt_of_le hi hle]
  rw [encode, encode, BitVec.setWidth_neg_of_le hle, hbits]

/-- Answering and cutting to the low bits commute but where these alone are the
sentinel and the code is not 1. -/
theorem inBand_setWidth_iff (h : t.width < u.width) (r : u.Word) (code : Int32) :
    t.inBand (r.setWidth t.width) code = (u.inBand r code).setWidth t.width ↔
      ¬ (r ≠ u.sentinel ∧ r.setWidth t.width = t.sentinel ∧ code ≠ 1) := by
  by_cases hr : r = u.sentinel
  · have hlow : r.setWidth t.width = t.sentinel := by
      rw [hr]
      ext i hi
      simp [sentinel, show i < u.width from Nat.lt_trans hi h]
    rw [hlow, hr, inBand_sentinel, inBand_sentinel, setWidth_encode h]
    exact iff_of_true rfl (fun hc => hc.1 rfl)
  · rw [inBand_of_ne hr]
    by_cases hlow : r.setWidth t.width = t.sentinel
    · -- A failure at the smaller width only: the code replaces a half that looks like code 1.
      rw [hlow, inBand_sentinel, encode_eq_sentinel_iff]
      simp [hr]
    · rw [inBand_of_ne hlow]
      exact iff_of_true rfl (fun hc => hlow hc.2.1)

end ReturnType

namespace Bridge

variable {t u : ReturnType}

/-- What is done to the host's answer inside a call shows in the word that is encoded. -/
theorem call_map_apply (f : t.Word → u.Word) {raw : Procedure t.Word} {s : State} {r : t.Word}
    (h : (raw s).outcome = .returned r) :
    call u (f <$> raw) s =
      ⟨(call t raw s).trace, (call t raw s).state,
        .returned (u.inBand (f r) (raw s).state.errno)⟩ := by
  rcases hraw : raw s with ⟨trace, v, ended⟩
  rw [hraw] at h
  obtain rfl : ended = .returned r := h
  rw [call_of_returned hraw, call_of_returned (map_apply hraw)]

/-- Calls at types of one width are the same call. -/
theorem call_map_cast (h : t.width = u.width) (raw : Procedure t.Word) :
    call u (BitVec.cast h <$> raw) = BitVec.cast h <$> call t raw := by
  funext s
  rcases hraw : raw s with ⟨trace, v, ended⟩
  have hcall := call_apply t raw s
  rw [hraw] at hcall
  rw [map_apply hcall, call_apply, map_apply hraw]
  cases ended with
  | panicked => rfl
  | returned r => simp only [Outcome.map, ReturnType.inBand_cast]

end Bridge

open ReturnType in
/-- **One call at every width.** A call whose host answers in the type `t` can be made in the
type `u` instead, the answer's bits being given that type before the bridge sees them. The trace
and the state that it leaves are the same.

* If the types have one width, the caller gets the same bits, whatever the host does.
* If `u` is wider and the answer is sign-extended, the caller gets the sign-extended word, unless
  the host has failed with the least code.
* If `u` is narrower and the answer is cut, the caller gets the low half of the word, unless the
  answer is a value whose low half looks like the sentinel and errno is not 1. -/
theorem call_at_every_width (t u : ReturnType) :
    (∀ (h : t.width = u.width) (raw : Procedure t.Word),
      call u (BitVec.cast h <$> raw) = BitVec.cast h <$> call t raw) ∧
    ∀ (raw : Procedure t.Word) (s : State) r, (raw s).outcome = .returned r →
      let run := call t raw s
      ∃ v, run.outcome = .returned v ∧
        (t.width < u.width →
          ∃ w, call u ((·.signExtend u.width) <$> raw) s = ⟨run.trace, run.state, .returned w⟩ ∧
            (w = v.signExtend u.width ↔
              ¬ (r = t.sentinel ∧ (raw s).state.errno.toInt = -2 ^ 31))) ∧
        (u.width < t.width →
          ∃ w, call u ((·.setWidth u.width) <$> raw) s = ⟨run.trace, run.state, .returned w⟩ ∧
            (w = v.setWidth u.width ↔
              ¬ (r ≠ t.sentinel ∧ r.setWidth u.width = u.sentinel ∧
                (raw s).state.errno ≠ 1))) := by
  refine ⟨call_map_cast, ?_⟩
  intro raw s r hr run
  refine ⟨t.inBand r (raw s).state.errno, ?_, ?_, ?_⟩
  · show (call t raw s).outcome = _
    rw [call_apply, hr]
    rfl
  · intro hwider
    exact ⟨_, call_map_apply _ hr, inBand_signExtend_iff hwider r _⟩
  · intro hnarrower
    exact ⟨_, call_map_apply _ hr, inBand_setWidth_iff hnarrower r _⟩

/-- An `int` call that fails with the least code gives one word, and made in 64 bits it gives
another. An address whose low half is all ones is no failure, and cut to an id it is one. -/
theorem call_at_every_width_corners :
    let host (t : ReturnType) (r : t.Word) (errno : Int32) : Procedure t.Word := do
      setErrno errno
      return r
    let fails := host .int ReturnType.int.sentinel (-2147483648)
    let maps := host .pointer 0xFFFFFFFF#64 2
    (∃ v w, (call .int fails .initial).outcome = .returned v ∧
      (call .offset ((·.signExtend 64) <$> fails) .initial).outcome = .returned w ∧
      w ≠ v.signExtend 64) ∧
    (∃ v w, (call .pointer maps .initial).outcome = .returned v ∧
      (call .ident ((·.setWidth 32) <$> maps) .initial).outcome = .returned w ∧
      w ≠ v.setWidth 32) ∧
    call .ssize (BitVec.cast rfl <$> maps) = BitVec.cast rfl <$> call .pointer maps := by
  intro host fails maps
  refine ⟨?_, ?_, (call_at_every_width .pointer .ssize).1 rfl maps⟩
  · obtain ⟨v, hv, hwider, -⟩ := (call_at_every_width .int .offset).2 fails .initial
      ReturnType.int.sentinel rfl
    obtain ⟨w, hw, hcorner⟩ := hwider (by decide)
    exact ⟨v, w, hv, congrArg (·.outcome) hw, fun heq => hcorner.mp heq ⟨rfl, by decide⟩⟩
  · obtain ⟨v, hv, -, hnarrower⟩ := (call_at_every_width .pointer .ident).2 maps .initial
      0xFFFFFFFF#64 rfl
    obtain ⟨w, hw, hcorner⟩ := hnarrower (by decide)
    refine ⟨v, w, hv, congrArg (·.outcome) hw, fun heq => hcorner.mp heq ⟨?_, ?_, ?_⟩⟩
    · decide
    · decide
    · decide

end PosixBridge
