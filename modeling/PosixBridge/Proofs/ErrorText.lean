import PosixBridge.CType
import PosixBridge.Failure

/-!
# The text of a failure and its code

A failure is shown by the name of its error and the code, or by the code alone if no error has
it. Which error has a code is a matter of the table; that no two codes are shown alike is a
matter of the writing. Both forms end in the same way: a blank, the code in signed decimal, and
then nothing but a bracket. So the code can be found from the end of the text, without the
table and without knowing which of the forms it is.

> `text_identifies_code`: the name is that of the one error with the code; the code is read back
> from the text, and different codes have different texts.
-/

namespace PosixBridge

/-! ## The table of errors -/

namespace Errno

/-- No two errors have one code. -/
theorem eq_of_code_eq {e e' : Errno} (h : e.code = e'.code) : e = e' := by
  have hfound := ofCode?_code e
  rw [h, ofCode?_code] at hfound
  exact (Option.some.inj hfound).symm

/-- No error is found for a code exactly if none has it. -/
theorem ofCode?_eq_none_iff {c : Int32} : ofCode? c = none ↔ ¬ ∃ e : Errno, e.code = c := by
  rw [Option.eq_none_iff_forall_ne_some]
  constructor
  · rintro hnone ⟨e, he⟩
    exact hnone e (ofCode?_eq_some_iff.mpr he)
  · intro habsent e he
    exact habsent ⟨e, ofCode?_eq_some_iff.mp he⟩

/-- The name of an error is the one that it is declared under. -/
theorem repr_eq_name (e : Errno) :
    reprPrec e 0 = .group (.nest 2 (.text ("PosixBridge.Errno." ++ e.name))) := by
  cases e <;> rfl

end Errno

/-! ## The characters of a number -/

namespace Numeral

/-- Whether the character can stand in a written integer. -/
def isNumeral (c : Char) : Bool := c.isDigit || c == '-'

theorem isNumeral_ofNat (n : Nat) : ∀ c ∈ (ofNat n).toList, isNumeral c = true := by
  intro c hc
  rw [ofNat, String.toList_ofList] at hc
  have hdigit : c.isDigit = true := Nat.isDigit_of_mem_toDigits (by decide) (by decide) hc
  simp [isNumeral, hdigit]

theorem isNumeral_ofInt (i : Int) : ∀ c ∈ (ofInt i).toList, isNumeral c = true := by
  cases i with
  | ofNat n => exact isNumeral_ofNat n
  | negSucc n =>
    intro c hc
    rw [ofInt, String.toList_append] at hc
    rcases List.mem_append.mp hc with hsign | hdigits
    · obtain rfl : c = '-' := by simpa using hsign
      rfl
    · exact isNumeral_ofNat (n + 1) c hdigits

/-- The number at the end of a text, where a closing bracket may follow it. -/
def atEnd (cs : List Char) : List Char :=
  ((cs.reverse.dropWhile (· == ')')).takeWhile isNumeral).reverse

/-- The number at the end is what stands between the last blank and the brackets. -/
theorem atEnd_append (front number : List Char) {closing : List Char}
    (hnumber : ∀ c ∈ number, isNumeral c = true) (hclosing : ∀ c ∈ closing, c = ')') :
    atEnd (front ++ ' ' :: number ++ closing) = number := by
  have hreverse : (front ++ ' ' :: number ++ closing).reverse =
      closing.reverse ++ (number.reverse ++ ' ' :: front.reverse) := by simp
  have hbrackets : ∀ c ∈ closing.reverse, (c == ')') = true := by
    intro c hc
    exact beq_iff_eq.mpr (hclosing c (List.mem_reverse.mp hc))
  have hdigits : ∀ c ∈ number.reverse, isNumeral c = true := by
    intro c hc
    exact hnumber c (List.mem_reverse.mp hc)
  -- Neither a character of a number nor the blank is a bracket, so no more is dropped.
  have hstop : (number.reverse ++ ' ' :: front.reverse).dropWhile (· == ')') =
      number.reverse ++ ' ' :: front.reverse := by
    cases hn : number.reverse with
    | nil => exact List.dropWhile_cons_of_neg (by decide)
    | cons c cs =>
      refine List.dropWhile_cons_of_neg (fun hc => ?_)
      have hc' : isNumeral ')' = true := by
        rw [← beq_iff_eq.mp hc]
        exact hdigits c (by rw [hn]; exact List.mem_cons_self)
      exact absurd hc' (by decide)
  rw [atEnd, hreverse, List.dropWhile_append_of_pos hbrackets, hstop,
    List.takeWhile_append_of_pos hdigits, List.takeWhile_cons_of_neg (by decide),
    List.append_nil, List.reverse_reverse]

end Numeral

/-! ## The text of a failure -/

namespace Failure

theorem text_of_errno {f : Failure} {e : Errno} (h : f.errno? = some e) :
    f.text = e.name ++ " (errno " ++ Numeral.ofInt f.code.toInt ++ ")" := by
  have hbracket : " (errno " = " (" ++ "errno " := by decide
  simp only [text, h, hbracket, String.append_assoc]

theorem text_of_no_errno {f : Failure} (h : f.errno? = none) :
    f.text = "errno " ++ Numeral.ofInt f.code.toInt := by
  simp only [text, h]

/-- Either form ends in a blank, the code and perhaps a bracket. -/
theorem text_ends (f : Failure) :
    ∃ front closing,
      f.text.toList = front ++ ' ' :: (Numeral.ofInt f.code.toInt).toList ++ closing ∧
      ∀ c ∈ closing, c = ')' := by
  cases h : f.errno? with
  | some e =>
    refine ⟨e.name.toList ++ " (errno".toList, [')'], ?_, by simp⟩
    rw [text_of_errno h]
    simp [String.toList_append]
  | none =>
    refine ⟨"errno".toList, [], ?_, by simp⟩
    rw [text_of_no_errno h]
    simp [String.toList_append]

/-- The code that a text shows. -/
def codeIn? (text : String) : Option Int32 :=
  (CType.int.read? (String.ofList (Numeral.atEnd text.toList))).map Int32.ofBitVec

/-- The code is read back from the text. -/
theorem codeIn?_text (f : Failure) : codeIn? f.text = some f.code := by
  obtain ⟨front, closing, htext, hclosing⟩ := f.text_ends
  have hnumber : Numeral.ofInt f.code.toInt = CType.int.render f.code.toBitVec := by
    rw [CType.render, ← Int32.toInt_toBitVec]
    rfl
  rw [codeIn?, htext, Numeral.atEnd_append front _ (Numeral.isNumeral_ofInt _) hclosing,
    String.ofList_toList, hnumber, CType.read?_render, Option.map_some, Int32.ofBitVec_toBitVec]

end Failure

/-- **The text of a failure identifies its code.** An error is found for a code exactly if it is
the one error that has this code. Then the text is its name followed by the code in brackets, and
if no error has the code it is the code alone; the name is the one that the error is declared
under. From the text the code is read back, whatever the code is, so different codes have
different texts. -/
theorem text_identifies_code (c : Int32) :
    (∀ e, Errno.ofCode? c = some e ↔ e.code = c ∧ ∀ e' : Errno, e'.code = c → e' = e) ∧
    (∀ e : Errno, e.code = c →
      (Failure.mk c).text = e.name ++ " (errno " ++ Numeral.ofInt c.toInt ++ ")") ∧
    ((¬ ∃ e : Errno, e.code = c) → (Failure.mk c).text = "errno " ++ Numeral.ofInt c.toInt) ∧
    (∀ e : Errno, reprPrec e 0 = .group (.nest 2 (.text ("PosixBridge.Errno." ++ e.name)))) ∧
    Failure.codeIn? (Failure.mk c).text = some c ∧
    ∀ d, (Failure.mk c).text = (Failure.mk d).text → c = d := by
  refine ⟨?_, ?_, ?_, Errno.repr_eq_name, Failure.codeIn?_text ⟨c⟩, ?_⟩
  · intro e
    rw [Errno.ofCode?_eq_some_iff]
    constructor
    · intro he
      exact ⟨he, fun e' he' => Errno.eq_of_code_eq (he'.trans he.symm)⟩
    · exact And.left
  · intro e he
    exact Failure.text_of_errno (f := ⟨c⟩) (Errno.ofCode?_eq_some_iff.mpr he)
  · intro habsent
    exact Failure.text_of_no_errno (f := ⟨c⟩) (Errno.ofCode?_eq_none_iff.mpr habsent)
  · intro d htext
    have hread := Failure.codeIn?_text ⟨c⟩
    rw [htext, Failure.codeIn?_text] at hread
    exact (Option.some.inj hread).symm

/-- The least code is shown with its sign, and a code without a name is shown alone. -/
example : (Failure.mk (-2147483648)).text = "errno -2147483648" ∧
    (Failure.mk 2).text = "ENOENT (errno 2)" := by decide

end PosixBridge
