import Mathlib.Data.List.Infix
import PosixBridge.Platform

/-!
# Which platforms are built natively

The gate reads two raw environment values and treats them unequally. The request for the
unsupported build is only looked for, so whatever it is set to counts. The name of the system is
decoded, with the empty text in place of a value that is missing or cannot be decoded, and the
text is looked up. Decoding loses nothing: a text has one encoding, and the empty text is not on
the list. So the lookup is a comparison of bytes.

> `directives_exact`: the native build is announced exactly if no request is set and the bytes
> are those of one of the seven names; no `NearMiss` of a name will do.
-/

namespace PosixBridge.Platform

/-! ## Decoding a name -/

/-- Bytes are decoded to a text exactly if they are its encoding. -/
theorem fromUTF8?_eq_some_iff {bytes : ByteArray} {text : String} :
    String.fromUTF8? bytes = some text ↔ bytes = text.toUTF8 := by
  unfold String.fromUTF8?
  constructor
  · intro h
    split at h
    · obtain rfl := Option.some.inj h
      rfl
    · contradiction
  · rintro rfl
    rw [String.toUTF8_eq_toByteArray, dif_pos text.isValidUTF8]
    rfl

/-- A name that is not set or not text is on no list. -/
theorem empty_not_mem_nativeSystems : "" ∉ nativeSystems := by decide

/-- The name that is looked up is on the list only if the raw bytes spell it. -/
theorem systemName_mem_iff {p : Platform} :
    p.systemName ∈ nativeSystems ↔ ∃ name ∈ nativeSystems, p.system = some name.toUTF8 := by
  constructor
  · intro hlisted
    cases htext : p.system.bind String.fromUTF8? with
    | none =>
      -- An unset name and an undecodable one both stand for the empty text.
      have hempty : p.systemName = "" := by rw [systemName, htext, Option.getD_none]
      exact absurd (hempty ▸ hlisted) empty_not_mem_nativeSystems
    | some text =>
      have hname : p.systemName = text := by rw [systemName, htext, Option.getD_some]
      obtain ⟨bytes, hbytes, hdecoded⟩ := Option.bind_eq_some_iff.mp htext
      refine ⟨text, hname ▸ hlisted, ?_⟩
      rw [hbytes, fromUTF8?_eq_some_iff.mp hdecoded]
  · rintro ⟨name, hlisted, hsystem⟩
    have hdecoded : String.fromUTF8? name.toUTF8 = some name := fromUTF8?_eq_some_iff.mpr rfl
    rw [systemName, hsystem, Option.bind_some, hdecoded, Option.getD_some]
    exact hlisted

/-! ## The build and its lines -/

/-- The build is native exactly where nobody asks otherwise and the system's bytes are listed. -/
theorem build_eq_native_iff {p : Platform} :
    p.build = .native ↔
      p.unsupported = none ∧ ∃ name ∈ nativeSystems, p.system = some name.toUTF8 := by
  rw [← systemName_mem_iff, ← Option.isNone_iff_eq_none, ← List.contains_iff_mem,
    ← Bool.and_eq_true, build]
  split
  · next h => exact iff_of_true rfl h
  · next h => exact iff_of_false nofun h

/-- A relative of the listed systems is no more native than a name that is not set. -/
example : (Platform.mk (some "dragonfly".toUTF8) none).build = .unsupported ∧
    (Platform.mk none none).build = .unsupported := by decide

theorem directives_of_native {p : Platform} (h : p.build = .native) :
    p.directives = fixedDirectives ++ [nativeDirective] := by
  rw [directives, h]

theorem directives_of_not_native {p : Platform} (h : ¬ p.build = .native) :
    p.directives = fixedDirectives := by
  unfold directives
  split
  · next hnative => exact absurd hnative h
  · rfl

/-- The line more is printed by native builds only. -/
theorem directives_eq_native_iff {p : Platform} :
    p.directives = fixedDirectives ++ [nativeDirective] ↔ p.build = .native := by
  refine ⟨fun hlines => ?_, directives_of_native⟩
  by_contra hbuild
  rw [directives_of_not_native hbuild] at hlines
  exact absurd hlines (by decide)

/-- The fixed lines alone are printed by all other builds. -/
theorem directives_eq_fixed_iff {p : Platform} :
    p.directives = fixedDirectives ↔ ¬ p.build = .native := by
  refine ⟨fun hlines hbuild => ?_, directives_of_not_native⟩
  rw [directives_of_native hbuild] at hlines
  exact absurd hlines (by decide)

/-! ## Names that are nearly right -/

/-- No name is part of another, so neither a name cut short nor one drawn out is a name. -/
theorem eq_of_isInfix : ∀ name ∈ nativeSystems, ∀ name' ∈ nativeSystems,
    name.toUTF8.data.toList <:+: name'.toUTF8.data.toList → name = name' := by decide

/-- The listed names have small letters only, no digits and no blanks. -/
theorem all_isLower_of_mem_nativeSystems :
    ∀ name ∈ nativeSystems, name.toList.all Char.isLower = true := by decide

/-- Dropping letter case leaves small letters alone. -/
theorem toLower_of_isLower {c : Char} (h : c.isLower = true) : c.toLower = c := by
  have hsmall : 'a'.val.toNat ≤ c.val.toNat := of_decide_eq_true (Bool.and_eq_true_iff.mp h).1
  refine dif_neg (fun hcapital => ?_)
  have hle : c.val.toNat ≤ 'Z'.val.toNat := hcapital.2
  exact absurd (Nat.le_trans hsmall hle) (by decide)

/-- Bytes that resemble a name on the list without being it. -/
inductive NearMiss : ByteArray → Prop
  /-- A piece of a name, such as its beginning. -/
  | piece (name : String) {bytes : ByteArray} (listed : name ∈ nativeSystems)
      (within : bytes.data.toList <:+: name.toUTF8.data.toList) (differ : bytes ≠ name.toUTF8) :
      NearMiss bytes
  /-- A name with more bytes around it. -/
  | extended (name : String) {bytes : ByteArray} (listed : name ∈ nativeSystems)
      (within : name.toUTF8.data.toList <:+: bytes.data.toList) (differ : bytes ≠ name.toUTF8) :
      NearMiss bytes
  /-- A text that becomes a name when letter case is dropped, in whichever alphabets. -/
  | recased (name : String) {text : String} (fold : Char → Char) (listed : name ∈ nativeSystems)
      (keeps : ∀ c, c.isLower = true → fold c = c)
      (same : text.toList.map fold = name.toList) (differ : text ≠ name) :
      NearMiss text.toUTF8
  /-- Bytes that are no text at all. -/
  | undecodable {bytes : ByteArray} (invalid : ¬ bytes.IsValidUTF8) : NearMiss bytes

/-- No near miss is a listed name. -/
theorem NearMiss.not_listed {bytes : ByteArray} (h : NearMiss bytes) :
    ¬ ∃ name ∈ nativeSystems, bytes = name.toUTF8 := by
  rintro ⟨name', hname', hbytes⟩
  cases h with
  | piece name listed within differ =>
    rw [hbytes] at within
    exact differ (hbytes.trans (congrArg _ (eq_of_isInfix name' hname' name listed within)))
  | extended name listed within differ =>
    rw [hbytes] at within
    exact differ (hbytes.trans (congrArg _ (eq_of_isInfix name listed name' hname' within).symm))
  | @recased name text fold listed keeps same differ =>
    obtain rfl : text = name' := String.toByteArray_inj.mp hbytes
    -- The text is on the list itself, so all its letters are small and folding changes none.
    have hsmall := List.all_eq_true.mp (all_isLower_of_mem_nativeSystems text hname')
    have hkept : text.toList.map fold = text.toList := by
      rw [List.map_congr_left (g := id) fun c hc => keeps c (hsmall c hc), List.map_id]
    exact differ (String.toList_inj.mp (hkept.symm.trans same))
  | undecodable invalid =>
    rw [hbytes] at invalid
    exact invalid name'.isValidUTF8

/-! ## The gate -/

/-- **The gate opens for seven names and nothing else.** Whatever the environment holds, the two
fixed lines are printed, and after them the line that turns the native build on exactly if no
request for the unsupported build is set and the raw bytes of the system's name are those of a
listed name. A near miss of a name does not turn it on, and any request turns it off. -/
theorem directives_exact (p : Platform) :
    let off := ["cargo:rerun-if-changed=build.rs", "cargo:rustc-check-cfg=cfg(lind_native_posix)"]
    let on := off ++ ["cargo:rustc-cfg=lind_native_posix"]
    let qualifies := p.unsupported = none ∧
      ∃ name ∈ ["linux", "android", "macos", "ios", "freebsd", "netbsd", "openbsd"],
        p.system = some name.toUTF8
    (p.directives = on ↔ qualifies) ∧
    (p.directives = off ↔ ¬ qualifies) ∧
    (∀ bytes, p.system = some bytes → NearMiss bytes → p.directives = off) ∧
    ∀ value, p.unsupported = some value → p.directives = off := by
  intro off on qualifies
  have hbuild : p.build = .native ↔ qualifies := build_eq_native_iff
  refine ⟨directives_eq_native_iff.trans hbuild,
    directives_eq_fixed_iff.trans (not_congr hbuild), ?_, ?_⟩
  · intro bytes hsystem hmiss
    refine directives_of_not_native (fun hnative => ?_)
    obtain ⟨-, name, hname, hlisted⟩ := build_eq_native_iff.mp hnative
    exact hmiss.not_listed ⟨name, hname, Option.some.inj (hsystem.symm.trans hlisted)⟩
  · intro value hrequest
    refine directives_of_not_native (fun hnative => ?_)
    rw [(build_eq_native_iff.mp hnative).1] at hrequest
    contradiction

/-- A name cut short, one with a stray byte behind it, a capital letter and an overlong encoding
of the first letter all miss, and so does the name itself once a request is set to nothing. -/
theorem directives_exact_near_misses :
    let linux := "linux".toUTF8
    (Platform.mk (some linux) none).directives = fixedDirectives ++ [nativeDirective] ∧
    (∀ bytes ∈ ["net".toUTF8, linux.push 0x80, "Linux".toUTF8,
        ⟨#[0xC1, 0xAC, 0x69, 0x6E, 0x75, 0x78]⟩],
      NearMiss bytes ∧ (Platform.mk (some bytes) none).directives = fixedDirectives) ∧
    (Platform.mk (some linux) (some .empty)).directives = fixedDirectives := by
  intro linux
  have hoff : ∀ bytes, NearMiss bytes →
      NearMiss bytes ∧ (Platform.mk (some bytes) none).directives = fixedDirectives :=
    fun bytes hmiss => ⟨hmiss, (directives_exact ⟨some bytes, none⟩).2.2.1 bytes rfl hmiss⟩
  refine ⟨(directives_exact ⟨some linux, none⟩).1.mpr ⟨rfl, "linux", by decide, rfl⟩, ?_,
    (directives_exact ⟨some linux, some .empty⟩).2.2.2 .empty rfl⟩
  simp only [List.forall_mem_cons]
  refine ⟨hoff _ ?_, hoff _ ?_, hoff _ ?_, hoff _ ?_, nofun⟩
  · exact .piece "netbsd" (by decide) (by decide) (by decide)
  · exact .extended "linux" (by decide) (by decide) (by decide)
  · refine .recased "linux" Char.toLower (by decide) ?_ (by decide) (by decide)
    exact fun c hc => toLower_of_isLower hc
  · exact .undecodable (by decide)

end PosixBridge.Platform
