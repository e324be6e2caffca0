import Mathlib.Data.List.TakeWhile
import RuleRouting.Query.Form
import RuleRouting.Proofs.OrderedMap

/-!
# Decoding form-encoded text

Reading UTF-8 undoes writing it (`decodeLossy_encode`), so a form-encoded component with
no `+` and no `%` decodes to itself (`decodeComponent_of_noEscape`). Splitting at `&` undoes
joining with `&` pieces that hold none (`splitAt_intercalate`), so the pairs of such a join
are the pairs of its pieces (`formPairs_intercalate`).
-/

namespace RuleRouting

namespace Text

/-! ## UTF-8 -/

theorem decodeLossy_ascii {b : UInt8} (rest : List UInt8) (hb : b.toNat < 0x80) :
    decodeLossy (b :: rest) = Char.ofNat b.toNat :: decodeLossy rest := by
  rw [decodeLossy.eq_def]
  simp only [if_pos hb]

theorem decodeLossy_two {b c : UInt8} (rest : List UInt8) (hb : 0xC2 ≤ b.toNat ∧ b.toNat ≤ 0xDF)
    (hc : isContinuation c = true) :
    decodeLossy (b :: c :: rest) =
      Char.ofNat ((b.toNat - 0xC0) * 64 + (c.toNat - 0x80)) :: decodeLossy rest := by
  rw [decodeLossy.eq_def]
  simp only [if_neg (show ¬ b.toNat < 0x80 by omega), hb, decide_true, Bool.and_self, if_true, hc]

theorem decodeLossy_three {b c1 c2 : UInt8} (rest : List UInt8)
    (hb : 0xE0 ≤ b.toNat ∧ b.toNat ≤ 0xEF)
    (hc1 : inBounds (secondOfThree b.toNat) c1 = true) (hc2 : isContinuation c2 = true) :
    decodeLossy (b :: c1 :: c2 :: rest) =
      Char.ofNat ((b.toNat - 0xE0) * 4096 + (c1.toNat - 0x80) * 64 + (c2.toNat - 0x80))
        :: decodeLossy rest := by
  rw [decodeLossy.eq_def]
  have hnot2 : ¬ (0xC2 ≤ b.toNat ∧ b.toNat ≤ 0xDF) := by omega
  simp only [if_neg (show ¬ b.toNat < 0x80 by omega), hb, decide_true, Bool.and_self, if_true,
    hc1, hc2]
  simp [hnot2]

theorem decodeLossy_four {b c1 c2 c3 : UInt8} (rest : List UInt8)
    (hb : 0xF0 ≤ b.toNat ∧ b.toNat ≤ 0xF4)
    (hc1 : inBounds (secondOfFour b.toNat) c1 = true) (hc2 : isContinuation c2 = true)
    (hc3 : isContinuation c3 = true) :
    decodeLossy (b :: c1 :: c2 :: c3 :: rest) =
      Char.ofNat ((b.toNat - 0xF0) * 262144 + (c1.toNat - 0x80) * 4096
        + (c2.toNat - 0x80) * 64 + (c3.toNat - 0x80)) :: decodeLossy rest := by
  rw [decodeLossy.eq_def]
  have hnot2 : ¬ (0xC2 ≤ b.toNat ∧ b.toNat ≤ 0xDF) := by omega
  have hnot3 : ¬ (0xE0 ≤ b.toNat ∧ b.toNat ≤ 0xEF) := by omega
  simp only [if_neg (show ¬ b.toNat < 0x80 by omega), hb, decide_true, Bool.and_self, if_true,
    hc1, hc2, hc3]
  simp [hnot2, hnot3]

/-- A continuation byte carries six bits. -/
theorem isContinuation_toUInt8 {k : Nat} (hk : k < 64) :
    isContinuation (0x80 + k).toUInt8 = true := by
  simp only [isContinuation, UInt8.toNat_ofNat_of_lt' (show 0x80 + k < 256 by omega)]
  simp; omega

/-- Reading the bytes of one character gives the character back, and reading goes on after
them. -/
theorem decodeLossy_encodeChar (c : Char) (rest : List UInt8) :
    decodeLossy (encodeChar c ++ rest) = c :: decodeLossy rest := by
  have hvalid : c.toNat < 0xD800 ∨ (0xDFFF < c.toNat ∧ c.toNat < 0x110000) := c.valid
  have toNat_toUInt8_lt : ∀ {n : Nat}, n < 256 → n.toUInt8.toNat = n :=
    fun h => UInt8.toNat_ofNat_of_lt' h
  by_cases h1 : c.toNat < 0x80
  · simp only [encodeChar, if_pos h1, List.singleton_append]
    rw [decodeLossy_ascii _ (by rw [toNat_toUInt8_lt (by omega)]; exact h1),
      toNat_toUInt8_lt (by omega), Char.ofNat_toNat]
  by_cases h2 : c.toNat < 0x800
  · simp only [encodeChar, if_neg h1, if_pos h2, List.cons_append, List.nil_append]
    rw [decodeLossy_two _ (by rw [toNat_toUInt8_lt (by omega)]; omega)
        (isContinuation_toUInt8 (by omega)),
      toNat_toUInt8_lt (by omega), toNat_toUInt8_lt (by omega),
      show (0xC0 + c.toNat / 64 - 0xC0) * 64 + (0x80 + c.toNat % 64 - 0x80) = c.toNat by omega,
      Char.ofNat_toNat]
  by_cases h3 : c.toNat < 0x10000
  · simp only [encodeChar, if_neg h1, if_neg h2, if_pos h3, List.cons_append, List.nil_append]
    have hc1 : inBounds (secondOfThree (0xE0 + c.toNat / 4096).toUInt8.toNat)
        (0x80 + c.toNat / 64 % 64).toUInt8 = true := by
      simp only [inBounds, secondOfThree,
        toNat_toUInt8_lt (show 0xE0 + c.toNat / 4096 < 256 by omega),
        toNat_toUInt8_lt (show 0x80 + c.toNat / 64 % 64 < 256 by omega)]
      split_ifs <;> simp <;> omega
    rw [decodeLossy_three _ (by rw [toNat_toUInt8_lt (by omega)]; omega) hc1
        (isContinuation_toUInt8 (by omega)),
      toNat_toUInt8_lt (by omega), toNat_toUInt8_lt (by omega), toNat_toUInt8_lt (by omega),
      show (0xE0 + c.toNat / 4096 - 0xE0) * 4096 + (0x80 + c.toNat / 64 % 64 - 0x80) * 64
        + (0x80 + c.toNat % 64 - 0x80) = c.toNat by omega,
      Char.ofNat_toNat]
  · simp only [encodeChar, if_neg h1, if_neg h2, if_neg h3, List.cons_append, List.nil_append]
    have hc1 : inBounds (secondOfFour (0xF0 + c.toNat / 262144).toUInt8.toNat)
        (0x80 + c.toNat / 4096 % 64).toUInt8 = true := by
      simp only [inBounds, secondOfFour,
        toNat_toUInt8_lt (show 0xF0 + c.toNat / 262144 < 256 by omega),
        toNat_toUInt8_lt (show 0x80 + c.toNat / 4096 % 64 < 256 by omega)]
      split_ifs <;> simp <;> omega
    rw [decodeLossy_four _ (by rw [toNat_toUInt8_lt (by omega)]; omega) hc1
        (isContinuation_toUInt8 (by omega)) (isContinuation_toUInt8 (by omega)),
      toNat_toUInt8_lt (by omega), toNat_toUInt8_lt (by omega), toNat_toUInt8_lt (by omega),
      toNat_toUInt8_lt (by omega),
      show (0xF0 + c.toNat / 262144 - 0xF0) * 262144 + (0x80 + c.toNat / 4096 % 64 - 0x80) * 4096
        + (0x80 + c.toNat / 64 % 64 - 0x80) * 64 + (0x80 + c.toNat % 64 - 0x80) = c.toNat by omega,
      Char.ofNat_toNat]

/-- Reading UTF-8 undoes writing it. -/
theorem decodeLossy_encode (cs : List Char) : decodeLossy (encode cs) = cs := by
  induction cs with
  | nil => simp [encode, decodeLossy]
  | cons c cs ih => rw [encode, List.flatMap_cons, decodeLossy_encodeChar, ← encode, ih]

end Text

namespace Query

open Text

/-! ## Components without escapes -/

/-- Text in which no character is an escape: no `+` and no `%`. -/
def NoEscape (cs : List Char) : Prop :=
  ∀ c ∈ cs, c ≠ '+' ∧ c ≠ '%'

instance (cs : List Char) : Decidable (NoEscape cs) :=
  List.decidableBAll (fun c => c ≠ '+' ∧ c ≠ '%') cs

theorem formBytes_cons_of_ne {c : Char} (rest : List Char) (hplus : c ≠ '+') (hpct : c ≠ '%') :
    formBytes (c :: rest) = encodeChar c ++ formBytes rest := by
  rw [formBytes.eq_def]
  split <;> simp_all

theorem formBytes_of_noEscape {cs : List Char} (h : NoEscape cs) : formBytes cs = encode cs := by
  induction cs with
  | nil => simp [formBytes, encode]
  | cons c cs ih =>
    have hc := h c List.mem_cons_self
    rw [formBytes_cons_of_ne _ hc.1 hc.2, ih fun d hd => h d (List.mem_cons_of_mem c hd)]
    simp only [encode, List.flatMap_cons]

/-- A component with no escape decodes to itself. -/
theorem decodeComponent_of_noEscape {cs : List Char} (h : NoEscape cs) :
    decodeComponent cs = String.ofList cs := by
  rw [decodeComponent, formBytes_of_noEscape h, decodeLossy_encode]

/-! ## Splitting at a separator -/

theorem splitAt_ne_nil (sep : Char) (cs : List Char) : splitAt sep cs ≠ [] := by
  cases cs with
  | nil => simp [splitAt]
  | cons c cs =>
    rw [splitAt]
    split
    · simp
    · split <;> simp

variable {sep : Char}

theorem splitAt_of_not_mem {cs : List Char} (h : sep ∉ cs) : splitAt sep cs = [cs] := by
  induction cs with
  | nil => rfl
  | cons c cs ih =>
    have hc : c ≠ sep := fun hc => h (hc ▸ List.mem_cons_self)
    rw [splitAt, if_neg hc, ih fun hs => h (List.mem_cons_of_mem c hs)]

theorem splitAt_append {x : List Char} (y : List Char) (h : sep ∉ x) :
    splitAt sep (x ++ sep :: y) = x :: splitAt sep y := by
  induction x with
  | nil => simp [splitAt]
  | cons c x ih =>
    have hc : c ≠ sep := fun hc => h (hc ▸ List.mem_cons_self)
    rw [List.cons_append, splitAt, if_neg hc, ih fun hs => h (List.mem_cons_of_mem c hs)]

/-- Splitting undoes joining, when no piece holds the separator. -/
theorem splitAt_intercalate {xs : List (List Char)} (hne : xs ≠ []) (h : ∀ x ∈ xs, sep ∉ x) :
    splitAt sep (List.intercalate [sep] xs) = xs := by
  induction xs with
  | nil => exact absurd rfl hne
  | cons x xs ih =>
    have hx := h x List.mem_cons_self
    cases xs with
    | nil => simp [splitAt_of_not_mem hx]
    | cons y ys =>
      rw [List.intercalate_cons_cons, List.append_assoc, List.singleton_append,
        splitAt_append _ hx, ih (List.cons_ne_nil y ys) fun z hz => h z (List.mem_cons_of_mem x hz)]

theorem splitAt_cons_of_ne {c : Char} {cs p : List Char} {ps : List (List Char)} (hc : c ≠ sep)
    (hs : splitAt sep cs = p :: ps) : splitAt sep (c :: cs) = (c :: p) :: ps := by
  rw [splitAt, if_neg hc, hs]

/-- Joining undoes splitting. -/
theorem intercalate_splitAt (cs : List Char) : List.intercalate [sep] (splitAt sep cs) = cs := by
  induction cs with
  | nil => rfl
  | cons c cs ih =>
    obtain ⟨p, ps, hs⟩ := List.exists_cons_of_ne_nil (splitAt_ne_nil sep cs)
    rw [hs] at ih
    by_cases hc : c = sep
    · rw [splitAt, if_pos hc, hs, List.intercalate_cons_cons, ih, hc]
      rfl
    · rw [splitAt_cons_of_ne hc hs]
      cases ps with
      | nil => simp_all
      | cons q qs => rw [List.intercalate_cons_cons] at ih ⊢; rw [← ih]; rfl

theorem not_mem_of_mem_splitAt {cs x : List Char} (hx : x ∈ splitAt sep cs) : sep ∉ x := by
  induction cs generalizing x with
  | nil => simp_all [splitAt]
  | cons c cs ih =>
    obtain ⟨p, ps, hs⟩ := List.exists_cons_of_ne_nil (splitAt_ne_nil sep cs)
    by_cases hc : c = sep
    · rw [splitAt, if_pos hc, List.mem_cons] at hx
      rcases hx with rfl | hx
      · simp
      · exact ih hx
    · rw [splitAt_cons_of_ne hc hs, List.mem_cons] at hx
      rw [hs] at ih
      rcases hx with rfl | hx
      · simp only [List.mem_cons, not_or]
        exact ⟨Ne.symm hc, ih List.mem_cons_self⟩
      · exact ih (List.mem_cons_of_mem p hx)

/-! ## The pairs of a form-encoded text -/

/-- A piece `name=value` with no `=` in its name splits there. -/
theorem formPair_of_name {name : List Char} (value : List Char) (hname : '=' ∉ name) :
    formPair (name ++ '=' :: value) = some (decodeComponent name, decodeComponent value) := by
  have hpos : ∀ c ∈ name, decide (c ≠ '=') = true := by
    intro c hc
    simp only [ne_eq, decide_eq_true_eq]
    rintro rfl
    exact hname hc
  have hne : (name ++ '=' :: value).isEmpty = false := by cases name <;> rfl
  rw [formPair, hne, if_neg Bool.false_ne_true, List.takeWhile_append_of_pos hpos,
    List.dropWhile_append_of_pos hpos]
  simp

/-- The pairs of pieces joined with `&`, none holding `&`, are the pairs of the pieces. -/
theorem formPairs_intercalate {pieces : List (List Char)} (hne : pieces ≠ [])
    (h : ∀ p ∈ pieces, '&' ∉ p) :
    formPairs (List.intercalate ['&'] pieces) = pieces.filterMap formPair := by
  rw [formPairs, splitAt_intercalate hne h]

end Query

end RuleRouting
