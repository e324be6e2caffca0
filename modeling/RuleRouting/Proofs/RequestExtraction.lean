import RuleRouting.Proofs.RuleMatching
import RuleRouting.Proofs.Slicing

/-!
# The extension of a request path

The service splits a pseudo-static extension off the last segment of a request path, at that
segment's last `.`, when text stands on both sides of it: `/news/read.HTML` is routed as
`/news/read` with the extension `html`. The cut is computed from lengths, as the path's length
less the extension's and the dot's, and this module shows that it lands on that dot.

* `Text.lastPiece_of_eq`, `Text.lastPiece_of_not_mem` — the last piece of a split is what
  follows the last separator, or the whole text when there is none;
* `Text.exists_lastPiece` — a text is its last piece after either nothing or text ending in
  the separator;
* `splitExtension_of_cut` — a path whose last segment has a dot with text on both sides is cut
  before that dot;
* `splitExtension_spec` — **the split is exact**: a path with an extension is the routed path,
  a dot and the extension as written (non-empty, without `.` or `/`), the extension reported is
  its ASCII lowercase, and the routed path keeps a non-empty last segment; a path without one is
  routed whole, and its last segment has no dot with text on both sides of its last dot.
-/

namespace RuleRouting

namespace Text

/-- After its last separator a text's last piece is what follows. -/
theorem lastPiece_of_eq {s : String} {front seg : List Char} {sep : Char}
    (h : s.toList = front ++ sep :: seg) (hseg : sep ∉ seg) :
    (split s sep).getLastD "" = String.ofList seg := by
  rw [split, h, List.splitOn_append_cons_self, splitOn_of_not_mem hseg]
  simp

/-- A text without the separator is its own last piece. -/
theorem lastPiece_of_not_mem {s : String} {sep : Char} (h : sep ∉ s.toList) :
    (split s sep).getLastD "" = s := by
  rw [split, splitOn_of_not_mem h]
  simp

/-- A text is its last piece, which holds no separator, after either nothing or text that ends
in the separator. -/
theorem exists_lastPiece (s : String) (sep : Char) :
    ∃ pre, s.toList = pre ++ ((split s sep).getLastD "").toList ∧
      sep ∉ ((split s sep).getLastD "").toList ∧ (pre = [] ∨ ∃ front, pre = front ++ [sep]) := by
  by_cases hs : sep ∈ s.toList
  · obtain ⟨front, back, hcs, hback, -, -⟩ := exists_lastSep hs
    rw [lastPiece_of_eq hcs hback, String.toList_ofList]
    exact ⟨front ++ [sep], by simp [hcs], hback, .inr ⟨front, rfl⟩⟩
  · rw [lastPiece_of_not_mem hs]
    exact ⟨[], rfl, hs, .inl rfl⟩

/-- Text ending in a non-empty piece without the separator has that piece as its last. -/
theorem lastPiece_append {pre seg : List Char} {sep : Char}
    (hpre : pre = [] ∨ ∃ front, pre = front ++ [sep]) (hseg : sep ∉ seg) :
    (split (String.ofList (pre ++ seg)) sep).getLastD "" = String.ofList seg := by
  rcases hpre with rfl | ⟨front, rfl⟩
  · exact lastPiece_of_not_mem (by simpa using hseg)
  · exact @lastPiece_of_eq _ front seg sep (by simp) hseg

end Text

/-- A path whose last segment has a dot with text on both sides is cut before that dot, and
the text after it, lowercased, is the extension. -/
theorem splitExtension_of_cut {s stem ext : String}
    (h : Text.splitOnceRight ((Text.split s '/').getLastD "") '.' = some (stem, ext))
    (hstem : stem ≠ "") (hext : ext ≠ "") (pre : List Char)
    (hs : s.toList = pre ++ ((Text.split s '/').getLastD "").toList) :
    splitExtension s = (String.ofList (pre ++ stem.toList), some (Text.asciiLowercase ext)) := by
  obtain ⟨hlast, -⟩ := Text.eq_append_of_splitOnceRight h
  have hpath : s.toList = (pre ++ stem.toList) ++ '.' :: ext.toList := by
    rw [hs, hlast, List.append_assoc]
  have hcut : s.length - ext.length - 1 = (pre ++ stem.toList).length := by
    rw [← String.length_toList, ← String.length_toList (s := ext), hpath]
    simp only [List.length_append, List.length_cons]
    omega
  have hne : (!stem.isEmpty && !ext.isEmpty) = true := by simp [hstem, hext]
  simp only [splitExtension, h, hne, if_true, hcut, hpath, List.take_left']

/-- Where the last segment has no dot with text on both sides, the path stays whole. -/
theorem splitExtension_of_not_cut {s : String}
    (h : ∀ stem ext, Text.splitOnceRight ((Text.split s '/').getLastD "") '.' = some (stem, ext) →
      stem = "" ∨ ext = "") :
    splitExtension s = (s, none) := by
  simp only [splitExtension]
  split
  · next stem ext hsplit =>
    have hempty : (!stem.isEmpty && !ext.isEmpty) = false := by
      rcases h stem ext hsplit with rfl | rfl <;> simp
    simp [hempty]
  · rfl

/-- **The extension split is exact.** When an extension `x` is split off, the path is the routed
path `p`, a dot and a non-empty `y` with no `.` or `/`, `x` is `y` lowercased (ASCII), and the
last segment of `p` is non-empty. When none is, the path is routed whole, and its last segment
has no dot with non-empty text on both sides of its last dot. -/
theorem splitExtension_spec (s : String) :
    match splitExtension s with
    | (p, some x) => ∃ y : String, s = p ++ "." ++ y ∧ x = Text.asciiLowercase y ∧ y ≠ "" ∧
        '.' ∉ y.toList ∧ '/' ∉ y.toList ∧ (Text.split p '/').getLastD "" ≠ ""
    | (p, none) => p = s ∧ ∀ a b : String, (Text.split s '/').getLastD "" = a ++ "." ++ b →
        '.' ∉ b.toList → a = "" ∨ b = "" := by
  -- with the split named, no step below unfolds it to reduce the goal's `match`
  generalize hres : splitExtension s = res
  obtain ⟨pre, hs, hslash, hpre⟩ := Text.exists_lastPiece s '/'
  set last := (Text.split s '/').getLastD ""
  by_cases hcut : ∃ stem ext, Text.splitOnceRight last '.' = some (stem, ext) ∧ stem ≠ "" ∧
      ext ≠ ""
  · obtain ⟨stem, ext, hsplit, hstem, hext⟩ := hcut
    obtain ⟨hlast, hdot⟩ := Text.eq_append_of_splitOnceRight hsplit
    rw [splitExtension_of_cut hsplit hstem hext pre hs] at hres
    subst hres
    have hstemslash : '/' ∉ stem.toList := fun hc => hslash (by simp [hlast, hc])
    refine ⟨ext, ?_, rfl, hext, hdot, fun hc => hslash (by simp [hlast, hc]), ?_⟩
    · apply String.ext
      simp [hs, hlast]
    · rw [Text.lastPiece_append hpre hstemslash, String.ofList_toList]
      exact hstem
  · have huncut : ∀ stem ext, Text.splitOnceRight last '.' = some (stem, ext) →
        stem = "" ∨ ext = "" := by
      intro stem ext hsplit
      by_contra hne
      exact hcut ⟨stem, ext, hsplit, not_or.mp hne⟩
    rw [splitExtension_of_not_cut huncut] at hres
    subst hres
    refine ⟨rfl, fun a b hab hb => huncut a b (Text.splitOnceRight_of_eq ?_ hb)⟩
    rw [hab]
    simp

end RuleRouting
