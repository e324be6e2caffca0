import Mathlib.Data.List.TakeWhile
import Mathlib.Data.String.Basic
import RuleRouting.Route.Domain
import RuleRouting.Route.Resolve
import RuleRouting.Service.Dispatch

/-!
# Byte offsets fall on character boundaries

The routing core measures texts in UTF-8 bytes where it cuts them, and a cut inside the bytes
of a character is no slice at all. `Text.dropBytes`, `Text.takeBytes` and `Text.sliceBytes`
cut a character list at byte offsets, and give nothing at an offset that is not a boundary.
A cut at the bytes of a prefix is always one (`Text.dropBytes_append`, `Text.takeBytes_append`,
`Text.sliceBytes_append`), and every cut the core makes is one, but the last:

* `RegexPattern.delimiters_on_boundaries` — a delimited pattern's body and flags are the
  slices around its last `/`;
* `RulePattern.segments_le_of_matchPath` — a rule pattern's residual starts at a part of the
  path that exists;
* `exists_labels_second` — a host is read at labels that exist;
* `splitExtension_cut` — a path is cut before the dot of its extension;
* `RegexMatch.matchedLen_on_boundary` — the residual of a regular-expression match is cut
  after the match's length, a boundary when the match begins the path or the path is ASCII;
  `regex_residual_cut_inside_char` — but not in general;
* `byte_offsets_on_boundaries` — all of these together.
-/

namespace RuleRouting

namespace Text

/-! ## Cutting at byte offsets -/

/-- The characters in the first `n` bytes, when `n` falls on a character boundary. -/
def takeBytes : List Char → Nat → Option (List Char)
  | _, 0 => some []
  | [], _ + 1 => none
  | c :: cs, n + 1 =>
    if c.utf8Size ≤ n + 1 then (takeBytes cs (n + 1 - c.utf8Size)).map (c :: ·) else none

/-- The characters of the bytes from `i` to `j`: the slice `i..j` of a text, which exists when
`i ≤ j` and both fall on character boundaries. -/
def sliceBytes (cs : List Char) (i j : Nat) : Option (List Char) :=
  if i ≤ j then (dropBytes cs i).bind fun rest => takeBytes rest (j - i) else none

@[simp] theorem byteLength_nil : byteLength [] = 0 := rfl

@[simp] theorem byteLength_cons (c : Char) (cs : List Char) :
    byteLength (c :: cs) = c.utf8Size + byteLength cs := by
  simp [byteLength]

@[simp] theorem byteLength_append (xs ys : List Char) :
    byteLength (xs ++ ys) = byteLength xs + byteLength ys := by
  induction xs with
  | nil => simp
  | cons c cs ih => rw [List.cons_append, byteLength_cons, byteLength_cons, ih, Nat.add_assoc]

theorem byteLength_toList (s : String) : byteLength s.toList = s.utf8ByteSize := by
  rw [← String.utf8Len_toList]
  induction s.toList with
  | nil => rfl
  | cons c cs ih =>
    rw [byteLength_cons, String.utf8Len_cons, ih]
    omega

/-- A character's bytes are a positive count, so a cut after it is a successor. -/
theorem utf8Size_add_eq_succ (c : Char) (n : Nat) :
    c.utf8Size + n = (c.utf8Size + n - 1) + 1 := by
  have := c.utf8Size_pos
  omega

@[simp] theorem dropBytes_zero (cs : List Char) : dropBytes cs 0 = some cs := by
  cases cs <;> rfl

/-- Cutting a text after the bytes of a prefix leaves the rest. -/
theorem dropBytes_append (xs ys : List Char) : dropBytes (xs ++ ys) (byteLength xs) = some ys := by
  induction xs with
  | nil => exact dropBytes_zero ys
  | cons c xs ih =>
    have hc := c.utf8Size_pos
    rw [List.cons_append, byteLength_cons, utf8Size_add_eq_succ, dropBytes, if_pos (by omega)]
    rw [show c.utf8Size + byteLength xs - 1 + 1 - c.utf8Size = byteLength xs by omega]
    exact ih

/-- Taking the bytes of a prefix gives the prefix. -/
theorem takeBytes_append (xs ys : List Char) : takeBytes (xs ++ ys) (byteLength xs) = some xs := by
  induction xs with
  | nil => cases ys <;> rfl
  | cons c xs ih =>
    have hc := c.utf8Size_pos
    rw [List.cons_append, byteLength_cons, utf8Size_add_eq_succ, takeBytes, if_pos (by omega)]
    rw [show c.utf8Size + byteLength xs - 1 + 1 - c.utf8Size = byteLength xs by omega, ih]
    rfl

/-- The slice between the bytes of a prefix and those of the next part is that part. -/
theorem sliceBytes_append (xs ys zs : List Char) :
    sliceBytes (xs ++ ys ++ zs) (byteLength xs) (byteLength xs + byteLength ys) = some ys := by
  rw [sliceBytes, if_pos (by omega), List.append_assoc, dropBytes_append, Option.bind_some,
    Nat.add_sub_cancel_left, takeBytes_append]

/-- In ASCII text every byte is a character. -/
theorem byteLength_of_ascii {cs : List Char} (h : ∀ c ∈ cs, c.isAscii = true) :
    byteLength cs = cs.length := by
  induction cs with
  | nil => rfl
  | cons c cs ih =>
    have hc : c.utf8Size = 1 := by
      have hascii := h c List.mem_cons_self
      simp only [Char.isAscii, decide_eq_true_eq] at hascii
      rw [Char.utf8Size_eq_one_iff, UInt32.le_iff_toNat_le]
      exact Nat.le_of_lt_succ hascii
    rw [byteLength_cons, hc, ih fun c' hc' => h c' (List.mem_cons_of_mem _ hc'), List.length_cons]
    omega

/-- In ASCII text every byte offset up to its length falls on a character boundary. -/
theorem dropBytes_of_ascii {cs : List Char} (h : ∀ c ∈ cs, c.isAscii = true) {n : Nat}
    (hn : n ≤ cs.length) : dropBytes cs n = some (cs.drop n) := by
  have htake : byteLength (cs.take n) = n := by
    rw [byteLength_of_ascii fun c hc => h c (List.mem_of_mem_take hc), List.length_take]
    omega
  calc dropBytes cs n = dropBytes (cs.take n ++ cs.drop n) (byteLength (cs.take n)) := by
        rw [List.take_append_drop, htake]
    _ = some (cs.drop n) := dropBytes_append _ _

/-! ## Splitting at the last separator -/

/-- A text holding `sep` is what stands before its last `sep`, that `sep`, and what follows it,
which holds no `sep`; read off the reversed text, what follows comes first. -/
theorem exists_lastSep {cs : List Char} {sep : Char} (h : sep ∈ cs) :
    ∃ front back, cs = front ++ sep :: back ∧ sep ∉ back ∧
      cs.reverse.takeWhile (· ≠ sep) = back.reverse ∧
      cs.reverse.dropWhile (· ≠ sep) = sep :: front.reverse := by
  have hne : cs.reverse.dropWhile (· ≠ sep) ≠ [] := by
    intro hnil
    have := List.dropWhile_eq_nil_iff.mp hnil sep (List.mem_reverse.mpr h)
    simp at this
  obtain ⟨x, t, hxt⟩ := List.exists_cons_of_ne_nil hne
  have hx : x = sep := by
    have hhead := List.head_dropWhile_not (fun c => decide (c ≠ sep)) hne
    simp only [hxt, List.head_cons] at hhead
    simpa using hhead
  subst hx
  have hsplit := @List.takeWhile_append_dropWhile _ (fun c => decide (c ≠ x)) cs.reverse
  rw [hxt] at hsplit
  refine ⟨t.reverse, (cs.reverse.takeWhile (· ≠ x)).reverse, ?_, fun hmem => ?_,
    (List.reverse_reverse _).symm, by rw [List.reverse_reverse]; exact hxt⟩
  · calc cs = cs.reverse.reverse := (List.reverse_reverse cs).symm
      _ = (cs.reverse.takeWhile (· ≠ x) ++ x :: t).reverse := by rw [hsplit]
      _ = _ := by simp
  · have := List.mem_takeWhile_imp (List.mem_reverse.mp hmem)
    simp at this

theorem splitOn_of_not_mem {cs : List Char} {sep : Char} (h : sep ∉ cs) : cs.splitOn sep = [cs] := by
  apply List.splitOnP_eq_singleton
  intro c hc
  simp only [beq_eq_false_iff_ne]
  rintro rfl
  exact h hc

/-- The text after the last `sep` ends the text. -/
theorem exists_eq_append_split_getLastD (s : String) (sep : Char) :
    ∃ pre, s.toList = pre ++ ((split s sep).getLastD "").toList := by
  by_cases hs : sep ∈ s.toList
  · obtain ⟨front, back, hcs, hback, -, -⟩ := exists_lastSep hs
    refine ⟨front ++ [sep], ?_⟩
    rw [split, hcs, List.splitOn_append_cons_self, splitOn_of_not_mem hback]
    simp
  · refine ⟨[], ?_⟩
    rw [split, splitOn_of_not_mem hs]
    simp

theorem eq_append_of_splitOnceRight {s stem ext : String} {sep : Char}
    (h : splitOnceRight s sep = some (stem, ext)) :
    s.toList = stem.toList ++ sep :: ext.toList ∧ sep ∉ ext.toList := by
  simp only [splitOnceRight] at h
  split at h
  · rename_i hmem
    obtain ⟨front, back, hcs, hback, htake, hdrop⟩ := exists_lastSep (List.contains_iff_mem.mp
      (by simpa using hmem))
    simp only [htake, hdrop, Option.some.injEq, Prod.mk.injEq] at h
    obtain ⟨rfl, rfl⟩ := h
    simpa using ⟨hcs, hback⟩
  · cases h

end Text

/-! ## The delimiters of a regular-expression pattern -/

theorem splitAtLastSlash_eq {cs : List Char} (h : '/' ∈ cs) :
    ∃ front back, cs = front ++ '/' :: back ∧ '/' ∉ back ∧ splitAtLastSlash cs = (front, back) := by
  obtain ⟨front, back, hcs, hback, htake, -⟩ := Text.exists_lastSep h
  refine ⟨front, back, hcs, hback, ?_⟩
  have hrev : cs.reverse = back.reverse ++ '/' :: front.reverse := by simp [hcs]
  simp only [splitAtLastSlash]
  rw [htake, hrev, List.length_reverse, ← @List.length_reverse _ back,
    ← List.singleton_append, ← List.append_assoc, List.drop_left' (by simp), List.reverse_reverse,
    List.reverse_reverse]

/-- **The slices of a delimited pattern fall on character boundaries.** The last `/` stands at
byte `end`, after the opening `/`; the body the pattern reads is the slice `1..end`, and its
flags are what follows byte `end + 1`. -/
theorem RegexPattern.delimiters_on_boundaries {pattern : String} (h : isDelimited pattern = true) :
    ∃ front flags, splitAtLastSlash pattern.toList = (front, flags) ∧
      pattern.toList = front ++ '/' :: flags ∧ '/' ∉ flags ∧ 0 < Text.byteLength front ∧
      Text.sliceBytes pattern.toList 1 (Text.byteLength front) = some (front.drop 1) ∧
      Text.dropBytes pattern.toList (Text.byteLength front + 1) = some flags := by
  obtain ⟨rest, hopen, hrest⟩ : ∃ rest, pattern.toList = '/' :: rest ∧ '/' ∈ rest := by
    unfold isDelimited at h
    split at h
    · exact ⟨_, ‹_›, List.contains_iff_mem.mp h⟩
    · cases h
  obtain ⟨front, flags, hcs, hflags, hsplit⟩ := splitAtLastSlash_eq (hopen ▸ List.mem_cons_self)
  obtain ⟨body, rfl⟩ : ∃ body, front = '/' :: body := by
    rw [hopen] at hcs
    cases front with
    | nil =>
      obtain ⟨-, rfl⟩ := List.cons_eq_cons.mp hcs
      exact absurd hrest hflags
    | cons x body =>
      obtain ⟨rfl, -⟩ := List.cons_eq_cons.mp hcs
      exact ⟨body, rfl⟩
  have hslash : ('/' : Char).utf8Size = 1 := rfl
  refine ⟨_, flags, hsplit, hcs, hflags, by simp [hslash], ?_, ?_⟩
  · rw [hcs, Text.byteLength_cons, hslash, List.drop_one, List.tail_cons]
    exact Text.sliceBytes_append ['/'] body ('/' :: flags)
  · rw [hcs, List.append_cons, show Text.byteLength ('/' :: body) + 1 =
      Text.byteLength (('/' :: body) ++ ['/']) by simp [hslash]; omega]
    exact Text.dropBytes_append _ _

/-! ## The residual of a rule pattern -/

/-- A rule pattern matches only paths with at least as many parts as it has segments, and
leaves the parts after them as its residual. -/
theorem RulePattern.segments_le_of_matchPath {p : RulePattern} {path : String} {m : RuleMatch}
    (h : p.matchPath path = some m) :
    p.segments.length ≤ (Text.split path '/').length ∧
      m.residual = Text.join ((Text.split path '/').drop p.segments.length) '/' := by
  simp only [RulePattern.matchPath] at h
  split at h
  · cases h
  · split at h
    · cases h
    · obtain ⟨caps, -, rfl⟩ := Option.map_eq_some_iff.mp h
      exact ⟨by omega, rfl⟩

/-! ## The labels of a host -/

/-- The labels a host is read at, when it has more than two: those before the last two end
with the second-level label, and the one before it, if any, is the third-level label. -/
theorem exists_labels_second {labels : List String} (h : 2 < labels.length) :
    ∃ init second a b, labels = init ++ [second, a, b] ∧
      (labels.take (labels.length - 2)).getLastD "" = second ∧
      ((labels.take (labels.length - 2)).reverse.drop 1).head? = init.getLast? := by
  obtain ⟨init, rest, rfl, hrest⟩ : ∃ init rest, labels = init ++ rest ∧ rest.length = 3 :=
    ⟨labels.take (labels.length - 3), labels.drop (labels.length - 3),
      (List.take_append_drop _ _).symm, by rw [List.length_drop]; omega⟩
  obtain ⟨second, a, b, rfl⟩ := List.length_eq_three.mp hrest
  have hsub : (init ++ [second, a, b]).take ((init ++ [second, a, b]).length - 2) =
      init ++ [second] := by
    simp [List.take_append, List.take_of_length_le]
  refine ⟨init, second, a, b, rfl, ?_, ?_⟩
  · rw [hsub]
    simp
  · rw [hsub]
    simp [List.head?_reverse]

/-! ## The extension of a path -/

/-- **The cut before a path's extension falls on a character boundary**, and the path the
service routes is the text before it. -/
theorem splitExtension_cut {path stem ext : String}
    (h : Text.splitOnceRight ((Text.split path '/').getLastD "") '.' = some (stem, ext))
    (hstem : stem ≠ "") (hext : ext ≠ "") :
    ext.utf8ByteSize + 1 ≤ path.utf8ByteSize ∧
      Text.takeBytes path.toList (path.utf8ByteSize - ext.utf8ByteSize - 1) =
        some (splitExtension path).1.toList := by
  obtain ⟨pre, hpre⟩ := Text.exists_eq_append_split_getLastD path '/'
  obtain ⟨hlast, -⟩ := Text.eq_append_of_splitOnceRight h
  have hpath : path.toList = (pre ++ stem.toList) ++ '.' :: ext.toList := by
    rw [hpre, hlast, List.append_assoc]
  have hdot : ('.' : Char).utf8Size = 1 := rfl
  have hbytes : path.utf8ByteSize = Text.byteLength (pre ++ stem.toList) + 1 + ext.utf8ByteSize := by
    rw [← Text.byteLength_toList, hpath, Text.byteLength_append, Text.byteLength_cons, hdot,
      Text.byteLength_toList]
    omega
  have hchars : path.length - ext.length - 1 = (pre ++ stem.toList).length := by
    rw [← String.length_toList, ← String.length_toList (s := ext), hpath]
    simp
    omega
  have hmodel : (splitExtension path).1.toList = pre ++ stem.toList := by
    have hne : (!stem.isEmpty && !ext.isEmpty) = true := by simp [hstem, hext]
    simp only [splitExtension, h, hne, if_true, String.toList_ofList, hchars]
    rw [hpath, List.take_left']
    rfl
  refine ⟨by omega, ?_⟩
  rw [hmodel, show path.utf8ByteSize - ext.utf8ByteSize - 1 = Text.byteLength (pre ++ stem.toList) by
    omega, hpath]
  exact Text.takeBytes_append _ _

/-! ## The residual of a regular-expression match -/

/-- The text a group of a match reports stands in the text searched. -/
theorem Regex.infix_of_mem_captures {r : Regex.Compiled} {text s : String}
    {groups : List (Option String)} (h : r.captures text = some groups) (hs : some s ∈ groups) :
    s.toList <:+: text.toList := by
  unfold Regex.Compiled.captures at h
  obtain ⟨slots, -, rfl⟩ := Option.map_eq_some_iff.mp h
  obtain ⟨g, -, hg⟩ := List.mem_map.mp hs
  unfold Regex.groupText at hg
  split at hg
  · cases hg
    simp only [String.toList_ofList, Array.toList_extract, List.extract_eq_take_drop,
      List.toList_toArray]
    exact (List.take_prefix _ _).isInfix.trans (List.drop_suffix _ _).isInfix
  · cases hg

/-- The cut after a regular-expression match's length falls on a character boundary when the
match begins the path, or when the path is ASCII. -/
theorem RegexMatch.matchedLen_on_boundary {p : RegexPattern} {path : String} {m : RegexMatch}
    (h : p.matchPath path = some m)
    (hcut : (∀ whole, m.groups.head? = some (some whole) → whole.toList <+: path.toList) ∨
      ∀ c ∈ path.toList, c.isAscii = true) :
    (Text.dropBytes path.toList m.matchedLen).isSome = true := by
  obtain ⟨groups, hgroups, rfl⟩ := Option.map_eq_some_iff.mp h
  unfold RegexMatch.matchedLen
  split
  · rename_i whole rest hwhole
    rcases hcut with hprefix | hascii
    · obtain ⟨tail, htail⟩ := hprefix whole (by rw [hwhole]; rfl)
      rw [← Text.byteLength_toList, ← htail, Text.dropBytes_append]
      rfl
    · have hinfix := Regex.infix_of_mem_captures hgroups (hwhole ▸ List.mem_cons_self)
      rw [← Text.byteLength_toList,
        Text.byteLength_of_ascii fun c hc => hascii c (List.IsInfix.subset hinfix hc),
        Text.dropBytes_of_ascii hascii hinfix.length_le]
      rfl
  · rw [Text.dropBytes_zero]
    rfl

/-- The residual cut of a regular-expression match can fall inside a character: `a` matches
`é/a/x/y` one byte long, after the two bytes of `é` and a `/`, and byte 1 is inside `é`. -/
theorem regex_residual_cut_inside_char :
    ∃ p m, RegexPattern.parse "/a/" = .ok p ∧ p.matchPath "é/a/x/y" = some m ∧
      Text.dropBytes "é/a/x/y".toList m.matchedLen = none := by
  have hcut : ((RegexPattern.parse "/a/").toOption.bind (·.matchPath "é/a/x/y")).map
      (fun m => Text.dropBytes "é/a/x/y".toList m.matchedLen) = some none := by
    decide +kernel
  cases hp : RegexPattern.parse "/a/" with
  | error e =>
    rw [hp] at hcut
    cases hcut
  | ok p =>
    rw [hp] at hcut
    simp only [Except.toOption, Option.bind_some] at hcut
    cases hm : p.matchPath "é/a/x/y" with
    | none =>
      rw [hm] at hcut
      cases hcut
    | some m =>
      rw [hm, Option.map_some, Option.some.injEq] at hcut
      exact ⟨p, m, rfl, hm, hcut⟩

/-! ## Every cut -/

/-- **Every byte offset the routing core cuts a text at falls on a character boundary, except
the residual cut of a regular-expression match.** A delimited pattern is sliced after its
opening `/` and around its last `/`; a rule pattern takes the path's parts after its segments,
which exist; a host with more than two labels is read at its second- and third-level labels,
which exist; and a path is cut before its extension's dot. The cut after a regular-expression
match's length is a boundary when the match begins the path or the path is ASCII, and not in
general (`regex_residual_cut_inside_char`). -/
theorem byte_offsets_on_boundaries :
    (∀ pattern : String, isDelimited pattern = true →
      ∃ front flags, splitAtLastSlash pattern.toList = (front, flags) ∧
        pattern.toList = front ++ '/' :: flags ∧ '/' ∉ flags ∧ 0 < Text.byteLength front ∧
        Text.sliceBytes pattern.toList 1 (Text.byteLength front) = some (front.drop 1) ∧
        Text.dropBytes pattern.toList (Text.byteLength front + 1) = some flags) ∧
    (∀ (p : RulePattern) (path : String) (m : RuleMatch), p.matchPath path = some m →
      p.segments.length ≤ (Text.split path '/').length ∧
        m.residual = Text.join ((Text.split path '/').drop p.segments.length) '/') ∧
    (∀ host : String, 2 < (Text.split host '.').length →
      ∃ init second a b, Text.split host '.' = init ++ [second, a, b] ∧
        ((Text.split host '.').take ((Text.split host '.').length - 2)).getLastD "" = second ∧
        (((Text.split host '.').take ((Text.split host '.').length - 2)).reverse.drop 1).head? =
          init.getLast?) ∧
    (∀ path stem ext : String,
      Text.splitOnceRight ((Text.split path '/').getLastD "") '.' = some (stem, ext) →
      stem ≠ "" → ext ≠ "" →
      ext.utf8ByteSize + 1 ≤ path.utf8ByteSize ∧
        Text.takeBytes path.toList (path.utf8ByteSize - ext.utf8ByteSize - 1) =
          some (splitExtension path).1.toList) ∧
    (∀ (p : RegexPattern) (path : String) (m : RegexMatch), p.matchPath path = some m →
      ((∀ whole, m.groups.head? = some (some whole) → whole.toList <+: path.toList) ∨
        ∀ c ∈ path.toList, c.isAscii = true) →
      (Text.dropBytes path.toList m.matchedLen).isSome = true) :=
  ⟨fun _ h => RegexPattern.delimiters_on_boundaries h,
   fun _ _ _ h => RulePattern.segments_le_of_matchPath h,
   fun _ h => exists_labels_second h,
   fun _ _ _ h hstem hext => splitExtension_cut h hstem hext,
   fun _ _ _ h hcut => RegexMatch.matchedLen_on_boundary h hcut⟩

end RuleRouting
