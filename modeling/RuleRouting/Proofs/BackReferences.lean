import Mathlib.Data.List.TakeWhile
import RuleRouting.Proofs.RegexRoutes
import RuleRouting.Proofs.RuleMatching
import RuleRouting.Proofs.FormDecoding
import RuleRouting.Proofs.Sendable

/-!
# Back-references in a route address

A rule-syntax match reads its address first and then replaces each declared value `:N` by the
N-th captured value (`declaredRoute`); a regular-expression match splices the captured values
into the address text and then reads it (`parseRoute (substitute address lookup)`). The two
agree when every token stands as a whole query value `:N` with `N ≥ 1` in ASCII digits that
fit a machine word, no other value decodes to such a token, and the captured values neither
split a parameter nor hold an escape (`parseRoute_substitute`).

Outside these conditions they differ: a captured `a&b=c` becomes two parameters in the
regular-expression resolver and one value in the rule-syntax resolver
(`regex_capture_with_ampersand`).
-/

namespace RuleRouting

open Query Text

/-! ## Substitution piece by piece -/

theorem substituteChars_colon (lookup : Nat → Option String) (rest : List Char) :
    substituteChars lookup (':' :: rest) =
      if (rest.takeWhile isDecimalDigit).isEmpty then ':' :: substituteChars lookup rest
      else (referenceValue lookup (rest.takeWhile isDecimalDigit)).toList ++
        substituteChars lookup (rest.drop (rest.takeWhile isDecimalDigit).length) := by
  rw [substituteChars]

theorem substituteChars_cons_of_ne (lookup : Nat → Option String) {c : Char} (rest : List Char)
    (hc : c ≠ ':') : substituteChars lookup (c :: rest) = c :: substituteChars lookup rest := by
  rw [substituteChars]
  simp [hc]

theorem takeWhile_append_cons_of_not {p : Char → Bool} {c : Char} (x y : List Char)
    (hc : p c = false) : (x ++ c :: y).takeWhile p = x.takeWhile p := by
  induction x with
  | nil => simp [hc]
  | cons a x ih => by_cases ha : p a <;> simp [ha, ih]

/-- A character that is neither `:` nor a digit ends every token before it, so substitution
goes through it piece by piece. -/
theorem substituteChars_append_sep (lookup : Nat → Option String) (x : List Char) {c : Char}
    (y : List Char) (hc : isDecimalDigit c = false) (hcolon : c ≠ ':') :
    substituteChars lookup (x ++ c :: y) =
      substituteChars lookup x ++ c :: substituteChars lookup y := by
  fun_induction substituteChars lookup x with
  | case1 => rw [List.nil_append, substituteChars_cons_of_ne _ _ hcolon, List.nil_append]
  | case2 rest digits hempty ih =>
    rw [List.cons_append, substituteChars_colon, takeWhile_append_cons_of_not _ _ hc,
      if_pos hempty, ih, List.cons_append]
  | case3 rest digits hdigits ih =>
    rw [List.cons_append, substituteChars_colon, takeWhile_append_cons_of_not _ _ hc,
      if_neg hdigits,
      List.drop_append_of_le_length (List.IsPrefix.length_le (List.takeWhile_prefix _)), ih,
      List.append_assoc]
  | case4 d rest hd ih =>
    rw [List.cons_append, substituteChars_cons_of_ne _ _ hd, ih, List.cons_append]

theorem substituteChars_intercalate (lookup : Nat → Option String) {c : Char}
    (hc : isDecimalDigit c = false) (hcolon : c ≠ ':') (xs : List (List Char)) :
    substituteChars lookup (List.intercalate [c] xs) =
      List.intercalate [c] (xs.map (substituteChars lookup)) := by
  induction xs with
  | nil => simp [substituteChars]
  | cons x xs ih =>
    cases xs with
    | nil => simp
    | cons y ys =>
      rw [List.map_cons, List.map_cons, List.intercalate_cons_cons, List.intercalate_cons_cons,
        List.append_assoc, List.singleton_append, substituteChars_append_sep _ _ _ hc hcolon,
        ← List.map_cons, ih, List.append_assoc, List.singleton_append, List.map_cons]

/-- On ASCII, the decimal digits of every script are `0`–`9`. -/
theorem isDecimalDigit_ascii {c : Char} (h : c.toNat < 128) : isDecimalDigit c = c.isDigit := by
  have hall : ∀ n < 128, isDecimalDigit (Char.ofNat n) = (Char.ofNat n).isDigit := by
    decide +kernel
  have := hall c.toNat h
  rwa [Char.ofNat_toNat] at this

theorem not_mem_substituteChars {lookup : Nat → Option String} {c : Char} {cs : List Char}
    (hcs : c ∉ cs) (hv : ∀ i v, lookup i = some v → c ∉ v.toList) :
    c ∉ substituteChars lookup cs := by
  intro h
  rcases mem_substituteChars h with h | ⟨i, v, hi, hc⟩
  · exact hcs h
  · exact hv i v hi hc

/-! ## Query pieces -/

/-- A query piece with no back-reference token, whose value does not read as one once
decoded. -/
def PlainPiece (piece : List Char) : Prop :=
  hasReference piece = false ∧
    backReference (decodeComponent ((piece.dropWhile (· ≠ '=')).drop 1)) = none

/-- A query piece `name=:N` whose whole value is one back-reference, with `N` in ASCII digits
naming an index from 1 up to a machine word. -/
def ReferencePiece (piece : List Char) : Prop :=
  ∃ name digits, piece = name ++ '=' :: ':' :: digits ∧ '=' ∉ name ∧
    hasReference name = false ∧ (∀ d ∈ digits, d.isDigit = true) ∧
    (backReference (String.ofList (':' :: digits))).isSome = true

/-- A captured value that a query value holds as it is: no `&` and no escape. -/
def SafeValue (v : String) : Prop :=
  '&' ∉ v.toList ∧ NoEscape v.toList

instance (piece : List Char) : Decidable (PlainPiece piece) :=
  inferInstanceAs (Decidable (_ ∧ _))

instance (v : String) : Decidable (SafeValue v) :=
  inferInstanceAs (Decidable (_ ∧ _))

theorem backReference_colon (digits : List Char) :
    backReference (String.ofList (':' :: digits)) =
      (parseUnsigned (String.ofList digits) maxUsize).filter (· > 0) := by
  simp [backReference]

theorem digits_ne_nil_of_backReference {digits : List Char}
    (h : (backReference (String.ofList (':' :: digits))).isSome = true) : digits ≠ [] := by
  rintro rfl
  rw [backReference_colon] at h
  simp [parseUnsigned] at h

/-- A reference that names an index is replaced, by both resolvers, by the value at that
index. -/
theorem referenceValue_eq_declaredValue (lookup : Nat → Option String) {digits : List Char}
    (h : (backReference (String.ofList (':' :: digits))).isSome = true) :
    referenceValue lookup digits = declaredValue lookup (String.ofList (':' :: digits)) := by
  obtain ⟨n, hn⟩ := Option.isSome_iff_exists.mp h
  rw [backReference_colon] at hn
  obtain ⟨hparse, hpos⟩ := Option.filter_eq_some_iff.mp hn
  have hpos' : n > 0 := by simpa using hpos
  have hdeclared : declaredValue lookup (String.ofList (':' :: digits)) = (lookup n).getD "" := by
    simp only [declaredValue, backReference_colon, hn]
  rw [hdeclared]
  simp only [referenceValue, hparse, if_pos hpos']

theorem substituteChars_reference (lookup : Nat → Option String) {name digits : List Char}
    (hname : hasReference name = false) (hdigits : digits ≠ [])
    (hd : ∀ d ∈ digits, d.isDigit = true) :
    substituteChars lookup (name ++ '=' :: ':' :: digits) =
      name ++ '=' :: (referenceValue lookup digits).toList := by
  have hall : digits.takeWhile isDecimalDigit = digits := by
    refine List.takeWhile_eq_self_iff.mpr fun d hmem => ?_
    have hdig := hd d hmem
    have hascii : d.toNat < 128 := by
      simp only [Char.isDigit, Bool.and_eq_true, decide_eq_true_eq] at hdig
      exact Nat.lt_of_le_of_lt (Char.le_def.mp hdig.2) (by decide)
    rw [isDecimalDigit_ascii hascii, hdig]
  have heq : isDecimalDigit '=' = false := by rw [isDecimalDigit_ascii (by decide)]; rfl
  rw [substituteChars_append_sep _ _ _ heq (by decide), substituteChars_of_hasReference hname,
    substituteChars_colon, hall, if_neg (by simpa using hdigits), List.drop_length,
    substituteChars_of_hasReference (by rfl), List.append_nil]

theorem formPair_substituteChars_plain (lookup : Nat → Option String) {piece : List Char}
    (hp : PlainPiece piece) :
    formPair (substituteChars lookup piece) =
      (formPair piece).map fun p => (p.1, declaredValue lookup p.2) := by
  rw [substituteChars_of_hasReference hp.1, formPair]
  split
  · rfl
  · simp only [Option.map_some, declaredValue, hp.2]

theorem formPair_substituteChars_reference {lookup : Nat → Option String}
    (hv : ∀ i v, lookup i = some v → SafeValue v) {piece : List Char} (hp : ReferencePiece piece) :
    formPair (substituteChars lookup piece) =
      (formPair piece).map fun p => (p.1, declaredValue lookup p.2) := by
  obtain ⟨name, digits, rfl, hname, hnameRef, hdigits, hback⟩ := hp
  have hne := digits_ne_nil_of_backReference hback
  have hvalue : NoEscape (referenceValue lookup digits).toList := by
    intro c hc
    obtain ⟨i, v, hi, hcv⟩ := mem_referenceValue hc
    exact (hv i v hi).2 c hcv
  have htoken : NoEscape (':' :: digits) := by
    intro c hc
    rcases List.mem_cons.mp hc with rfl | hc
    · decide
    · have hdig := hdigits c hc
      constructor <;> rintro rfl <;> simp at hdig
  rw [substituteChars_reference lookup hnameRef hne hdigits, formPair_of_name _ hname,
    formPair_of_name _ hname, decodeComponent_of_noEscape hvalue,
    decodeComponent_of_noEscape htoken, String.ofList_toList, Option.map_some,
    referenceValue_eq_declaredValue lookup hback]

theorem formPair_substituteChars {lookup : Nat → Option String}
    (hv : ∀ i v, lookup i = some v → SafeValue v) {piece : List Char}
    (hp : PlainPiece piece ∨ ReferencePiece piece) :
    formPair (substituteChars lookup piece) =
      (formPair piece).map fun p => (p.1, declaredValue lookup p.2) :=
  hp.elim (formPair_substituteChars_plain lookup) (formPair_substituteChars_reference hv)

/-! ## A leading `?` -/

theorem dropQuestion_cases (cs : List Char) :
    dropQuestion cs = cs ∨ cs = '?' :: dropQuestion cs := by
  unfold dropQuestion
  split
  · exact .inr rfl
  · exact .inl rfl

theorem dropQuestion_of_head {cs : List Char} (h : cs.head? ≠ some '?') : dropQuestion cs = cs := by
  rcases dropQuestion_cases cs with hcs | hcs
  · exact hcs
  · rw [hcs] at h
    exact absurd rfl h

theorem dropQuestion_append (x : List Char) {y : List Char} (hy : y.head? ≠ some '?') :
    dropQuestion (x ++ y) = dropQuestion x ++ y := by
  cases x with
  | nil => exact dropQuestion_of_head hy
  | cons c x =>
    by_cases hc : c = '?'
    · subst hc
      rfl
    · rw [List.cons_append, dropQuestion_of_head (by simpa using hc),
        dropQuestion_of_head (by simpa using hc), List.cons_append]

theorem dropQuestion_intercalate {sep : Char} (hsep : sep ≠ '?') (p : List Char)
    (ps : List (List Char)) :
    dropQuestion (List.intercalate [sep] (p :: ps)) =
      List.intercalate [sep] (dropQuestion p :: ps) := by
  cases ps with
  | nil => simp
  | cons q qs =>
    rw [List.intercalate_cons_cons, List.intercalate_cons_cons, List.append_assoc,
      List.append_assoc, dropQuestion_append _ (by simpa using hsep)]

theorem mem_of_mem_dropQuestion {c : Char} {cs : List Char} (h : c ∈ dropQuestion cs) : c ∈ cs := by
  rcases dropQuestion_cases cs with hcs | hcs
  · rwa [hcs] at h
  · rw [hcs]
    exact List.mem_cons_of_mem _ h

theorem hasReference_dropQuestion {cs : List Char} (h : hasReference cs = false) :
    hasReference (dropQuestion cs) = false := by
  rcases dropQuestion_cases cs with hcs | hcs
  · rwa [hcs]
  · rw [hcs] at h
    exact hasReference_cons h

theorem plainPiece_dropQuestion {piece : List Char} (hp : PlainPiece piece) :
    PlainPiece (dropQuestion piece) := by
  rcases dropQuestion_cases piece with hcs | hcs
  · rwa [hcs]
  · refine ⟨hasReference_dropQuestion hp.1, ?_⟩
    have hvalue := hp.2
    rw [hcs, List.dropWhile_cons_of_pos (by decide)] at hvalue
    exact hvalue

theorem referencePiece_dropQuestion {piece : List Char} (hp : ReferencePiece piece) :
    ReferencePiece (dropQuestion piece) := by
  obtain ⟨name, digits, rfl, hname, hnameRef, hdigits, hback⟩ := hp
  refine ⟨dropQuestion name, digits, dropQuestion_append _ (by simp), fun h => hname
    (mem_of_mem_dropQuestion h), hasReference_dropQuestion hnameRef, hdigits, hback⟩

theorem dropQuestion_substituteChars (lookup : Nat → Option String) {piece : List Char}
    (hp : PlainPiece piece ∨ ReferencePiece piece) :
    dropQuestion (substituteChars lookup piece) = substituteChars lookup (dropQuestion piece) := by
  rcases hp with hp | hp
  · rw [substituteChars_of_hasReference hp.1,
      substituteChars_of_hasReference (plainPiece_dropQuestion hp).1]
  · obtain ⟨name, digits, rfl, -, hnameRef, hdigits, hback⟩ := hp
    have hne := digits_ne_nil_of_backReference hback
    rw [substituteChars_reference lookup hnameRef hne hdigits, dropQuestion_append _ (by simp),
      dropQuestion_append _ (by simp),
      substituteChars_reference lookup (hasReference_dropQuestion hnameRef) hne hdigits]

/-- What holds of every piece, and of the first piece without its `?`, holds of the pieces
of a query without its `?`. -/
theorem forall_mem_dropQuestion_cons {P : List Char → Prop} (hP : ∀ x, P x → P (dropQuestion x))
    {p : List Char} {ps : List (List Char)} (h : ∀ x ∈ p :: ps, P x) :
    ∀ x ∈ dropQuestion p :: ps, P x := by
  intro x hx
  rcases List.mem_cons.mp hx with rfl | hx
  · exact hP p (h p List.mem_cons_self)
  · exact h x (List.mem_cons_of_mem p hx)

/-! ## A query -/

/-- Every `&`-piece of a query text is plain or one whole back-reference. -/
def PiecewiseReferences (q : List Char) : Prop :=
  ∀ piece ∈ splitAt '&' q, PlainPiece piece ∨ ReferencePiece piece

/-- **A query read after splicing is the query read before, with each reference replaced.** -/
theorem parse_substituteChars {lookup : Nat → Option String}
    (hv : ∀ i v, lookup i = some v → SafeValue v) {q : List Char} (hq : PiecewiseReferences q) :
    Query.parse (String.ofList (substituteChars lookup q)) =
      (Query.parse (String.ofList q)).mapValues fun _ v => declaredValue lookup v := by
  obtain ⟨p, ps, hsplit⟩ := List.exists_cons_of_ne_nil (splitAt_ne_nil '&' q)
  have hq' : q = List.intercalate ['&'] (p :: ps) := by rw [← hsplit, intercalate_splitAt]
  have hpieces : ∀ x ∈ p :: ps, PlainPiece x ∨ ReferencePiece x := hsplit ▸ hq
  have hamp : ∀ x ∈ p :: ps, '&' ∉ x := fun x hx => not_mem_of_mem_splitAt (hsplit ▸ hx)
  have hfirst := hpieces p List.mem_cons_self
  have hpieces' : ∀ x ∈ dropQuestion p :: ps, PlainPiece x ∨ ReferencePiece x :=
    forall_mem_dropQuestion_cons (fun _ hx => hx.imp plainPiece_dropQuestion
      referencePiece_dropQuestion) hpieces
  have hamp' : ∀ x ∈ dropQuestion p :: ps, '&' ∉ x :=
    forall_mem_dropQuestion_cons (fun _ hx h => hx (mem_of_mem_dropQuestion h)) hamp
  have hampSubst : ∀ x ∈ (dropQuestion p :: ps).map (substituteChars lookup), '&' ∉ x := by
    intro x hx
    obtain ⟨y, hy, rfl⟩ := List.mem_map.mp hx
    exact not_mem_substituteChars (hamp' y hy) fun i v h => (hv i v h).1
  have hamp_digit : isDecimalDigit '&' = false := by rw [isDecimalDigit_ascii (by decide)]; rfl
  have hafter : dropQuestion (substituteChars lookup q) =
      List.intercalate ['&'] ((dropQuestion p :: ps).map (substituteChars lookup)) := by
    rw [hq', substituteChars_intercalate _ hamp_digit (by decide), List.map_cons,
      dropQuestion_intercalate (by decide), dropQuestion_substituteChars lookup hfirst,
      List.map_cons]
  have hbefore : dropQuestion q = List.intercalate ['&'] (dropQuestion p :: ps) := by
    rw [hq', dropQuestion_intercalate (by decide)]
  rw [Query.parse, Query.parse, String.toList_ofList, String.toList_ofList, hafter, hbefore,
    formPairs_intercalate (by simp) hampSubst, formPairs_intercalate (by simp) hamp',
    OrderedMap.mapValues_ofList, List.filterMap_map, List.map_filterMap]
  congr 1
  refine List.filterMap_congr fun x hx => ?_
  exact formPair_substituteChars hv (hpieces' x hx)

/-! ## A route address -/

theorem exists_dropWhile_ne {sep : Char} {cs : List Char} (h : sep ∈ cs) :
    ∃ rest, cs.dropWhile (· ≠ sep) = sep :: rest := by
  induction cs with
  | nil => cases h
  | cons c cs ih =>
    by_cases hc : c = sep
    · subst hc
      exact ⟨cs, by simp⟩
    · rw [List.dropWhile_cons_of_pos (by simpa using hc)]
      exact ih (List.mem_of_ne_of_mem (Ne.symm hc) h)

/-- A text cut at its first separator is the part before it, the separator and the rest. -/
theorem Text.eq_append_of_splitOnce {s path q : String} {sep : Char}
    (h : splitOnce s sep = some (path, q)) :
    s.toList = path.toList ++ sep :: q.toList ∧ sep ∉ path.toList := by
  simp only [splitOnce] at h
  split at h
  · rename_i hmem
    obtain ⟨rest, hrest⟩ := exists_dropWhile_ne (List.contains_iff_mem.mp hmem)
    simp only [Option.some.injEq, Prod.mk.injEq] at h
    obtain ⟨rfl, rfl⟩ := h
    refine ⟨?_, fun hsep => ?_⟩
    · rw [String.toList_ofList, String.toList_ofList, hrest, List.drop_one, List.tail_cons,
        ← hrest, List.takeWhile_append_dropWhile]
    · rw [String.toList_ofList] at hsep
      simpa using List.mem_takeWhile_imp hsep
  · cases h

theorem Text.not_mem_of_splitOnce {s : String} {sep : Char} (h : splitOnce s sep = none) :
    sep ∉ s.toList := by
  simp only [splitOnce] at h
  split at h
  · cases h
  · rename_i hmem
    simpa using hmem

theorem hasInnerSlash_of_not_mem {cs : List Char} (h : '/' ∉ cs) :
    hasInnerSlash (String.ofList cs) = false := by
  cases cs with
  | nil => rfl
  | cons c rest =>
    simp only [List.mem_cons, not_or] at h
    simp [hasInnerSlash, h.2]

/-- Splicing values without `/` into an address that names no route keeps it naming none. -/
theorem hasInnerSlash_substitute {address : String} {lookup : Nat → Option String}
    (h : hasInnerSlash address = false) (hv : ∀ i v, lookup i = some v → '/' ∉ v.toList) :
    hasInnerSlash (substitute address lookup) = false := by
  rw [substitute]
  cases hcs : address.toList with
  | nil =>
    rw [substituteChars]
    rfl
  | cons c rest =>
    by_cases hc : c = '/'
    · subst hc
      rw [substituteChars_cons_of_ne _ _ (by decide)]
      simp [hasInnerSlash]
    · have hrest : '/' ∉ rest := by simpa [hasInnerSlash, hcs, hc] using h
      have hnone : '/' ∉ c :: rest := by
        simp only [List.mem_cons, not_or]
        exact ⟨Ne.symm hc, hrest⟩
      exact hasInnerSlash_of_not_mem (not_mem_substituteChars hnone hv)

/-- Where the back-reference tokens of an address stand, by how the address is read: in
`path?query`, none in the path and only whole values in the query; in an address read as a
route alone, none; in one read as parameters only, only whole values. -/
def ReferencesAsValues (address : String) : Prop :=
  match Text.splitOnce address '?' with
  | some (path, q) => hasReference path.toList = false ∧ PiecewiseReferences q.toList
  | none =>
    if hasInnerSlash address then hasReference address.toList = false
    else PiecewiseReferences address.toList

/-- A captured value that splices into `address` without reshaping it: no `&` and no escape,
and, when the address has no `?`, no `?` and no `/` either. -/
def SplicesInto (address v : String) : Prop :=
  SafeValue v ∧ ('?' ∉ address.toList → '?' ∉ v.toList ∧ '/' ∉ v.toList)

/-- In `path?query` with no token in the path, splicing changes the query only. -/
theorem parseRoute_substitute_of_splitOnce (method : Method) {address path q : String}
    {lookup : Nat → Option String} (hsplit : Text.splitOnce address '?' = some (path, q))
    (hpath : hasReference path.toList = false) (hq : PiecewiseReferences q.toList)
    (hsafe : ∀ i v, lookup i = some v → SafeValue v) :
    parseRoute (substitute address lookup) method = declaredRoute address method lookup := by
  obtain ⟨hchars, hnot⟩ := Text.eq_append_of_splitOnce hsplit
  have hq_digit : isDecimalDigit '?' = false := by rw [isDecimalDigit_ascii (by decide)]; rfl
  have hsubst : (substitute address lookup).toList =
      path.toList ++ '?' :: (String.ofList (substituteChars lookup q.toList)).toList := by
    rw [substitute, String.toList_ofList, hchars,
      substituteChars_append_sep _ _ _ hq_digit (by decide),
      substituteChars_of_hasReference hpath, String.toList_ofList]
  rw [parseRoute, Text.splitOnce_of_eq hsubst hnot, declaredRoute, parseRoute, hsplit]
  simp only [parse_substituteChars hsafe hq, String.ofList_toList]

/-- An address read as parameters only is still read so once values without `?` and `/` are
spliced in. -/
theorem parseRoute_substitute_of_params (method : Method) {address : String}
    {lookup : Nat → Option String} (hsplit : Text.splitOnce address '?' = none)
    (hslash : hasInnerSlash address = false) (ha : PiecewiseReferences address.toList)
    (hv : ∀ i v, lookup i = some v → SafeValue v ∧ '?' ∉ v.toList ∧ '/' ∉ v.toList) :
    parseRoute (substitute address lookup) method = declaredRoute address method lookup := by
  have hsplit' : Text.splitOnce (substitute address lookup) '?' = none := by
    refine Text.splitOnce_of_not_mem ?_
    rw [substitute, String.toList_ofList]
    exact not_mem_substituteChars (Text.not_mem_of_splitOnce hsplit) fun i v h => (hv i v h).2.1
  have hslash' := hasInnerSlash_substitute hslash fun i v h => (hv i v h).2.2
  rw [parseRoute, hsplit', hslash', declaredRoute, parseRoute, hsplit, hslash]
  simp only [Bool.false_eq_true, if_false, substitute,
    parse_substituteChars (fun i v h => (hv i v h).1) ha, String.ofList_toList]

/-- **The two resolvers agree on back-references that stand as whole query values.** Splicing
the captured values into the address and reading it gives the route and the parameters that
reading the address and replacing each declared value `:N` by the N-th captured value gives. -/
theorem parseRoute_substitute (method : Method) {address : String}
    {lookup : Nat → Option String} (ha : ReferencesAsValues address)
    (hv : ∀ i v, lookup i = some v → SplicesInto address v) :
    parseRoute (substitute address lookup) method = declaredRoute address method lookup := by
  unfold ReferencesAsValues at ha
  cases hsplit : Text.splitOnce address '?' with
  | some pq =>
    obtain ⟨path, q⟩ := pq
    rw [hsplit] at ha
    exact parseRoute_substitute_of_splitOnce method hsplit ha.1 ha.2 fun i v h => (hv i v h).1
  | none =>
    rw [hsplit] at ha
    dsimp only at ha
    by_cases hslash : hasInnerSlash address = true
    · rw [if_pos hslash] at ha
      rw [substitute_of_hasReference ha, declaredRoute, parseRoute, hsplit, if_pos hslash]
      rfl
    · rw [if_neg hslash] at ha
      have hnone := Text.not_mem_of_splitOnce hsplit
      exact parseRoute_substitute_of_params method hsplit (Bool.of_not_eq_true hslash) ha
        fun i v h => ⟨(hv i v h).1, (hv i v h).2 hnone⟩

/-- `News/read?id=:1&page=2` with the captured value `42`: both resolvers give the route
`News/read` with `id=42` and `page=2`. -/
theorem parseRoute_substitute_page :
    ReferencesAsValues "News/read?id=:1&page=2" ∧
      (∀ i v, (if i = 1 then some "42" else none) = some v →
        SplicesInto "News/read?id=:1&page=2" v) ∧
      parseRoute (substitute "News/read?id=:1&page=2" fun i => if i = 1 then some "42" else none)
          ⟨"GET"⟩ =
        declaredRoute "News/read?id=:1&page=2" ⟨"GET"⟩
          fun i => if i = 1 then some "42" else none := by
  have ha : ReferencesAsValues "News/read?id=:1&page=2" := by
    have hsplit : Text.splitOnce "News/read?id=:1&page=2" '?' =
        some ("News/read", "id=:1&page=2") := by
      decide
    have hpieces : splitAt '&' "id=:1&page=2".toList = ["id=:1".toList, "page=2".toList] := by
      decide
    rw [ReferencesAsValues, hsplit]
    refine ⟨by decide, fun piece hp => ?_⟩
    rw [hpieces, List.mem_cons, List.mem_singleton] at hp
    rcases hp with rfl | rfl
    · exact .inr ⟨"id".toList, ['1'], rfl, by decide, by decide,
        by simp only [List.mem_singleton, forall_eq]; decide, by decide⟩
    · refine .inl ⟨by decide, ?_⟩
      rw [decodeComponent_of_noEscape (by decide)]
      decide
  have hv : ∀ i v, (if i = 1 then some "42" else none) = some v →
      SplicesInto "News/read?id=:1&page=2" v := by
    intro i v h
    split at h
    · cases h
      exact ⟨by decide, fun hq => absurd (by decide) hq⟩
    · cases h
  exact ⟨ha, hv, @parseRoute_substitute ⟨"GET"⟩ "News/read?id=:1&page=2"
    (fun i => if i = 1 then some "42" else none) ha hv⟩

/-- A captured `a&b=c` spliced into `News/read?id=:1` adds the parameter `b`, while the
rule-syntax resolver keeps `a&b=c` as the value of `id`. -/
theorem regex_capture_with_ampersand :
    (parseRoute (substitute "News/read?id=:1" fun i => if i = 1 then some "a&b=c" else none)
        ⟨"GET"⟩).2.entries = [("id", "a"), ("b", "c")] ∧
      (declaredRoute "News/read?id=:1" ⟨"GET"⟩ fun i =>
        if i = 1 then some "a&b=c" else none).2.entries = [("id", "a&b=c")] := by
  decide +kernel

end RuleRouting
