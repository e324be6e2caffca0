import Mathlib.Data.List.TakeWhile
import RuleRouting.Proofs.PrefixedRules

/-!
# What a rule pattern matches

A rule pattern is read segment by segment and matched part by part. This module states both
readings without the code's recursion:

* `Text.splitOnce_of_eq`, `Text.splitOnceRight_of_eq` — the first and the last separator of a
  text are found where the text is cut;
* `Segment.parse_spec` — a segment is a literal unless it starts with `:`; after `:`, the
  text after the *last* backslash is a type (only `d` constrains), else the text after the
  *first* `^` is an exclusion list split on `|`, else the whole name captures anything;
* `Segment.Accepts` — what a segment accepts, in the pattern language's own words;
* `matchSegments_eq` — the segments accept their parts one by one, and the captures are
  written in order;
* `matchPath_spec` — **a pattern matches a path exactly when the path has enough parts (as
  many as the pattern, when exact) and every segment accepts its part; the captures are the
  dynamic segments' parts, inserted left to right, and the residual rebuilds the path.**
-/

namespace RuleRouting

/-! ## Cutting at the first and the last separator -/

namespace Text

/-- A text cut at a separator that its front does not hold is cut at its first one. -/
theorem splitOnce_of_eq {s a b : String} {sep : Char} (h : s.toList = a.toList ++ sep :: b.toList)
    (ha : sep ∉ a.toList) : splitOnce s sep = some (a, b) := by
  have hpos : ∀ c ∈ a.toList, decide (c ≠ sep) = true := fun c hc => by
    simp only [ne_eq, decide_eq_true_eq]
    rintro rfl
    exact ha hc
  have hcontains : s.toList.contains sep = true := by simp [h]
  simp only [splitOnce, hcontains, if_true]
  rw [h, List.takeWhile_append_of_pos hpos, List.dropWhile_append_of_pos hpos]
  simp

theorem splitOnce_of_not_mem {s : String} {sep : Char} (h : sep ∉ s.toList) :
    splitOnce s sep = none := by
  simp [splitOnce, h]

/-- A text cut at a separator that its back does not hold is cut at its last one. -/
theorem splitOnceRight_of_eq {s a b : String} {sep : Char}
    (h : s.toList = a.toList ++ sep :: b.toList) (hb : sep ∉ b.toList) :
    splitOnceRight s sep = some (a, b) := by
  have hpos : ∀ c ∈ b.toList.reverse, decide (c ≠ sep) = true := fun c hc => by
    simp only [ne_eq, decide_eq_true_eq]
    rintro rfl
    exact hb (List.mem_reverse.mp hc)
  have hrev : s.toList.reverse = b.toList.reverse ++ sep :: a.toList.reverse := by simp [h]
  have hcontains : s.toList.reverse.contains sep = true := by simp [hrev]
  simp only [splitOnceRight, hcontains, if_true]
  rw [hrev, List.takeWhile_append_of_pos hpos, List.dropWhile_append_of_pos hpos]
  simp

theorem splitOnceRight_of_not_mem {s : String} {sep : Char} (h : sep ∉ s.toList) :
    splitOnceRight s sep = none := by
  simp [splitOnceRight, h]

/-- Joining the pieces of a split gives the text back. -/
theorem join_split (s : String) (sep : Char) : join (split s sep) sep = s := by
  apply String.ext
  simp [join, split, String.toList_intercalate, List.intercalate_splitOn]

/-- A join cut after its first `n` pieces, `n > 0`: the first pieces, then the separator and
the others if there are any. -/
theorem join_take_drop (pieces : List String) (sep : Char) {n : Nat} (hn : 0 < n)
    (hpieces : pieces ≠ []) :
    join pieces sep = join (pieces.take n) sep ++
      if n < pieces.length then String.singleton sep ++ join (pieces.drop n) sep else "" := by
  split
  · rename_i hlt
    have htake : pieces.take n ≠ [] := by simpa [List.take_eq_nil_iff] using ⟨by omega, hpieces⟩
    have hdrop : pieces.drop n ≠ [] := by simpa [List.drop_eq_nil_iff] using hlt
    calc join pieces sep = join (pieces.take n ++ pieces.drop n) sep := by
          rw [List.take_append_drop]
      _ = _ := by
          rw [join, String.intercalate_append_of_ne_nil htake hdrop, String.append_assoc]
          rfl
  · rw [List.take_of_length_le (by omega), String.append_empty]

end Text

/-! ## Reading a segment -/

namespace Segment

/-- **How a segment is read.** A segment not starting with `:` is a literal. After `:`, a
backslash makes the text before the last one the name and the text after it the type, and
only the type `d` constrains (to digits); otherwise a `^` makes the text before the first
one the name and the `|`-separated texts after it the excluded values, empty ones included;
otherwise the whole text is the name of an unconstrained capture. -/
theorem parse_spec (segment : String) :
    (segment.toList.head? ≠ some ':' → parse segment = .literal segment) ∧
    ∀ spec : String, segment = ":" ++ spec →
      (∀ name kind : String, spec = name ++ "\\" ++ kind → '\\' ∉ kind.toList →
        parse segment = .capture name (if kind = "d" then .numeric else .any)) ∧
      ('\\' ∉ spec.toList → ∀ name excluded : String, spec = name ++ "^" ++ excluded →
        '^' ∉ name.toList → parse segment = .capture name (.excluding (Text.split excluded '|'))) ∧
      ('\\' ∉ spec.toList → '^' ∉ spec.toList → parse segment = .capture spec .any) := by
  refine ⟨RulePattern.Segment.parse_of_head, fun spec hseg => ?_⟩
  have hchars : (":" ++ spec).toList = ':' :: spec.toList := by simp
  subst hseg
  refine ⟨fun name kind hspec hkind => ?_, fun hback name excluded hspec hname => ?_,
    fun hback hcaret => ?_⟩
  · have hcut : spec.toList = name.toList ++ '\\' :: kind.toList := by simp [hspec]
    simp only [parse, hchars, String.ofList_toList, Text.splitOnceRight_of_eq hcut hkind]
  · have hcut : spec.toList = name.toList ++ '^' :: excluded.toList := by simp [hspec]
    simp only [parse, hchars, String.ofList_toList, Text.splitOnceRight_of_not_mem hback,
      Text.splitOnce_of_eq hcut hname]
  · simp only [parse, hchars, String.ofList_toList, Text.splitOnceRight_of_not_mem hback,
      Text.splitOnce_of_not_mem hcaret]

/-- What a segment accepts as its part: a literal, its own text up to ASCII case; a capture
of digits, a non-empty run of ASCII digits; a capture with exclusions, any text but those;
any other capture, anything. -/
def Accepts : Segment → String → Prop
  | .literal text, part => text.toList.map Char.toLower = part.toList.map Char.toLower
  | .capture _ .any, _ => True
  | .capture _ .numeric, part => part ≠ "" ∧ ∀ c ∈ part.toList, c.isDigit = true
  | .capture _ (.excluding values), part => part ∉ values

instance : ∀ (seg : Segment) (part : String), Decidable (seg.Accepts part)
  | .literal text, part =>
    inferInstanceAs (Decidable (text.toList.map Char.toLower = part.toList.map Char.toLower))
  | .capture _ .any, _ => inferInstanceAs (Decidable True)
  | .capture _ .numeric, part =>
    @instDecidableAnd _ _ inferInstance (List.decidableBAll (fun c => c.isDigit = true) part.toList)
  | .capture _ (.excluding values), part => inferInstanceAs (Decidable (part ∉ values))

theorem accepts_literal {text part : String} :
    (literal text).Accepts part ↔ Text.eqIgnoreAsciiCase text part = true := by
  simp [Accepts, Text.eqIgnoreAsciiCase]

theorem accepts_capture {name part : String} {c : Constraint} :
    (capture name c).Accepts part ↔ c.allows part = true := by
  cases c <;> simp [Accepts, Constraint.allows, List.all_eq_true]

/-- The name a segment captures under, if it is a capture. -/
def captureName? : Segment → Option String
  | .literal _ => none
  | .capture name _ => some name

end Segment

/-! ## Matching the parts -/

namespace RulePattern

/-- The captures a match writes, left to right: each dynamic segment's name with its part. -/
def captureWrites (segs : List Segment) (parts : List String) : List (String × String) :=
  (segs.zip parts).filterMap fun sp => sp.1.captureName?.map (·, sp.2)

@[simp] theorem captureWrites_cons (seg : Segment) (segs : List Segment) (part : String)
    (parts : List String) :
    captureWrites (seg :: segs) (part :: parts) =
      (seg.captureName?.map (·, part)).toList ++ captureWrites segs parts := by
  cases h : seg.captureName? <;> simp [captureWrites, h]

/-- One segment against its part: it accepts the part or the match fails, and a capture
writes the part under its name. -/
theorem matchSegments_cons (seg : Segment) (segs : List Segment) (part : String)
    (parts : List String) (acc : OrderedMap String) :
    matchSegments (seg :: segs) (part :: parts) acc =
      if seg.Accepts part then
        matchSegments segs parts
          ((seg.captureName?.map (·, part)).toList.foldl (fun m e => m.insert e.1 e.2) acc)
      else none := by
  cases seg with
  | literal text =>
    by_cases h : Text.eqIgnoreAsciiCase text part = true
    · rw [if_pos (Segment.accepts_literal.mpr h)]
      simp [matchSegments, h, Segment.captureName?]
    · rw [if_neg fun ha => h (Segment.accepts_literal.mp ha)]
      simp [matchSegments, h]
  | capture name c =>
    by_cases h : c.allows part = true
    · rw [if_pos (Segment.accepts_capture.mpr h)]
      simp [matchSegments, h, Segment.captureName?]
    · rw [if_neg fun ha => h (Segment.accepts_capture.mp ha)]
      simp [matchSegments, h]

/-- **The segments accept their parts one by one**, and the captures are written in order. -/
theorem matchSegments_eq (segs : List Segment) (parts : List String) (acc : OrderedMap String) :
    matchSegments segs parts acc =
      if segs.length ≤ parts.length ∧ ∀ sp ∈ segs.zip parts, sp.1.Accepts sp.2 then
        some ((captureWrites segs parts).foldl (fun m e => m.insert e.1 e.2) acc)
      else none := by
  induction segs generalizing parts acc with
  | nil => simp [matchSegments, captureWrites]
  | cons seg segs ih =>
    cases parts with
    | nil => simp [matchSegments]
    | cons part parts =>
      have hcond : ((seg :: segs).length ≤ (part :: parts).length ∧
            ∀ sp ∈ (seg :: segs).zip (part :: parts), sp.1.Accepts sp.2) ↔
          seg.Accepts part ∧ (segs.length ≤ parts.length ∧
            ∀ sp ∈ segs.zip parts, sp.1.Accepts sp.2) := by
        simp only [List.length_cons, Nat.add_le_add_iff_right, List.zip_cons_cons,
          List.forall_mem_cons]
        exact and_left_comm
      rw [matchSegments_cons, captureWrites_cons, List.foldl_append, ih]
      by_cases hhead : seg.Accepts part
      · by_cases htail : segs.length ≤ parts.length ∧ ∀ sp ∈ segs.zip parts, sp.1.Accepts sp.2
        · rw [if_pos hhead, if_pos htail, if_pos (hcond.mpr ⟨hhead, htail⟩)]
        · rw [if_pos hhead, if_neg htail, if_neg fun h => htail (hcond.mp h).2]
      · rw [if_neg hhead, if_neg fun h => hhead (hcond.mp h).1]

/-- **A pattern matches a path exactly when the path has enough parts and every segment
accepts its part**: at least as many parts as segments, exactly as many when the pattern is
exact. The captures are the dynamic segments' parts inserted left to right (a repeated name
keeps its first position and its last value), and the residual is the parts past the
pattern, joined with `/`. -/
theorem matchPath_eq (p : RulePattern) (path : String) :
    p.matchPath path =
      if p.segments.length ≤ (Text.split path '/').length ∧
          (p.exact = true → (Text.split path '/').length = p.segments.length) ∧
          ∀ sp ∈ p.segments.zip (Text.split path '/'), sp.1.Accepts sp.2 then
        some { captures := OrderedMap.ofList (captureWrites p.segments (Text.split path '/'))
               residual := Text.join ((Text.split path '/').drop p.segments.length) '/' }
      else none := by
  unfold matchPath
  by_cases hlen : (Text.split path '/').length < p.segments.length
  · rw [if_pos hlen, if_neg fun h => absurd h.1 (by omega)]
  · rw [if_neg hlen]
    by_cases hexact : p.exact = true ∧ (Text.split path '/').length ≠ p.segments.length
    · rw [if_pos (by simp [hexact]), if_neg fun h => hexact.2 (h.2.1 hexact.1)]
    · have hcount : (p.exact && (Text.split path '/').length != p.segments.length) = false := by
        simpa using hexact
      simp only [hcount, matchSegments_eq, Bool.false_eq_true, if_false]
      by_cases hacc : ∀ sp ∈ p.segments.zip (Text.split path '/'), sp.1.Accepts sp.2
      · have hcount' : p.exact = true → (Text.split path '/').length = p.segments.length :=
          fun he => Decidable.byContradiction fun hne => hexact ⟨he, hne⟩
        rw [if_pos ⟨by omega, hacc⟩, if_pos ⟨by omega, hcount', hacc⟩]
        rfl
      · rw [if_neg (fun h => hacc h.2), if_neg (fun h => hacc h.2.2)]
        rfl

/-- The exactness mark is a last `$`, and the body is what stands before it. -/
theorem bodyOf_spec (pattern : String) :
    ((bodyOf pattern).2 = true ↔ pattern.toList.getLast? = some '$') ∧
      pattern = (bodyOf pattern).1 ++ if (bodyOf pattern).2 then "$" else "" := by
  unfold bodyOf
  split
  · rename_i rest hrev
    have hchars : pattern.toList = rest.reverse ++ ['$'] := by
      rw [← List.reverse_reverse pattern.toList, hrev, List.reverse_cons]
    refine ⟨by simp [hchars], ?_⟩
    apply String.ext
    simp [hchars]
  · rename_i hrev
    refine ⟨?_, by simp⟩
    simp only [Bool.false_eq_true, false_iff]
    intro hlast
    rw [← List.head?_reverse] at hlast
    obtain ⟨rest, hrest⟩ : ∃ rest, pattern.toList.reverse = '$' :: rest := by
      cases h : pattern.toList.reverse with
      | nil => simp [h] at hlast
      | cons x rest =>
        simp only [h, List.head?_cons, Option.some.injEq] at hlast
        exact ⟨rest, hlast ▸ rfl⟩
    exact hrev rest hrest

/-- A pattern has at least one segment. -/
theorem segments_ne_nil (pattern : String) : (parse pattern).segments ≠ [] := by
  simp [parse_eq_bodyOf, Text.split, List.splitOn_ne_nil]

/-- **What a rule pattern matches.** A pattern is exact when it ends with `$`; its segments
are its body (the pattern less that `$`) with trailing `/` trimmed, split on `/`, each read as
`Segment.parse_spec` says. It matches a path exactly when the path's `/`-separated parts are
at least as many as the segments (as many, when exact) and every segment accepts its part
(`Segment.Accepts`); the captures are then the dynamic segments' parts inserted left to
right, a repeated name keeping its first position and its last value, and the residual is
the parts past the pattern joined with `/`, so that the parts the pattern consumed, a `/` and
the residual give the path back. -/
theorem matchPath_spec (pattern path : String) :
    ((parse pattern).exact = true ↔ pattern.toList.getLast? = some '$') ∧
    (∃ body, pattern = body ++ (if (parse pattern).exact then "$" else "") ∧
      (parse pattern).segments = (Text.split (Text.trimEndChar body '/') '/').map Segment.parse) ∧
    (∀ segment : String,
      (segment.toList.head? ≠ some ':' → Segment.parse segment = .literal segment) ∧
      ∀ spec : String, segment = ":" ++ spec →
        (∀ name kind : String, spec = name ++ "\\" ++ kind → '\\' ∉ kind.toList →
          Segment.parse segment = .capture name (if kind = "d" then .numeric else .any)) ∧
        ('\\' ∉ spec.toList → ∀ name excluded : String, spec = name ++ "^" ++ excluded →
          '^' ∉ name.toList →
          Segment.parse segment = .capture name (.excluding (Text.split excluded '|'))) ∧
        ('\\' ∉ spec.toList → '^' ∉ spec.toList → Segment.parse segment = .capture spec .any)) ∧
    (parse pattern).matchPath path =
      (if (parse pattern).segments.length ≤ (Text.split path '/').length ∧
          ((parse pattern).exact = true →
            (Text.split path '/').length = (parse pattern).segments.length) ∧
          ∀ sp ∈ (parse pattern).segments.zip (Text.split path '/'), sp.1.Accepts sp.2 then
        some { captures :=
                 OrderedMap.ofList (captureWrites (parse pattern).segments (Text.split path '/'))
               residual :=
                 Text.join ((Text.split path '/').drop (parse pattern).segments.length) '/' }
      else none) ∧
    path = Text.join ((Text.split path '/').take (parse pattern).segments.length) '/' ++
      if (parse pattern).segments.length < (Text.split path '/').length then
        "/" ++ Text.join ((Text.split path '/').drop (parse pattern).segments.length) '/'
      else "" := by
  obtain ⟨hexact, hbody⟩ := bodyOf_spec pattern
  have hmark : (parse pattern).exact = (bodyOf pattern).2 := by rw [parse_eq_bodyOf]
  have hsplit : (parse pattern).segments =
      (Text.split (Text.trimEndChar (bodyOf pattern).1 '/') '/').map Segment.parse := by
    rw [parse_eq_bodyOf]
  have hsegs : 0 < (parse pattern).segments.length :=
    List.length_pos_iff.mpr (segments_ne_nil pattern)
  refine ⟨hmark ▸ hexact, ⟨(bodyOf pattern).1, hmark ▸ hbody, hsplit⟩, Segment.parse_spec,
    matchPath_eq _ _, ?_⟩
  have hparts : Text.split path '/' ≠ [] := by simp [Text.split, List.splitOn_ne_nil]
  calc path = Text.join (Text.split path '/') '/' := (Text.join_split path '/').symm
    _ = _ := Text.join_take_drop _ '/' hsegs hparts

/-- In `post/:status^draft|hidden`, the second segment captures `status` and excludes the
values `draft` and `hidden`. -/
theorem matchPath_spec_status :
    (":status^draft|hidden" = ":" ++ "status^draft|hidden" ∧
      '\\' ∉ "status^draft|hidden".toList ∧
      "status^draft|hidden" = "status" ++ "^" ++ "draft|hidden" ∧ '^' ∉ "status".toList) ∧
    Segment.parse ":status^draft|hidden" =
      .capture "status" (.excluding (Text.split "draft|hidden" '|')) := by
  have hseg : ":status^draft|hidden" = ":" ++ "status^draft|hidden" := by decide
  have hback : '\\' ∉ "status^draft|hidden".toList := by decide
  have hspec : "status^draft|hidden" = "status" ++ "^" ++ "draft|hidden" := by decide
  have hname : '^' ∉ "status".toList := by decide
  exact ⟨⟨hseg, hback, hspec, hname⟩,
    (((matchPath_spec "post/:status^draft|hidden" "post/draft").2.2.1 ":status^draft|hidden").2
      "status^draft|hidden" hseg).2.1 hback "status" "draft|hidden" hspec hname⟩

end RulePattern

end RuleRouting
