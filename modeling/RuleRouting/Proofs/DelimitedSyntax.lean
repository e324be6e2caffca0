import RuleRouting.Route.Table

/-!
# Writing a regular expression in delimited syntax

A regular-expression rule is written `/body/flags`, with every `/` of the body escaped as `\/`
(`delimit`). Reading such a pattern gives back the body and the flags: the last `/` is the
closing delimiter because the flags hold none, and unescaping `\/` left to right undoes the
escaping even next to backslashes of the body, since an escaped body never has a backslash of
its own right before a `/` (`unescapeSlashes_escapeSlashes`).

* `applyPatternFlags_eq` — the flag letters fail at the first letter that names no flag, and
  otherwise turn on the option of each letter;
* `RegexPattern.parse_delimit` — **the delimited form of a body and flags is a delimited
  pattern that reads as that body under those flags, and compiles to a regular-expression
  rule**.
-/

namespace RuleRouting

/-! ## Escaping the body -/

/-- A body character as written between the delimiters: `/` becomes `\/`. -/
def escapeSlash (c : Char) : List Char :=
  if c = '/' then ['\\', '/'] else [c]

/-- Escapes every `/` of a body, as replacing each `/` by `\/` does. -/
def escapeSlashes (cs : List Char) : List Char :=
  cs.flatMap escapeSlash

@[simp] theorem escapeSlashes_nil : escapeSlashes [] = [] := rfl

@[simp] theorem escapeSlashes_cons (c : Char) (cs : List Char) :
    escapeSlashes (c :: cs) = escapeSlash c ++ escapeSlashes cs := by
  simp [escapeSlashes]

/-- An escaped body never starts with `/`: each of its `/` follows the backslash escaping it. -/
theorem head?_escapeSlashes_ne (cs : List Char) : (escapeSlashes cs).head? ≠ some '/' := by
  cases cs with
  | nil => simp
  | cons c cs =>
    by_cases hc : c = '/' <;> simp [escapeSlash, hc]

/-- Outside an escape, unescaping keeps a character and goes on. -/
theorem unescapeSlashes_cons {c : Char} {rest : List Char} (h : c = '\\' → rest.head? ≠ some '/') :
    unescapeSlashes (c :: rest) = c :: unescapeSlashes rest := by
  cases rest with
  | nil => simp [unescapeSlashes]
  | cons d rest =>
    by_cases hc : c = '\\'
    · subst hc
      have hd : d ≠ '/' := fun hd => h rfl (by simp [hd])
      simp [unescapeSlashes, hd]
    · simp [unescapeSlashes, hc]

/-- **Unescaping undoes escaping**, for every body: an escape `\/` is read back as `/`, and a
backslash of the body is never read as the start of an escape. -/
theorem unescapeSlashes_escapeSlashes (cs : List Char) :
    unescapeSlashes (escapeSlashes cs) = cs := by
  induction cs with
  | nil => rfl
  | cons c cs ih =>
    by_cases hc : c = '/'
    · subst hc
      simp [escapeSlash, unescapeSlashes, ih]
    · rw [escapeSlashes_cons, escapeSlash, if_neg hc, List.singleton_append,
        unescapeSlashes_cons fun _ => head?_escapeSlashes_ne cs, ih]

/-- The delimited form of a body and its flags: `/`, the escaped body, `/`, the flags. -/
def delimit (body flags : String) : String :=
  "/" ++ String.ofList (escapeSlashes body.toList) ++ "/" ++ flags

example : delimit "^new/(\\d+)$" "i" = "/^new\\/(\\d+)$/i" := by decide

theorem toList_delimit (body flags : String) :
    (delimit body flags).toList = '/' :: escapeSlashes body.toList ++ '/' :: flags.toList := by
  simp [delimit]

theorem isDelimited_delimit (body flags : String) : isDelimited (delimit body flags) = true := by
  simp [isDelimited, toList_delimit]

/-- The last `/` of a text whose end holds none is the one before that end. -/
theorem splitAtLastSlash_append {front back : List Char} (h : '/' ∉ back) :
    splitAtLastSlash (front ++ '/' :: back) = (front, back) := by
  have hback : ∀ c ∈ back.reverse, decide (c ≠ '/') = true := by
    intro c hc
    have hc' := List.mem_reverse.mp hc
    simp only [ne_eq, decide_eq_true_eq]
    rintro rfl
    exact h hc'
  have htake : (back.reverse ++ '/' :: front.reverse).takeWhile (· ≠ '/') = back.reverse := by
    rw [List.takeWhile_append_of_pos hback]
    simp
  have hdrop : (back.reverse ++ '/' :: front.reverse).drop (back.length + 1) = front.reverse := by
    rw [show back.reverse ++ '/' :: front.reverse = (back.reverse ++ ['/']) ++ front.reverse by simp]
    exact List.drop_left' (by simp)
  simp only [splitAtLastSlash, List.reverse_append, List.reverse_cons, List.append_assoc,
    List.singleton_append, htake, List.length_reverse, hdrop, List.reverse_reverse]

/-! ## Flags -/

/-- The letters that name a flag: `i`, `m`, `s`, `x`, `U` and `u`. -/
def isPatternFlag (c : Char) : Bool :=
  c = 'i' || c = 'm' || c = 's' || c = 'x' || c = 'U' || c = 'u'

/-- The flags with the option of each letter of `letters` turned on. -/
def Regex.Flags.withLetters (f : Regex.Flags) (letters : List Char) : Regex.Flags :=
  { f with
    caseInsensitive := f.caseInsensitive || letters.contains 'i'
    multiLine := f.multiLine || letters.contains 'm'
    dotAll := f.dotAll || letters.contains 's'
    ignoreWhitespace := f.ignoreWhitespace || letters.contains 'x'
    swapGreed := f.swapGreed || letters.contains 'U'
    unicode := f.unicode || letters.contains 'u' }

theorem Regex.Flags.withLetters_nil (f : Regex.Flags) : f.withLetters [] = f := by
  simp [withLetters]

theorem Regex.Flags.withLetters_cons (f : Regex.Flags) (c : Char) (cs : List Char) :
    f.withLetters (c :: cs) = (f.withLetters [c]).withLetters cs := by
  simp [withLetters, Bool.or_assoc]

theorem applyPatternFlag_eq (f : Regex.Flags) (c : Char) :
    applyPatternFlag f c = if isPatternFlag c then some (f.withLetters [c]) else none := by
  unfold applyPatternFlag
  split <;> simp_all [isPatternFlag, Regex.Flags.withLetters]

/-- **The flag letters turn on their options, or fail at the first letter that names no
flag.** -/
theorem applyPatternFlags_eq (f : Regex.Flags) (letters : List Char) :
    applyPatternFlags f letters =
      match letters.find? (fun c => !isPatternFlag c) with
      | some c => .error c
      | none => .ok (f.withLetters letters) := by
  induction letters generalizing f with
  | nil => simp [applyPatternFlags, Regex.Flags.withLetters_nil]
  | cons c cs ih =>
    rw [applyPatternFlags, applyPatternFlag_eq, List.find?_cons]
    by_cases hc : isPatternFlag c
    · simp only [hc, if_true, Bool.not_true]
      rw [ih, Regex.Flags.withLetters_cons f c cs]
    · simp [hc]

/-! ## Reading the delimited form back -/

/-- A delimited form is read at its last `/`: before it the opening `/` and the escaped body,
after it the flags. -/
theorem splitAtLastSlash_delimit (body flags : String) (hflags : '/' ∉ flags.toList) :
    splitAtLastSlash (delimit body flags).toList = ('/' :: escapeSlashes body.toList, flags.toList) := by
  rw [toList_delimit, splitAtLastSlash_append hflags]

/-- **The delimited syntax reads back what was written.** For every body and every flag string
without `/`, the delimited form is a delimited pattern; reading it fails at the first letter
that names no flag, and otherwise compiles exactly the body under the options the letters turn
on; and a rule with this pattern is a regular-expression rule. -/
theorem RegexPattern.parse_delimit (body flags : String) (hflags : '/' ∉ flags.toList) :
    isDelimited (delimit body flags) = true ∧
      RegexPattern.parse (delimit body flags) =
        (match flags.toList.find? (fun c => !isPatternFlag c) with
        | some c => .error (.invalidRegexFlag (delimit body flags) c)
        | none =>
          match Regex.compile body (({} : Regex.Flags).withLetters flags.toList) with
          | .error e => .error (.invalidRegex (delimit body flags) body e)
          | .ok regex => .ok { source := delimit body flags, regex }) ∧
      ∀ spec option, Rule.compile (delimit body flags) spec option =
        (RegexPattern.parse (delimit body flags)).bind fun p =>
          (Target.compile (delimit body flags) spec).map fun target =>
            { matcher := .regex p, target, option } := by
  refine ⟨isDelimited_delimit body flags, ?_, fun spec option => ?_⟩
  · simp only [RegexPattern.parse, isDelimited_delimit, splitAtLastSlash_delimit body flags hflags,
      List.drop_one, List.tail_cons, unescapeSlashes_escapeSlashes, String.ofList_toList,
      applyPatternFlags_eq, Bool.not_true, Bool.false_eq_true, if_false]
    -- split on both scrutinees, so that no `match` is left to compare
    rcases flags.toList.find? (fun c => !isPatternFlag c) with _ | c
    · dsimp only
      rcases Regex.compile body (({} : Regex.Flags).withLetters flags.toList) with e | regex <;> rfl
    · rfl
  · have hne : (delimit body flags).isEmpty = false := by
      simp [← String.toList_inj, toList_delimit]
    simp only [Rule.compile, hne, isDelimited_delimit, Bool.false_eq_true, if_false, if_true]
    rcases RegexPattern.parse (delimit body flags) with e | p
    · rfl
    · rcases Target.compile (delimit body flags) spec with e | target <;> rfl

/-- The body `a\/b` next to a backslash, written with the flags `iq`, fails at `q`. -/
theorem RegexPattern.parse_delimit_unknown_flag :
    RegexPattern.parse (delimit "a\\/b" "iq") = .error (.invalidRegexFlag (delimit "a\\/b" "iq") 'q') := by
  rw [(RegexPattern.parse_delimit "a\\/b" "iq" (by decide)).2.1]
  rfl

end RuleRouting
