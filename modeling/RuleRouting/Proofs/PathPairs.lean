import Mathlib.Data.List.Basic
import RuleRouting.Query.PathPairs
import RuleRouting.Text.Split
import RuleRouting.Proofs.OrderedMap

/-!
# Parameters read off a path tail

`Query.fromPathPairs` reads `key/value` pairs off the rest of a path with the scanner
`scanPairs`, the left-to-right, non-overlapping reading of `(\w+)/([^/]+)`. This module says
what it reads:

* `not_mem_stripTags` — stripping tags leaves no `<`, also when a tag is never closed;
* `slash_not_mem_of_mem_scanPairs` — a value read never holds a `/`;
* `scanPairs_intercalate` — on the `/`-join of non-empty segments whose keys are words, the
  scanner reads the segments two at a time (`pairUp`), and drops a last segment left alone;
* `fromPathPairs_pairwise` — both together, for the parameters of a path tail.
-/

namespace RuleRouting.Query

open RuleRouting.Text

/-! ## Stripping tags -/

/-- What stripping keeps is in the text and is no `<`. -/
theorem mem_stripTagsFrom {c : Char} {inTag : Bool} {cs : List Char}
    (h : c ∈ stripTagsFrom inTag cs) : c ∈ cs ∧ c ≠ '<' := by
  induction cs generalizing inTag with
  | nil => simp [stripTagsFrom] at h
  | cons d rest ih =>
    unfold stripTagsFrom at h
    split at h
    · exact ⟨List.mem_cons_of_mem d (ih h).1, (ih h).2⟩
    · split at h
      · exact ⟨List.mem_cons_of_mem d (ih h).1, (ih h).2⟩
      · rename_i hd
        rcases List.mem_cons.mp h with rfl | h
        · exact ⟨List.mem_cons_self, hd⟩
        · exact ⟨List.mem_cons_of_mem d (ih h).1, (ih h).2⟩

/-- **No `<` survives stripping**: every `<` opens a tag that runs to the next `>` or to the
end of the text. -/
theorem not_mem_stripTags (cs : List Char) : '<' ∉ stripTags cs :=
  fun h => (mem_stripTagsFrom h).2 rfl

theorem mem_of_mem_stripTags {c : Char} {cs : List Char} (h : c ∈ stripTags cs) : c ∈ cs :=
  (mem_stripTagsFrom h).1

/-! ## Values hold no `/` -/

/-- The value being read, if any, holds no `/`. -/
def PairScan.NoSlash : PairScan → Prop
  | .value _ v => ∀ c ∈ v, c ≠ '/'
  | _ => True

/-- Every value the scanner reads is a run of characters other than `/`. -/
theorem slash_not_mem_of_mem_scanPairs {st : PairScan} {cs : List Char}
    {p : List Char × List Char} (hst : st.NoSlash) (h : p ∈ scanPairs st cs) :
    ∀ c ∈ p.2, c ≠ '/' := by
  fun_induction scanPairs st cs with
  | case10 k v rest ih =>
    rcases List.mem_cons.mp h with rfl | h
    · simpa [PairScan.NoSlash] using hst
    · exact ih trivial h
  | _ => simp_all [PairScan.NoSlash]

/-! ## Reading the segments two at a time -/

/-- A list read two at a time: the first with the second, the third with the fourth, and so
on; a last element without a partner is dropped. -/
def pairUp {α : Type} : List α → List (α × α)
  | [] => []
  | [_] => []
  | a :: b :: rest => (a, b) :: pairUp rest

/-- A run of word characters extends the key being read. -/
theorem scanPairs_key_append {k w : List Char} (rest : List Char)
    (hw : ∀ c ∈ w, isWordChar c = true) :
    scanPairs (.key k) (w ++ rest) = scanPairs (.key (w.reverse ++ k)) rest := by
  induction w generalizing k with
  | nil => rfl
  | cons c w ih =>
    have hc : isWordChar c = true := hw c List.mem_cons_self
    rw [List.cons_append, scanPairs, if_pos hc, ih fun d hd => hw d (List.mem_cons_of_mem c hd)]
    simp

/-- A run of characters other than `/` extends the value being read. -/
theorem scanPairs_value_append {k v w : List Char} (rest : List Char) (hw : '/' ∉ w) :
    scanPairs (.value k v) (w ++ rest) = scanPairs (.value k (w.reverse ++ v)) rest := by
  induction w generalizing v with
  | nil => rfl
  | cons c w ih =>
    have hc : c ≠ '/' := fun h => hw (h ▸ List.mem_cons_self)
    rw [List.cons_append, scanPairs, if_neg hc, ih fun h => hw (List.mem_cons_of_mem c h)]
    simp

theorem isWordChar_slash : isWordChar '/' = false := by decide +kernel

/-- A word followed by `/` and a value: the scanner is left reading that value. -/
theorem scanPairs_pair {x y : List Char} (rest : List Char) (hx : x ≠ [])
    (hxw : ∀ c ∈ x, isWordChar c = true) (hy : y ≠ []) (hys : '/' ∉ y) :
    scanPairs .between (x ++ '/' :: (y ++ rest)) = scanPairs (.value x.reverse y.reverse) rest := by
  obtain ⟨c, x, rfl⟩ := List.exists_cons_of_ne_nil hx
  obtain ⟨d, y, rfl⟩ := List.exists_cons_of_ne_nil hy
  have hc : isWordChar c = true := hxw c List.mem_cons_self
  have hd : d ≠ '/' := fun h => hys (h ▸ List.mem_cons_self)
  rw [List.cons_append, scanPairs, if_pos hc,
    scanPairs_key_append _ fun e he => hxw e (List.mem_cons_of_mem c he), scanPairs,
    isWordChar_slash, if_neg Bool.false_ne_true, if_pos rfl, List.cons_append, scanPairs, if_neg hd,
    scanPairs_value_append _ fun h => hys (List.mem_cons_of_mem d h)]
  simp

/-- A word alone at the end is a key without a value, and reads nothing. -/
theorem scanPairs_dangling {x : List Char} (hx : x ≠ []) (hxw : ∀ c ∈ x, isWordChar c = true) :
    scanPairs .between x = [] := by
  obtain ⟨c, x, rfl⟩ := List.exists_cons_of_ne_nil hx
  have hc : isWordChar c = true := hxw c List.mem_cons_self
  have h := scanPairs_key_append (k := [c]) [] fun e he => hxw e (List.mem_cons_of_mem c he)
  rw [List.append_nil] at h
  rw [scanPairs, if_pos hc, h, scanPairs]
  simp

/-- The segments at even positions of a list satisfy `p`. -/
def EvenSatisfy {α : Type} (p : α → Prop) (xs : List α) : Prop :=
  ∀ (i : Nat) (h : i < xs.length), i % 2 = 0 → p xs[i]

instance {α : Type} (p : α → Prop) [DecidablePred p] (xs : List α) :
    Decidable (EvenSatisfy p xs) :=
  Nat.decidableBallLT xs.length fun i h => i % 2 = 0 → p xs[i]

theorem EvenSatisfy.head {α : Type} {p : α → Prop} {a : α} {rest : List α}
    (h : EvenSatisfy p (a :: rest)) : p a :=
  h 0 (by simp) rfl

theorem EvenSatisfy.drop_two {α : Type} {p : α → Prop} {a b : α} {rest : List α}
    (h : EvenSatisfy p (a :: b :: rest)) : EvenSatisfy p rest :=
  fun i hi he => h (i + 2) (by simp; omega) (by omega)

/-- **On the `/`-join of non-empty segments whose even-positioned segments are words, the
scanner reads the segments two at a time.** The key of each pair is a word followed by `/`,
its value is the whole next segment, and the scan goes on after the `/` that ends it. -/
theorem scanPairs_intercalate {xs : List String}
    (hseg : ∀ x ∈ xs, x ≠ "" ∧ '/' ∉ x.toList)
    (hkeys : EvenSatisfy (fun x : String => ∀ c ∈ x.toList, isWordChar c = true) xs) :
    scanPairs .between (['/'].intercalate (xs.map String.toList)) =
      (pairUp xs).map fun p => (p.1.toList, p.2.toList) := by
  induction xs using pairUp.induct with
  | case1 => rfl
  | case2 x =>
    simpa [pairUp] using scanPairs_dangling (by simpa using (hseg x (by simp)).1) hkeys.head
  | case3 x y rest ih =>
    have hx : x.toList ≠ [] := by simpa using (hseg x (by simp)).1
    have hy : y.toList ≠ [] := by simpa using (hseg y (by simp)).1
    have hys : '/' ∉ y.toList := (hseg y (by simp)).2
    have hrest := ih (fun z hz => hseg z (by simp [hz])) hkeys.drop_two
    have htext : ['/'].intercalate ((x :: y :: rest).map String.toList) =
        x.toList ++ '/' :: (y.toList ++
          if rest = [] then [] else '/' :: ['/'].intercalate (rest.map String.toList)) := by
      cases rest <;> simp [List.intercalate_cons_cons]
    rw [htext, scanPairs_pair _ hx hkeys.head hy hys, pairUp, List.map_cons]
    split
    · subst rest
      simp [scanPairs, pairUp]
    · simp [scanPairs, hrest]

/-! ## The parameters of a path tail -/

theorem toList_join_slash (xs : List String) :
    (Text.join xs '/').toList = ['/'].intercalate (xs.map String.toList) := by
  simp [Text.join, String.toList_intercalate]

/-- A value of a path tail's parameters is a value the scanner read, with its tags stripped. -/
theorem mem_values_fromPathPairs {s v : String} (h : v ∈ (fromPathPairs s).values) :
    ∃ q ∈ scanPairs .between s.toList, v = String.ofList (stripTags q.2) := by
  rw [fromPathPairs, OrderedMap.values_ofList] at h
  obtain ⟨e, he, rfl⟩ := List.mem_map.mp h
  obtain ⟨q, hq, rfl⟩ := List.mem_map.mp (mem_latestByFirstArrival he)
  exact ⟨q, hq, rfl⟩

/-- **What a path tail's parameters are.** Whatever the text, no value holds a `<` or a `/`.
On the `/`-join of non-empty segments whose even-positioned segments are words, the
parameters are the segments read two at a time, the key lowercased and tags stripped from
the value, collected in order (a repeated key keeps its first position and its last value);
a last segment left without a partner is dropped. -/
theorem fromPathPairs_pairwise :
    (∀ s v : String, v ∈ (fromPathPairs s).values → '<' ∉ v.toList ∧ '/' ∉ v.toList) ∧
    ∀ xs : List String, (∀ x ∈ xs, x ≠ "" ∧ '/' ∉ x.toList) →
      EvenSatisfy (fun x : String => ∀ c ∈ x.toList, isWordChar c = true) xs →
      fromPathPairs (Text.join xs '/') =
        OrderedMap.ofList ((pairUp xs).map fun p =>
          (toLowercase p.1, String.ofList (stripTags p.2.toList))) := by
  refine ⟨fun s v hv => ?_, fun xs hseg hkeys => ?_⟩
  · obtain ⟨q, hq, rfl⟩ := mem_values_fromPathPairs hv
    rw [String.toList_ofList]
    exact ⟨not_mem_stripTags q.2, fun h =>
      slash_not_mem_of_mem_scanPairs (show PairScan.NoSlash .between from trivial) hq _
        (mem_of_mem_stripTags h) rfl⟩
  · rw [fromPathPairs, pathPairs, toList_join_slash, scanPairs_intercalate hseg hkeys]
    simp only [List.map_map, Function.comp_def, String.ofList_toList]

/-- The pairs of `Page/2/sort/<b>asc/dangling`: a tag left open runs to the end of its value,
and the last segment is a key without a value. -/
theorem fromPathPairs_pairwise_page :
    ((∀ x ∈ ["Page", "2", "sort", "<b>asc", "dangling"], x ≠ "" ∧ '/' ∉ x.toList) ∧
      EvenSatisfy (fun x : String => ∀ c ∈ x.toList, isWordChar c = true)
        ["Page", "2", "sort", "<b>asc", "dangling"]) ∧
    fromPathPairs "Page/2/sort/<b>asc/dangling" =
      OrderedMap.ofList ((pairUp ["Page", "2", "sort", "<b>asc", "dangling"]).map fun p =>
        (toLowercase p.1, String.ofList (stripTags p.2.toList))) := by
  have hseg : ∀ x ∈ ["Page", "2", "sort", "<b>asc", "dangling"], x ≠ "" ∧ '/' ∉ x.toList := by
    decide
  have hkeys : EvenSatisfy (fun x : String => ∀ c ∈ x.toList, isWordChar c = true)
      ["Page", "2", "sort", "<b>asc", "dangling"] := by
    let : DecidablePred fun x : String => ∀ c ∈ x.toList, isWordChar c = true :=
      fun x => List.decidableBAll _ x.toList
    decide
  exact ⟨⟨hseg, hkeys⟩, fromPathPairs_pairwise.2 _ hseg hkeys⟩

end RuleRouting.Query
