import VarsAdvisor.Proofs.Json.RoundTrip
import VarsAdvisor.Proofs.Text.Joined
import VarsAdvisor.Proofs.Text.Occurrences
import VarsAdvisor.Proofs.Text.WideText
import VarsAdvisor.Suggestion.Reply

/-!
# Arrays in prose

An array in a reply is found by its brackets, unless the reply has a fence. Whatever the strings of
the array hold, no fence opens in them: what is written for the array has no line feed, and a fence
needs one before anything else but blanks (`fenceBody?_of_no_feed`). So each value of the array
comes out as a suggestion (`parseReply_array`).
-/

namespace VarsAdvisor.Suggestion

open VarsAdvisor.Text
open VarsAdvisor.Json (Legible)

variable {cs front back : List CodePoint}

/-! ## Texts without a fence -/

theorem contains_fence_iff {s : String} : contains s "```" = true ↔ fenceMark <:+: s.toList :=
  occurs_iff

theorem noMark_of_contains {s : String} (h : contains s "```" = false) :
    ¬ fenceMark <:+: s.toList := by
  rw [← contains_fence_iff, h]
  exact Bool.false_ne_true

/-- There is no fence if no mark opens one. -/
theorem firstFence?_eq_none
    (h : ∀ before after, cs = before ++ (pointsOf fenceMark ++ after) → fenceBody? after = none) :
    firstFence? cs = none := by
  induction cs with
  | nil => rfl
  | cons c r ih =>
    have hrest : firstFence? r = none := by
      apply ih
      intro before after hr
      exact h (c :: before) after (by rw [hr]; rfl)
    rw [firstFence?]
    split
    · next hmark =>
      obtain ⟨after, hafter⟩ := List.isPrefixOf_iff_prefix.1 hmark
      have hr : r.drop 2 = after := by
        rw [← List.drop_succ_cons, ← hafter]
        rfl
      rw [hr, h [] after hafter.symm]
      exact hrest
    · exact hrest

theorem takeWhile_append_cons {p : CodePoint → Bool} {d : CodePoint} (h : p d = false) :
    (front ++ d :: back).takeWhile p = front.takeWhile p := by
  induction front with
  | nil => exact List.takeWhile_cons_of_neg (by simp [h])
  | cons c r ih =>
    cases hc : p c with
    | true =>
      rw [List.cons_append, List.takeWhile_cons_of_pos hc, List.takeWhile_cons_of_pos hc, ih]
    | false =>
      rw [List.cons_append, List.takeWhile_cons_of_neg (by simp [hc]),
        List.takeWhile_cons_of_neg (by simp [hc])]

theorem afterBlankLines?_of_no_feed (h : .char '\n' ∉ front) :
    afterBlankLines? (front ++ .char ']' :: back) = none := by
  have hblanks : .char '\n' ∉ front.takeWhile CodePoint.isBlank := fun hmem =>
    h ((List.takeWhile_prefix CodePoint.isBlank).subset hmem)
  unfold afterBlankLines?
  rw [takeWhile_append_cons (by decide)]
  exact congrArg (Option.map _) (cutAtLast_of_not_mem hblanks)

/-- No fence opens where a bracket is closed before the line ends. -/
theorem fenceBody?_of_no_feed (h : .char '\n' ∉ front) :
    fenceBody? (front ++ .char ']' :: back) = none := by
  suffices hlines : afterBlankLines? (dropLanguage (front ++ .char ']' :: back)) = none by
    unfold fenceBody?
    rw [hlines]
    rfl
  unfold dropLanguage
  split
  · next hjson =>
    obtain ⟨after, hafter⟩ := List.isPrefixOf_iff_prefix.1 hjson
    -- The name of the language has no bracket, so it ends before the one that is closed.
    rcases append_eq_append_cons (by decide) ((List.nil_append _).trans hafter)
      with ⟨rest, hfront, hrest⟩ | ⟨rest, -, hnil⟩
    · have hfeed : .char '\n' ∉ rest := by
        intro hmem
        apply h
        rw [hfront]
        exact List.mem_append_right _ (List.mem_append_right _ hmem)
      rw [← hafter, hrest]
      exact afterBlankLines?_of_no_feed hfeed
    · simp at hnil
  · exact afterBlankLines?_of_no_feed h

/-- In what stands around an array and in the array itself no fence opens. -/
theorem firstFence?_array {inner : List CodePoint} (hfront : ¬ pointsOf fenceMark <:+: front)
    (hback : ¬ pointsOf fenceMark <:+: back) (hinner : .char '\n' ∉ inner) :
    firstFence? (front ++ .char '[' :: (inner ++ .char ']' :: back)) = none := by
  apply firstFence?_eq_none
  intro before after h
  -- A mark reaches across neither bracket, so it stands before, in or behind the array.
  rcases append_eq_append_cons (by decide) h.symm with ⟨rest, hrest, -⟩ | ⟨rest, hrest, -⟩
  · exact absurd ⟨before, rest, by rw [hrest, List.append_assoc]⟩ hfront
  · rcases append_eq_append_cons (by decide) hrest.symm with ⟨tail, htail, rfl⟩ | ⟨tail, htail, -⟩
    · apply fenceBody?_of_no_feed
      intro hmem
      apply hinner
      rw [htail]
      exact List.mem_append_right _ (List.mem_append_right _ hmem)
    · exact absurd ⟨tail, after, by rw [htail, List.append_assoc]⟩ hback

/-! ## The brackets -/

theorem bracketed?_array {inner : List CodePoint} (hfront : .char '[' ∉ front)
    (hback : .char ']' ∉ back) :
    bracketed? (front ++ .char '[' :: (inner ++ .char ']' :: back)) =
      some (.char '[' :: (inner ++ [.char ']'])) := by
  have hopen : cutAt [.char '['] (front ++ .char '[' :: (inner ++ .char ']' :: back)) =
      some (front, inner ++ .char ']' :: back) :=
    cutAt_singleton_eq_some_iff.2 ⟨rfl, hfront⟩
  have hcs : front ++ .char '[' :: (inner ++ .char ']' :: back) =
      (front ++ .char '[' :: inner) ++ .char ']' :: back := by
    simp
  have hclose : cutAtLast (.char ']') (front ++ .char '[' :: (inner ++ .char ']' :: back)) =
      some (front ++ .char '[' :: inner, back) := by
    rw [hcs]
    exact cutAtLast_append hback _
  have hlength : front.length < (front ++ CodePoint.char '[' :: inner).length := by
    simp
  have htake : (front ++ .char '[' :: (inner ++ .char ']' :: back)).take
      ((front ++ CodePoint.char '[' :: inner).length + 1) =
      front ++ .char '[' :: (inner ++ [.char ']']) := by
    rw [hcs, List.take_length_add_append]
    simp
  unfold bracketed?
  rw [hopen, hclose]
  simp only [Option.bind_eq_bind, Option.bind_some]
  rw [if_pos hlength, htake, List.drop_left]
  rfl

/-! ## The suggestions -/

/-- What the values of an array say: a string is meant as it is, another value as it is written. -/
structure Says (values : List Json) (suggestions : List WideText) : Prop where
  length : suggestions.length = values.length
  ofStr : ∀ (k : Nat) (s : WideText), values[k]? = some (.str s) → suggestions[k]? = some s
  ofOther : ∀ (k : Nat) (v : Json), values[k]? = some v → (∀ s, v ≠ .str s) →
    suggestions[k]? = some ↑v.text

theorem says_map (values : List Json) : Says values (values.map ofItem) where
  length := List.length_map ofItem
  ofStr k s h := by
    rw [List.getElem?_map, h]
    rfl
  ofOther k v h hv := by
    rw [List.getElem?_map, h]
    cases v with
    | str s => exact absurd rfl (hv s)
    | _ => rfl

theorem payload_array {values : List Json} {levels : Nat} (h : Legible levels (.arr values))
    {before after : List Char} (hopen : '[' ∉ before) (hclose : ']' ∉ after)
    (hbefore : ¬ fenceMark <:+: before) (hafter : ¬ fenceMark <:+: after) :
    payload (pointsOf (before ++ ((Json.arr values).encode ++ after))) =
      pointsOf (Json.arr values).encode := by
  have hfeed : '\n' ∉ Json.encodeItems values := by
    intro hmem
    have hascii : Json.isAscii '\n' = true := by
      apply Json.isAscii_encode h
      rw [Json.encode]
      exact List.mem_cons_of_mem _ (List.mem_append_left _ hmem)
    exact absurd hascii (by decide)
  have hcs : pointsOf (before ++ ((Json.arr values).encode ++ after)) = pointsOf before ++
      .char '[' :: (pointsOf (Json.encodeItems values) ++ .char ']' :: pointsOf after) := by
    rw [Json.encode]
    simp
  have hnone := firstFence?_array (mt pointsOf_infix_iff.1 hbefore)
    (mt pointsOf_infix_iff.1 hafter) (mt char_mem_pointsOf.1 hfeed)
  have hsome := @bracketed?_array _ _ (pointsOf (Json.encodeItems values))
    (mt char_mem_pointsOf.1 hopen) (mt char_mem_pointsOf.1 hclose)
  unfold payload
  rw [hcs, hnone, hsome, Json.encode]
  simp

/-- **An array in prose gives its values.** Whatever the strings in it hold, each value of an array
comes out as a suggestion, also with text around the array that has no fence, no opening bracket
before it and no closing bracket behind it. -/
theorem parseReply_array {values : List Json} {before after : String}
    (hvalues : Legible Json.maxNesting (.arr values)) (hopen : '[' ∉ before.toList)
    (hbefore : contains before "```" = false) (hclose : ']' ∉ after.toList)
    (hafter : contains after "```" = false) :
    ∃ suggestions,
      parseReply (before ++ (Json.arr values).text ++ after : String) = .ok suggestions ∧
      Says values suggestions := by
  have hchars : (before ++ (Json.arr values).text ++ after).toList =
      before.toList ++ ((Json.arr values).encode ++ after.toList) := by
    rw [String.toList_append, String.toList_append, List.append_assoc, Json.toList_text]
  have hdecode : Json.decode ⟨pointsOf (Json.arr values).encode⟩ = .ok (.arr values) := by
    rw [← Json.toList_text]
    exact Json.decode_text hvalues
  refine ⟨values.map ofItem, ?_, says_map values⟩
  unfold parseReply
  rw [WideText.points_ofString, hchars, payload_array hvalues hopen hclose
    (noMark_of_contains hbefore) (noMark_of_contains hafter), hdecode]

/-- Values with brackets, quotation marks, escapes and a fence in their strings. -/
def trickyValues : List Json :=
  [.str "Use ```json\n[\"a\\b\"]\n``` 😀\u0007]", .int (-12), .null,
    .obj [("k[", .arr [.bool true, .str "\n"]), ("", .obj [])]]

theorem parseReply_array_of_tricky :
    Legible Json.maxNesting (.arr trickyValues) ∧
      ∃ suggestions,
        parseReply ("`` Here] " ++ (Json.arr trickyValues).text ++ "``[\n``" : String) =
          .ok suggestions ∧
        Says trickyValues suggestions := by
  have hmembers : Legible 988 (.arr [.bool true, .str "\n"]) ∧ Legible 988 (.obj []) := by
    refine ⟨.arr ?_, .obj List.nodup_nil (List.forall_mem_nil _) (List.forall_mem_nil _)⟩
    simp only [List.forall_mem_cons]
    exact ⟨.bool _ _, .str _ _, List.forall_mem_nil _⟩
  have hvalues : Legible Json.maxNesting (.arr trickyValues) := by
    refine .arr ?_
    unfold trickyValues
    simp only [List.forall_mem_cons]
    refine ⟨.str _ _, .int _ (by decide), .null _, .obj (by decide) (by decide) ?_,
      List.forall_mem_nil _⟩
    simp only [List.forall_mem_cons]
    exact ⟨hmembers.1, hmembers.2, List.forall_mem_nil _⟩
  exact ⟨hvalues, parseReply_array hvalues (by decide) (by decide) (by decide) (by decide)⟩

end VarsAdvisor.Suggestion
