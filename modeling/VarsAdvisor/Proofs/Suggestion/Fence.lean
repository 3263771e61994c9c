import VarsAdvisor.Proofs.Json.Unclosed
import VarsAdvisor.Proofs.Suggestion.Reply
import VarsAdvisor.Proofs.Text.Trim

/-!
# Arrays in a fence

A reply may show its array in a fence. The fence ends at the first mark behind its opening, and what
is written for a string has a mark if the string has one (`fence_infix_flatMap_iff`). So the
suggestions come out as they are if none of them has a mark, and else the array breaks off inside
one of them and the reply is refused (`parseReply_fenced`).
-/

namespace VarsAdvisor.Suggestion

open VarsAdvisor.Text
open VarsAdvisor.Json (Legible encodeChar opened)

variable {cs front back : List Char}

/-! ## Marks in what is written -/

theorem backtick_of_mem_encodeChar {c : Char} (h : '`' ∈ encodeChar c) : c = '`' := by
  rcases Json.mem_encodeChar h with hletter | ⟨hc, -⟩
  · exact absurd hletter (by decide)
  · exact hc.symm

theorem prefix_flatMap_iff (n : Nat) :
    List.replicate n '`' <+: cs.flatMap encodeChar ↔ List.replicate n '`' <+: cs := by
  induction n generalizing cs with
  | zero => simp
  | succ n ih =>
    cases cs with
    | nil => rfl
    | cons c r =>
      rw [List.replicate_succ, List.flatMap_cons]
      by_cases hc : c = '`'
      · have hchar : encodeChar '`' = ['`'] := rfl
        rw [hc, hchar, List.singleton_append, List.cons_prefix_cons, List.cons_prefix_cons, ih]
      · obtain ⟨d, more, hmore⟩ := List.exists_cons_of_ne_nil (Json.encodeChar_ne_nil c)
        have hd : d ≠ '`' := by
          rintro rfl
          exact hc (backtick_of_mem_encodeChar (hmore ▸ List.mem_cons_self))
        rw [hmore, List.cons_append, List.cons_prefix_cons, List.cons_prefix_cons]
        constructor
        · exact fun h => absurd h.1.symm hd
        · exact fun h => absurd h.1.symm hc

/-- What is written for the characters of a string has a mark just if the string has one. -/
theorem fence_infix_flatMap_iff : fenceMark <:+: cs.flatMap encodeChar ↔ fenceMark <:+: cs := by
  induction cs with
  | nil => rfl
  | cons c r ih =>
    by_cases hc : c = '`'
    · have hprefix : fenceMark <+: (c :: r).flatMap encodeChar ↔ fenceMark <+: c :: r :=
        prefix_flatMap_iff 3
      rw [List.infix_cons_iff, ← hprefix, ← ih, hc]
      exact List.infix_cons_iff
    · have hforeign : ∀ d ∈ encodeChar c, d ∉ fenceMark := by
        intro d hd hmem
        have hback : d = '`' := by simpa [fenceMark] using hmem
        exact hc (backtick_of_mem_encodeChar (hback ▸ hd))
      have hother : c ∉ fenceMark := by simpa [fenceMark] using hc
      rw [List.flatMap_cons, infix_append_of_foreign (by decide) hforeign, ih,
        infix_cons_of_foreign (by decide) hother]

theorem fence_infix_opened_iff {strings : List String} :
    fenceMark <:+: opened strings ↔ ∃ s ∈ strings, fenceMark <:+: s.toList := by
  induction strings with
  | nil => simp [opened, fenceMark]
  | cons s more ih =>
    have hchars : opened (s :: more) =
        [] ++ '"' :: (s.toList.flatMap encodeChar ++ '"' :: ([] ++ ',' :: ' ' :: opened more)) := by
      have hcons := Json.opened_cons s more []
      rw [List.append_nil, List.append_nil, Json.ofString, Json.encode,
        Json.encodeString_ofString] at hcons
      rw [hcons]
      simp
    rw [hchars, infix_append_cons_iff (by decide), infix_append_cons_iff (by decide),
      infix_append_cons_iff (by decide), infix_cons_of_foreign (by decide) (by decide), ih,
      fence_infix_flatMap_iff, List.exists_mem_cons_iff]
    simp [fenceMark]

/-- What is written for an array of strings has no mark if no string has one. -/
theorem not_fence_infix_encode {strings : List String}
    (h : ∀ s ∈ strings, ¬ fenceMark <:+: s.toList) :
    ¬ fenceMark <:+: (Json.arr (strings.map Json.ofString)).encode := by
  have hitems : ¬ fenceMark <:+: Json.encodeItems (strings.map Json.ofString) := by
    intro hmark
    have hopened := hmark.trans (Json.encodeItems_prefix_opened strings).isInfix
    obtain ⟨s, hs, hmark⟩ := fence_infix_opened_iff.1 hopened
    exact h s hs hmark
  rw [Json.encode, List.cons_append, infix_cons_of_foreign (by decide) (by decide),
    infix_append_cons_iff (by decide), or_iff_left (by decide)]
  exact hitems

/-! ## The opening -/

/-- No fence opens where another backtick stands behind a mark. -/
theorem fenceBody?_backtick (r : List CodePoint) : fenceBody? (.char '`' :: r) = none := rfl

/-- What stands before the first mark makes no difference, though it may end in backticks. -/
theorem firstFence?_append {front : List CodePoint} (h : ¬ pointsOf fenceMark <:+: front)
    (r : List CodePoint) :
    firstFence? (front ++ (pointsOf fenceMark ++ r)) = firstFence? (pointsOf fenceMark ++ r) := by
  induction front with
  | nil => rfl
  | cons c front ih =>
    rw [List.infix_cons_iff, not_or] at h
    rw [List.cons_append, firstFence?, ih h.2]
    split
    · next hmark =>
      have hbody : fenceBody? ((front ++ (pointsOf fenceMark ++ r)).drop 2) = none := by
        -- A mark here needs backticks of the next one, unless it stands in the front alone.
        rcases front with _ | ⟨d, _ | ⟨e, front⟩⟩
        · exact fenceBody?_backtick r
        · exact fenceBody?_backtick _
        · refine absurd ?_ h.1
          rw [List.isPrefixOf_iff_prefix] at hmark
          exact List.prefix_of_prefix_length_le hmark (List.prefix_append (c :: d :: e :: front) _)
            (by simp [fenceMark])
      rw [hbody]
    · rfl

theorem firstFence?_fence {r body : List CodePoint} (h : fenceBody? r = some body) :
    firstFence? (pointsOf fenceMark ++ r) = some body := by
  have hdrop : (CodePoint.char '`' :: .char '`' :: r).drop 2 = r := rfl
  change firstFence? (.char '`' :: .char '`' :: .char '`' :: r) = some body
  rw [firstFence?, if_pos (by rfl), hdrop, h]

/-- The opening of a fence, with or without the name of the language, before an array. -/
theorem fenceBody?_array {language r inside after : List Char}
    (hlanguage : language = [] ∨ language = fenceLanguage)
    (h : cutAt fenceMark ('[' :: r) = some (inside, after)) :
    fenceBody? (pointsOf (language ++ '\n' :: '[' :: r)) = some (pointsOf inside) := by
  have hdrop : dropLanguage (pointsOf (language ++ '\n' :: '[' :: r)) =
      pointsOf ('\n' :: '[' :: r) := by
    rcases hlanguage with rfl | rfl <;> rfl
  have hlines : afterBlankLines? (pointsOf ('\n' :: '[' :: r)) = some (pointsOf ('[' :: r)) := rfl
  unfold fenceBody?
  rw [hdrop, hlines, Option.bind_eq_bind, Option.bind_some, cutAt_pointsOf, h]
  rfl

/-! ## Trimming -/

theorem isBlank_of_mem_encodeChar {c d : Char} (hc : c ≠ ' ') (h : d ∈ encodeChar c) :
    isBlank d = false := by
  have hletters : Json.escapeLetters.any isBlank = false := by decide
  rcases Json.mem_encodeChar h with hletter | ⟨rfl, hplain⟩
  · exact Bool.eq_false_iff.2 (List.any_eq_false.1 hletters d hletter)
  · have hspace : d.toNat ≠ 32 := fun hd => hc (Char.toNat_inj.1 hd)
    unfold isBlank
    simp
    omega

/-- Trimming an array that breaks off inside a string shortens the string. -/
theorem trim_unclosed (before : List String) (cs : List Char) :
    ∃ kept : List Char, trim ('[' :: (opened before ++ '"' :: cs.flatMap encodeChar)) =
      '[' :: (opened before ++ '"' :: kept.flatMap encodeChar) := by
  have hstart : ∀ r, trim ('[' :: r) = trimEnd ('[' :: r) := fun _ => rfl
  rw [hstart]
  -- From the back: spaces are taken away, and what is written for anything else stays.
  induction cs using List.reverseRecOn with
  | nil => exact ⟨[], dropTrailing_concat_of_neg (by decide) ('[' :: opened before)⟩
  | append_singleton r c ih =>
    have hlast : '[' :: (opened before ++ '"' :: (r ++ [c]).flatMap encodeChar) =
        '[' :: (opened before ++ '"' :: r.flatMap encodeChar) ++ encodeChar c := by
      simp
    by_cases hc : c = ' '
    · obtain ⟨kept, hkept⟩ := ih
      refine ⟨kept, ?_⟩
      rw [hlast, ← hkept, hc]
      exact dropTrailing_concat_of_pos (by decide) _
    · obtain hnil | ⟨init, d, hd⟩ := List.eq_nil_or_concat (encodeChar c)
      · exact absurd hnil (Json.encodeChar_ne_nil c)
      · rw [List.concat_eq_append] at hd
        have hblank : isBlank d = false := by
          apply isBlank_of_mem_encodeChar hc
          rw [hd]
          exact List.mem_append_right _ List.mem_cons_self
        refine ⟨r ++ [c], ?_⟩
        rw [hlast, hd, ← List.append_assoc]
        exact dropTrailing_concat_of_neg hblank _

/-! ## The end of the fence -/

/-- Where the strings of an array have marks, the first one is inside the first string that has
any. -/
theorem exists_cutAt_array {strings : List String} {s : String} (hs : s ∈ strings)
    (hmark : contains s "```" = true) (tail : List Char) :
    ∃ (before : List String) (cs after : List Char), cutAt fenceMark
        ('[' :: (Json.encodeItems (strings.map Json.ofString) ++ [']']) ++ tail) =
      some ('[' :: (opened before ++ '"' :: cs.flatMap encodeChar), after) := by
  obtain ⟨t, hfind⟩ := Option.isSome_iff_exists.1
    (List.find?_isSome.2 ⟨s, hs, hmark⟩ : (strings.find? (contains · "```")).isSome = true)
  obtain ⟨htmark, before, others, hsplit, hbefore⟩ := List.find?_eq_some_iff_append.1 hfind
  obtain ⟨cs, behind, hcut⟩ := exists_cutAt (contains_fence_iff.1 htmark)
  obtain ⟨rest, hrest⟩ := Json.encodeItems_split before t others
  have hfirst : ¬ fenceMark <:+:
      '[' :: (opened before ++ '"' :: cs.flatMap encodeChar) ++ fenceMark.dropLast := by
    have hchars : '[' :: (opened before ++ '"' :: cs.flatMap encodeChar) ++ fenceMark.dropLast =
        '[' :: (opened before ++ '"' :: (cs ++ fenceMark.dropLast).flatMap encodeChar) := by
      have hlast : fenceMark.dropLast.flatMap encodeChar = fenceMark.dropLast := rfl
      rw [List.flatMap_append, hlast]
      simp
    rw [hchars, infix_cons_of_foreign (by decide) (by decide), infix_append_cons_iff (by decide),
      fence_infix_opened_iff, fence_infix_flatMap_iff, not_or]
    refine ⟨?_, not_infix_of_cutAt (by decide) hcut⟩
    rintro ⟨u, hu, humark⟩
    have hfree := hbefore u hu
    rw [contains_fence_iff.2 humark] at hfree
    cases hfree
  refine ⟨before, cs, behind.flatMap encodeChar ++ rest ++ [']'] ++ tail, ?_⟩
  rw [← cutAt_append hfirst, hsplit, hrest, cutAt_eq_append hcut]
  have hflat : fenceMark.flatMap encodeChar = fenceMark := rfl
  simp [hflat]

/-! ## The suggestions -/

/-- A reply that shows a text in a fence. -/
def fenced (before language body after : String) : String :=
  before ++ "```" ++ language ++ "\n" ++ body ++ "\n```" ++ after

theorem payload_fenced {before language body after : String} {inside rest r : List Char}
    (hlanguage : language = "" ∨ language = "json") (hbefore : contains before "```" = false)
    (hbody : body.toList = '[' :: r)
    (hcut : cutAt fenceMark (body.toList ++ '\n' :: (fenceMark ++ after.toList)) =
      some (inside, rest)) :
    payload (pointsOf (fenced before language body after).toList) = pointsOf (trim inside) := by
  have hchars : (fenced before language body after).toList = before.toList ++ (fenceMark ++
      (language.toList ++ '\n' :: (body.toList ++ '\n' :: (fenceMark ++ after.toList)))) := by
    have hmark : "```".toList = fenceMark := rfl
    have hend : "\n```".toList = '\n' :: fenceMark := rfl
    have hfeed : "\n".toList = ['\n'] := rfl
    unfold fenced
    simp only [String.toList_append, hmark, hend, hfeed, List.append_assoc, List.cons_append,
      List.nil_append]
  have hname : language.toList = [] ∨ language.toList = fenceLanguage := by
    rcases hlanguage with rfl | rfl
    · exact .inl rfl
    · exact .inr rfl
  have hinside : fenceBody? (pointsOf (language.toList ++
      '\n' :: (body.toList ++ '\n' :: (fenceMark ++ after.toList)))) =
        some (pointsOf inside) := by
    rw [hbody] at hcut ⊢
    exact fenceBody?_array hname hcut
  have hmarks := mt pointsOf_infix_iff.1 (noMark_of_contains hbefore)
  unfold payload
  rw [hchars, pointsOf_append, pointsOf_append, firstFence?_append hmarks,
    firstFence?_fence hinside]
  exact trimPoints_pointsOf inside

theorem toList_text_array (values : List Json) :
    (Json.arr values).text.toList = '[' :: (Json.encodeItems values ++ [']']) := by
  rw [Json.toList_text, Json.encode]
  rfl

theorem isTight_array (inner : List Char) : IsTight ('[' :: (inner ++ [']'])) := by
  refine ⟨?_, ?_⟩
  · intro c hc
    cases hc
    decide
  · intro c hc
    rw [← List.cons_append, List.getLast?_concat] at hc
    cases hc
    decide

section Array

variable {before language : String} (hlanguage : language = "" ∨ language = "json")
  (hbefore : contains before "```" = false) {strings : List String} (after : String)

include hlanguage hbefore

theorem parseReply_fenced_of_free (h : ∀ s ∈ strings, contains s "```" = false) :
    parseReply (fenced before language (Json.arr (strings.map Json.ofString)).text after) =
      .ok (strings.map WideText.ofString) := by
  have hbody := toList_text_array (strings.map Json.ofString)
  have hfree : ¬ fenceMark <:+: (Json.arr (strings.map Json.ofString)).text.toList := by
    rw [Json.toList_text]
    exact not_fence_infix_encode fun s hs => noMark_of_contains (h s hs)
  have hcut : cutAt fenceMark ((Json.arr (strings.map Json.ofString)).text.toList ++
        '\n' :: (fenceMark ++ after.toList)) =
      some ((Json.arr (strings.map Json.ofString)).text.toList ++ ['\n'], after.toList) := by
    have hfirst : ¬ fenceMark <:+:
        (Json.arr (strings.map Json.ofString)).text.toList ++ ['\n'] ++ fenceMark.dropLast := by
      rw [List.append_assoc, List.singleton_append, infix_append_cons_iff (by decide),
        or_iff_left (by decide)]
      exact hfree
    rw [← cutAt_append hfirst, List.append_assoc]
    rfl
  have htrim : trim ((Json.arr (strings.map Json.ofString)).text.toList ++ ['\n']) =
      (Json.arr (strings.map Json.ofString)).text.toList := by
    have hfeed : ∀ c ∈ ['\n'], isBlank c = true := List.forall_mem_singleton.2 (by decide)
    have hbetween := trim_between (List.forall_mem_nil _) hfeed
      (Json.arr (strings.map Json.ofString)).text.toList
    rw [List.nil_append] at hbetween
    rw [hbetween, hbody]
    exact trim_of_tight (isTight_array _)
  have hlegible : Legible Json.maxNesting (.arr (strings.map Json.ofString)) := by
    refine .arr ?_
    rw [List.forall_mem_map]
    exact fun s _ => .str _ s
  have hdecode : Json.decode ⟨pointsOf (Json.arr (strings.map Json.ofString)).text.toList⟩ =
      .ok (.arr (strings.map Json.ofString)) := Json.decode_text hlegible
  unfold parseReply
  rw [WideText.points_ofString, payload_fenced hlanguage hbefore hbody hcut, htrim, hdecode]
  refine congrArg Except.ok ?_
  rw [List.map_map]
  rfl

theorem parseReply_fenced_of_mark {s : String} (hs : s ∈ strings)
    (hmark : contains s "```" = true) :
    ∃ e, parseReply (fenced before language (Json.arr (strings.map Json.ofString)).text after) =
      .error (.json e) := by
  have hbody := toList_text_array (strings.map Json.ofString)
  obtain ⟨shown, cs, rest, hcut⟩ :=
    exists_cutAt_array hs hmark ('\n' :: (fenceMark ++ after.toList))
  obtain ⟨kept, hkept⟩ := trim_unclosed shown cs
  obtain ⟨e, he⟩ := Json.decode_unclosed shown kept
  rw [← hbody] at hcut
  refine ⟨e, ?_⟩
  unfold parseReply
  rw [WideText.points_ofString, payload_fenced hlanguage hbefore hbody hcut, hkept, he]

end Array

/-- **A fence delivers an array whose strings hold no mark.** Behind any text without a mark and
before any text, an array in a fence comes out as its strings just if none of them holds a mark.
Else the reply is refused as no JSON. -/
theorem parseReply_fenced {before language : String}
    (hlanguage : language = "" ∨ language = "json") (hbefore : contains before "```" = false)
    (strings : List String) (after : String) :
    (parseReply (fenced before language (Json.arr (strings.map Json.ofString)).text after) =
          .ok (strings.map WideText.ofString) ↔
        ∀ s ∈ strings, contains s "```" = false) ∧
      ((∃ s ∈ strings, contains s "```" = true) →
        ∃ e, parseReply
            (fenced before language (Json.arr (strings.map Json.ofString)).text after) =
          .error (.json e)) := by
  refine ⟨⟨?_, parseReply_fenced_of_free hlanguage hbefore after⟩, ?_⟩
  · intro hread s hs
    rw [← Bool.not_eq_true]
    intro hmark
    obtain ⟨e, he⟩ := parseReply_fenced_of_mark hlanguage hbefore after hs hmark
    rw [he] at hread
    cases hread
  · rintro ⟨s, hs, hmark⟩
    exact parseReply_fenced_of_mark hlanguage hbefore after hs hmark

/-- Backticks in pairs do no harm, before the fence or in it. -/
theorem parseReply_fenced_of_pairs :
    contains "Sure [1]: ``" "```" = false ∧
      parseReply (fenced "Sure [1]: ``" "json"
          (Json.arr (["Write ``id: 1`` \n]", " "].map Json.ofString)).text "\n```json\n[]\n```") =
        .ok (["Write ``id: 1`` \n]", " "].map WideText.ofString) := by
  have hbefore : contains "Sure [1]: ``" "```" = false := by decide
  exact ⟨hbefore, (parseReply_fenced (.inr rfl) hbefore ["Write ``id: 1`` \n]", " "]
    "\n```json\n[]\n```").1.2 (by decide)⟩

/-- A string that quotes code in a fence of its own is not delivered. -/
theorem not_parseReply_fenced_of_quote :
    ¬ ∀ (before after : String) (strings : List String), contains before "```" = false →
      parseReply (fenced before "json" (Json.arr (strings.map Json.ofString)).text after) =
        .ok (strings.map WideText.ofString) := by
  intro h
  have hread := h "" "" ["Quote it: ```name: a```"] (by decide)
  obtain ⟨e, he⟩ := @parseReply_fenced_of_mark "" "json" (.inr rfl) (by decide)
    ["Quote it: ```name: a```"] "" "Quote it: ```name: a```" List.mem_cons_self (by decide)
  rw [he] at hread
  cases hread

end VarsAdvisor.Suggestion
