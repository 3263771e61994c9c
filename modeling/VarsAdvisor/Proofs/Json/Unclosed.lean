import VarsAdvisor.Proofs.Json.RoundTrip

/-!
# Arrays that break off

What was written for an array of strings is refused when it breaks off inside a string
(`decode_unclosed`): the characters of a string never end it, and its mark is missing.
-/

namespace VarsAdvisor.Json

open VarsAdvisor.Text

/-- The strings of an array, each with another item to come. -/
def opened (strings : List String) : List Char :=
  strings.flatMap fun s => encodeString s ++ [',', ' ']

theorem opened_cons (s : String) (strings : List String) (rest : List Char) :
    opened (s :: strings) ++ rest =
      (ofString s).encode ++ ',' :: ' ' :: (opened strings ++ rest) := by
  unfold opened
  rw [ofString, encode]
  simp

theorem encodeItems_prefix_opened (strings : List String) :
    encodeItems (strings.map ofString) <+: opened strings := by
  induction strings with
  | nil => exact List.prefix_rfl
  | cons s more ih =>
    obtain ⟨rest, hrest⟩ := ih
    rw [← List.append_nil (opened (s :: more)), opened_cons]
    cases more with
    | nil => exact List.prefix_append _ _
    | cons t more =>
      rw [List.map_cons, encodeItems_cons _ (by simp), List.prefix_append_right_inj,
        List.cons_prefix_cons, List.cons_prefix_cons, List.append_nil]
      exact ⟨rfl, rfl, rest, hrest⟩

/-- The items before a string, the string, and what comes behind it. -/
theorem encodeItems_split (before : List String) (s : String) (after : List String) :
    ∃ rest, encodeItems ((before ++ s :: after).map ofString) =
      opened before ++ '"' :: (s.toList.flatMap encodeChar ++ rest) := by
  induction before with
  | nil =>
    cases after with
    | nil => exact ⟨['"'], by simp [opened, encodeItems, ofString, encode, encodeString_ofString]⟩
    | cons t after =>
      refine ⟨'"' :: ',' :: ' ' :: encodeItems ((t :: after).map ofString), ?_⟩
      rw [List.nil_append, List.map_cons, encodeItems_cons _ (by simp), ofString, encode,
        encodeString_ofString]
      simp [opened]
  | cons t before ih =>
    obtain ⟨rest, hrest⟩ := ih
    refine ⟨rest, ?_⟩
    rw [List.cons_append, List.map_cons, encodeItems_cons _ (by simp), hrest, opened_cons]

/-! ## Reading -/

theorem readString_unclosed (cs : List Char) :
    ∃ e, readString (pointsOf (cs.flatMap encodeChar)) = .error e := by
  obtain ⟨e, he⟩ := readStringBody_unclosed ((pointsOf (cs.flatMap encodeChar)).length + 1)
    ((pointsOf (cs.flatMap encodeChar)).length + 1) [] cs
  refine ⟨e, ?_⟩
  unfold readString
  rw [he]
  rfl

theorem readValue_unclosed (levels : Nat) (cs : List Char) :
    ∃ e, readValue levels (pointsOf ('"' :: cs.flatMap encodeChar)) = .error e := by
  obtain ⟨e, he⟩ := readString_unclosed cs
  refine ⟨e, ?_⟩
  rw [pointsOf_cons, readValue, he]
  rfl

theorem opens_quote : Opens '"' where
  notSpace := by decide
  notEnd := by decide
  notMark := by decide

theorem opened_opens (strings : List String) (rest : List Char) :
    ∃ r, opened strings ++ '"' :: rest = '"' :: r := by
  cases strings with
  | nil => exact ⟨rest, rfl⟩
  | cons s more => exact ⟨_, opened_cons s more _⟩

theorem readItems_unclosed (levels fuel : Nat) (acc : List Json) (strings : List String)
    (cs : List Char) :
    ∃ e, readItems (readValue levels) fuel acc
      (pointsOf (opened strings ++ '"' :: cs.flatMap encodeChar)) = .error e := by
  induction strings generalizing fuel acc with
  | nil =>
    cases fuel with
    | zero => exact ⟨_, rfl⟩
    | succ fuel =>
      obtain ⟨e, he⟩ := readValue_unclosed levels cs
      refine ⟨e, ?_⟩
      change readItems (readValue levels) (fuel + 1) acc
        (pointsOf ('"' :: cs.flatMap encodeChar)) = _
      rw [readItems, he]
      rfl
  | cons s more ih =>
    cases fuel with
    | zero => exact ⟨_, rfl⟩
    | succ fuel =>
      have hread := readValue_encode (.str levels s)
        (',' :: ' ' :: (opened more ++ '"' :: cs.flatMap encodeChar)) (stops_cons (by decide) _)
      obtain ⟨r, hr⟩ := opened_opens more (cs.flatMap encodeChar)
      have hskip : skipSpace (pointsOf (opened more ++ '"' :: cs.flatMap encodeChar)) =
          pointsOf (opened more ++ '"' :: cs.flatMap encodeChar) := by
        rw [hr, skipSpace_of_opens opens_quote]
      rw [opened_cons, ofString, readItems_next hread hskip]
      exact ih fuel (.str s :: acc)

/-- An array that breaks off inside a string is refused. -/
theorem decode_unclosed (strings : List String) (cs : List Char) :
    ∃ e, decode ⟨pointsOf ('[' :: (opened strings ++ '"' :: cs.flatMap encodeChar))⟩ =
      .error e := by
  obtain ⟨r, hr⟩ := opened_opens strings (cs.flatMap encodeChar)
  obtain ⟨e, he⟩ := readItems_unclosed 989 ((pointsOf ('"' :: r)).length + 1) [] strings cs
  rw [hr] at he ⊢
  have hvalue : readValue maxNesting (pointsOf ('[' :: '"' :: r)) = .error e := by
    refine (readValue_array opens_quote 989 r).trans ?_
    rw [he]
    rfl
  refine ⟨e.within (pointsOf ('[' :: '"' :: r)), ?_⟩
  change (decodePoints (pointsOf ('[' :: '"' :: r))).mapError _ = _
  unfold decodePoints
  rw [skipSpace_of_opens ⟨by decide, by decide, by decide⟩, hvalue]
  rfl

end VarsAdvisor.Json
