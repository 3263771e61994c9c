import VarsAdvisor.Proofs.Except
import VarsAdvisor.Proofs.Json.Numbers
import VarsAdvisor.Proofs.Json.Strings

/-!
# Reading what was written as JSON

A value is legible if nothing in it is beyond what is read: its whole numbers have no more digits
than a numeral may have, the names of an object differ, and arrays and objects are not nested too
deeply. What is written for a legible value is read as this value (`decode_text`), also with more
text behind it (`readValue_encode`).
-/

namespace VarsAdvisor.Json

open VarsAdvisor.Text

/-- Values without a fraction, an exponent or a surrogate that are read again when arrays and
objects may be nested to the given number of levels. -/
inductive Legible : Nat → Json → Prop where
  | null (levels : Nat) : Legible levels .null
  | bool (levels : Nat) (b : Bool) : Legible levels (.bool b)
  | int (levels : Nat) {n : Int} (digits : (Nat.toDigits 10 n.natAbs).length ≤ maxNumeralDigits) :
    Legible levels (.int n)
  | str (levels : Nat) (s : String) : Legible levels (.str s)
  | arr {levels : Nat} {items : List Json} (each : ∀ v ∈ items, Legible levels v) :
    Legible (levels + 1) (.arr items)
  | obj {levels : Nat} {members : List (WideText × Json)} (names : (members.map Prod.fst).Nodup)
    (whole : ∀ m ∈ members, m.1.isString = true) (each : ∀ m ∈ members, Legible levels m.2) :
    Legible (levels + 1) (.obj members)

/-! ## How a value starts -/

/-- A character that a value may start with: no blank, no end of an array, no byte-order mark. -/
structure Opens (c : Char) : Prop where
  notSpace : isSpace (.char c) = false
  notEnd : c ≠ ']'
  notMark : c ≠ '\uFEFF'

theorem opens_of_digit {c : Char} (h : isAsciiDigit c = true) : Opens c := by
  refine ⟨?_, ?_, ?_⟩
  · unfold isSpace
    simp only [Bool.or_eq_false_iff, beq_eq_false_iff_ne]
    refine ⟨⟨⟨?_, ?_⟩, ?_⟩, ?_⟩ <;> rintro rfl <;> exact absurd h (by decide)
  · rintro rfl
    exact absurd h (by decide)
  · rintro rfl
    exact absurd h (by decide)

theorem encode_opens {levels : Nat} {v : Json} (h : Legible levels v) :
    ∃ c r, v.encode = c :: r ∧ Opens c := by
  cases h with
  | null => exact ⟨'n', _, rfl, by decide, by decide, by decide⟩
  | bool _ b =>
    cases b with
    | true => exact ⟨'t', _, rfl, by decide, by decide, by decide⟩
    | false => exact ⟨'f', _, rfl, by decide, by decide, by decide⟩
  | @int _ n =>
    obtain ⟨c, r, hcons, rfl | hc⟩ := encodeInt_start n
    · exact ⟨'-', r, hcons, by decide, by decide, by decide⟩
    · exact ⟨c, r, hcons, opens_of_digit hc⟩
  | str => exact ⟨'"', _, rfl, by decide, by decide, by decide⟩
  | arr => exact ⟨'[', _, rfl, by decide, by decide, by decide⟩
  | obj => exact ⟨'\x7b', _, rfl, by decide, by decide, by decide⟩

theorem skipSpace_of_opens {c : Char} (h : Opens c) (r : List Char) :
    skipSpace (pointsOf (c :: r)) = pointsOf (c :: r) :=
  List.dropWhile_cons_of_neg (by simp [h.notSpace])

theorem skipSpace_encode {levels : Nat} {v : Json} (h : Legible levels v) (rest : List Char) :
    skipSpace (pointsOf (v.encode ++ rest)) = pointsOf (v.encode ++ rest) := by
  obtain ⟨c, r, hcons, hc⟩ := encode_opens h
  rw [hcons, List.cons_append]
  exact skipSpace_of_opens hc _

/-! ## Items -/

theorem encodeItems_cons (v : Json) {items : List Json} (h : items ≠ []) :
    encodeItems (v :: items) = v.encode ++ ',' :: ' ' :: encodeItems items := by
  obtain ⟨w, rest, rfl⟩ := List.exists_cons_of_ne_nil h
  rw [encodeItems, List.append_assoc]
  rfl

section Items

variable {value : List CodePoint → Except Refusal (Json × List CodePoint)} {v : Json}
  {r : List Char}

/-- An item with another one behind it. -/
theorem readItems_next
    (h : value (pointsOf (v.encode ++ ',' :: ' ' :: r)) = .ok (v, pointsOf (',' :: ' ' :: r)))
    (hr : skipSpace (pointsOf r) = pointsOf r) (fuel : Nat) (acc : List Json) :
    readItems value (fuel + 1) acc (pointsOf (v.encode ++ ',' :: ' ' :: r)) =
      readItems value fuel (v :: acc) (pointsOf r) := by
  have hskip : skipSpace (pointsOf (' ' :: r)) = pointsOf r := hr
  rw [readItems, h]
  exact congrArg (readItems value fuel (v :: acc)) hskip

/-- The last item. -/
theorem readItems_last
    (h : value (pointsOf (v.encode ++ ']' :: r)) = .ok (v, pointsOf (']' :: r))) (fuel : Nat)
    (acc : List Json) :
    readItems value (fuel + 1) acc (pointsOf (v.encode ++ ']' :: r)) =
      .ok ((v :: acc).reverse, pointsOf r) := by
  rw [readItems, h]
  rfl

end Items

/-- How an item or a member may go on. -/
theorem stops_cons {c : Char} (h : c = ',' ∨ c = ']' ∨ c = '\x7d') (r : List Char) :
    Stops (c :: r) := by
  intro d hd
  cases hd
  rcases h with rfl | rfl | rfl <;> decide

/-- What was written for a value is read as this value, whatever comes behind it that no number goes
on with. -/
def ReadBack (value : List CodePoint → Except Refusal (Json × List CodePoint)) (v : Json) :
    Prop :=
  ∀ rest, Stops rest → value (pointsOf (v.encode ++ rest)) = .ok (v, pointsOf rest)

theorem encodeItems_opens {levels : Nat} {items : List Json}
    (h : ∀ v ∈ items, Legible levels v) (hne : items ≠ []) (rest : List Char) :
    ∃ c r, encodeItems items ++ rest = c :: r ∧ Opens c := by
  obtain ⟨v, more, rfl⟩ := List.exists_cons_of_ne_nil hne
  obtain ⟨c, r, hcons, hc⟩ := encode_opens (h v List.mem_cons_self)
  cases more with
  | nil => exact ⟨c, r ++ rest, by rw [encodeItems, hcons, List.cons_append], hc⟩
  | cons w more =>
    rw [encodeItems_cons v (List.cons_ne_nil w more), hcons]
    exact ⟨c, _, rfl, hc⟩

theorem readItems_encodeItems {value : List CodePoint → Except Refusal (Json × List CodePoint)}
    {levels fuel : Nat} {items : List Json} (hlegible : ∀ v ∈ items, Legible levels v)
    (hread : ∀ v ∈ items, ReadBack value v) (hne : items ≠ []) (hfuel : items.length ≤ fuel)
    (acc : List Json) (rest : List Char) :
    readItems value fuel acc (pointsOf (encodeItems items ++ ']' :: rest)) =
      .ok (acc.reverse ++ items, pointsOf rest) := by
  induction items generalizing fuel acc with
  | nil => exact absurd rfl hne
  | cons v more ih =>
    rw [List.forall_mem_cons] at hlegible hread
    obtain ⟨fuel, rfl⟩ := Nat.exists_eq_add_of_le' (Nat.le_trans (Nat.le_add_left 1 _) hfuel)
    cases more with
    | nil =>
      rw [encodeItems, readItems_last (hread.1 _ (stops_cons (by decide) rest)), List.reverse_cons]
    | cons w more =>
      have hmore : w :: more ≠ [] := List.cons_ne_nil w more
      obtain ⟨c, r, hcons, hc⟩ := encodeItems_opens hlegible.2 hmore (']' :: rest)
      have hskip : skipSpace (pointsOf (encodeItems (w :: more) ++ ']' :: rest)) =
          pointsOf (encodeItems (w :: more) ++ ']' :: rest) := by
        rw [hcons, skipSpace_of_opens hc]
      rw [encodeItems_cons v hmore, List.append_assoc, List.cons_append, List.cons_append,
        readItems_next (hread.1 _ (stops_cons (by decide) _)) hskip,
        ih hlegible.2 hread.2 hmore (by simpa using hfuel), List.reverse_cons, List.append_assoc]
      rfl

/-! ## Members -/

theorem setMember_of_not_mem {name : WideText} {members : List (WideText × Json)}
    (h : name ∉ members.map Prod.fst) (v : Json) :
    setMember name v members = members ++ [(name, v)] := by
  induction members with
  | nil => rfl
  | cons m more ih =>
    rw [List.map_cons, List.mem_cons, not_or] at h
    rw [setMember, if_neg (Ne.symm h.1), ih h.2]
    rfl

theorem membersOf_concat (pairs : List (WideText × Json)) (m : WideText × Json) :
    membersOf (pairs ++ [m]) = setMember m.1 m.2 (membersOf pairs) := by
  unfold membersOf
  rw [List.foldl_append]
  rfl

/-- Pairs whose names differ are the members of their object. -/
theorem membersOf_of_nodup {pairs : List (WideText × Json)} (h : (pairs.map Prod.fst).Nodup) :
    membersOf pairs = pairs := by
  induction pairs using List.reverseRecOn with
  | nil => rfl
  | append_singleton front m ih =>
    rw [List.map_append, List.nodup_append] at h
    have hnew : m.1 ∉ front.map Prod.fst := fun hmem =>
      h.2.2 m.1 hmem m.1 List.mem_cons_self rfl
    rw [membersOf_concat, ih h.1, setMember_of_not_mem hnew]

theorem encodeMembers_cons (m : WideText × Json) {members : List (WideText × Json)}
    (h : members ≠ []) :
    encodeMembers (m :: members) =
      encodeString m.1 ++ ':' :: ' ' :: (m.2.encode ++ ',' :: ' ' :: encodeMembers members) := by
  obtain ⟨w, rest, rfl⟩ := List.exists_cons_of_ne_nil h
  rw [encodeMembers]
  simp

theorem encodeMembers_opens {members : List (WideText × Json)} (hne : members ≠ [])
    (rest : List Char) : ∃ r, encodeMembers members ++ rest = '"' :: r := by
  obtain ⟨m, more, rfl⟩ := List.exists_cons_of_ne_nil hne
  cases more with
  | nil => exact ⟨_, rfl⟩
  | cons w more =>
    rw [encodeMembers_cons m (List.cons_ne_nil w more)]
    exact ⟨_, rfl⟩

section Members

variable {value : List CodePoint → Except Refusal (Json × List CodePoint)} {v : Json}
  {r : List Char} {levels : Nat} (hlegible : Legible levels v) (fuel : Nat)
  (acc : List (WideText × Json)) (name : String)

include hlegible

/-- A member with another one behind it. -/
theorem readMembers_next
    (h : value (pointsOf (v.encode ++ ',' :: r)) = .ok (v, pointsOf (',' :: r))) :
    readMembers value (fuel + 1) acc
        (pointsOf (encodeString name ++ ':' :: ' ' :: (v.encode ++ ',' :: r))) =
      readMembers value fuel ((↑name, v) :: acc) (skipSpace (pointsOf r)) := by
  have hcolon : skipSpace (pointsOf (':' :: ' ' :: (v.encode ++ ',' :: r))) =
      pointsOf (':' :: ' ' :: (v.encode ++ ',' :: r)) := rfl
  have hvalue : skipSpace (pointsOf (' ' :: (v.encode ++ ',' :: r))) =
      pointsOf (v.encode ++ ',' :: r) :=
    skipSpace_encode hlegible _
  have hcomma : skipSpace (pointsOf (',' :: r)) = pointsOf (',' :: r) := rfl
  rw [encodeString_append, pointsOf_cons, readMembers, readString_flatMap]
  simp only [pointsOf_cons] at hcolon hvalue hcomma h ⊢
  simp only [except_ok_bind, hcolon, hvalue, h, hcomma]

/-- The last member. -/
theorem readMembers_last
    (h : value (pointsOf (v.encode ++ '\x7d' :: r)) = .ok (v, pointsOf ('\x7d' :: r))) :
    readMembers value (fuel + 1) acc
        (pointsOf (encodeString name ++ ':' :: ' ' :: (v.encode ++ '\x7d' :: r))) =
      .ok (membersOf ((↑name, v) :: acc).reverse, pointsOf r) := by
  have hcolon : skipSpace (pointsOf (':' :: ' ' :: (v.encode ++ '\x7d' :: r))) =
      pointsOf (':' :: ' ' :: (v.encode ++ '\x7d' :: r)) := rfl
  have hvalue : skipSpace (pointsOf (' ' :: (v.encode ++ '\x7d' :: r))) =
      pointsOf (v.encode ++ '\x7d' :: r) :=
    skipSpace_encode hlegible _
  have hend : skipSpace (pointsOf ('\x7d' :: r)) = pointsOf ('\x7d' :: r) := rfl
  rw [encodeString_append, pointsOf_cons, readMembers, readString_flatMap]
  simp only [pointsOf_cons] at hcolon hvalue hend h ⊢
  simp only [except_ok_bind, hcolon, hvalue, h, hend]
  rfl

end Members

theorem readMembers_encodeMembers
    {value : List CodePoint → Except Refusal (Json × List CodePoint)} {levels fuel : Nat}
    {members : List (WideText × Json)} (hwhole : ∀ m ∈ members, m.1.isString = true)
    (hlegible : ∀ m ∈ members, Legible levels m.2) (hread : ∀ m ∈ members, ReadBack value m.2)
    (hne : members ≠ []) (hfuel : members.length ≤ fuel) (acc : List (WideText × Json))
    (rest : List Char) :
    readMembers value fuel acc (pointsOf (encodeMembers members ++ '\x7d' :: rest)) =
      .ok (membersOf (acc.reverse ++ members), pointsOf rest) := by
  induction members generalizing fuel acc with
  | nil => exact absurd rfl hne
  | cons m more ih =>
    rw [List.forall_mem_cons] at hwhole hlegible hread
    obtain ⟨fuel, rfl⟩ := Nat.exists_eq_add_of_le' (Nat.le_trans (Nat.le_add_left 1 _) hfuel)
    obtain ⟨name, v⟩ := m
    obtain ⟨name, rfl⟩ := WideText.isString_iff.1 hwhole.1
    cases more with
    | nil =>
      have hlast : encodeMembers [(↑name, v)] ++ '\x7d' :: rest =
          encodeString name ++ ':' :: ' ' :: (v.encode ++ '\x7d' :: rest) := by
        rw [encodeMembers]
        simp
      rw [hlast, readMembers_last hlegible.1 _ _ _ (hread.1 _ (stops_cons (by decide) rest)),
        ← List.reverse_cons]
    | cons w more =>
      have hmore : w :: more ≠ [] := List.cons_ne_nil w more
      obtain ⟨r, hcons⟩ := encodeMembers_opens hmore ('\x7d' :: rest)
      have hskip : skipSpace (pointsOf (' ' :: (encodeMembers (w :: more) ++ '\x7d' :: rest))) =
          pointsOf (encodeMembers (w :: more) ++ '\x7d' :: rest) := by
        rw [hcons]
        rfl
      have hnext : encodeMembers ((↑name, v) :: w :: more) ++ '\x7d' :: rest =
          encodeString name ++ ':' :: ' ' ::
            (v.encode ++ ',' :: ' ' :: (encodeMembers (w :: more) ++ '\x7d' :: rest)) := by
        rw [encodeMembers_cons _ hmore]
        simp
      rw [hnext, readMembers_next hlegible.1 _ _ _ (hread.1 _ (stops_cons (by decide) _)), hskip,
        ih hwhole.2 hlegible.2 hread.2 hmore (by simpa using hfuel), List.reverse_cons,
        List.append_assoc]
      rfl

/-! ## Values -/

/-- How an array with items is read. -/
theorem readValue_array {c : Char} (h : Opens c) (levels : Nat) (r : List Char) :
    readValue (levels + 1) (pointsOf ('[' :: c :: r)) =
      (readItems (readValue levels) ((pointsOf (c :: r)).length + 1) [] (pointsOf (c :: r))).map
        fun (items, rest) => (.arr items, rest) := by
  rw [pointsOf_cons, readValue, skipSpace_of_opens h]
  split
  · next heq =>
    cases heq
    exact absurd rfl h.notEnd
  · rfl

/-- How an object with members is read. -/
theorem readValue_object (levels : Nat) (r : List Char) :
    readValue (levels + 1) (pointsOf ('\x7b' :: '"' :: r)) =
      (readMembers (readValue levels) ((pointsOf ('"' :: r)).length + 1) []
        (pointsOf ('"' :: r))).map fun (members, rest) => (.obj members, rest) := by
  rw [pointsOf_cons, readValue]
  rfl

theorem readValue_scalar {c : Char} (hstr : c ≠ '"') (harr : c ≠ '[') (hobj : c ≠ '\x7b')
    (levels : Nat) (r : List Char) :
    readValue levels (pointsOf (c :: r)) = readScalar (pointsOf (c :: r)) := by
  rw [pointsOf_cons]
  cases levels <;> rw [readValue] <;> simp_all

theorem readValue_plain (c : Char) (hother : c ∉ ['"', '[', '\x7b']) (levels : Nat)
    {v : Json} {r rest : List Char} (h : readPlain (c :: r).length (c :: r) = .ok (v, rest)) :
    readValue levels (pointsOf (c :: r)) = .ok (v, pointsOf rest) := by
  simp only [List.mem_cons, List.not_mem_nil, or_false, not_or] at hother
  rw [readValue_scalar hother.1 hother.2.1 hother.2.2, readScalar_pointsOf, h]
  rfl

theorem readValue_encodeInt {n : Int}
    (hn : (Nat.toDigits 10 n.natAbs).length ≤ maxNumeralDigits) (levels : Nat)
    {rest : List Char} (h : Stops rest) :
    readValue levels (pointsOf (encodeInt n ++ rest)) = .ok (.int n, pointsOf rest) := by
  have hread := readScalar_encodeInt hn h
  obtain ⟨c, r, hcons, hc⟩ := encodeInt_start n
  have hother : ∀ d, (d = '"' ∨ d = '[' ∨ d = '\x7b') → c ≠ d := by
    rintro d (rfl | rfl | rfl) rfl <;> revert hc <;> decide
  rw [hcons, List.cons_append] at hread ⊢
  rw [readValue_scalar (hother _ (.inl rfl)) (hother _ (.inr (.inl rfl)))
    (hother _ (.inr (.inr rfl))), hread]

theorem length_le_encodeItems {levels : Nat} {items : List Json}
    (h : ∀ v ∈ items, Legible levels v) : items.length ≤ (encodeItems items).length := by
  induction items with
  | nil => exact Nat.zero_le _
  | cons v more ih =>
    rw [List.forall_mem_cons] at h
    obtain ⟨c, r, hcons, -⟩ := encode_opens h.1
    cases more with
    | nil =>
      rw [encodeItems, hcons]
      simp
    | cons w more =>
      have := ih h.2
      rw [encodeItems_cons v (List.cons_ne_nil w more), List.length_append, List.length_cons,
        List.length_cons]
      simp only [List.length_cons] at this ⊢
      omega

theorem length_le_encodeMembers (members : List (WideText × Json)) :
    members.length ≤ (encodeMembers members).length := by
  induction members with
  | nil => exact Nat.zero_le _
  | cons m more ih =>
    cases more with
    | nil =>
      rw [encodeMembers]
      simp [encodeString]
    | cons w more =>
      rw [encodeMembers_cons m (List.cons_ne_nil w more)]
      simp only [List.length_append, List.length_cons] at ih ⊢
      omega

theorem readValue_encode {levels : Nat} {v : Json} (h : Legible levels v) :
    ReadBack (readValue levels) v := by
  induction h with
  | null levels =>
    intro rest _
    exact readValue_plain 'n' (by decide) levels rfl
  | bool levels b =>
    intro rest _
    cases b with
    | true => exact readValue_plain 't' (by decide) levels rfl
    | false => exact readValue_plain 'f' (by decide) levels rfl
  | int levels digits => exact fun rest hrest => readValue_encodeInt digits levels hrest
  | str levels s =>
    intro rest _
    rw [encode, encodeString_append, pointsOf_cons, readValue, readString_flatMap]
    rfl
  | @arr levels items each ih =>
    intro rest _
    by_cases hne : items = []
    · rw [hne]
      rfl
    · obtain ⟨c, r, hcons, hc⟩ := encodeItems_opens each hne (']' :: rest)
      have harr : encode (.arr items) ++ rest = '[' :: (encodeItems items ++ ']' :: rest) := by
        rw [encode]
        simp
      have hfuel : items.length ≤ (pointsOf (encodeItems items ++ ']' :: rest)).length + 1 := by
        have := length_le_encodeItems each
        rw [length_pointsOf, List.length_append]
        omega
      have hread := readItems_encodeItems each ih hne hfuel [] rest
      rw [harr]
      rw [hcons] at hread ⊢
      rw [readValue_array hc, hread]
      rfl
  | @obj levels members names whole each ih =>
    intro rest _
    by_cases hne : members = []
    · rw [hne]
      rfl
    · obtain ⟨r, hcons⟩ := encodeMembers_opens hne ('\x7d' :: rest)
      have hobj : encode (.obj members) ++ rest =
          '\x7b' :: (encodeMembers members ++ '\x7d' :: rest) := by
        rw [encode]
        simp
      have hfuel : members.length ≤
          (pointsOf (encodeMembers members ++ '\x7d' :: rest)).length + 1 := by
        have := length_le_encodeMembers members
        rw [length_pointsOf, List.length_append]
        omega
      have hread := readMembers_encodeMembers whole each ih hne hfuel [] rest
      rw [List.reverse_nil, List.nil_append, membersOf_of_nodup names] at hread
      rw [hobj]
      rw [hcons] at hread ⊢
      rw [readValue_object, hread]
      rfl

theorem toList_text (v : Json) : v.text.toList = v.encode :=
  String.toList_ofList

/-- The text of a legible value is read as this value. -/
theorem decode_text {v : Json} (h : Legible maxNesting v) : decode v.text = .ok v := by
  obtain ⟨c, r, hcons, hc⟩ := encode_opens h
  have hread := readValue_encode h [] stops_nil
  have hpoints : decodePoints (pointsOf v.encode) = .ok v := by
    unfold decodePoints
    rw [List.append_nil] at hread
    rw [hcons, skipSpace_of_opens hc, ← hcons, hread]
    rfl
  have hall : decodeAll (pointsOf v.encode) = .ok v := by
    unfold decodeAll
    rw [hpoints]
    rfl
  unfold decode
  rw [WideText.points_ofString, toList_text, hcons]
  split
  · next heq =>
    cases heq
    exact absurd rfl hc.notMark
  · rw [← hcons, hall]

/-! ## Characters -/

/-- A printable ASCII character. -/
def isAscii (c : Char) : Bool :=
  32 ≤ c.toNat && c.toNat < 127

theorem isAscii_encodePoint (p : CodePoint) : ∀ c ∈ encodePoint p, isAscii c = true := by
  have hletters : escapeLetters.all isAscii = true := by decide
  intro c hc
  cases p with
  | char d =>
    rcases mem_encodeChar hc with hletter | ⟨rfl, hplain⟩
    · exact List.all_eq_true.1 hletters c hletter
    · simpa [isAscii] using hplain
  | surrogate d => exact List.all_eq_true.1 hletters c (mem_encodeUnit hc)

theorem isAscii_encodeString (s : WideText) : ∀ c ∈ encodeString s, isAscii c = true := by
  have hpoints : ∀ c ∈ s.points.flatMap encodePoint, isAscii c = true := by
    intro c hc
    obtain ⟨p, -, hp⟩ := List.mem_flatMap.1 hc
    exact isAscii_encodePoint p c hp
  unfold encodeString
  rw [List.cons_append, List.forall_mem_cons, List.forall_mem_append, List.forall_mem_singleton]
  exact ⟨by decide, hpoints, by decide⟩

theorem isAscii_encodeInt (n : Int) : ∀ c ∈ encodeInt n, isAscii c = true := by
  unfold encodeInt
  rw [List.forall_mem_append]
  refine ⟨?_, ?_⟩
  · split
    · exact List.forall_mem_singleton.2 (by decide)
    · exact List.forall_mem_nil _
  · intro c hc
    have hdigit := isAsciiDigit_of_mem_toDigits hc
    simp only [isAsciiDigit, Bool.and_eq_true, decide_eq_true_eq] at hdigit
    simp [isAscii]
    omega

theorem isAscii_encodeItems {items : List Json}
    (h : ∀ v ∈ items, ∀ c ∈ v.encode, isAscii c = true) :
    ∀ c ∈ encodeItems items, isAscii c = true := by
  induction items with
  | nil => exact List.forall_mem_nil _
  | cons v more ih =>
    rw [List.forall_mem_cons] at h
    cases more with
    | nil =>
      rw [encodeItems]
      exact h.1
    | cons w more =>
      rw [encodeItems_cons v (List.cons_ne_nil w more), List.forall_mem_append,
        List.forall_mem_cons, List.forall_mem_cons]
      exact ⟨h.1, by decide, by decide, ih h.2⟩

theorem isAscii_encodeMembers {members : List (WideText × Json)}
    (h : ∀ m ∈ members, ∀ c ∈ m.2.encode, isAscii c = true) :
    ∀ c ∈ encodeMembers members, isAscii c = true := by
  induction members with
  | nil => exact List.forall_mem_nil _
  | cons m more ih =>
    rw [List.forall_mem_cons] at h
    have hname := isAscii_encodeString m.1
    cases more with
    | nil =>
      rw [encodeMembers]
      simp only [List.forall_mem_append, List.forall_mem_cons]
      exact ⟨⟨hname, by decide, by decide, List.forall_mem_nil _⟩, h.1⟩
    | cons w more =>
      rw [encodeMembers_cons m (List.cons_ne_nil w more)]
      simp only [List.forall_mem_append, List.forall_mem_cons]
      exact ⟨hname, by decide, by decide, h.1, by decide, by decide, ih h.2⟩

/-- A legible value is written on one line in ASCII. -/
theorem isAscii_encode {levels : Nat} {v : Json} (h : Legible levels v) :
    ∀ c ∈ v.encode, isAscii c = true := by
  induction h with
  | null => exact List.all_eq_true.1 rfl
  | bool _ b => cases b <;> exact List.all_eq_true.1 rfl
  | @int _ n _ => exact isAscii_encodeInt n
  | str _ s => exact isAscii_encodeString s
  | arr _ ih =>
    rw [encode, List.cons_append, List.forall_mem_cons, List.forall_mem_append,
      List.forall_mem_singleton]
    exact ⟨by decide, isAscii_encodeItems ih, by decide⟩
  | obj _ _ _ ih =>
    rw [encode, List.cons_append, List.forall_mem_cons, List.forall_mem_append,
      List.forall_mem_singleton]
    exact ⟨by decide, isAscii_encodeMembers ih, by decide⟩

end VarsAdvisor.Json
