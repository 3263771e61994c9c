import VarsAdvisor.Proofs.Text.Joined
import VarsAdvisor.Proofs.Text.Lines
import VarsAdvisor.Proofs.Text.Parts
import VarsAdvisor.Proofs.Text.Trim

/-!
# What a text shows line by line

The content of lines is what trimming leaves of them, the blank ones left out. Line breaks are
blanks, so it makes no difference how many blanks or breaks stand before, between and behind the
lines (`content_of_prints`), and nothing that is not blank is lost
(`content_splitLines_eq_nil_iff`).
-/

namespace VarsAdvisor.Text

variable {c : Char} {cs line : List Char}

/-! ## Lines -/

theorem isBlank_of_isLineBreak (h : isLineBreak c = true) : isBlank c = true := by
  simp only [isLineBreak, isBlank, Bool.or_eq_true, Bool.and_eq_true, decide_eq_true_eq,
    beq_iff_eq] at h ⊢
  omega

/-- Without a line break. -/
def IsLine (cs : List Char) : Prop :=
  ∀ c ∈ cs, isLineBreak c = false

instance (cs : List Char) : Decidable (IsLine cs) :=
  List.decidableBAll (isLineBreak · = false) cs

theorem isLine_of_mem_splitLines (h : line ∈ splitLines cs) : IsLine line := by
  fun_induction splitLines cs generalizing line with
  | case1 => cases h
  | case2 r ih =>
    rcases List.mem_cons.1 h with rfl | h
    · exact List.forall_mem_nil _
    · exact ih h
  | case3 c r _ _ ih =>
    rcases List.mem_cons.1 h with rfl | h
    · exact List.forall_mem_nil _
    · exact ih h
  | case4 c r _ hc ih =>
    have hfirst : isLineBreak c = false := Bool.not_eq_true _ ▸ hc
    unfold consToFirst at h
    split at h
    · rw [List.mem_singleton.1 h]
      exact List.forall_mem_singleton.2 hfirst
    · next first rest hrest =>
      rw [hrest] at ih
      rcases List.mem_cons.1 h with rfl | h
      · exact List.forall_mem_cons.2 ⟨hfirst, ih List.mem_cons_self⟩
      · exact ih (List.mem_cons_of_mem _ h)

theorem isLine_of_mem_lines {s line : String} (h : line ∈ lines s) : IsLine line.toList := by
  obtain ⟨cs, hcs, rfl⟩ := List.mem_map.1 h
  rw [String.toList_ofList]
  exact isLine_of_mem_splitLines hcs

theorem exists_mem_splitLines (hc : isLineBreak c = false) (h : c ∈ cs) :
    ∃ line ∈ splitLines cs, c ∈ line := by
  fun_induction splitLines cs with
  | case1 => cases h
  | case2 r ih =>
    have hr : c ∈ r := by
      rcases List.mem_cons.1 h with rfl | h
      · cases hc
      · rcases List.mem_cons.1 h with rfl | h
        · cases hc
        · exact h
    obtain ⟨line, hline, hmem⟩ := ih hr
    exact ⟨line, List.mem_cons_of_mem _ hline, hmem⟩
  | case3 d r _ hd ih =>
    rcases List.mem_cons.1 h with rfl | hr
    · rw [hc] at hd
      cases hd
    · obtain ⟨line, hline, hmem⟩ := ih hr
      exact ⟨line, List.mem_cons_of_mem _ hline, hmem⟩
  | case4 d r _ _ ih =>
    unfold consToFirst
    rcases List.mem_cons.1 h with rfl | hr
    · split
      · exact ⟨_, List.mem_cons_self, List.mem_cons_self⟩
      · exact ⟨_, List.mem_cons_self, List.mem_cons_self⟩
    · obtain ⟨line, hline, hmem⟩ := ih hr
      split
      · next hnone =>
        rw [hnone] at hline
        cases hline
      · next first rest hrest =>
        rw [hrest] at hline
        rcases List.mem_cons.1 hline with rfl | hline
        · exact ⟨_, List.mem_cons_self, List.mem_cons_of_mem _ hmem⟩
        · exact ⟨line, List.mem_cons_of_mem _ hline, hmem⟩

/-- A line in front of a break stays a line. -/
theorem splitLines_append (hline : IsLine line) {rest : List (List Char)}
    (h : splitLines cs = [] :: rest) : splitLines (line ++ cs) = line :: rest := by
  induction line with
  | nil => exact h
  | cons c r ih =>
    rw [IsLine, List.forall_mem_cons] at hline
    rw [List.cons_append, splitLines_of_not_break hline.1, ih hline.2]
    rfl

/-- Lines come back when the text they were joined to is split, unless the last one is empty. -/
theorem splitLines_join {ls : List (List Char)} (h : ∀ l ∈ ls, IsLine l)
    (hlast : ls.getLast? ≠ some []) : splitLines (join ['\n'] ls) = ls := by
  induction ls with
  | nil => rfl
  | cons first rest ih =>
    rw [List.forall_mem_cons] at h
    cases rest with
    | nil =>
      have hne : first ≠ [] := by
        rintro rfl
        exact hlast rfl
      rw [join, splitLines_of_no_break hne h.1]
    | cons second rest =>
      rw [List.getLast?_cons_cons] at hlast
      rw [join_cons (List.cons_ne_nil _ _), splitLines_append h.1 (splitLines_feed _),
        ih h.2 hlast]

theorem lines_joined {ls : List String} (h : ∀ l ∈ ls, IsLine l.toList)
    (hlast : ls.getLast? ≠ some "") : lines (joined "\n" ls) = ls := by
  have hchars : (ls.map String.toList).getLast? ≠ some [] := by
    rw [List.getLast?_map]
    intro hnil
    obtain ⟨l, hl, hempty⟩ := Option.map_eq_some_iff.1 hnil
    exact hlast (hl.trans (congrArg some (String.toList_injective hempty)))
  have hsplit := splitLines_join (List.forall_mem_map.2 h) hchars
  have hback : String.ofList ∘ String.toList = id := funext fun l => String.ofList_toList
  have hfeed : "\n".toList = ['\n'] := rfl
  rw [lines, joined, String.toList_ofList, hfeed, hsplit, List.map_map, hback, List.map_id]

/-! ## Content -/

/-- What lines show: each trimmed, without the blank ones. -/
def content (lines : List (List Char)) : List (List Char) :=
  (lines.map trim).filter (· ≠ [])

theorem content_cons (line : List Char) (lines : List (List Char)) :
    content (line :: lines) = content [line] ++ content lines := by
  unfold content
  rw [← List.filter_append, ← List.map_append, List.singleton_append]

theorem content_of_blank (h : ∀ c ∈ line, isBlank c = true) : content [line] = [] := by
  unfold content
  rw [List.map_singleton, trim_of_blank (List.all_eq_true.2 h)]
  rfl

theorem content_of_tight (hne : line ≠ []) (h : IsTight line) : content [line] = [line] := by
  unfold content
  rw [List.map_singleton, trim_of_tight h]
  simp [hne]

theorem content_break (hc : isLineBreak c = true) (cs : List Char) :
    ∃ rest, splitLines (c :: cs) = [] :: rest ∧ content rest = content (splitLines cs) := by
  by_cases hpair : ∃ r, c = '\r' ∧ cs = '\n' :: r
  · obtain ⟨r, rfl, rfl⟩ := hpair
    refine ⟨splitLines r, by rw [splitLines], ?_⟩
    rw [splitLines_feed, content_cons]
    rfl
  · exact ⟨splitLines cs, splitLines_of_break hc fun r hr hcs => hpair ⟨r, hr, hcs⟩, rfl⟩

/-- Blanks in front of a text, line breaks among them, show nothing. -/
theorem content_blanks {front : List Char} (h : ∀ c ∈ front, isBlank c = true) (cs : List Char) :
    content (splitLines (front ++ cs)) = content (splitLines cs) := by
  induction front with
  | nil => rfl
  | cons b r ih =>
    rw [List.forall_mem_cons] at h
    rw [List.cons_append, ← ih h.2]
    cases hb : isLineBreak b with
    | true =>
      obtain ⟨rest, hsplit, hrest⟩ := content_break hb (r ++ cs)
      rw [hsplit, content_cons, hrest]
      rfl
    | false =>
      rw [splitLines_of_not_break hb]
      cases splitLines (r ++ cs) with
      | nil => exact content_of_blank (List.forall_mem_singleton.2 h.1)
      | cons first rest =>
        have htrim := trim_between (List.forall_mem_singleton.2 h.1)
          (List.forall_mem_nil (fun c => isBlank c = true)) first
        rw [List.append_nil, List.singleton_append] at htrim
        unfold consToFirst content
        rw [List.map_cons, htrim, List.map_cons]

theorem content_of_blanks (h : ∀ c ∈ cs, isBlank c = true) : content (splitLines cs) = [] := by
  have hblanks := content_blanks h []
  rwa [List.append_nil] at hblanks

/-- A text shows nothing just if it holds only blanks. -/
theorem content_splitLines_eq_nil_iff :
    content (splitLines cs) = [] ↔ ∀ c ∈ cs, isBlank c = true := by
  refine ⟨?_, content_of_blanks⟩
  intro h c hc
  by_contra hblank
  have hbreak : isLineBreak c = false := by
    rw [← Bool.not_eq_true]
    exact fun hbreak => hblank (isBlank_of_isLineBreak hbreak)
  obtain ⟨line, hline, hmem⟩ := exists_mem_splitLines hbreak hc
  have hempty : trim line = [] := by
    by_contra hne
    have hshown : trim line ∈ content (splitLines cs) :=
      List.mem_filter.2 ⟨List.mem_map.2 ⟨line, hline, rfl⟩, by simpa using hne⟩
    rw [h] at hshown
    cases hshown
  have hall := all_isBlank_trim line
  rw [hempty, List.all_nil, eq_comm, List.all_eq_true] at hall
  exact hblank (hall c hmem)

/-- What stands behind a line does not belong to it. -/
def EndsLine (cs : List Char) : Prop :=
  ∀ line, IsLine line →
    content (splitLines (line ++ cs)) = content [line] ++ content (splitLines cs)

theorem endsLine_nil : EndsLine [] := by
  intro line hline
  have hnone : content (splitLines []) = [] := rfl
  rw [List.append_nil, hnone, List.append_nil]
  by_cases hne : line = []
  · rw [hne]
    rfl
  · rw [splitLines_of_no_break hne hline]

theorem endsLine_break (hc : isLineBreak c = true) (cs : List Char) : EndsLine (c :: cs) := by
  intro line hline
  obtain ⟨rest, hsplit, -⟩ := content_break hc cs
  rw [splitLines_append hline hsplit, content_cons, hsplit, content_cons []]
  rfl

theorem EndsLine.blanks (h : EndsLine cs) {front : List Char}
    (hfront : ∀ c ∈ front, isBlank c = true) : EndsLine (front ++ cs) := by
  induction front with
  | nil => exact h
  | cons b r ih =>
    have hblanks := content_blanks hfront cs
    rw [List.forall_mem_cons] at hfront
    cases hb : isLineBreak b with
    | true => exact endsLine_break hb _
    | false =>
      intro line hline
      have hlonger : IsLine (line ++ [b]) :=
        List.forall_mem_append.2 ⟨hline, List.forall_mem_singleton.2 hb⟩
      have htrim := trim_between (List.forall_mem_nil (fun c => isBlank c = true))
        (List.forall_mem_singleton.2 hfront.1) line
      rw [List.nil_append] at htrim
      have hsame : content [line ++ [b]] = content [line] := by
        unfold content
        rw [List.map_singleton, List.map_singleton, htrim]
      have hmore := ih hfront.2 (line ++ [b]) hlonger
      rw [hsame, List.append_assoc, List.singleton_append, content_blanks hfront.2] at hmore
      rw [List.cons_append, hmore, ← List.cons_append, hblanks]

/-! ## Printed texts -/

/-- Texts stand in a longer text one a line. Blanks may stand around each, and as line breaks are
blanks there may be blank lines. -/
inductive Prints : List String → List Char → Prop
  | nothing {after : List Char} (hafter : ∀ c ∈ after, isBlank c = true) : Prints [] after
  | last {text : String} {before after : List Char} (hbefore : ∀ c ∈ before, isBlank c = true)
      (hline : IsLine text.toList) (hafter : ∀ c ∈ after, isBlank c = true) :
      Prints [text] (before ++ (text.toList ++ after))
  | more {text : String} {texts : List String} {before after rest : List Char} {ending : Char}
      (hbefore : ∀ c ∈ before, isBlank c = true) (hline : IsLine text.toList)
      (hafter : ∀ c ∈ after, isBlank c = true) (hending : isLineBreak ending = true)
      (hrest : Prints texts rest) :
      Prints (text :: texts) (before ++ (text.toList ++ (after ++ ending :: rest)))

/-- The content of a text is that of the texts which are printed in it. -/
theorem content_of_prints {texts : List String} (h : Prints texts cs) :
    content (splitLines cs) = content (texts.map String.toList) := by
  induction h with
  | nothing hafter => exact content_of_blanks hafter
  | last hbefore hline hafter =>
    have hends := endsLine_nil.blanks hafter
    rw [List.append_nil] at hends
    rw [content_blanks hbefore, hends _ hline, content_of_blanks hafter, List.append_nil]
    rfl
  | @more text texts before after rest ending hbefore hline hafter hending _ ih =>
    have hends := (endsLine_break hending rest).blanks hafter
    have hskip : content (splitLines (ending :: rest)) = content (splitLines rest) :=
      content_blanks (List.forall_mem_singleton.2 (isBlank_of_isLineBreak hending)) rest
    rw [content_blanks hbefore, hends _ hline, content_blanks hafter, hskip, ih, List.map_cons,
      content_cons text.toList (texts.map String.toList)]

/-- A text that is printed stands in the longer one as it is. -/
theorem Prints.part {texts : List String} (h : Prints texts cs) {text : String}
    (hmem : text ∈ texts) : text.toList <:+: cs := by
  induction h with
  | nothing => cases hmem
  | @last _ before after =>
    cases List.mem_singleton.1 hmem
    exact ⟨before, after, List.append_assoc _ _ _⟩
  | @more first _ before after rest ending _ _ _ _ _ ih =>
    rcases List.mem_cons.1 hmem with rfl | hmem
    · exact ⟨before, after ++ ending :: rest, List.append_assoc _ _ _⟩
    · have hsuffix : rest <:+ before ++ (first.toList ++ (after ++ ending :: rest)) :=
        ⟨before ++ (first.toList ++ (after ++ [ending])), by simp⟩
      exact (ih hmem).trans hsuffix.isInfix

/-- Texts that are lines are printed when they are joined by line feeds. -/
theorem prints_joined {texts : List String} (h : ∀ text ∈ texts, IsLine text.toList) :
    Prints texts (joined "\n" texts).toList := by
  have hnone : ∀ c ∈ ([] : List Char), isBlank c = true := List.forall_mem_nil _
  have hfeed : "\n".toList = ['\n'] := rfl
  rw [joined, String.toList_ofList, hfeed]
  induction texts with
  | nil => exact .nothing hnone
  | cons text rest ih =>
    rw [List.forall_mem_cons] at h
    cases rest with
    | nil =>
      have hlast := Prints.last hnone h.1 hnone
      rwa [List.nil_append, List.append_nil] at hlast
    | cons next rest =>
      rw [List.map_cons, join_cons (by simp)]
      exact .more hnone h.1 hnone (by decide) (ih h.2)

end VarsAdvisor.Text
