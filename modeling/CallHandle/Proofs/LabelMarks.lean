import CallHandle.Proofs.SourceLines
import CallHandle.Report
import Mathlib.Data.String.Basic

/-!
# What a label marks

A span is given in bytes and is cut to the size of the source in bytes, and its ends are then taken for indices
of characters. Bytes and characters are counted alike up to the first character of several bytes, so the label
marks the characters that the span covers exactly when there is no such character before the end of the span:

* `excerpt_eq_iff`: the label is shown as long as the indices do not reach beyond the end of the source;
* `underlined_iff`: the characters of a single line that have a rule below them;
* `byteOffset_eq_iff`: when a character has its index for its offset;
* `Marked`, `Covered`: the characters under the label, and those that the span covers;
* `marked_iff_covered_of_indices`, `marked_iff_covered_iff`: when they are the same;
* `label_beside_wide_character`: a label that has moved to the right.
-/

namespace CallHandle.Report

/-! ## Whether the label is shown -/

section Excerpts

variable {source a b : String} {hint? : Option String} {start stop first last : Nat}
  {firstLine lastLine : Line} {m : Margin}

theorem singleLine_eq_iff {index : Nat} {line : Line} :
    singleLine m index line start stop a = singleLine m index line start stop b ↔
      (stop ≤ line.stop → a = b) := by
  unfold singleLine
  by_cases beyond : line.stop < stop
  · simp [beyond]
  · simp [beyond, Nat.not_lt.mp beyond]

theorem multiLine_eq_iff :
    multiLine m first last firstLine lastLine stop a = multiLine m first last firstLine lastLine stop b ↔
      (stop ≤ lastLine.stop → a = b) := by
  unfold multiLine
  by_cases beyond : lastLine.stop < stop
  · simp [beyond]
  · simp [beyond, Nat.not_lt.mp beyond]

theorem excerpt_eq_iff_of_found (hfirst : lineAt? source start = some first)
    (hlast : start = stop ∧ first = last ∨ start ≠ stop ∧ lineAt? source (stop - 1) = some last)
    (opened : (lines source)[first]? = some firstLine) (closed : (lines source)[last]? = some lastLine) :
    excerpt source start stop a hint? = excerpt source start stop b hint? ↔
      (stop ≤ lastLine.stop → a = b) := by
  unfold excerpt
  rcases hlast with ⟨rfl, rfl⟩ | ⟨filled, hlast⟩
  · obtain rfl : firstLine = lastLine := Option.some.inj (opened.symm.trans closed)
    simp only [hfirst, opened, Option.bind_eq_bind, Option.bind_some, Option.pure_def, if_true,
      List.append_cancel_right_eq, List.append_cancel_left_eq, singleLine_eq_iff]
  · simp only [hfirst, hlast, opened, closed, filled, Option.bind_eq_bind, Option.bind_some,
      Option.pure_def, if_false, List.append_cancel_right_eq, List.append_cancel_left_eq]
    by_cases same : first = last
    · subst same
      obtain rfl : firstLine = lastLine := Option.some.inj (opened.symm.trans closed)
      simp only [if_true, singleLine_eq_iff]
    · simp only [same, if_false, multiLine_eq_iff]

/-- Excerpts under two labels tell them apart unless the span reaches beyond the end. -/
theorem excerpt_eq_iff (h : start ≤ stop) :
    excerpt source start stop a hint? = excerpt source start stop b hint? ↔
      (stop ≤ source.length → a = b) := by
  by_cases far : source.length < start
  · have outside : ¬stop ≤ source.length := by omega
    simp [excerpt, lineAt?_eq_none far, outside]
  · obtain ⟨first, firstLine, hfirst, opened, -, onFirst⟩ := exists_lineAt (Nat.not_lt.mp far)
    by_cases empty : start = stop
    · subst empty
      have whole := stop_le_length opened
      have inside : start ≤ firstLine.stop ↔ start ≤ source.length := by omega
      rw [excerpt_eq_iff_of_found hfirst (.inl ⟨rfl, rfl⟩) opened opened, inside]
    · by_cases behind : source.length < stop - 1
      · have outside : ¬stop ≤ source.length := by omega
        simp [excerpt, hfirst, empty, lineAt?_eq_none behind, outside]
      · obtain ⟨last, lastLine, hlast, closed, -, onLast⟩ := exists_lineAt (Nat.not_lt.mp behind)
        have whole := stop_le_length closed
        have inside : stop ≤ lastLine.stop ↔ stop ≤ source.length := by omega
        rw [excerpt_eq_iff_of_found hfirst (.inr ⟨empty, hlast⟩) opened closed, inside]

/-- The excerpt shows the label, so that under another label it would be another one. -/
def LabelShown (source : String) (start stop : Nat) (label : String) (hint? : Option String) : Prop :=
  ∃ other, excerpt source start stop other hint? ≠ excerpt source start stop label hint?

theorem labelShown_iff {label : String} (h : start ≤ stop) :
    LabelShown source start stop label hint? ↔ stop ≤ source.length := by
  unfold LabelShown
  simp only [ne_eq, excerpt_eq_iff h, Classical.not_imp, exists_and_left, and_iff_left_iff_imp]
  intro _
  refine ⟨label ++ " ", ?_⟩
  simp

/-- A rule is drawn below the character at an index, in the excerpt of a line around a span. What is below the
other characters is blank, but for the arm of an empty span. -/
def Underlined (line : Line) (start stop arm index : Nat) : Prop :=
  (underline line (start - line.offset) (stop - line.offset) arm (index - line.offset)).toList.head? ∈
    [some '─', some '┬']

theorem underlined_iff {line : Line} {arm index : Nat} (h : line.offset ≤ index) :
    Underlined line start stop arm index ↔ start ≤ index ∧ index < stop := by
  have columns : start - line.offset ≤ index - line.offset ∧ index - line.offset < stop - line.offset ↔
      start ≤ index ∧ index < stop := by omega
  have blank (n : Nat) : (Margin.spaces n).toList.head? ∉ [some '─', some '┬'] := by
    cases n <;> simp [Margin.spaces, List.replicate_succ]
  rw [← columns]
  simp only [Underlined, underline]
  by_cases under : start - line.offset ≤ index - line.offset ∧ index - line.offset < stop - line.offset
  · refine iff_of_true ?_ under
    rw [if_pos under]
    split <;> simp
  · refine iff_of_false ?_ under
    rw [if_neg under]
    split
    · simp
    · exact blank _

end Excerpts

/-! ## Bytes before a character -/

/-- The number of bytes before the character at an index. Behind the last one it is the size. -/
def byteOffset (source : String) (index : Nat) : Nat :=
  String.utf8Len (source.toList.take index)

theorem length_le_utf8Len (cs : List Char) : cs.length ≤ String.utf8Len cs := by
  induction cs with
  | nil => simp
  | cons c cs ih =>
    have := c.utf8Size_pos
    simp only [List.length_cons, String.utf8Len_cons]
    omega

theorem utf8Len_eq_length_iff {cs : List Char} :
    String.utf8Len cs = cs.length ↔ ∀ c ∈ cs, c.utf8Size = 1 := by
  induction cs with
  | nil => simp
  | cons c cs ih =>
    have := c.utf8Size_pos
    have := length_le_utf8Len cs
    simp only [List.length_cons, String.utf8Len_cons, List.forall_mem_cons, ← ih]
    omega

section Offsets

variable {source : String} {i j : Nat}

theorem byteOffset_length (source : String) : byteOffset source source.length = source.utf8ByteSize := by
  rw [byteOffset, ← String.length_toList, List.take_length, String.utf8Len_toList]

theorem byteOffset_lt (h : i < j) (hj : j ≤ source.length) : byteOffset source i < byteOffset source j := by
  rw [← String.length_toList] at hj
  obtain ⟨more, split⟩ := List.take_prefix_take_left (l := source.toList) (Nat.le_of_lt h)
  have size : byteOffset source j = byteOffset source i + String.utf8Len more := by
    rw [byteOffset, ← split, String.utf8Len_append]
    rfl
  have nonempty : more ≠ [] := by
    rintro rfl
    have := congrArg List.length split
    simp at this
    omega
  have : 0 < String.utf8Len more := Nat.pos_of_ne_zero (mt String.utf8Len_eq_zero.mp nonempty)
  omega

/-- Characters have their offsets in order. -/
theorem byteOffset_lt_iff (hi : i ≤ source.length) (hj : j ≤ source.length) :
    byteOffset source i < byteOffset source j ↔ i < j := by
  constructor
  · intro h
    rcases Nat.lt_trichotomy i j with lt | rfl | gt
    · exact lt
    · exact absurd h (Nat.lt_irrefl _)
    · exact absurd (byteOffset_lt gt hi) (Nat.lt_asymm h)
  · exact fun h => byteOffset_lt h hj

theorem byteOffset_inj (hi : i ≤ source.length) (hj : j ≤ source.length) :
    byteOffset source i = byteOffset source j ↔ i = j := by
  have := byteOffset_lt_iff hi hj
  have := byteOffset_lt_iff hj hi
  omega

theorem le_byteOffset (h : i ≤ source.length) : i ≤ byteOffset source i := by
  have := length_le_utf8Len (source.toList.take i)
  rwa [List.length_take_of_le (by rwa [String.length_toList])] at this

/-- A character has its index for its offset exactly when each one before it is one byte. -/
theorem byteOffset_eq_iff (h : i ≤ source.length) :
    byteOffset source i = i ↔ ∀ c ∈ source.toList.take i, c.utf8Size = 1 := by
  rw [← utf8Len_eq_length_iff, List.length_take_of_le (by rwa [String.length_toList])]
  rfl

/-- So have the characters before it. -/
theorem byteOffset_eq_of_le (h : i ≤ j) (hj : j ≤ source.length) (plain : byteOffset source j = j) :
    byteOffset source i = i := by
  rw [byteOffset_eq_iff hj] at plain
  rw [byteOffset_eq_iff (Nat.le_trans h hj)]
  intro c hc
  exact plain c ((List.take_prefix_take_left h).subset hc)

end Offsets

/-! ## Spans -/

/-- The offset is that of a character or of the end, or lies behind the end. -/
def OnBoundary (source : String) (offset : Nat) : Prop :=
  ∃ index ≤ source.length, byteOffset source index = min offset source.utf8ByteSize

/-- Every character that starts before the offset is one byte. -/
def PlainBefore (source : String) (offset : Nat) : Prop :=
  ∀ index c, source.toList[index]? = some c → byteOffset source index < offset → c.utf8Size = 1

/-- The label of the report is shown, and the character at an index is one of those that it stands under. The
ends of the cut span are taken for indices. -/
structure Marked (fault : Fault) (source : String) (start stop index : Nat) : Prop where
  inside : index < source.length
  shown : LabelShown source (span source start stop).1 (span source start stop).2 fault.label fault.hint?
  after : (span source start stop).1 ≤ index
  before : index < (span source start stop).2

/-- The span, cut to the size of the source, covers the character at an index. An empty span covers the
character behind it. -/
structure Covered (source : String) (start stop index : Nat) : Prop where
  inside : index < source.length
  after : min start source.utf8ByteSize ≤ byteOffset source index
  before : byteOffset source index < min stop source.utf8ByteSize ∨
    min start source.utf8ByteSize = min stop source.utf8ByteSize ∧
      byteOffset source index = min start source.utf8ByteSize

section Spans

variable {fault : Fault} {source : String} {start stop i : Nat}

theorem span_fst : (span source start stop).1 = min start source.utf8ByteSize := by
  simp only [span, clamp]
  split <;> rfl

theorem span_snd (h : start ≤ stop) :
    (span source start stop).2 =
      if min start source.utf8ByteSize = min stop source.utf8ByteSize then
        min (min start source.utf8ByteSize + 1) source.utf8ByteSize
      else min stop source.utf8ByteSize := by
  have larger : max (min stop source.utf8ByteSize) (min start source.utf8ByteSize) =
      min stop source.utf8ByteSize := by omega
  unfold span clamp
  simp only [larger]
  split
  · rename_i same
    rw [same]
  · rfl

theorem span_fst_le_snd (h : start ≤ stop) : (span source start stop).1 ≤ (span source start stop).2 := by
  rw [span_fst, span_snd h]
  split <;> omega

theorem marked_iff (h : start ≤ stop) :
    Marked fault source start stop i ↔
      (span source start stop).2 ≤ source.length ∧ (span source start stop).1 ≤ i ∧
        i < (span source start stop).2 := by
  have shown : LabelShown source (span source start stop).1 (span source start stop).2 fault.label
      fault.hint? ↔ (span source start stop).2 ≤ source.length := labelShown_iff (span_fst_le_snd h)
  constructor
  · intro marked
    exact ⟨shown.mp marked.shown, marked.after, marked.before⟩
  · rintro ⟨fits, after, before⟩
    exact ⟨Nat.lt_of_lt_of_le before fits, shown.mpr fits, after, before⟩

variable {k m : Nat}

/-- In characters a span covers those from one index to another, or the one at the index of an empty span. -/
theorem covered_iff (hk : k ≤ source.length) (hm : m ≤ source.length)
    (hstart : byteOffset source k = min start source.utf8ByteSize)
    (hstop : byteOffset source m = min stop source.utf8ByteSize) :
    Covered source start stop i ↔ i < source.length ∧ k ≤ i ∧ (i < m ∨ k = m ∧ i = k) := by
  have offsets : Covered source start stop i ↔
      i < source.length ∧ byteOffset source k ≤ byteOffset source i ∧
        (byteOffset source i < byteOffset source m ∨
          byteOffset source k = byteOffset source m ∧ byteOffset source i = byteOffset source k) := by
    rw [hstart, hstop]
    exact ⟨fun ⟨inside, after, before⟩ => ⟨inside, after, before⟩,
      fun ⟨inside, after, before⟩ => ⟨inside, after, before⟩⟩
  rw [offsets]
  refine and_congr_right fun inside => ?_
  have hi : i ≤ source.length := Nat.le_of_lt inside
  rw [← Nat.not_lt, byteOffset_lt_iff hi hk, Nat.not_lt, byteOffset_lt_iff hi hm, byteOffset_inj hk hm,
    byteOffset_inj hi hk]

theorem plainBefore_iff (hm : m ≤ source.length)
    (hstop : byteOffset source m = min stop source.utf8ByteSize) :
    PlainBefore source stop ↔ byteOffset source m = m := by
  rw [byteOffset_eq_iff hm]
  constructor
  · intro plain c hc
    obtain ⟨i, found⟩ := List.mem_iff_getElem?.mp hc
    rw [List.getElem?_take] at found
    split at found
    · rename_i before
      have earlier := byteOffset_lt before hm
      exact plain i c found (by omega)
    · cases found
  · intro plain i c found before
    obtain ⟨inside, -⟩ := List.getElem?_eq_some_iff.mp found
    rw [String.length_toList] at inside
    have inSource := byteOffset_lt inside (Nat.le_refl _)
    rw [byteOffset_length] at inSource
    have earlier : i < m := by
      rw [← byteOffset_lt_iff (Nat.le_of_lt inside) hm]
      omega
    refine plain c (List.mem_iff_getElem?.mpr ⟨i, ?_⟩)
    rw [List.getElem?_take, if_pos earlier, found]

/-- The first character that is covered is marked only if its offset is its index, and the last one that is
marked is covered only if the offset behind it is. -/
theorem marked_iff_covered_of_indices (h : start ≤ stop) (hk : k ≤ source.length) (hm : m ≤ source.length)
    (hstart : byteOffset source k = min start source.utf8ByteSize)
    (hstop : byteOffset source m = min stop source.utf8ByteSize) :
    (∀ i, Marked fault source start stop i ↔ Covered source start stop i) ↔
      k = source.length ∨ byteOffset source m = m := by
  have size : byteOffset source source.length = source.utf8ByteSize := byteOffset_length source
  have ordered : k ≤ m := by
    rw [← Nat.not_lt, ← byteOffset_lt_iff hm hk]
    omega
  have startAfter : k ≤ byteOffset source k := le_byteOffset hk
  have stopAfter : m ≤ byteOffset source m := le_byteOffset hm
  simp only [marked_iff h, covered_iff hk hm hstart hstop, span_fst, span_snd h, ← hstart, ← hstop,
    byteOffset_inj hk hm]
  constructor
  · intro same
    by_cases atEnd : k = source.length
    · exact .inl atEnd
    · have inside : k < source.length := by omega
      obtain ⟨fits, first, -⟩ := (same k).mpr ⟨inside, Nat.le_refl k, by omega⟩
      by_cases empty : k = m
      · subst empty
        exact .inr (Nat.le_antisymm first startAfter)
      · simp only [empty, if_false, false_and, or_false] at same fits
        have filled : byteOffset source k < byteOffset source m := byteOffset_lt (by omega) hm
        -- the index in front of the offset of `m` is marked, so it is in front of `m` itself
        obtain ⟨-, -, last⟩ := (same (byteOffset source m - 1)).mp ⟨fits, by omega, by omega⟩
        exact .inr (by omega)
  · rintro (atEnd | plain) i
    · subst atEnd
      obtain rfl : source.length = m := Nat.le_antisymm ordered hm
      simp only [if_true, size]
      omega
    · have plainStart : byteOffset source k = k := byteOffset_eq_of_le ordered hm plain
      have whole : source.length ≤ source.utf8ByteSize := by
        rw [← size]
        exact le_byteOffset (Nat.le_refl _)
      by_cases empty : k = m
      · subst empty
        have atEnd : k = source.length → source.utf8ByteSize = k := by
          rintro rfl
          rw [← size, plain]
        simp only [if_true, true_and, plain]
        omega
      · simp only [empty, if_false, false_and, or_false, plain, plainStart]
        omega

end Spans

/-- **What a label marks.** For a span between two characters, the label is shown exactly when the end of the
span, taken for an index, does not lie behind the last character, and in a line that holds the span a rule is
drawn below the characters that are marked. These are the characters that the span covers exactly when the span
starts at the end of the source or behind it, or when every character that starts before the end of the span is
one byte. -/
theorem marked_iff_covered_iff (fault : Fault) (source : String) {start stop : Nat} (ordered : start ≤ stop)
    (hstart : OnBoundary source start) (hstop : OnBoundary source stop) :
    (LabelShown source (span source start stop).1 (span source start stop).2 fault.label fault.hint? ↔
        (span source start stop).2 ≤ source.length) ∧
      (∀ line ∈ lines source, (span source start stop).2 ≤ line.stop → ∀ arm index, line.offset ≤ index →
        (Marked fault source start stop index ↔
          Underlined line (span source start stop).1 (span source start stop).2 arm index)) ∧
      ((∀ index, Marked fault source start stop index ↔ Covered source start stop index) ↔
        source.utf8ByteSize ≤ start ∨ PlainBefore source stop) := by
  obtain ⟨k, hk, startOffset⟩ := hstart
  obtain ⟨m, hm, stopOffset⟩ := hstop
  have atEnd : source.utf8ByteSize ≤ start ↔ k = source.length := by
    rw [← byteOffset_inj hk (Nat.le_refl _), byteOffset_length, startOffset]
    omega
  refine ⟨labelShown_iff (span_fst_le_snd ordered), ?_, ?_⟩
  · intro line hline whole arm index on
    have fits : (span source start stop).2 ≤ source.length :=
      Nat.le_trans whole ((lines_contiguous source).stop_le line hline)
    rw [marked_iff ordered, underlined_iff on, and_iff_right fits]
  · rw [atEnd, plainBefore_iff hm stopOffset]
    exact marked_iff_covered_of_indices ordered hk hm startOffset stopOffset

/-- A character of two bytes stands behind the span, and the label is under what the span covers. -/
theorem marked_before_wide_character :
    let source := "f = &é;"
    let fault : Fault := .address (.noCandidate "f")
    OnBoundary source 4 ∧ OnBoundary source 5 ∧ Covered source 4 5 4 ∧
      ∀ index, Marked fault source 4 5 index ↔ Covered source 4 5 index := by
  intro source fault
  have starts : OnBoundary source 4 := ⟨4, by decide, by decide⟩
  have stops : OnBoundary source 5 := ⟨5, by decide, by decide⟩
  have plain : PlainBefore source 5 :=
    (plainBefore_iff (m := 5) (by decide) (by decide)).mpr (by decide)
  have same := (marked_iff_covered_iff fault source (by decide) starts stops).2.2.mpr (.inr plain)
  exact ⟨starts, stops, ⟨by decide, by decide, by decide⟩, same⟩

/-- A character of two bytes stands before the span. The label is shown, and begins and ends one character
behind what the span covers. -/
theorem label_beside_wide_character :
    let source := "é = &f;"
    let fault : Fault := .address (.noCandidate "f")
    OnBoundary source 5 ∧ OnBoundary source 7 ∧
      ¬(∀ index, Marked fault source 5 7 index ↔ Covered source 5 7 index) ∧
      (∀ index, Marked fault source 5 7 index ↔ index = 5 ∨ index = 6) ∧
      ∀ index, Covered source 5 7 index ↔ index = 4 ∨ index = 5 := by
  intro source fault
  have startOffset : byteOffset source 4 = 5 := by decide
  have stopOffset : byteOffset source 6 = 7 := by decide
  have size : source.utf8ByteSize = 8 := by decide
  have length : source.length = 7 := by decide
  have marked (index : Nat) : Marked fault source 5 7 index ↔ index = 5 ∨ index = 6 := by
    rw [marked_iff (by decide), span_fst, span_snd (by decide), size, length, if_neg (by decide)]
    omega
  have covered (index : Nat) : Covered source 5 7 index ↔ index = 4 ∨ index = 5 := by
    rw [covered_iff (k := 4) (m := 6) (by decide) (by decide) (by rw [startOffset, size]; rfl)
      (by rw [stopOffset, size]; rfl), length]
    omega
  refine ⟨⟨4, by decide, by rw [startOffset, size]; rfl⟩, ⟨6, by decide, by rw [stopOffset, size]; rfl⟩,
    ?_, marked, covered⟩
  intro same
  have first : Marked fault source 5 7 4 := (same 4).mpr ((covered 4).mpr (.inl rfl))
  exact absurd ((marked 4).mp first) (by decide)

end CallHandle.Report
