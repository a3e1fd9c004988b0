import CallHandle.Report.Source

namespace CallHandle.Report

/-- The lines follow one another, from the first offset to the last one. -/
inductive Contiguous : Nat → List Line → Nat → Prop where
  | nil {offset : Nat} : Contiguous offset [] offset
  | cons {start stop : Nat} {line : Line} {lines : List Line} (opening : line.offset = start)
      (rest : Contiguous line.stop lines stop) : Contiguous start (line :: lines) stop

namespace Contiguous

variable {start stop offset : Nat} {lines : List Line}

theorem le (h : Contiguous start lines stop) : start ≤ stop := by
  induction h with
  | nil => exact Nat.le_refl _
  | cons opening _ ih =>
    rw [← opening]
    exact Nat.le_trans (Nat.le_add_right _ _) ih

theorem le_offset (h : Contiguous start lines stop) : ∀ line ∈ lines, start ≤ line.offset := by
  induction h with
  | nil => simp
  | @cons start stop first lines opening _ ih =>
    intro line hline
    rw [← opening]
    rcases List.mem_cons.mp hline with rfl | hline
    · exact Nat.le_refl _
    · exact Nat.le_trans (Nat.le_add_right _ _) (ih line hline)

theorem stop_le (h : Contiguous start lines stop) : ∀ line ∈ lines, line.stop ≤ stop := by
  induction h with
  | nil => simp
  | cons _ rest ih =>
    intro line hline
    rcases List.mem_cons.mp hline with rfl | hline
    · exact rest.le
    · exact ih line hline

/-- The last line that starts at or before an offset has the offset on it, or is the last one of all. -/
theorem exists_last (h : Contiguous start lines stop) (nonempty : lines ≠ []) (after : start ≤ offset) :
    ∃ index line, (lines.filter fun line => line.offset ≤ offset).length = index + 1 ∧
      lines[index]? = .some line ∧ line.offset ≤ offset ∧
        (offset < line.stop ∨ stop ≤ offset ∧ line.stop = stop) := by
  induction h with
  | nil => exact absurd rfl nonempty
  | @cons start stop line lines opening rest ih =>
    subst opening
    have kept : ((line :: lines).filter fun line => line.offset ≤ offset) =
        line :: lines.filter fun line => line.offset ≤ offset :=
      List.filter_cons_of_pos (by simpa using after)
    rw [kept]
    by_cases inside : offset < line.stop
    · have later : (lines.filter fun line => line.offset ≤ offset) = [] := by
        rw [List.filter_eq_nil_iff]
        intro next hnext
        have := rest.le_offset next hnext
        simp only [decide_eq_true_eq]
        omega
      exact ⟨0, line, by rw [later]; rfl, rfl, after, .inl inside⟩
    · have beyond : line.stop ≤ offset := Nat.not_lt.mp inside
      cases lines with
      | nil =>
        cases rest
        exact ⟨0, line, rfl, rfl, after, .inr ⟨beyond, rfl⟩⟩
      | cons next lines =>
        obtain ⟨index, found, count, there, before, on⟩ := ih (List.cons_ne_nil _ _) beyond
        exact ⟨index + 1, found, by rw [List.length_cons, count], there, before, on⟩

end Contiguous

/-! ## Of a source -/

theorem linesFrom_contiguous (offset : Nat) (cs : List Char) :
    Contiguous offset (linesFrom offset cs) (offset + cs.length) := by
  fun_induction linesFrom offset cs with
  | case1 offset => exact .nil
  | case2 offset c cs split ih =>
    have whole : split.1.length + split.2.length = (c :: cs).length := length_splitLine (c :: cs)
    rw [← whole, ← Nat.add_assoc]
    exact .cons rfl ih

variable {source : String} {offset : Nat}

theorem lines_contiguous (source : String) : Contiguous 0 (lines source) source.length := by
  have length : source.length = source.toList.length := String.length_toList.symm
  rw [length]
  unfold lines
  cases source.toList with
  | nil => exact .cons rfl .nil
  | cons c cs =>
    have all := linesFrom_contiguous 0 (c :: cs)
    rwa [Nat.zero_add] at all

theorem lines_ne_nil (source : String) : lines source ≠ [] := by
  unfold lines
  cases source.toList with
  | nil => simp
  | cons c cs => simp [linesFrom]

theorem stop_le_length {index : Nat} {line : Line} (h : (lines source)[index]? = some line) :
    line.stop ≤ source.length :=
  (lines_contiguous source).stop_le line (List.mem_of_getElem? h)

/-- An offset up to the end is on the line that it is looked up as, and the end is the end of the last line. -/
theorem exists_lineAt (h : offset ≤ source.length) :
    ∃ index line, lineAt? source offset = some index ∧ (lines source)[index]? = some line ∧
      line.offset ≤ offset ∧
        (offset < line.stop ∨ offset = source.length ∧ line.stop = source.length) := by
  obtain ⟨index, line, count, there, before, on⟩ :=
    (lines_contiguous source).exists_last (lines_ne_nil source) (Nat.zero_le offset)
  refine ⟨index, line, ?_, there, before, ?_⟩
  · rw [lineAt?, if_neg (Nat.not_lt.mpr h), count]
    rfl
  · rcases on with inside | ⟨behind, last⟩
    · exact .inl inside
    · exact .inr ⟨Nat.le_antisymm h behind, last⟩

theorem lineAt?_eq_none (h : source.length < offset) : lineAt? source offset = none :=
  if_pos h

end CallHandle.Report
