import CpuUsage.Proofs.Text.Digits
import CpuUsage.Text.Split

/-! Cutting undoes joining: parts that hold no mark come back from a text that has a mark between each two of them. -/
namespace CpuUsage

theorem splitParts_eq_splitOnP (p : Char → Bool) (cs : List Char) : splitParts p cs = cs.splitOnP p := by
  induction cs with
  | nil => rfl
  | cons c rest ih =>
    rw [splitParts, List.splitOnP_cons_eq_if_modifyHead, ih]
    split
    · rfl
    · obtain ⟨part, parts, split⟩ := List.exists_cons_of_ne_nil (List.splitOnP_ne_nil p rest)
      rw [split]
      rfl

theorem splitParts_intercalate {p : Char → Bool} {mark : Char} (marks : p mark = true) {parts : List (List Char)}
    (some : parts ≠ []) (apart : ∀ part ∈ parts, ∀ c ∈ part, p c = false) :
    splitParts p ([mark].intercalate parts) = parts := by
  rw [splitParts_eq_splitOnP]
  induction parts with
  | nil => contradiction
  | cons part rest ih =>
    have first := apart part List.mem_cons_self
    cases rest with
    | nil =>
      rw [List.intercalate_singleton]
      exact List.splitOnP_eq_singleton first
    | cons next rest =>
      have later := ih (List.cons_ne_nil _ _) fun other member => apart other (List.mem_cons_of_mem _ member)
      rw [List.intercalate_cons_cons, List.append_assoc, List.singleton_append,
        List.splitOnP_append_cons_of_forall_mem first mark marks, later]

theorem splitParts_append_cons {p : Char → Bool} {mark : Char} (marks : p mark = true) {part : List Char}
    (apart : ∀ c ∈ part, p c = false) (rest : List Char) :
    splitParts p (part ++ mark :: rest) = part :: splitParts p rest := by
  rw [splitParts_eq_splitOnP, splitParts_eq_splitOnP, List.splitOnP_append_cons_of_forall_mem apart mark marks]

theorem splitParts_ne_nil (p : Char → Bool) (cs : List Char) : splitParts p cs ≠ [] := by
  rw [splitParts_eq_splitOnP]
  exact List.splitOnP_ne_nil p cs

/-- A part is made of characters of the text, in their order, and none of them is a mark. -/
theorem part_of_mem_splitParts {p : Char → Bool} {cs part : List Char} (held : part ∈ splitParts p cs) :
    part.Sublist cs ∧ ∀ c ∈ part, p c = false := by
  induction cs generalizing part with
  | nil =>
    cases List.mem_singleton.mp held
    exact ⟨.refl _, List.forall_mem_nil _⟩
  | cons c rest ih =>
    rw [splitParts] at held
    split at held
    · rcases List.mem_cons.mp held with rfl | later
      · exact ⟨List.nil_sublist _, List.forall_mem_nil _⟩
      · exact (ih later).imp_left (.cons c)
    · next unmarked =>
      obtain ⟨first, others, split⟩ := List.exists_cons_of_ne_nil (splitParts_ne_nil p rest)
      rw [split] at held
      rcases List.mem_cons.mp held with rfl | later
      · obtain ⟨sub, apart⟩ := ih (split ▸ List.mem_cons_self)
        exact ⟨sub.cons_cons c, List.forall_mem_cons.mpr ⟨Bool.not_eq_true _ ▸ unmarked, apart⟩⟩
      · exact (ih (split ▸ List.mem_cons_of_mem _ later)).imp_left (.cons c)

theorem mem_intercalate_of_mem {mark : Char} {parts : List (List Char)} {part : List Char} (held : part ∈ parts)
    {c : Char} (member : c ∈ part) : c ∈ [mark].intercalate parts := by
  induction parts with
  | nil => contradiction
  | cons first rest ih =>
    cases rest with
    | nil =>
      rw [List.intercalate_singleton]
      exact List.mem_singleton.mp held ▸ member
    | cons next rest =>
      rw [List.intercalate_cons_cons]
      rcases List.mem_cons.mp held with rfl | later
      · exact List.mem_append_left _ (List.mem_append_left _ member)
      · exact List.mem_append_right _ (ih later)

/-- Besides the parts there are only marks in a joined text. -/
theorem eq_or_mem_of_mem_intercalate {mark : Char} {parts : List (List Char)} {c : Char}
    (member : c ∈ [mark].intercalate parts) : c = mark ∨ ∃ part ∈ parts, c ∈ part := by
  induction parts with
  | nil => contradiction
  | cons first rest ih =>
    cases rest with
    | nil =>
      rw [List.intercalate_singleton] at member
      exact .inr ⟨first, List.mem_cons_self, member⟩
    | cons next rest =>
      rw [List.intercalate_cons_cons, List.append_assoc, List.singleton_append] at member
      rcases List.mem_append.mp member with here | behind
      · exact .inr ⟨first, List.mem_cons_self, here⟩
      · rcases List.mem_cons.mp behind with same | later
        · exact .inl same
        · obtain same | ⟨part, held, member⟩ := ih later
          · exact .inl same
          · exact .inr ⟨part, List.mem_cons_of_mem _ held, member⟩

/-- Joining undoes cutting. -/
theorem intercalate_splitParts (mark : Char) (cs : List Char) :
    [mark].intercalate (splitParts (· = mark) cs) = cs := by
  rw [splitParts_eq_splitOnP]
  exact List.intercalate_splitOn mark

theorem splitFirst_of_not_mem {mark : Char} {cs : List Char} (absent : mark ∉ cs) : splitFirst mark cs = (cs, none) := by
  have all : ∀ c ∈ cs, decide (c ≠ mark) = true := by
    intro c member
    exact decide_eq_true (ne_of_mem_of_not_mem member absent)
  have none : cs.dropWhile (· ≠ mark) = [] := by simpa using dropWhile_append_of_stops all (stops_nil _)
  rw [splitFirst, none]

theorem splitFirst_append_cons {mark : Char} {before : List Char} (absent : mark ∉ before) (after : List Char) :
    splitFirst mark (before ++ mark :: after) = (before, some after) := by
  have all : ∀ c ∈ before, decide (c ≠ mark) = true := by
    intro c member
    exact decide_eq_true (ne_of_mem_of_not_mem member absent)
  have stops : Stops (· ≠ mark) (mark :: after) := stops_cons.mpr (by simp)
  rw [splitFirst, dropWhile_append_of_stops all stops, takeWhile_append_of_stops all stops]

theorem splitFirst_append {mark : Char} {front : List Char} (absent : mark ∉ front) (cs : List Char) :
    splitFirst mark (front ++ cs) = (front ++ (splitFirst mark cs).1, (splitFirst mark cs).2) := by
  by_cases held : mark ∈ cs
  · obtain ⟨before, after, rfl, first⟩ := List.eq_append_cons_of_mem held
    have both : mark ∉ front ++ before := fun member => (List.mem_append.mp member).elim absent first
    rw [← List.append_assoc, splitFirst_append_cons both, splitFirst_append_cons first]
  · have both : mark ∉ front ++ cs := fun member => (List.mem_append.mp member).elim absent held
    rw [splitFirst_of_not_mem both, splitFirst_of_not_mem held]

/-- What stands before the first mark. -/
theorem splitFirst_fst (mark : Char) (cs : List Char) :
    (splitFirst mark cs).1.Sublist cs ∧ mark ∉ (splitFirst mark cs).1 := by
  by_cases held : mark ∈ cs
  · obtain ⟨before, after, rfl, first⟩ := List.eq_append_cons_of_mem held
    rw [splitFirst_append_cons first]
    exact ⟨List.sublist_append_left _ _, first⟩
  · rw [splitFirst_of_not_mem held]
    exact ⟨.refl cs, held⟩

end CpuUsage
