import CpuUsage.Proofs.Url.Percent
import CpuUsage.Proofs.Url.Plain

/-! Paths that end with a text of any kind. What a URL makes of the text is never longer than the text, so its last
segment stands for the whole text only if nothing of the text is left out, cut off or taken for something else. -/
namespace CpuUsage.Url

/-- What is left of the end of a text that a URL is read from. -/
def cleanEnd (cs : List Char) : List Char :=
  (cs.reverse.dropWhile (·.toNat ≤ 0x20)).reverse.filter fun c => c ≠ '\x09' && c ≠ '\x0a' && c ≠ '\x0d'

theorem clean_append {text : String} {c : Char} {front cs : List Char} (spelt : text.toList = (c :: front) ++ cs)
    (printable : ∀ d ∈ c :: front, 0x20 < d.toNat) : clean text = (c :: front) ++ cleanEnd cs := by
  have first : ((c :: front) ++ cs).dropWhile (fun d => d.toNat ≤ 0x20) = (c :: front) ++ cs := by
    simp [printable c List.mem_cons_self]
  have stops : (c :: front).reverse.dropWhile (fun d => d.toNat ≤ 0x20) = (c :: front).reverse := by
    obtain ⟨last, before, spelt⟩ := List.exists_cons_of_ne_nil (l := (c :: front).reverse) (by simp)
    have inside : last ∈ c :: front := List.mem_reverse.mp (spelt ▸ List.mem_cons_self)
    rw [spelt]
    simp [printable last inside]
  have back : ((c :: front) ++ cs).reverse.dropWhile (fun d => d.toNat ≤ 0x20) =
      cs.reverse.dropWhile (fun d => d.toNat ≤ 0x20) ++ (c :: front).reverse := by
    rw [List.reverse_append, List.dropWhile_append, stops]
    split
    · next empty => rw [List.isEmpty_iff.mp empty, List.nil_append]
    · rfl
  simp only [clean, spelt, first, back]
  rw [List.reverse_append, List.reverse_reverse, List.filter_append, filter_breaks_of_printable printable, cleanEnd]

theorem cleanEnd_sublist (cs : List Char) : (cleanEnd cs).Sublist cs := by
  refine List.filter_sublist.trans ?_
  have ends := (List.dropWhile_sublist (l := cs.reverse) (fun c => c.toNat ≤ 0x20)).reverse
  rwa [List.reverse_reverse] at ends

theorem splitTail_append {front : List Char} (noQuery : '?' ∉ front) (noFragment : '#' ∉ front) (special : Bool)
    (cs : List Char) :
    splitTail special (front ++ cs) =
      { splitTail special cs with main := front ++ (splitTail special cs).main } := by
  simp only [splitTail, splitFirst_append noFragment, splitFirst_append noQuery]

/-- The last segment is the last part in encoded form, unless that part is a step. -/
theorem getLast?_resolveSegments (done : List (List Char)) {parts : List (List Char)} {last : List Char}
    (isLast : parts.getLast? = some last) :
    (resolveSegments false done parts).getLast? =
      some (if (dots? last).isSome then [] else percentEncode inPathSet last) := by
  induction parts generalizing done with
  | nil => cases isLast
  | cons part rest ih =>
    cases rest with
    | nil =>
      cases isLast
      rw [resolveSegments]
      split
      · next one => simp [one, resolveSegments]
      · next up => simp [up, resolveSegments]
      · next noDots => simp [noDots, resolveSegments, settleSegment]
    | cons next rest =>
      rw [List.getLast?_cons_cons] at isLast
      rw [resolveSegments]
      split <;> exact ih _ isLast

/-- A text that stands for itself as the last segment of a path, whatever its characters are else. -/
structure StandsAlone (cs : List Char) : Prop where
  /-- Blanks and controls at the end do not count. -/
  ends : ∀ c ∈ cs.getLast?, 0x20 < c.toNat
  /-- Breaks do not count, separators begin another segment, and two marks end the path. -/
  within : ∀ c ∈ cs, c ∉ ['\x09', '\x0a', '\x0d', '/', '\x5c', '?', '#']
  unescaped : Unescaped cs
  noStep : cs ≠ ['.'] ∧ cs ≠ ['.', '.']

/-- The lower case of a capital is a letter, and only a digit has the lower case of a digit. -/
theorem asciiLower_upper {c : Char} (upper : 'A' ≤ c ∧ c ≤ 'Z') :
    ('a' ≤ asciiLower c ∧ asciiLower c ≤ 'z') ∧ (asciiLower c = 'e' → hexValue? c ≠ none) := by
  have all : ∀ n < 26, ('a' ≤ asciiLower (Char.ofNat (65 + n)) ∧ asciiLower (Char.ofNat (65 + n)) ≤ 'z') ∧
      (asciiLower (Char.ofNat (65 + n)) = 'e' → hexValue? (Char.ofNat (65 + n)) ≠ none) := by
    decide
  have low : 65 ≤ c.toNat := upper.1
  have high : c.toNat ≤ 90 := upper.2
  have facts := all (c.toNat - 65) (by omega)
  rwa [Nat.add_sub_cancel' low, Char.ofNat_toNat] at facts

theorem eq_of_asciiLower {c d : Char} (lower : asciiLower c = d) (noLetter : ¬ ('a' ≤ d ∧ d ≤ 'z')) : c = d := by
  by_cases upper : 'A' ≤ c ∧ c ≤ 'Z'
  · exact absurd (lower ▸ (asciiLower_upper upper).1) noLetter
  · rwa [asciiLower, if_neg upper] at lower

theorem hexValue?_of_asciiLower {c : Char} (lower : asciiLower c = 'e') : hexValue? c ≠ none := by
  by_cases upper : 'A' ≤ c ∧ c ≤ 'Z'
  · exact (asciiLower_upper upper).2 lower
  · rw [asciiLower, if_neg upper] at lower
    rw [lower]
    decide

/-- A dot that is written as an escape is an escape. -/
theorem not_unescaped_of_lower {cs : List Char} (written : ['%', '2', 'e'] <:+: cs.map asciiLower) :
    ¬ Unescaped cs := by
  intro unescaped
  obtain ⟨before, after, lower⟩ := written
  rw [List.append_assoc] at lower
  obtain ⟨front, back, rfl, _, lower⟩ := List.map_eq_append_iff.mp lower.symm
  obtain ⟨p, back, rfl, percent, lower⟩ := List.map_eq_cons_iff.mp lower
  obtain ⟨t, back, rfl, two, lower⟩ := List.map_eq_cons_iff.mp lower
  obtain ⟨e, back, rfl, letter, _⟩ := List.map_eq_cons_iff.mp lower
  cases eq_of_asciiLower percent (by decide)
  cases eq_of_asciiLower two (by decide)
  rcases unescaped '2' e ⟨front, back, by simp⟩ with none | none
  · exact absurd none (by decide)
  · exact hexValue?_of_asciiLower letter none

/-- Dots that are not escaped are the only steps that a text without escapes can be. -/
theorem dots?_eq_none_of_unescaped {cs : List Char} (unescaped : Unescaped cs) (noStep : cs ≠ ['.'] ∧ cs ≠ ['.', '.']) :
    dots? cs = none := by
  have spelt : ∀ {text : String}, String.ofList (cs.map asciiLower) = text → cs.map asciiLower = text.toList := by
    rintro _ rfl
    exact String.toList_ofList.symm
  have dot : ∀ {c : Char}, asciiLower c = '.' → c = '.' := fun lower => eq_of_asciiLower lower (by decide)
  rw [dots?]
  split
  · next same =>
    obtain ⟨c, rfl, one⟩ := List.map_eq_singleton_iff.mp (spelt same)
    cases dot one
    exact absurd rfl noStep.1
  · next same => exact absurd unescaped (not_unescaped_of_lower (spelt same ▸ ⟨[], [], rfl⟩))
  · next same =>
    obtain ⟨c, rest, rfl, one, behind⟩ := List.map_eq_cons_iff.mp (spelt same)
    obtain ⟨d, rfl, two⟩ := List.map_eq_singleton_iff.mp behind
    cases dot one
    cases dot two
    exact absurd rfl noStep.2
  · next same => exact absurd unescaped (not_unescaped_of_lower (spelt same ▸ ⟨['.'], [], rfl⟩))
  · next same => exact absurd unescaped (not_unescaped_of_lower (spelt same ▸ ⟨[], ['.'], rfl⟩))
  · next same => exact absurd unescaped (not_unescaped_of_lower (spelt same ▸ ⟨[], ['%', '2', 'e'], rfl⟩))
  · rfl

/-- Blanks at the end are left out, and all breaks, and nothing else is. -/
theorem cleanEnd_eq_self_iff {cs : List Char} : cleanEnd cs = cs ↔
    (∀ c ∈ cs.getLast?, 0x20 < c.toNat) ∧ ∀ c ∈ cs, c ≠ '\x09' ∧ c ≠ '\x0a' ∧ c ≠ '\x0d' := by
  have kept : ∀ c : Char,
      (c ≠ '\x09' && c ≠ '\x0a' && c ≠ '\x0d') = true ↔ c ≠ '\x09' ∧ c ≠ '\x0a' ∧ c ≠ '\x0d' := by
    intro c
    simp [and_assoc]
  have last : cs.getLast? = cs.reverse.head? := List.getLast?_eq_head?_reverse
  rw [cleanEnd]
  constructor
  · intro same
    have sub := (List.dropWhile_sublist (l := cs.reverse) (fun c => c.toNat ≤ 0x20)).reverse
    rw [List.reverse_reverse] at sub
    have whole : (cs.reverse.dropWhile fun c => c.toNat ≤ 0x20).reverse = cs :=
      sub.eq_of_length_le (Nat.le_trans (Nat.le_of_eq (congrArg List.length same).symm) (List.length_filter_le _ _))
    rw [whole] at same
    refine ⟨fun c ends => ?_, fun c member => (kept c).mp (List.filter_eq_self.mp same c member)⟩
    have stopped := List.head?_dropWhile_not (fun c : Char => decide (c.toNat ≤ 0x20)) cs.reverse
    rw [List.reverse_eq_iff.mp whole, ← last, Option.mem_def.mp ends] at stopped
    simpa using stopped
  · rintro ⟨ends, within⟩
    have stops : Stops (fun c => decide (c.toNat ≤ 0x20)) cs.reverse := by
      intro c first
      rw [← last] at first
      exact decide_eq_false (Nat.not_le.mpr (ends c first))
    have unstopped : ([] ++ cs.reverse).dropWhile (fun c => decide (c.toNat ≤ 0x20)) = cs.reverse :=
      dropWhile_append_of_stops (List.forall_mem_nil _) stops
    rw [List.nil_append] at unstopped
    rw [unstopped, List.reverse_reverse, List.filter_eq_self]
    exact fun c member => (kept c).mpr (within c member)

/-- Nothing of such a text is left out or cut off, and it is no step. -/
theorem StandsAlone.parts {cs : List Char} (standsAlone : StandsAlone cs) :
    splitTail true (cleanEnd cs) = ⟨cs, none, none⟩ ∧ splitParts (isSeparator true) cs = [cs] ∧ dots? cs = none := by
  have absent : ∀ c ∈ ['\x09', '\x0a', '\x0d', '/', '\x5c', '?', '#'], c ∉ cs :=
    fun c mark member => standsAlone.within c member mark
  have whole : cleanEnd cs = cs := by
    refine cleanEnd_eq_self_iff.mpr ⟨standsAlone.ends, fun c member => ⟨?_, ?_, ?_⟩⟩
    all_goals
      rintro rfl
      exact absent _ (by decide) member
  have apart : ∀ c ∈ cs, isSeparator true c = false := by
    intro c member
    simp only [isSeparator, Bool.true_and, Bool.or_eq_false_iff, decide_eq_false_iff_not]
    constructor
    all_goals
      rintro rfl
      exact absent _ (by decide) member
  refine ⟨?_, ?_, dots?_eq_none_of_unescaped standsAlone.unescaped standsAlone.noStep⟩
  · rw [whole]
    exact splitTail_of_not_mem (absent _ (by decide)) (absent _ (by decide)) true
  · rw [splitParts_eq_splitOnP]
    exact List.splitOnP_eq_singleton apart

/-- A text stands alone if nothing of it is left out, no mark is in it, and it is neither an escape nor a step. -/
theorem standsAlone_of_unmarked {cs : List Char} (isEnd : cleanEnd cs = cs) (noQuery : '?' ∉ cs) (noFragment : '#' ∉ cs)
    (apart : ∀ c ∈ cs, isSeparator true c = false) (unescaped : Unescaped cs) (noDots : dots? cs = none) :
    StandsAlone cs := by
  obtain ⟨ends, unbroken⟩ := cleanEnd_eq_self_iff.mp isEnd
  refine ⟨ends, ?_, unescaped, ?_, ?_⟩
  · intro c member mark
    simp only [List.mem_cons, List.not_mem_nil, or_false] at mark
    rcases mark with rfl | rfl | rfl | rfl | rfl | rfl | rfl
    · exact (unbroken _ member).1 rfl
    · exact (unbroken _ member).2.1 rfl
    · exact (unbroken _ member).2.2 rfl
    · exact absurd (apart _ member) (by decide)
    · exact absurd (apart _ member) (by decide)
    · exact noQuery member
    · exact noFragment member
  · rintro rfl
    exact absurd noDots (by decide)
  · rintro rfl
    exact absurd noDots (by decide)

/-- The last part of what is left of a text stands for all of it only if nothing is left out or cut off. -/
theorem standsAlone_of_last {cs last : List Char}
    (isLast : (splitParts (isSeparator true) (splitTail true (cleanEnd cs)).main).getLast? = some last)
    (same : percentDecode (if (dots? last).isSome then [] else percentEncode inPathSet last) = utf8Bytes cs) :
    StandsAlone cs := by
  obtain ⟨sub, apart⟩ := part_of_mem_splitParts (List.mem_of_getLast? isLast)
  obtain ⟨subQuery, noQuery⟩ := splitFirst_fst '?' (splitFirst '#' (cleanEnd cs)).1
  obtain ⟨subFragment, noFragment⟩ := splitFirst_fst '#' (cleanEnd cs)
  have subMain : (splitTail true (cleanEnd cs)).main.Sublist (splitFirst '#' (cleanEnd cs)).1 := subQuery
  have subEnd := subMain.trans subFragment
  have noDots : dots? last = none := by
    cases step : dots? last with
    | none => rfl
    | some n =>
      simp only [step, Option.isSome_some, if_true] at same
      have empty : [] = cs := eq_of_length_utf8Bytes_le (List.nil_sublist cs) (same ▸ Nat.le_refl _)
      subst empty
      cases List.sublist_nil.mp (sub.trans (subEnd.trans (cleanEnd_sublist [])))
      cases step
  simp only [noDots, Option.isSome_none, Bool.false_eq_true, if_false,
    percentDecode_percentEncode sparesEscapes_inPathSet] at same
  -- The last part stands for as many bytes as the text has, so it is the text, and so is all that it is a part of.
  have enough : (utf8Bytes cs).length ≤ (utf8Bytes last).length := same ▸ length_percentDecode_le last
  have whole : ∀ {ds}, last.Sublist ds → ds.Sublist cs → ds = cs := fun inside within =>
    eq_of_length_utf8Bytes_le within (Nat.le_trans enough (length_utf8Bytes_le inside))
  have isEnd : cleanEnd cs = cs := whole (sub.trans subEnd) (cleanEnd_sublist cs)
  have isPath : (splitFirst '#' (cleanEnd cs)).1 = cs :=
    whole (sub.trans subMain) (subFragment.trans (cleanEnd_sublist cs))
  have isMain : (splitTail true (cleanEnd cs)).main = cs := whole sub (subEnd.trans (cleanEnd_sublist cs))
  have isWhole : last = cs := whole (.refl last) (sub.trans (subEnd.trans (cleanEnd_sublist cs)))
  rw [isPath] at noFragment
  rw [show (splitFirst '?' (splitFirst '#' (cleanEnd cs)).1).1 = cs from isMain] at noQuery
  rw [isWhole] at same noDots apart
  exact standsAlone_of_unmarked isEnd noQuery noFragment apart (percentDecode_eq_iff.mp same) noDots

end CpuUsage.Url
