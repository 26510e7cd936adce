import CpuUsage.Proofs.Url.Punycode
import CpuUsage.Url.Domain

/-! The ASCII form of a domain name is its own ASCII form, label by label, so that labels of two such names may be put
together. -/
namespace CpuUsage

/-- A lower-case letter has no other one. -/
theorem caseDistance_lower (n : Nat) : caseDistance (n + caseDistance n) = 0 := by
  fun_cases caseDistance n
  all_goals
    rw [caseDistance]
    repeat rw [if_neg (by omega)]
    first
    | done
    | rw [if_pos (by omega), if_pos (by omega)]
    | rw [if_pos (by omega)]
      omega

/-- Where the lower-case letters are that have an upper-case one. -/
def InLowerRange (n : Nat) : Prop :=
  (97 ≤ n ∧ n ≤ 122) ∨ (224 ≤ n ∧ n ≤ 254) ∨ (0x101 ≤ n ∧ n ≤ 0x177) ∨ (0x17A ≤ n ∧ n ≤ 0x17E) ∨
    (0x3AC ≤ n ∧ n ≤ 0x482) ∨ (0x1E00 ≤ n ∧ n ≤ 0x1F00)

theorem inLowerRange_of_upper {n : Nat} (upper : caseDistance n ≠ 0) : InLowerRange (n + caseDistance n) := by
  revert upper
  simp only [InLowerRange]
  fun_cases caseDistance n <;> omega

theorem toNat_lowerLetter {c : Char} (notKelvin : c ≠ '\u212a') (notDiaeresis : c ≠ '\u0178') :
    (lowerLetter c).toNat = c.toNat + caseDistance c.toNat := by
  rw [lowerLetter, if_neg notKelvin, if_neg notDiaeresis]
  by_cases upper : caseDistance c.toNat = 0
  · rw [upper, Nat.add_zero, Char.ofNat_toNat]
  · have range := inLowerRange_of_upper upper
    simp only [InLowerRange] at range
    have valid : (c.toNat + caseDistance c.toNat).isValidChar := .inl (by omega)
    rw [Char.ofNat, dif_pos valid]
    rfl

namespace Domain

/-- A character that is neither left out of a name nor changed in it. -/
structure IsNormal (c : Char) : Prop where
  same : normalize c = c
  visible : isInvisible c = false

theorem isNormal_of_ascii_lower {n : Nat} (small : n < 128) : IsNormal (asciiLower (Char.ofNat n)) := by
  have all : ∀ n < 128, normalize (asciiLower (Char.ofNat n)) = asciiLower (Char.ofNat n) ∧
      isInvisible (asciiLower (Char.ofNat n)) = false := by
    decide +kernel
  exact ⟨(all n small).1, (all n small).2⟩

theorem isNormal_of_inLowerRange {c : Char} (lower : caseDistance c.toNat = 0) (range : InLowerRange c.toNat) :
    IsNormal c := by
  simp only [InLowerRange] at range
  have other : ∀ d : Char, c.toNat ≠ d.toNat → c ≠ d := fun d apart same => apart (congrArg Char.toNat same)
  have noDot : isDot c = false := by
    simp only [isDot, Bool.or_eq_false_iff, decide_eq_false_iff_not]
    refine ⟨⟨⟨other _ ?_, other _ ?_⟩, other _ ?_⟩, other _ ?_⟩
    all_goals
      simp only [Char.reduceToNat]
      omega
  have narrow : ¬ (0xFF01 ≤ c.toNat ∧ c.toNat ≤ 0xFF5E) := by omega
  have unblank : ¬ (isBlank c = true ∧ 0x80 ≤ c.toNat) := by
    simp only [isBlank, Bool.or_eq_true, Bool.and_eq_true, decide_eq_true_eq]
    omega
  have same : lowerLetter c = c := by
    rw [lowerLetter, if_neg (other _ (by simp only [Char.reduceToNat]; omega)),
      if_neg (other _ (by simp only [Char.reduceToNat]; omega)), lower, Nat.add_zero, Char.ofNat_toNat]
  constructor
  · rw [normalize]
    simp only [noDot, Bool.false_eq_true, if_false, narrow, unblank, same]
  · simp only [isInvisible, Bool.or_eq_false_iff, Bool.and_eq_false_iff, decide_eq_false_iff_not]
    omega

theorem isNormal_normalize {c : Char} (visible : isInvisible c = false) : IsNormal (normalize c) := by
  by_cases dot : isDot c = true
  · rw [normalize, if_pos dot]
    exact ⟨by decide, by decide⟩
  by_cases wide : 0xFF01 ≤ c.toNat ∧ c.toNat ≤ 0xFF5E
  · rw [normalize, if_neg dot, if_pos wide]
    exact isNormal_of_ascii_lower (by omega)
  by_cases blank : isBlank c = true ∧ 0x80 ≤ c.toNat
  · rw [normalize, if_neg dot, if_neg wide, if_pos blank]
    exact ⟨by decide, by decide⟩
  have lowered : normalize c = lowerLetter c := by rw [normalize, if_neg dot, if_neg wide, if_neg blank]
  rw [lowered]
  by_cases kelvin : c = '\u212a'
  · rw [kelvin]
    exact ⟨by decide, by decide⟩
  by_cases diaeresis : c = '\u0178'
  · rw [diaeresis]
    exact ⟨by decide, by decide⟩
  by_cases upper : caseDistance c.toNat = 0
  · have same : lowerLetter c = c := by
      rw [lowerLetter, if_neg kelvin, if_neg diaeresis, upper, Nat.add_zero, Char.ofNat_toNat]
    rw [same] at lowered ⊢
    exact ⟨lowered, visible⟩
  · have spelt := toNat_lowerLetter kelvin diaeresis
    exact isNormal_of_inLowerRange (spelt ▸ caseDistance_lower _) (spelt ▸ inLowerRange_of_upper upper)

/-- A character of a name in ASCII form. -/
structure IsKept (c : Char) : Prop extends IsNormal c where
  ascii : Punycode.isAscii c = true
  allowed : isForbidden c = false

/-- A name in ASCII form: each label is its own ASCII form. -/
structure IsDomain (name : List Char) : Prop where
  kept : ∀ c ∈ name, IsKept c
  labels : ∀ label ∈ splitParts (· = '.') name, labelToAscii? label = some label

theorem mapM_eq_some_self {f : α → Option α} {as : List α} (fixed : ∀ a ∈ as, f a = some a) : as.mapM f = some as := by
  induction as with
  | nil => rfl
  | cons a rest ih =>
    obtain ⟨first, later⟩ := List.forall_mem_cons.mp fixed
    rw [List.mapM_cons, first, ih later]
    rfl

theorem IsDomain.toAscii?_eq_self {name : List Char} (domain : IsDomain name) : toAscii? name = some name := by
  have visible : name.filter (fun c => !isInvisible c) = name :=
    List.filter_eq_self.mpr fun c member => by rw [(domain.kept c member).visible]; rfl
  have same : name.map normalize = name :=
    (List.map_congr_left fun c member => (domain.kept c member).same).trans (List.map_id _)
  have allowed : name.any isForbidden = false :=
    List.any_eq_false.mpr fun c member => by rw [(domain.kept c member).allowed]; exact Bool.false_ne_true
  simp only [toAscii?, visible, same, mapM_eq_some_self domain.labels, Option.bind_eq_bind, Option.bind_some,
    intercalate_splitParts, allowed, Bool.false_eq_true, if_false]

theorem mem_of_mapM {f : α → Option β} {as : List α} {bs : List β} (told : as.mapM f = some bs) {b : β}
    (member : b ∈ bs) : ∃ a ∈ as, f a = some b := by
  induction as generalizing bs with
  | nil =>
    cases told
    contradiction
  | cons a rest ih =>
    simp only [List.mapM_cons, Option.bind_eq_bind, Option.bind_eq_some_iff, Option.pure_def, Option.some.injEq] at told
    obtain ⟨first, here, others, later, rfl⟩ := told
    rcases List.mem_cons.mp member with rfl | member
    · exact ⟨a, List.mem_cons_self, here⟩
    · obtain ⟨other, held, same⟩ := ih later member
      exact ⟨other, List.mem_cons_of_mem _ held, same⟩

theorem ne_nil_of_mapM {f : α → Option β} {as : List α} {bs : List β} (told : as.mapM f = some bs)
    (nonempty : as ≠ []) : bs ≠ [] := by
  obtain ⟨a, rest, rfl⟩ := List.exists_cons_of_ne_nil nonempty
  simp only [List.mapM_cons, Option.bind_eq_bind, Option.bind_eq_some_iff, Option.pure_def, Option.some.injEq] at told
  obtain ⟨first, _, others, _, rfl⟩ := told
  exact List.cons_ne_nil _ _

theorem isForbidden_of_not_isAscii {c : Char} (foreign : Punycode.isAscii c = false) : isForbidden c = false := by
  have other : ∀ d : Char, d.toNat < 128 → c ≠ d := by
    rintro d small rfl
    simp [Punycode.isAscii, small] at foreign
  have above : ¬ c.toNat ≤ 0x20 := by
    simp only [Punycode.isAscii, decide_eq_false_iff_not] at foreign
    omega
  simp [isForbidden, above, other]

/-- A character that can stand in a label in ASCII form. -/
def isLabelChar (c : Char) : Bool :=
  normalize c = c && !isInvisible c && Punycode.isAscii c && !isForbidden c && c ≠ '.'

theorem isKept_of_isLabelChar {c : Char} (inLabel : isLabelChar c = true) : IsKept c ∧ c ≠ '.' := by
  simp only [isLabelChar, Bool.and_eq_true, decide_eq_true_eq, Bool.not_eq_true'] at inLabel
  obtain ⟨⟨⟨⟨same, visible⟩, ascii⟩, allowed⟩, noDot⟩ := inLabel
  exact ⟨⟨⟨same, visible⟩, ascii, allowed⟩, noDot⟩

theorem isKept_digit {n : Nat} (small : n < 36) : IsKept (Punycode.digit n) ∧ Punycode.digit n ≠ '.' := by
  have all : ∀ n < 36, isLabelChar (Punycode.digit n) = true := by decide +kernel
  exact isKept_of_isLabelChar (all n small)

theorem isDot_eq_false {c : Char} (normal : IsNormal c) (noDot : c ≠ '.') : isDot c = false := by
  by_contra dot
  have same := normal.same
  rw [normalize, if_pos (Bool.not_eq_false _ ▸ dot)] at same
  exact noDot same.symm

/-- What is settled in a label comes back from its punycode as it is. -/
theorem isSettled_toNat {c : Char} (normal : IsNormal c) (noDot : c ≠ '.') (allowed : isForbidden c = false)
    (accepted : isRefused c = false) : isSettled c.toNat = true := by
  simp only [isSettled, Char.ofNat_toNat, normal.same, normal.visible, isDot_eq_false normal noDot, allowed, accepted,
    decide_true, Bool.not_false, Bool.and_true]

theorem isAscii_of_decode? {text : List Char} {codes : List Nat} (told : Punycode.decode? text = some codes) :
    ∀ c ∈ text, Punycode.isAscii c = true := by
  intro c member
  by_contra foreign
  have mixed : text.all Punycode.isAscii = false := List.all_eq_false.mpr ⟨c, member, foreign⟩
  simp only [Punycode.decode?, mixed, Bool.not_false, if_true] at told
  cases told

/-- The ASCII form of a label without dots is made of characters that are kept, and none of them is a dot. -/
theorem isKept_of_labelToAscii? {label ascii : List Char} (normal : ∀ c ∈ label, IsNormal c ∧ c ≠ '.')
    (told : labelToAscii? label = some ascii) (allowed : ∀ c ∈ ascii, isForbidden c = false) :
    ∀ c ∈ ascii, IsKept c ∧ c ≠ '.' := by
  have keep : ∀ c ∈ label, Punycode.isAscii c = true → isForbidden c = false → IsKept c ∧ c ≠ '.' :=
    fun c member ascii allowed => ⟨⟨(normal c member).1, ascii, allowed⟩, (normal c member).2⟩
  rw [labelToAscii?] at told
  split at told
  · next marked =>
    simp only [Option.bind_eq_bind, Option.bind_eq_some_iff] at told
    obtain ⟨codes, decoded, told⟩ := told
    split at told
    · cases told
      intro c member
      refine keep c member ?_ (allowed c member)
      obtain ⟨rest, rfl⟩ := List.isPrefixOf_iff_prefix.mp marked
      rcases List.mem_append.mp member with mark | behind
      · have all : punycodeMark.all Punycode.isAscii = true := by decide
        exact List.all_eq_true.mp all c mark
      · rw [List.drop_left] at decoded
        exact isAscii_of_decode? decoded c behind
    · cases told
  · split at told
    · next plain =>
      cases told
      exact fun c member => keep c member (List.all_eq_true.mp plain c member) (allowed c member)
    · split at told
      · cases told
      · cases told
        have all : ('-' :: punycodeMark).all isLabelChar = true := by decide
        have marks : ∀ d ∈ '-' :: punycodeMark, IsKept d ∧ d ≠ '.' :=
          fun d member => isKept_of_isLabelChar (List.all_eq_true.mp all d member)
        intro c member
        have held := allowed c member
        rcases List.mem_append.mp member with mark | member
        · exact marks c (List.mem_cons_of_mem _ mark)
        · rcases Punycode.mem_encode member with ⟨own, ascii⟩ | rfl | ⟨n, small, rfl⟩
          · exact keep c own ascii held
          · exact marks '-' List.mem_cons_self
          · exact isKept_digit small

/-- The ASCII form of a label is its own ASCII form. -/
theorem labelToAscii?_eq_self {label ascii : List Char} (normal : ∀ c ∈ label, IsNormal c ∧ c ≠ '.')
    (told : labelToAscii? label = some ascii) (allowed : ∀ c ∈ ascii, isForbidden c = false) :
    labelToAscii? ascii = some ascii := by
  have whole := told
  rw [labelToAscii?] at told
  split at told
  · simp only [Option.bind_eq_bind, Option.bind_eq_some_iff] at told
    obtain ⟨codes, _, told⟩ := told
    split at told
    · cases told
      exact whole
    · cases told
  · split at told
    · cases told
      exact whole
    · next foreign =>
      split at told
      · cases told
      · next accepted =>
        cases told
        have some : (label.map Char.toNat).any (127 < ·) = true := by
          obtain ⟨c, member, above⟩ := List.all_eq_false.mp (Bool.not_eq_true _ ▸ foreign)
          simp only [Punycode.isAscii, decide_eq_true_eq] at above
          exact List.any_eq_true.mpr ⟨c.toNat, List.mem_map_of_mem member, decide_eq_true (by omega)⟩
        have settled : (label.map Char.toNat).all isSettled = true := by
          rw [List.all_map, List.all_eq_true]
          intro c member
          obtain ⟨isNormal, noDot⟩ := normal c member
          refine isSettled_toNat isNormal noDot ?_ ?_
          · cases ascii : Punycode.isAscii c with
            | true => exact allowed c (List.mem_append_right _ (Punycode.mem_encode_of_isAscii member ascii))
            | false => exact isForbidden_of_not_isAscii ascii
          · simpa using (List.any_eq_false.mp (Bool.not_eq_true _ ▸ accepted)) c member
        have marked : punycodeMark.isPrefixOf (punycodeMark ++ Punycode.encode label) = true :=
          List.isPrefixOf_iff_prefix.mpr (List.prefix_append _ _)
        rw [labelToAscii?, if_pos marked, List.drop_left, Punycode.decode?_encode]
        simp only [Option.bind_eq_bind, Option.bind_some, some, settled, Bool.and_self, if_true]

theorem isKept_dot : IsKept '.' :=
  ⟨⟨by decide, by decide⟩, by decide, by decide⟩

/-- Labels in ASCII form make a name in ASCII form. -/
theorem isDomain_intercalate {labels : List (List Char)} (nonempty : labels ≠ [])
    (kept : ∀ label ∈ labels, ∀ c ∈ label, IsKept c ∧ c ≠ '.')
    (settled : ∀ label ∈ labels, labelToAscii? label = some label) : IsDomain (['.'].intercalate labels) := by
  constructor
  · intro c member
    rcases eq_or_mem_of_mem_intercalate member with rfl | ⟨label, held, member⟩
    · exact isKept_dot
    · exact (kept label held c member).1
  · have apart : ∀ label ∈ labels, ∀ c ∈ label, decide (c = '.') = false :=
      fun label held c member => decide_eq_false (kept label held c member).2
    rw [splitParts_intercalate rfl nonempty apart]
    exact settled

theorem isDomain_of_toAscii? {name ascii : List Char} (told : toAscii? name = some ascii) : IsDomain ascii := by
  simp only [toAscii?, Option.bind_eq_bind, Option.bind_eq_some_iff] at told
  obtain ⟨labels, told, joined⟩ := told
  split at joined
  · cases joined
  · next accepted =>
    cases joined
    have allowed : ∀ label ∈ labels, ∀ c ∈ label, isForbidden c = false := by
      intro label held c member
      have joined : c ∈ ['.'].intercalate labels := mem_intercalate_of_mem held member
      simpa using List.any_eq_false.mp (Bool.not_eq_true _ ▸ accepted) c joined
    have origin : ∀ label ∈ labels, ∃ part, (∀ c ∈ part, IsNormal c ∧ c ≠ '.') ∧ labelToAscii? part = some label := by
      intro label held
      obtain ⟨part, among, same⟩ := mem_of_mapM told held
      refine ⟨part, fun c member => ?_, same⟩
      obtain ⟨sub, apart⟩ := part_of_mem_splitParts among
      obtain ⟨d, visible, rfl⟩ := List.mem_map.mp (sub.subset member)
      refine ⟨isNormal_normalize ?_, of_decide_eq_false (apart _ member)⟩
      simpa using (List.mem_filter.mp visible).2
    refine isDomain_intercalate (ne_nil_of_mapM told (splitParts_ne_nil _ _)) ?_ ?_
    · intro label held
      obtain ⟨part, normal, same⟩ := origin label held
      exact isKept_of_labelToAscii? normal same (allowed label held)
    · intro label held
      obtain ⟨part, normal, same⟩ := origin label held
      exact labelToAscii?_eq_self normal same (allowed label held)

theorem splitParts_label {label : List Char} (noDot : '.' ∉ label) (rest : List Char) :
    splitParts (· = '.') (label ++ '.' :: rest) = label :: splitParts (· = '.') rest :=
  splitParts_append_cons rfl (fun _ member => decide_eq_false (ne_of_mem_of_not_mem member noDot)) rest

/-- What stands behind the first label of a name may stand behind another one. -/
theorem IsDomain.replaceLabel {label other rest : List Char} (domain : IsDomain (label ++ '.' :: rest))
    (first : '.' ∉ label) (plain : ∀ c ∈ other, IsKept c ∧ c ≠ '.') (settled : labelToAscii? other = some other) :
    IsDomain (other ++ '.' :: rest) := by
  have labels := domain.labels
  rw [splitParts_label first] at labels
  constructor
  · intro c member
    rcases List.mem_append.mp member with here | behind
    · exact (plain c here).1
    · exact domain.kept c (List.mem_append_right _ behind)
  · rw [splitParts_label fun member => (plain _ member).2 rfl]
    exact List.forall_mem_cons.mpr ⟨settled, (List.forall_mem_cons.mp labels).2⟩

end Domain
end CpuUsage
