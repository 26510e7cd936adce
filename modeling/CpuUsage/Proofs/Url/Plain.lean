import CpuUsage.Proofs.Catalog
import CpuUsage.Proofs.Text.Split

/-! Relative paths of plain segments. Such a path names just the segments it is made of, below the folder of the base, and
it has neither a query nor a fragment. -/
namespace CpuUsage

namespace Url

/-- A printable character that stands for itself in a relative path. -/
structure IsPlain (c : Char) : Prop where
  printable : 0x20 < c.toNat
  noQuery : c ≠ '?'
  noFragment : c ≠ '#'
  noDot : asciiLower c ≠ '.'
  noPercent : asciiLower c ≠ '%'
  noSeparator : ∀ special, isSeparator special c = false
  kept : inPathSet c = false

theorem filter_breaks_of_printable {cs : List Char} (printable : ∀ c ∈ cs, 0x20 < c.toNat) :
    cs.filter (fun c => c ≠ '\x09' && c ≠ '\x0a' && c ≠ '\x0d') = cs := by
  refine List.filter_eq_self.mpr fun c member => ?_
  have above := printable c member
  simp only [Bool.and_eq_true, decide_eq_true_eq]
  refine ⟨⟨?_, ?_⟩, ?_⟩
  all_goals
    rintro rfl
    contradiction

theorem clean_of_printable {text : String} (printable : ∀ c ∈ text.toList, 0x20 < c.toNat) :
    clean text = text.toList := by
  have stops : ∀ cs : List Char, (∀ c ∈ cs, 0x20 < c.toNat) → cs.dropWhile (fun c => c.toNat ≤ 0x20) = cs := by
    intro cs all
    cases cs with
    | nil => rfl
    | cons c rest => simp [all c List.mem_cons_self]
  rw [clean, stops _ printable, stops _ fun c member => printable c (List.mem_reverse.mp member), List.reverse_reverse]
  exact filter_breaks_of_printable printable

theorem splitTail_of_not_mem {cs : List Char} (noQuery : '?' ∉ cs) (noFragment : '#' ∉ cs) (special : Bool) :
    splitTail special cs = ⟨cs, none, none⟩ := by
  simp only [splitTail, splitFirst_of_not_mem noFragment, splitFirst_of_not_mem noQuery, Option.map_none]

/-- A plain segment goes no step up and stays where it is. -/
theorem dots?_eq_none {segment : List Char} (plain : ∀ c ∈ segment, IsPlain c) : dots? segment = none := by
  have noDot : '.' ∉ segment.map asciiLower := by
    intro member
    obtain ⟨c, held, same⟩ := List.mem_map.mp member
    exact (plain c held).noDot same
  have noPercent : '%' ∉ segment.map asciiLower := by
    intro member
    obtain ⟨c, held, same⟩ := List.mem_map.mp member
    exact (plain c held).noPercent same
  rw [← String.toList_ofList (l := segment.map asciiLower)] at noDot noPercent
  unfold dots?
  split
  all_goals first
    | rfl
    | next same => simp [same] at noDot noPercent

theorem settleSegment_plain {segment : List Char} (plain : ∀ c ∈ segment, IsPlain c) :
    settleSegment false segment = segment := by
  have kept : percentEncode inPathSet segment = segment := by
    induction segment with
    | nil => rfl
    | cons c rest ih =>
      have later := ih fun d member => plain d (List.mem_cons_of_mem _ member)
      rw [percentEncode] at later ⊢
      rw [List.flatMap_cons, (plain c List.mem_cons_self).kept, later]
      rfl
  rw [settleSegment, kept]
  rfl

/-- Plain segments stay where they are, whatever comes behind them. -/
theorem resolveSegments_plain_append (done : List (List Char)) {segments : List (List Char)}
    (plain : ∀ segment ∈ segments, ∀ c ∈ segment, IsPlain c) (rest : List (List Char)) :
    resolveSegments false done (segments ++ rest) = resolveSegments false (done ++ segments) rest := by
  induction segments generalizing done with
  | nil => rw [List.nil_append, List.append_nil]
  | cons segment segments ih =>
    have first := plain segment List.mem_cons_self
    rw [List.cons_append, resolveSegments, dots?_eq_none first]
    simp only [Bool.false_and]
    rw [ih _ fun other member => plain other (List.mem_cons_of_mem _ member), settleSegment_plain first,
      List.append_assoc, List.singleton_append]

theorem resolveSegments_plain (done : List (List Char)) {segments : List (List Char)}
    (plain : ∀ segment ∈ segments, ∀ c ∈ segment, IsPlain c) :
    resolveSegments false done segments = done ++ segments := by
  have resolved := resolveSegments_plain_append done plain []
  rwa [List.append_nil, resolveSegments] at resolved

/-- A plain path is printable and begins neither a query nor a fragment. -/
theorem mem_intercalate_plain {segments : List (List Char)} (plain : ∀ segment ∈ segments, ∀ c ∈ segment, IsPlain c)
    {d : Char} (member : d ∈ ['/'].intercalate segments) : 0x20 < d.toNat ∧ d ≠ '?' ∧ d ≠ '#' := by
  induction segments with
  | nil => contradiction
  | cons segment rest ih =>
    have first : d ∈ segment → 0x20 < d.toNat ∧ d ≠ '?' ∧ d ≠ '#' := by
      intro here
      have isPlain := plain segment List.mem_cons_self d here
      exact ⟨isPlain.printable, isPlain.noQuery, isPlain.noFragment⟩
    cases rest with
    | nil =>
      rw [List.intercalate_singleton] at member
      exact first member
    | cons next rest =>
      rw [List.intercalate_cons_cons, List.append_assoc, List.singleton_append] at member
      rcases List.mem_append.mp member with here | behind
      · exact first here
      · rcases List.mem_cons.mp behind with rfl | later
        · decide
        · exact ih (fun other held => plain other (List.mem_cons_of_mem _ held)) later

theorem pathSegments_plain {scheme : List Char} (web : isFileScheme scheme = false) (done : List (List Char)) {c : Char}
    {first : List Char} {others : List (List Char)}
    (plain : ∀ segment ∈ (c :: first) :: others, ∀ d ∈ segment, IsPlain d) :
    pathSegments scheme done (['/'].intercalate ((c :: first) :: others)) = done ++ (c :: first) :: others := by
  have apart : ∀ segment ∈ (c :: first) :: others, ∀ d ∈ segment, isSeparator (isSpecialScheme scheme) d = false := by
    intro segment held d member
    exact (plain segment held d member).noSeparator _
  have slash : isSeparator (isSpecialScheme scheme) '/' = true := rfl
  obtain ⟨rest, behind⟩ : ∃ rest, ['/'].intercalate ((c :: first) :: others) = c :: rest := by
    cases others with
    | nil => exact ⟨first, List.intercalate_singleton⟩
    | cons next others => exact ⟨_, List.intercalate_cons_cons⟩
  have split := splitParts_intercalate slash (List.cons_ne_nil _ _) apart
  have begins := apart _ List.mem_cons_self c List.mem_cons_self
  rw [behind] at split ⊢
  rw [pathSegments]
  simp only [begins, Bool.false_eq_true, if_false, split, web]
  exact resolveSegments_plain done plain

/-- A plain path names its segments below the folder of the base. -/
theorem resolve_plain {base : Url} (http : base.isHttp = true) (hierarchical : base.path.isHierarchical = true)
    {path : String} {c : Char} {first : List Char} {others : List (List Char)}
    (plain : ∀ segment ∈ (c :: first) :: others, ∀ d ∈ segment, IsPlain d)
    (spelt : path.toList = ['/'].intercalate ((c :: first) :: others)) :
    base.resolve path = .ok (base.withPath (base.folder ++ (c :: first) :: others)) := by
  obtain ⟨_, web⟩ := isSpecialScheme_of_isHttp http
  have parts : splitTail base.isSpecial (clean path) = ⟨['/'].intercalate ((c :: first) :: others), none, none⟩ := by
    have chars : ∀ d ∈ path.toList, 0x20 < d.toNat ∧ d ≠ '?' ∧ d ≠ '#' := by
      intro d member
      rw [spelt] at member
      exact mem_intercalate_plain plain member
    have noQuery : '?' ∉ path.toList := fun member => (chars _ member).2.1 rfl
    have noFragment : '#' ∉ path.toList := fun member => (chars _ member).2.2 rfl
    rw [clean_of_printable fun d member => (chars d member).1, splitTail_of_not_mem noQuery noFragment, spelt]
  rw [resolve]
  cases held : base.path with
  | bare text => simp [held, Path.isHierarchical] at hierarchical
  | segments done =>
    simp only [parts, pathSegments_plain web _ plain]
    simp [withPath, folder, held]

end Url
end CpuUsage
