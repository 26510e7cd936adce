import CpuUsage.SortedMap
import Mathlib.Data.List.Basic
import Mathlib.Data.List.Nodup
import Mathlib.Data.List.Perm.Subperm

/-! Sorted maps as functions of their keys. Every operation is described by what `get?` sees, and `ext_get?` turns
agreement on all keys into equality. Folds over records become one look-up in the list of records. -/
namespace CpuUsage.SortedMap
variable {κ α β γ : Type} [LT κ]

@[simp] theorem get?_empty [DecidableEq κ] (k : κ) : (empty : SortedMap κ α).get? k = none := rfl

theorem get?_mapValues [DecidableEq κ] (m : SortedMap κ α) (f : α → β) (k : κ) :
    (m.mapValues f).get? k = (m.get? k).map f := by
  simp only [get?, mapValues, List.find?_map, Option.map_map, Function.comp_def]

variable [KeyOrder κ]

theorem keys_nodup (m : SortedMap κ α) : m.keys.Nodup := by
  apply List.pairwise_map.mpr
  apply m.ascending.imp
  intro a b before same
  exact KeyOrder.irrefl b.1 (same ▸ before)

variable [DecidableEq κ]

theorem find?_eq_none_of_below {k : κ} {entries : List (κ × α)} (below : ∀ e ∈ entries, k < e.1) :
    entries.find? (fun e => e.1 = k) = none := by
  apply List.find?_eq_none.mpr
  intro e member same
  have smaller := below e member
  rw [of_decide_eq_true same] at smaller
  exact KeyOrder.irrefl k smaller

theorem mem_entries_iff (m : SortedMap κ α) (k : κ) (a : α) : (k, a) ∈ m.entries ↔ m.get? k = some a := by
  obtain ⟨entries, ascending⟩ := m
  simp only [get?]
  induction entries with
  | nil => simp
  | cons head rest ih =>
    obtain ⟨least, sorted⟩ := List.pairwise_cons.mp ascending
    by_cases same : head.1 = k
    · have absent : ∀ b, (k, b) ∉ rest := fun b member => KeyOrder.irrefl k (same ▸ least (k, b) member)
      obtain ⟨headKey, headValue⟩ := head
      simp only at same
      simp [same, absent, eq_comm]
    · have different : (k, a) ≠ head := fun h => same (by rw [← h])
      simpa [List.find?_cons, same, different] using ih sorted

theorem mem_keys_iff (m : SortedMap κ α) (k : κ) : k ∈ m.keys ↔ (m.get? k).isSome := by
  simp only [keys, List.mem_map, Option.isSome_iff_exists, ← mem_entries_iff]
  constructor
  · rintro ⟨⟨_, a⟩, member, rfl⟩
    exact ⟨a, member⟩
  · rintro ⟨a, member⟩
    exact ⟨(k, a), member, rfl⟩

theorem mem_values_iff (m : SortedMap κ α) (a : α) : a ∈ m.values ↔ ∃ k, m.get? k = some a := by
  simp only [values, List.mem_map, ← mem_entries_iff]
  constructor
  · rintro ⟨⟨k, _⟩, member, rfl⟩
    exact ⟨k, member⟩
  · rintro ⟨k, member⟩
    exact ⟨(k, a), member, rfl⟩

theorem isEmpty_iff (m : SortedMap κ α) : m.isEmpty = true ↔ ∀ k, m.get? k = none := by
  rw [isEmpty, List.isEmpty_iff]
  constructor
  · intro none k
    simp [get?, none]
  · intro absent
    apply List.eq_nil_iff_forall_not_mem.mpr
    rintro ⟨k, a⟩ member
    rw [mem_entries_iff, absent k] at member
    contradiction

theorem values_eq_nil_iff (m : SortedMap κ α) : m.values = [] ↔ ∀ k, m.get? k = none := by
  rw [← isEmpty_iff, isEmpty, List.isEmpty_iff, values, List.map_eq_nil_iff]

/-- A map is determined by its look-ups. -/
theorem ext_get? {m m' : SortedMap κ α} (same : ∀ k, m.get? k = m'.get? k) : m = m' := by
  have members : ∀ e, e ∈ m.entries ↔ e ∈ m'.entries := by
    rintro ⟨k, a⟩
    rw [mem_entries_iff, mem_entries_iff, same]
  have nodup (m : SortedMap κ α) : m.entries.Nodup := List.Nodup.of_map _ m.keys_nodup
  have equal : m.entries = m'.entries := by
    refine List.Perm.eq_of_pairwise ?_ m.ascending m'.ascending
      ((List.perm_ext_iff_of_nodup (nodup m) (nodup m')).mpr members)
    intro a b _ _ before after
    exact absurd (KeyOrder.trans before after) (KeyOrder.irrefl _)
  cases m
  cases m'
  simp only at equal
  subst equal
  rfl

theorem get?_filter (m : SortedMap κ α) (p : κ → α → Bool) (k : κ) :
    (m.filter p).get? k = (m.get? k).filter (p k) := by
  apply Option.ext
  intro a
  rw [Option.filter_eq_some_iff, ← mem_entries_iff, ← mem_entries_iff, filter, List.mem_filter]

/-- Where one map's keys are all keys of another, their sizes tell whether these are all of them. -/
theorem size_le_iff_of_keys {m : SortedMap κ α} {m' : SortedMap κ β}
    (nested : ∀ k, (m'.get? k).isSome → (m.get? k).isSome) :
    m.size ≤ m'.size ↔ ∀ k, (m.get? k).isSome → (m'.get? k).isSome := by
  have lengths : m.size = m.keys.length ∧ m'.size = m'.keys.length := by simp [size, keys]
  rw [lengths.1, lengths.2]
  simp only [← mem_keys_iff] at nested ⊢
  constructor
  · intro small k member
    have whole := (List.subperm_of_subset m'.keys_nodup nested).perm_of_length_le small
    exact whole.mem_iff.mpr member
  · intro covered
    exact (List.subperm_of_subset m.keys_nodup covered).length_le

/-- A fold over the entries of a map, each step of which touches the key of its entry only. -/
theorem get?_foldl_entries (step : SortedMap κ β → κ → α → SortedMap κ β) (update : κ → α → Option β → Option β)
    (touches : ∀ m' k a k', (step m' k a).get? k' = if k' = k then update k a (m'.get? k) else m'.get? k')
    (m : SortedMap κ α) (m' : SortedMap κ β) (k : κ) :
    (m.entries.foldl (fun m' e => step m' e.1 e.2) m').get? k =
      match m.get? k with
      | some a => update k a (m'.get? k)
      | none => m'.get? k := by
  obtain ⟨entries, ascending⟩ := m
  simp only [get?] at touches ⊢
  induction entries generalizing m' with
  | nil => rfl
  | cons head rest ih =>
    obtain ⟨least, sorted⟩ := List.pairwise_cons.mp ascending
    rw [List.foldl_cons, ih _ sorted]
    by_cases same : head.1 = k
    · have absent : rest.find? (fun e => e.1 = k) = none := find?_eq_none_of_below (same ▸ least)
      simp [same, absent, touches]
    · simp [same, Ne.symm same, touches]

variable [DecidableLT κ]

theorem find?_alterEntries (k k' : κ) (f : Option α → α) {entries : List (κ × α)}
    (sorted : entries.Pairwise fun a b => a.1 < b.1) :
    ((alterEntries k f entries).find? fun e => e.1 = k').map (·.2) =
      if k' = k then some (f ((entries.find? fun e => e.1 = k).map (·.2)))
      else (entries.find? fun e => e.1 = k').map (·.2) := by
  induction entries with
  | nil => by_cases same : k' = k <;> simp [alterEntries, same, Ne.symm]
  | cons head rest ih =>
    obtain ⟨least, sorted⟩ := List.pairwise_cons.mp sorted
    simp only [alterEntries]
    split
    · next below =>
      have fresh : (head :: rest).find? (fun e => e.1 = k) = none := by
        apply find?_eq_none_of_below
        intro e member
        rcases List.mem_cons.mp member with rfl | member
        · exact below
        · exact KeyOrder.trans below (least e member)
      by_cases same : k' = k
      · subst same
        simp [fresh]
      · simp [List.find?_cons, same, Ne.symm same]
    · next notBelow =>
      split
      · next above =>
        have other : head.1 ≠ k := fun same => KeyOrder.irrefl k (same ▸ above)
        by_cases first : head.1 = k'
        · have differs : k' ≠ k := first ▸ other
          simp [first, differs]
        · simpa [List.find?_cons, first, other] using ih sorted
      · next notAbove =>
        have same : head.1 = k := KeyOrder.connected notAbove notBelow
        by_cases first : k' = k
        · simp [same, first]
        · have differs : head.1 ≠ k' := fun h => first (h.symm.trans same)
          simp [differs, first]

theorem get?_alter (m : SortedMap κ α) (k k' : κ) (f : Option α → α) :
    (m.alter k f).get? k' = if k' = k then some (f (m.get? k)) else m.get? k' :=
  find?_alterEntries k k' f m.ascending

theorem get?_insert (m : SortedMap κ α) (k k' : κ) (a : α) :
    (m.insert k a).get? k' = if k' = k then some a else m.get? k' :=
  get?_alter m k k' _

/-- The entries of a map, inserted in their order, are the map. -/
theorem ofList_entries (m : SortedMap κ α) : ofList m.entries = m := by
  apply ext_get?
  intro k
  rw [ofList, get?_foldl_entries _ fun _ a _ => some a]
  · cases m.get? k <;> rfl
  · exact fun m' k a k' => get?_insert m' k k' a

theorem get?_insertNew (m : SortedMap κ α) (k k' : κ) (a : α) :
    (m.insertNew k a).get? k' = (m.get? k').or (if k' = k then some a else none) := by
  rw [insertNew, get?_alter]
  by_cases same : k' = k
  · subst same
    cases m.get? k' <;> simp
  · simp [same]

/-- Of several records with one key the first is kept, and what was there before goes first. -/
theorem get?_foldl_insertNew (key : γ → κ) (value : γ → α) (records : List γ) (m : SortedMap κ α) (k : κ) :
    (records.foldl (fun m r => m.insertNew (key r) (value r)) m).get? k =
      (m.get? k).or ((records.find? fun r => key r = k).map value) := by
  induction records generalizing m with
  | nil => simp
  | cons r rest ih =>
    rw [List.foldl_cons, ih, get?_insertNew, Option.or_assoc]
    by_cases same : k = key r
    · simp [same]
    · simp [same, Ne.symm same]

/-- Records with one key are gathered in the order in which they come. -/
theorem get?_foldl_append (key : γ → κ) (value : γ → List α) (records : List γ) (m : SortedMap κ (List α)) (k : κ) :
    (records.foldl (fun m r => m.alter (key r) fun old => old.getD [] ++ value r) m).get? k =
      if (m.get? k).isSome ∨ ∃ r ∈ records, key r = k then
        some ((m.get? k).getD [] ++ (records.filter fun r => key r = k).flatMap value)
      else none := by
  induction records generalizing m with
  | nil => cases held : m.get? k <;> simp [held]
  | cons r rest ih =>
    rw [List.foldl_cons, ih, get?_alter]
    by_cases same : k = key r
    · simp [same]
    · simp [same, Ne.symm same]

theorem get?_gathered (key : γ → κ) (value : γ → List α) (records : List γ) (k : κ) :
    (records.foldl (fun m r => m.alter (key r) fun old => old.getD [] ++ value r) (.empty : SortedMap κ (List α))).get? k =
      if ∃ r ∈ records, key r = k then some ((records.filter fun r => key r = k).flatMap value) else none := by
  rw [get?_foldl_append]
  simp only [get?_empty, Option.isSome_none, Bool.false_eq_true, false_or, Option.getD_none, List.nil_append]

end CpuUsage.SortedMap
