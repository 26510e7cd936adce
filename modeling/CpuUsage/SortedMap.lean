/-! Finite maps as entry lists in strictly ascending key order. The order sits in the type, so two maps with the
same entries in any arrival order are equal. -/
namespace CpuUsage

/-- A key order that insertion can rely on. -/
class KeyOrder (κ : Type) [LT κ] : Prop where
  trans : ∀ {a b c : κ}, a < b → b < c → a < c
  irrefl : ∀ a : κ, ¬ a < a
  connected : ∀ {a b : κ}, ¬ a < b → ¬ b < a → a = b

instance : KeyOrder UInt32 where
  trans := UInt32.lt_trans
  irrefl := UInt32.lt_irrefl
  connected h h' := UInt32.le_antisymm (UInt32.not_lt.mp h') (UInt32.not_lt.mp h)

instance : KeyOrder String where
  trans := String.lt_trans
  irrefl := String.lt_irrefl
  connected h h' := String.le_antisymm (String.not_lt.mp h') (String.not_lt.mp h)

structure SortedMap (κ α : Type) [LT κ] where
  entries : List (κ × α)
  ascending : entries.Pairwise fun a b => a.1 < b.1
  deriving DecidableEq

namespace SortedMap
variable {κ α β : Type} [LT κ] [DecidableLT κ]

/-- Replaces what stands under `k` by `f` of it, or puts `f none` in its place in the order. -/
def alterEntries (k : κ) (f : Option α → α) : List (κ × α) → List (κ × α)
  | [] => [(k, f none)]
  | (k', a) :: rest =>
    if k < k' then (k, f none) :: (k', a) :: rest
    else if k' < k then (k', a) :: alterEntries k f rest
    else (k', f (some a)) :: rest

theorem key_of_mem_alterEntries {k : κ} {f : Option α → α} {entries : List (κ × α)} {e : κ × α}
    (h : e ∈ alterEntries k f entries) : e.1 = k ∨ ∃ e' ∈ entries, e.1 = e'.1 := by
  induction entries with
  | nil => simp_all [alterEntries]
  | cons head rest ih =>
    simp only [alterEntries] at h
    split at h
    · simp only [List.mem_cons] at h ⊢
      rcases h with rfl | rfl | h
      · exact .inl rfl
      · exact .inr ⟨_, .inl rfl, rfl⟩
      · exact .inr ⟨_, .inr h, rfl⟩
    · split at h
      · rcases List.mem_cons.mp h with rfl | h
        · exact .inr ⟨_, List.mem_cons_self, rfl⟩
        · rcases ih h with h | ⟨e', h, h'⟩
          · exact .inl h
          · exact .inr ⟨e', List.mem_cons_of_mem _ h, h'⟩
      · rcases List.mem_cons.mp h with rfl | h
        · exact .inr ⟨_, List.mem_cons_self, rfl⟩
        · exact .inr ⟨e, List.mem_cons_of_mem _ h, rfl⟩

variable [KeyOrder κ]

theorem ascending_alterEntries (k : κ) (f : Option α → α) {entries : List (κ × α)}
    (h : entries.Pairwise fun a b => a.1 < b.1) :
    (alterEntries k f entries).Pairwise fun a b => a.1 < b.1 := by
  induction entries with
  | nil => simp [alterEntries]
  | cons head rest ih =>
    obtain ⟨least, sorted⟩ := List.pairwise_cons.mp h
    simp only [alterEntries]
    split
    · next below =>
      refine List.pairwise_cons.mpr ⟨?_, h⟩
      intro e member
      rcases List.mem_cons.mp member with rfl | member
      · exact below
      · exact KeyOrder.trans below (least e member)
    · split
      · next above =>
        refine List.pairwise_cons.mpr ⟨?_, ih sorted⟩
        intro e member
        rcases key_of_mem_alterEntries member with same | ⟨e', member, same⟩
        · simpa only [same] using above
        · simpa only [same] using least e' member
      · exact List.pairwise_cons.mpr ⟨least, sorted⟩

def empty : SortedMap κ α :=
  ⟨[], .nil⟩

instance : Inhabited (SortedMap κ α) :=
  ⟨⟨[], .nil⟩⟩

def alter (m : SortedMap κ α) (k : κ) (f : Option α → α) : SortedMap κ α :=
  ⟨alterEntries k f m.entries, ascending_alterEntries k f m.ascending⟩

/-- Later entries replace earlier ones. -/
def insert (m : SortedMap κ α) (k : κ) (a : α) : SortedMap κ α :=
  m.alter k fun _ => a

/-- An entry that is there stays. -/
def insertNew (m : SortedMap κ α) (k : κ) (a : α) : SortedMap κ α :=
  m.alter k fun old => old.getD a

def ofList (entries : List (κ × α)) : SortedMap κ α :=
  entries.foldl (fun m e => m.insert e.1 e.2) empty

omit [DecidableLT κ] [KeyOrder κ] in
theorem ascending_map {entries : List (κ × α)} (f : κ × α → β) (h : entries.Pairwise fun a b => a.1 < b.1) :
    (entries.map fun e => (e.1, f e)).Pairwise fun a b => a.1 < b.1 := by
  simpa only [List.pairwise_map] using h

def mapValues (m : SortedMap κ α) (f : α → β) : SortedMap κ β :=
  ⟨m.entries.map fun e => (e.1, f e.2), ascending_map (fun e => f e.2) m.ascending⟩

def filter (m : SortedMap κ α) (p : κ → α → Bool) : SortedMap κ α :=
  ⟨m.entries.filter fun e => p e.1 e.2, m.ascending.filter _⟩

def get? [DecidableEq κ] (m : SortedMap κ α) (k : κ) : Option α :=
  (m.entries.find? fun e => e.1 = k).map (·.2)

def contains [DecidableEq κ] (m : SortedMap κ α) (k : κ) : Bool :=
  (m.get? k).isSome

def keys (m : SortedMap κ α) : List κ :=
  m.entries.map (·.1)

def values (m : SortedMap κ α) : List α :=
  m.entries.map (·.2)

def size (m : SortedMap κ α) : Nat :=
  m.entries.length

def isEmpty (m : SortedMap κ α) : Bool :=
  m.entries.isEmpty

end SortedMap
end CpuUsage
