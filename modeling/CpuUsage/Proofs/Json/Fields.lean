import CpuUsage.Json.Decode

/-! Changes to a document that a decoder sees through: in one field of a record, which may be given by its name or by its
place, and in the items of a list. -/
namespace CpuUsage

/-- What stands in a field put through `f`. -/
def Decoder.Field.map (f : Json → Json) : Decoder.Field → Decoder.Field
  | .value doc => .value (f doc)
  | .missing => .missing
  | .cut => .cut

namespace Json

/-- Puts the items at the places called `name` through `f`. -/
def mapPlaces (name : String) (f : Json → Json) : List String → List Json → List Json
  | n :: names, item :: items => (if n = name then f item else item) :: mapPlaces name f names items
  | _, items => items

def mapMember (name : String) (f : Json → Json) (member : List Piece × Json) : List Piece × Json :=
  if Piece.meaning? member.1 = some name.toList then (member.1, f member.2) else member

/-- A record with fields of these names, in which what stands under one name is put through `f`. -/
def mapField (names : List String) (name : String) (f : Json → Json) : Json → Json
  | .array items => .array (mapPlaces name f names items)
  | .object members => .object (members.map (mapMember name f))
  | doc => doc

def mapItems (f : Json → Json) : Json → Json
  | .array items => .array (items.map f)
  | doc => doc

def filterItems (p : Json → Bool) : Json → Json
  | .array items => .array (items.filter p)
  | doc => doc

end Json

namespace Decoder
open Json

theorem length_of_mapM {f : α → Option β} {as : List α} {bs : List β} (told : as.mapM f = some bs) :
    bs.length = as.length := by
  induction as generalizing bs with
  | nil =>
    cases told
    rfl
  | cons a rest ih =>
    simp only [List.mapM_cons, Option.bind_eq_bind, Option.bind_eq_some_iff, Option.pure_def, Option.some.injEq] at told
    obtain ⟨_, _, bs', told, rfl⟩ := told
    simp [ih told]

/-- There is one field for each name. -/
theorem length_of_fields {names : List String} {doc : Json} {held : List Field} (told : fields names doc = some held) :
    held.length = names.length := by
  cases doc with
  | object members =>
    simp only [fields, Option.bind_eq_bind, Option.bind_eq_some_iff] at told
    obtain ⟨_, _, told⟩ := told
    exact length_of_mapM told
  | array items =>
    simp only [fields] at told
    split at told
    · contradiction
    · next short =>
      cases told
      simp only [List.length_append, List.length_map, List.length_replicate]
      omega
  | null | bool | number | string => cases told

/-- What the fields of a record hold after such a change. -/
def mapHeld (name : String) (f : Json → Json) (names : List String) (held : List Field) : List Field :=
  List.zipWith (fun n field => if n = name then field.map f else field) names held

theorem mapM_map_option {f g : α → Option β} {h : β → β} {i : α → α} (same : ∀ a, f (i a) = (g a).map h) (as : List α) :
    (as.map i).mapM f = (as.mapM g).map (List.map h) := by
  induction as with
  | nil => rfl
  | cons a rest ih =>
    rw [List.map_cons, List.mapM_cons, List.mapM_cons, same, ih]
    cases g a <;> cases rest.mapM g <;> rfl

def readMember (member : List Piece × Json) : Option (String × Json) := do
  let name ← Piece.meaning? member.1
  return (String.ofList name, member.2)

def mapRead (name : String) (f : Json → Json) (member : String × Json) : String × Json :=
  if member.1 = name then (member.1, f member.2) else member

theorem readMember_mapMember (name : String) (f : Json → Json) (member : List Piece × Json) :
    readMember (mapMember name f member) = (readMember member).map (mapRead name f) := by
  obtain ⟨pieces, value⟩ := member
  simp only [mapMember, readMember]
  cases spelt : Piece.meaning? pieces with
  | none => simp [spelt]
  | some cs =>
    by_cases same : cs = name.toList
    · simp [spelt, same, mapRead]
    · have other : String.ofList cs ≠ name := by
        rintro rfl
        exact same (String.toList_ofList).symm
      simp [spelt, same, other, mapRead]

theorem mapRead_fst (name : String) (f : Json → Json) (member : String × Json) :
    (mapRead name f member).1 = member.1 := by
  rw [mapRead]
  split <;> rfl

theorem fieldOf_map (name : String) (f : Json → Json) (members : List (String × Json)) (n : String) :
    fieldOf (members.map (mapRead name f)) n =
      (fieldOf members n).map fun field => if n = name then field.map f else field := by
  have kept : (members.map (mapRead name f)).filter (fun m => m.1 = n) =
      (members.filter fun m => m.1 = n).map (mapRead name f) := by
    rw [List.filter_map]
    simp only [Function.comp_def, mapRead_fst]
  rw [fieldOf, fieldOf, kept]
  have named : ∀ m ∈ members.filter (fun m => m.1 = n), m.1 = n := by
    intro m member
    exact of_decide_eq_true (List.mem_filter.mp member).2
  cases found : members.filter fun m => m.1 = n with
  | nil => by_cases same : n = name <;> simp [same, Field.map]
  | cons m rest =>
    have first : m.1 = n := named m (by simp [found])
    cases rest with
    | nil => by_cases same : n = name <;> simp [mapRead, first, same, Field.map]
    | cons m' rest => rfl

theorem mapM_fieldOf_map (name : String) (f : Json → Json) (members : List (String × Json)) (names : List String) :
    names.mapM (fieldOf (members.map (mapRead name f))) =
      (names.mapM (fieldOf members)).map (mapHeld name f names) := by
  induction names with
  | nil => rfl
  | cons n rest ih =>
    rw [List.mapM_cons, List.mapM_cons, fieldOf_map, ih]
    cases fieldOf members n <;> cases rest.mapM (fieldOf members) <;> rfl

theorem length_mapPlaces (name : String) (f : Json → Json) (names : List String) (items : List Json) :
    (mapPlaces name f names items).length = items.length := by
  induction names generalizing items with
  | nil => cases items <;> rfl
  | cons n rest ih => cases items <;> simp [mapPlaces, ih]

theorem held_mapPlaces (name : String) (f : Json → Json) {names : List String} {items : List Json}
    (short : items.length ≤ names.length) :
    (mapPlaces name f names items).map Field.value ++ List.replicate (names.length - items.length) .cut =
      mapHeld name f names (items.map .value ++ List.replicate (names.length - items.length) .cut) := by
  induction names generalizing items with
  | nil =>
    cases List.length_eq_zero_iff.mp (Nat.le_zero.mp short)
    rfl
  | cons n rest ih =>
    cases items with
    | nil =>
      have shorter := @ih [] (Nat.zero_le rest.length)
      simp only [mapPlaces, mapHeld, List.map_nil, List.nil_append, List.length_nil, Nat.sub_zero, List.length_cons,
        List.replicate_succ, List.zipWith_cons_cons] at shorter ⊢
      rw [← shorter]
      split <;> rfl
    | cons item items =>
      have shorter := ih (Nat.le_of_succ_le_succ short)
      simp only [mapPlaces, mapHeld, List.map_cons, List.cons_append, List.length_cons, Nat.add_sub_add_right,
        List.zipWith_cons_cons] at shorter ⊢
      rw [shorter]
      split <;> rfl

theorem fields_mapField (names : List String) (name : String) (f : Json → Json) (doc : Json) :
    fields names (doc.mapField names name f) = (fields names doc).map (mapHeld name f names) := by
  cases doc with
  | object members =>
    change ((members.map (mapMember name f)).mapM readMember).bind _ = ((members.mapM readMember).bind _).map _
    rw [mapM_map_option (readMember_mapMember name f)]
    cases members.mapM readMember with
    | none => rfl
    | some read => exact mapM_fieldOf_map name f read names
  | array items =>
    simp only [mapField, fields, length_mapPlaces]
    split
    · rfl
    · next short => rw [Option.map_some, held_mapPlaces name f (Nat.le_of_not_lt short)]
  | null | bool | number | string => rfl

theorem list_mapItems {item : Decoder α} {f : Json → Json} {g : α → α} (same : ∀ doc, item (f doc) = (item doc).map g)
    (doc : Json) : list item (doc.mapItems f) = (list item doc).map (List.map g) := by
  cases doc with
  | array items => exact mapM_map_option same items
  | null | bool | number | string | object => rfl

/-- Items are left out that can be read and that `keep` does not hold of. -/
theorem list_filterItems (item : Decoder α) (keep : α → Bool) (doc : Json) :
    list item (doc.filterItems fun i => (item i).all keep) = (list item doc).map (List.filter keep) := by
  cases doc with
  | array items =>
    change (items.filter fun i => (item i).all keep).mapM item = (items.mapM item).map (List.filter keep)
    induction items with
    | nil => rfl
    | cons i rest ih =>
      rw [List.mapM_cons, List.filter_cons]
      cases read : item i with
      | none => simp [List.mapM_cons, read]
      | some a =>
        cases kept : keep a with
        | true =>
          simp only [Option.all_some, kept, if_true, List.mapM_cons, read, ih]
          cases rest.mapM item <;> simp [kept]
        | false =>
          simp only [Option.all_some, kept, Bool.false_eq_true, if_false, ih]
          cases rest.mapM item <;> simp [kept]
  | null | bool | number | string | object => rfl

end Decoder
end CpuUsage
