import CpuUsage.Json.Encode
import CpuUsage.Proofs.Json.Fields
import CpuUsage.Proofs.Json.Grammar
import CpuUsage.Proofs.Rfc3339
import CpuUsage.Proofs.SortedMap
import Mathlib.Data.List.Forall2

/-! Documents that tell a value: written as a text and read again, such a document decodes to that value. For each way to
put documents together, what the parts tell is told by the whole. -/
namespace CpuUsage

/-- The literals are of the grammar, and the decoder makes the value of the document. -/
structure Tells (decoder : Decoder α) (doc : Json) (a : α) : Prop where
  wellFormed : doc.WellFormed
  told : decoder doc = some a

theorem Tells.decodeText?_compact {decoder : Decoder α} {doc : Json} {a : α} (tells : Tells decoder doc a) :
    decodeText? decoder doc.compact = some a := by
  rw [decodeText?, Json.read?_compact tells.wellFormed, Option.bind_some, tells.told]

theorem Tells.decodeText?_pretty {decoder : Decoder α} {doc : Json} {a : α} (tells : Tells decoder doc a) :
    decodeText? decoder doc.pretty = some a := by
  rw [decodeText?, Json.read?_pretty tells.wellFormed, Option.bind_some, tells.told]

namespace Json

theorem wellFormed_ofString (s : String) : (ofString s).WellFormed := by
  apply WellFormed.string
  intro p member
  obtain ⟨c, _, rfl⟩ := List.mem_map.mp member
  exact Piece.wellFormed_ofChar c

theorem wellFormed_ofFields {fs : List (String × Json)} (values : ∀ f ∈ fs, f.2.WellFormed) :
    (ofFields fs).WellFormed := by
  apply WellFormed.object
  · intro m member p piece
    obtain ⟨f, _, rfl⟩ := List.mem_map.mp member
    obtain ⟨c, _, rfl⟩ := List.mem_map.mp piece
    exact Piece.wellFormed_ofChar c
  · intro m member
    obtain ⟨f, held, rfl⟩ := List.mem_map.mp member
    exact values f held

end Json

namespace Decoder

theorem mapM_of_forall₂ {f : α → Option β} {as : List α} {bs : List β}
    (each : List.Forall₂ (fun a b => f a = some b) as bs) : as.mapM f = some bs := by
  induction each with
  | nil => rfl
  | cons first _ ih =>
    rw [List.mapM_cons, first, ih]
    rfl

theorem tells_string (s : String) : Tells string (.ofString s) s :=
  ⟨Json.wellFormed_ofString s, string_ofString s⟩

theorem tells_uint32 (n : UInt32) : Tells uint32 (.ofUInt32 n) n where
  wellFormed := .number (Numeral.wellFormed_ofNat n.toNat)
  told := by
    have small : n.toNat < uint32Bound := n.toNat_lt
    have fits : n.toNat < uint64Bound := Nat.lt_trans small (by decide)
    simp only [Json.ofUInt32, Json.ofNat, uint32, natural, Numeral.value?_ofNat fits, if_pos small, Option.map_some,
      UInt32.ofNat_toNat]

theorem tells_instant (t : Instant) : Tells instant (.ofInstant t) t where
  wellFormed := Json.wellFormed_ofString t.rfc3339
  told := by rw [instant, Json.ofInstant, string_ofString, Option.bind_some, Instant.readRfc3339?_rfc3339]

section
variable {inner : Decoder α}

theorem tells_list {encode : β → Json} {bs : List β} {as : List α}
    (each : List.Forall₂ (fun b a => Tells inner (encode b) a) bs as) :
    Tells (list inner) (.ofList encode bs) as := by
  obtain ⟨wellFormed, told⟩ := (List.forall₂_and_left _ _).mp (each.imp fun b a tells => ⟨tells.wellFormed, tells.told⟩)
  refine ⟨.array ?_, mapM_of_forall₂ (List.forall₂_map_left_iff.mpr told)⟩
  intro doc member
  obtain ⟨b, listed, rfl⟩ := List.mem_map.mp member
  exact wellFormed b listed

theorem tells_option (refuses : inner .null = none) {encode : α → Json} {o : Option α}
    (each : ∀ a ∈ o, Tells inner (encode a) a) : Tells (nullable inner) (.ofOption encode o) o := by
  cases o with
  | none => exact ⟨.null, rfl⟩
  | some a =>
    obtain ⟨wellFormed, told⟩ := each a rfl
    refine ⟨wellFormed, ?_⟩
    rw [Json.ofOption]
    cases doc : encode a with
    | null =>
      rw [doc, refuses] at told
      contradiction
    | bool | number | string | array | object =>
      rw [doc] at told
      rw [nullable, told]
      · rfl
      · intro same
        contradiction

theorem ofChar_digit {c : Char} (digit : isDigit c = true) : Piece.ofChar c = .plain c := by
  rcases Piece.ofChar_cases c with ⟨mark, _, known, rfl⟩ | ⟨control, _⟩ | ⟨_, _, _, same⟩
  · simp only [isShortMark, Bool.or_eq_true, decide_eq_true_eq] at known
    rcases known with ((((((rfl | rfl) | rfl) | rfl) | rfl) | rfl) | rfl) | rfl <;> contradiction
  · have := toNat_of_isDigit digit
    omega
  · exact same

theorem numericName?_toDigits (n : UInt32) :
    numericName? ((String.ofList (Nat.toDigits 10 n.toNat)).toList.map Piece.ofChar) = some n := by
  have plain : (Nat.toDigits 10 n.toNat).map Piece.ofChar = (Nat.toDigits 10 n.toNat).map .plain := by
    apply List.map_congr_left
    intro c member
    exact ofChar_digit (isDigit_of_mem_toDigits member)
  have read : readNumeral? (Nat.toDigits 10 n.toNat) = some (.ofNat n.toNat, []) := by
    have := Numeral.readNumeral?_write (Numeral.wellFormed_ofNat n.toNat) (stops_nil continuesNumeral)
    simpa [Numeral.write, Numeral.ofNat] using this
  rw [String.toList_ofList, plain, numericName?]
  apply Instant.bind_of_eq_some
  case told =>
    apply mapM_of_forall₂
    rw [List.forall₂_map_left_iff, List.forall₂_same]
    exact fun _ _ => rfl
  · rw [read]
    exact (tells_uint32 n).told

theorem tells_numberMap {encode : α → Json} {m : SortedMap UInt32 α}
    (each : ∀ e ∈ m.entries, Tells inner (encode e.2) e.2) : Tells (numberMap inner) (.ofNumberMap encode m) m where
  wellFormed := by
    apply Json.wellFormed_ofFields
    intro f member
    obtain ⟨e, held, rfl⟩ := List.mem_map.mp member
    exact (each e held).wellFormed
  told := by
    rw [Json.ofNumberMap, Json.ofFields, List.map_map, numberMap]
    apply Instant.bind_of_eq_some
    case told =>
      apply mapM_of_forall₂
      rw [List.forall₂_map_left_iff]
      refine List.forall₂_same.mpr fun e held => ?_
      simp only [Function.comp_apply, numericName?_toDigits, (each e held).told, Option.bind_eq_bind, Option.bind_some,
        Option.pure_def]
    · rw [SortedMap.ofList_entries]
      rfl

end

theorem filter_name_eq {fs : List (String × Json)} (distinct : (fs.map (·.1)).Nodup) {f : String × Json}
    (member : f ∈ fs) : fs.filter (fun g => g.1 = f.1) = [f] := by
  induction fs with
  | nil => contradiction
  | cons g fs ih =>
    obtain ⟨fresh, distinct⟩ := List.nodup_cons.mp distinct
    rcases List.mem_cons.mp member with rfl | member
    · have others : fs.filter (fun g => g.1 = f.1) = [] := by
        rw [List.filter_eq_nil_iff]
        intro g member same
        exact fresh (List.mem_map.mpr ⟨g, member, of_decide_eq_true same⟩)
      rw [List.filter_cons_of_pos (by simp), others]
    · have other : g.1 ≠ f.1 := by
        intro same
        exact fresh (List.mem_map.mpr ⟨f, member, same.symm⟩)
      rw [List.filter_cons_of_neg (by simpa using other), ih distinct member]

/-- A record that is written with a document for each name holds these documents. -/
theorem fields_ofFields {fs : List (String × Json)} {names : List String} (named : fs.map (·.1) = names)
    (distinct : names.Nodup) : fields names (.ofFields fs) = some (fs.map fun f => .value f.2) := by
  subst named
  have read : (fs.map fun f => (f.1.toList.map Piece.ofChar, f.2)).mapM readMember = some fs := by
    apply mapM_of_forall₂
    rw [List.forall₂_map_left_iff, List.forall₂_same]
    intro f _
    simp [readMember, Piece.meaning?_map_ofChar]
  have held : (fs.map (·.1)).mapM (fieldOf fs) = some (fs.map fun f => .value f.2) := by
    apply mapM_of_forall₂
    rw [List.forall₂_map_left_iff, List.forall₂_map_right_iff, List.forall₂_same]
    intro f member
    rw [fieldOf, filter_name_eq distinct member]
  exact (congrArg (Option.bind · _) read).trans held

/-- A record tells what is made of its fields. -/
theorem tells_record {fs : List (String × Json)} {names : List String} {make : List Field → Option α} {a : α}
    (named : fs.map (·.1) = names) (distinct : names.Nodup) (values : ∀ f ∈ fs, f.2.WellFormed)
    (made : make (fs.map fun f => .value f.2) = some a) :
    Tells (fun doc => (fields names doc).bind make) (.ofFields fs) a where
  wellFormed := Json.wellFormed_ofFields values
  told := by rw [fields_ofFields named distinct, Option.bind_some, made]

end Decoder
end CpuUsage
