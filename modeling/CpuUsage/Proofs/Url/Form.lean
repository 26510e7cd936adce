import CpuUsage.Proofs.Text.Split
import CpuUsage.Url.Form

/-! Form decoding, and that it undoes form encoding whatever the parameters are: the marks that stand between and within
pairs are never part of what is encoded, and percent signs stand for the bytes of one character after the other. -/
namespace CpuUsage

/-- A plus sign in a form stands for a blank. -/
def ofFormChar (c : Char) : Char :=
  if c = '+' then ' ' else c

/-- The text that a part of a form stands for, unless its bytes are no text. -/
def formDecode? (cs : List Char) : Option String :=
  ofUtf8? (percentDecode (cs.map ofFormChar))

/-- A pair is cut at its first equals sign; without one it is a name with an empty value. -/
def formPair? (cs : List Char) : Option (String × String) := do
  let (name, value) := splitFirst '=' cs
  return (← formDecode? name, ← formDecode? (value.getD []))

/-- The parameters of a form: the pairs between ampersands that are not empty. -/
def Parameters.decode? (form : List Char) : Option Parameters :=
  ((form.splitOn '&').filter (· ≠ [])).mapM formPair?

theorem hexValue?_upperHexDigit {n : Nat} (digit : n < 16) : hexValue? (upperHexDigit n) = some n := by
  have all : ∀ n < 16, hexValue? (upperHexDigit n) = some n := by decide
  exact all n digit

/-- A percent sign and the two digits of a byte stand for that byte. -/
theorem percentDecode_byte (b : UInt8) (rest : List Char) :
    percentDecode ('%' :: upperHexDigit (b.toNat / 16) :: upperHexDigit (b.toNat % 16) :: rest) =
      b :: percentDecode rest := by
  have low : b.toNat < 256 := b.toNat_lt
  have spelt : b.toNat / 16 * 16 + b.toNat % 16 = b.toNat := by omega
  rw [percentDecode, hexValue?_upperHexDigit (by omega), hexValue?_upperHexDigit (by omega)]
  simp only [spelt, UInt8.ofNat_toNat]

theorem percentDecode_cons {c : Char} (other : c ≠ '%') (rest : List Char) :
    percentDecode (c :: rest) = String.utf8EncodeChar c ++ percentDecode rest := by
  rw [percentDecode]
  intro a b rest same
  exact absurd same other

/-- The characters that a form is made of, and the marks among them. -/
theorem isPlainInForm_marks :
    isPlainInForm '+' = false ∧ isPlainInForm '%' = false ∧ isPlainInForm '=' = false ∧ isPlainInForm '&' = false := by
  decide

/-- The digits of bytes are plain. -/
theorem isPlainInForm_upperHexDigit {n : Nat} (digit : n < 16) : isPlainInForm (upperHexDigit n) = true := by
  have all : ∀ n < 16, isPlainInForm (upperHexDigit n) = true := by decide
  exact all n digit

theorem mem_percentBytes {c d : Char} (member : d ∈ percentBytes c) : d = '%' ∨ isPlainInForm d = true := by
  simp only [percentBytes, List.mem_flatMap, List.mem_cons, List.not_mem_nil, or_false] at member
  obtain ⟨b, _, same | same | same⟩ := member
  · exact .inl same
  · have low : b.toNat < 256 := b.toNat_lt
    exact .inr (same ▸ isPlainInForm_upperHexDigit (by omega))
  · exact .inr (same ▸ isPlainInForm_upperHexDigit (by omega))

theorem mem_formEncode {cs : List Char} {d : Char} (member : d ∈ formEncode cs) :
    d = '+' ∨ d = '%' ∨ isPlainInForm d = true := by
  obtain ⟨c, _, member⟩ := List.mem_flatMap.mp member
  split at member
  · exact .inl (List.mem_singleton.mp member)
  · split at member
    · next plain => exact .inr (.inr (List.mem_singleton.mp member ▸ plain))
    · exact .inr (mem_percentBytes member)

theorem equals_not_mem_formEncode (cs : List Char) : '=' ∉ formEncode cs := by
  intro member
  simpa [isPlainInForm_marks] using mem_formEncode member

theorem ampersand_not_mem_formPair (p : String × String) : '&' ∉ formPair p := by
  intro member
  rcases List.mem_append.mp member with name | value
  · simpa [isPlainInForm_marks] using mem_formEncode name
  · rcases List.mem_cons.mp value with mark | value
    · contradiction
    · simpa [isPlainInForm_marks] using mem_formEncode value

theorem map_ofFormChar_percentBytes (c : Char) : (percentBytes c).map ofFormChar = percentBytes c := by
  refine (List.map_congr_left fun d member => ?_).trans (List.map_id _)
  have notPlus : d ≠ '+' := by
    rintro rfl
    simpa [isPlainInForm_marks] using mem_percentBytes member
  exact if_neg notPlus

theorem percentDecode_percentBytes (c : Char) (rest : List Char) :
    percentDecode (percentBytes c ++ rest) = String.utf8EncodeChar c ++ percentDecode rest := by
  rw [percentBytes]
  induction String.utf8EncodeChar c with
  | nil => rfl
  | cons b bytes ih =>
    rw [List.flatMap_cons, List.append_assoc, List.cons_append, List.cons_append, List.cons_append, List.nil_append,
      percentDecode_byte, ih, List.cons_append]

/-- What is written for a character stands for its bytes. -/
theorem percentDecode_formEncode_cons (c : Char) (cs : List Char) :
    percentDecode ((formEncode (c :: cs)).map ofFormChar) =
      String.utf8EncodeChar c ++ percentDecode ((formEncode cs).map ofFormChar) := by
  rw [formEncode, List.flatMap_cons, List.map_append, ← formEncode]
  by_cases blank : c = ' '
  · rw [if_pos blank, blank]
    exact percentDecode_cons (by decide) _
  · rw [if_neg blank]
    cases plain : isPlainInForm c with
    | true =>
      have notPlus : c ≠ '+' := by
        rintro rfl
        simp [isPlainInForm_marks] at plain
      have notPercent : c ≠ '%' := by
        rintro rfl
        simp [isPlainInForm_marks] at plain
      rw [if_pos rfl, List.map_singleton, ofFormChar, if_neg notPlus]
      exact percentDecode_cons notPercent _
    | false => rw [if_neg Bool.false_ne_true, map_ofFormChar_percentBytes, percentDecode_percentBytes]

/-- A text comes back from its bytes. -/
theorem ofUtf8?_flatMap (cs : List Char) : ofUtf8? (cs.flatMap String.utf8EncodeChar) = some (String.ofList cs) := by
  have spelt : (cs.flatMap String.utf8EncodeChar).toByteArray = (String.ofList cs).toByteArray := by
    rw [← String.utf8Encode_toList, String.toList_ofList]
    rfl
  rw [ofUtf8?, spelt, String.fromUTF8?, dif_pos (String.ofList cs).isValidUTF8]
  rfl

/-- A text comes back from its encoding. -/
theorem formDecode?_formEncode (s : String) : formDecode? (formEncode s.toList) = some s := by
  have bytes : ∀ cs : List Char,
      percentDecode ((formEncode cs).map ofFormChar) = cs.flatMap String.utf8EncodeChar := by
    intro cs
    induction cs with
    | nil => rfl
    | cons c cs ih => rw [percentDecode_formEncode_cons, ih, List.flatMap_cons]
  rw [formDecode?, bytes, ofUtf8?_flatMap, String.ofList_toList]

theorem formPair?_formPair (p : String × String) : formPair? (formPair p) = some p := by
  have split : splitFirst '=' (formPair p) = (formEncode p.1.toList, some (formEncode p.2.toList)) :=
    splitFirst_append_cons (equals_not_mem_formEncode _) _
  rw [formPair?, split]
  simp [formDecode?_formEncode]

theorem formPair_ne_nil (p : String × String) : formPair p ≠ [] :=
  List.ne_nil_of_mem (List.mem_append_right _ List.mem_cons_self)

/-- Cutting a form at its ampersands gives back its pairs; a form without pairs is one empty part. -/
theorem Parameters.splitOn_encode (ps : Parameters) :
    (ps.encode.toList.splitOn '&').filter (· ≠ []) = ps.map formPair := by
  rw [encode, String.toList_ofList]
  cases ps with
  | nil => rfl
  | cons p ps =>
    have apart : ∀ pair ∈ (p :: ps).map formPair, '&' ∉ pair :=
      List.forall_mem_map.mpr fun q _ => ampersand_not_mem_formPair q
    rw [List.splitOn_intercalate '&' apart (by simp), List.filter_eq_self]
    exact List.forall_mem_map.mpr fun q _ => decide_eq_true (formPair_ne_nil q)

/-- Form decoding undoes form encoding. -/
theorem Parameters.decode?_encode (ps : Parameters) : decode? ps.encode.toList = some ps := by
  rw [decode?, splitOn_encode]
  induction ps with
  | nil => rfl
  | cons p ps ih => rw [List.map_cons, List.mapM_cons, formPair?_formPair, ih]; rfl

end CpuUsage
