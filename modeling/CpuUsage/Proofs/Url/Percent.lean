import CpuUsage.Proofs.Url.Form
import Mathlib.Logic.Basic

/-! Percent-encoding that leaves percent signs as they are. It changes nothing about what a text stands for; but the
text stands for itself only if no percent sign in it has two digits behind it. -/
namespace CpuUsage

/-- The bytes of a text. -/
def utf8Bytes (cs : List Char) : List UInt8 :=
  cs.flatMap String.utf8EncodeChar

theorem utf8Bytes_cons (c : Char) (cs : List Char) : utf8Bytes (c :: cs) = String.utf8EncodeChar c ++ utf8Bytes cs :=
  List.flatMap_cons

theorem length_utf8EncodeChar_pos (c : Char) : 0 < (String.utf8EncodeChar c).length := by
  rw [String.length_utf8EncodeChar]
  exact Char.utf8Size_pos c

theorem ofUtf8?_eq_some_iff {bytes : List UInt8} {text : String} :
    ofUtf8? bytes = some text ↔ bytes = utf8Bytes text.toList := by
  constructor
  · intro read
    have spelt : text.toByteArray = bytes.toByteArray := by
      rw [ofUtf8?, String.fromUTF8?] at read
      split at read
      · cases read
        rfl
      · cases read
    have same : (utf8Bytes text.toList).toByteArray = bytes.toByteArray := String.utf8Encode_toList.trans spelt
    rw [← List.toList_data_toByteArray (l := bytes), ← same, List.toList_data_toByteArray]
  · rintro rfl
    rw [utf8Bytes, ofUtf8?_flatMap, String.ofList_toList]

theorem length_utf8Bytes_le {cs ds : List Char} (sub : cs.Sublist ds) :
    (utf8Bytes cs).length ≤ (utf8Bytes ds).length := by
  induction sub with
  | slnil => exact Nat.le_refl _
  | cons c sub ih =>
    rw [utf8Bytes_cons, List.length_append]
    omega
  | cons_cons c sub ih =>
    rw [utf8Bytes_cons, utf8Bytes_cons, List.length_append, List.length_append]
    omega

/-- If something is left out of a text, bytes are missing. -/
theorem eq_of_length_utf8Bytes_le {cs ds : List Char} (sub : cs.Sublist ds)
    (same : (utf8Bytes ds).length ≤ (utf8Bytes cs).length) : cs = ds := by
  induction sub with
  | slnil => rfl
  | cons c sub ih =>
    have positive := length_utf8EncodeChar_pos c
    have within := length_utf8Bytes_le sub
    rw [utf8Bytes_cons, List.length_append] at same
    omega
  | cons_cons c sub ih =>
    rw [utf8Bytes_cons, utf8Bytes_cons, List.length_append, List.length_append] at same
    rw [ih (by omega)]

/-- Two hexadecimal digits do not stand in front. -/
def NoDigits (cs : List Char) : Prop :=
  ∀ a b rest, cs = a :: b :: rest → hexValue? a = none ∨ hexValue? b = none

/-- No percent sign has two hexadecimal digits behind it. -/
def Unescaped (cs : List Char) : Prop :=
  ∀ a b, ['%', a, b] <:+: cs → hexValue? a = none ∨ hexValue? b = none

theorem percentDecode_percent {cs : List Char} (noDigits : NoDigits cs) :
    percentDecode ('%' :: cs) = String.utf8EncodeChar '%' ++ percentDecode cs := by
  match cs with
  | [] => rfl
  | [a] => rfl
  | a :: b :: rest =>
    rw [percentDecode]
    rcases noDigits a b rest rfl with none | none
    · simp [none]
    · cases high : hexValue? a <;> simp [none]

/-- Without percent signs a text stands for itself. -/
theorem percentDecode_of_not_mem {cs : List Char} (plain : '%' ∉ cs) : percentDecode cs = utf8Bytes cs := by
  induction cs with
  | nil => rfl
  | cons c rest ih =>
    rw [percentDecode_cons (fun same => plain (same ▸ List.mem_cons_self)), utf8Bytes_cons,
      ih fun member => plain (List.mem_cons_of_mem _ member)]

theorem percentDecode_escape {a b : Char} {high low : Nat} (isHigh : hexValue? a = some high)
    (isLow : hexValue? b = some low) (rest : List Char) :
    percentDecode ('%' :: a :: b :: rest) = UInt8.ofNat (high * 16 + low) :: percentDecode rest := by
  rw [percentDecode, isHigh, isLow]

/-- The cases of a text that is decoded: an escape, a percent sign that begins none, and any other character. -/
theorem escape_induction {motive : List Char → Prop} (nil : motive [])
    (escape : ∀ a b rest high low, hexValue? a = some high → hexValue? b = some low → motive rest →
      motive ('%' :: a :: b :: rest))
    (percent : ∀ rest, NoDigits rest → motive rest → motive ('%' :: rest))
    (other : ∀ c rest, c ≠ '%' → motive rest → motive (c :: rest)) (cs : List Char) : motive cs := by
  induction length : cs.length using Nat.strongRecOn generalizing cs with
  | ind n ih =>
    subst length
    cases cs with
    | nil => exact nil
    | cons c rest =>
      by_cases isPercent : c = '%'
      · subst isPercent
        by_cases noDigits : NoDigits rest
        · exact percent rest noDigits (ih _ (Nat.lt_succ_self _) rest rfl)
        · simp only [NoDigits, not_forall, not_or] at noDigits
          obtain ⟨a, b, behind, rfl, digit, digit'⟩ := noDigits
          obtain ⟨high, isHigh⟩ := Option.ne_none_iff_exists'.mp digit
          obtain ⟨low, isLow⟩ := Option.ne_none_iff_exists'.mp digit'
          exact escape a b behind high low isHigh isLow (ih _ (by simp only [List.length_cons]; omega) behind rfl)
      · exact other c rest isPercent (ih _ (Nat.lt_succ_self _) rest rfl)

theorem length_percentDecode_le (cs : List Char) : (percentDecode cs).length ≤ (utf8Bytes cs).length := by
  induction cs using escape_induction with
  | nil => exact Nat.le_refl _
  | escape a b rest high low isHigh isLow ih =>
    have positive := length_utf8EncodeChar_pos '%'
    rw [percentDecode_escape isHigh isLow]
    simp only [utf8Bytes_cons, List.length_append, List.length_cons]
    omega
  | percent rest noDigits ih =>
    rw [percentDecode_percent noDigits, utf8Bytes_cons, List.length_append, List.length_append]
    omega
  | other c rest isOther ih =>
    rw [percentDecode_cons isOther, utf8Bytes_cons, List.length_append, List.length_append]
    omega

theorem unescaped_nil : Unescaped [] := by
  intro a b inside
  cases List.infix_nil.mp inside

theorem unescaped_cons_iff {c : Char} {rest : List Char} :
    Unescaped (c :: rest) ↔ (c = '%' → NoDigits rest) ∧ Unescaped rest := by
  constructor
  · intro unescaped
    refine ⟨?_, fun a b inside => unescaped a b (List.infix_cons inside)⟩
    rintro rfl a b behind rfl
    exact unescaped a b ⟨[], behind, rfl⟩
  · rintro ⟨first, later⟩ a b inside
    rcases List.infix_cons_iff.mp inside with ⟨behind, same⟩ | inside
    · injection same with mark behind'
      exact first mark.symm a b behind behind'.symm
    · exact later a b inside

/-- An escape stands for fewer bytes than it is written with. -/
theorem length_percentDecode_lt {cs : List Char} (escaped : ¬ Unescaped cs) :
    (percentDecode cs).length < (utf8Bytes cs).length := by
  induction cs using escape_induction with
  | nil => exact absurd unescaped_nil escaped
  | escape a b rest high low isHigh isLow ih =>
    have shorter := length_percentDecode_le rest
    have first := length_utf8EncodeChar_pos '%'
    have second := length_utf8EncodeChar_pos a
    rw [percentDecode_escape isHigh isLow]
    simp only [utf8Bytes_cons, List.length_append, List.length_cons]
    omega
  | percent rest noDigits ih =>
    have shorter := ih fun unescaped => escaped (unescaped_cons_iff.mpr ⟨fun _ => noDigits, unescaped⟩)
    rw [percentDecode_percent noDigits, utf8Bytes_cons, List.length_append, List.length_append]
    omega
  | other c rest isOther ih =>
    have shorter := ih fun unescaped =>
      escaped (unescaped_cons_iff.mpr ⟨fun isPercent => absurd isPercent isOther, unescaped⟩)
    rw [percentDecode_cons isOther, utf8Bytes_cons, List.length_append, List.length_append]
    omega

/-- A text stands for itself just if there is no escape in it. -/
theorem percentDecode_eq_iff {cs : List Char} : percentDecode cs = utf8Bytes cs ↔ Unescaped cs := by
  constructor
  · intro same
    refine Classical.byContradiction fun escaped => ?_
    exact absurd (congrArg List.length same) (Nat.ne_of_lt (length_percentDecode_lt escaped))
  · intro unescaped
    induction cs using escape_induction with
    | nil => rfl
    | escape a b rest high low isHigh isLow ih =>
      have noDigits := (unescaped_cons_iff.mp unescaped).1 rfl a b rest rfl
      simp [isHigh, isLow] at noDigits
    | percent rest noDigits ih =>
      rw [percentDecode_percent noDigits, utf8Bytes_cons, ih (unescaped_cons_iff.mp unescaped).2]
    | other c rest isOther ih =>
      rw [percentDecode_cons isOther, utf8Bytes_cons, ih (unescaped_cons_iff.mp unescaped).2]

/-- A set that leaves percent signs and digits alone. -/
structure SparesEscapes (set : Char → Bool) : Prop where
  percent : set '%' = false
  digit : ∀ c, hexValue? c ≠ none → set c = false

theorem percentEncode_cons (set : Char → Bool) (c : Char) (rest : List Char) :
    percentEncode set (c :: rest) = (if set c then percentBytes c else [c]) ++ percentEncode set rest :=
  List.flatMap_cons

section
variable {set : Char → Bool} (spares : SparesEscapes set)
include spares

omit spares in
/-- What is encoded begins with a percent sign, so a digit is a character that is left as it is. -/
theorem eq_of_digit_percentEncode {c x : Char} {rest more : List Char}
    (written : percentEncode set (c :: rest) = x :: more) (digit : hexValue? x ≠ none) : x = c ∧ more = percentEncode set rest := by
  rw [percentEncode_cons] at written
  split at written
  · obtain ⟨b, bytes, encoded⟩ := List.exists_cons_of_length_pos (length_utf8EncodeChar_pos c)
    rw [percentBytes, encoded] at written
    injection written with mark _
    subst mark
    exact absurd (by decide) digit
  · injection written with same behind
    exact ⟨same.symm, behind.symm⟩

omit spares in
theorem noDigits_percentEncode {cs : List Char} (noDigits : NoDigits cs) : NoDigits (percentEncode set cs) := by
  intro x y more written
  by_cases first : hexValue? x = none
  · exact .inl first
  by_cases second : hexValue? y = none
  · exact .inr second
  cases cs with
  | nil => cases written
  | cons a rest =>
    obtain ⟨rfl, behind⟩ := eq_of_digit_percentEncode written first
    cases rest with
    | nil => cases behind
    | cons b rest =>
      obtain ⟨rfl, _⟩ := eq_of_digit_percentEncode behind.symm second
      exact noDigits x y rest rfl

theorem percentEncode_percent (rest : List Char) : percentEncode set ('%' :: rest) = '%' :: percentEncode set rest := by
  rw [percentEncode_cons, spares.percent]
  rfl

theorem percentEncode_digit {c : Char} {value : Nat} (digit : hexValue? c = some value) (rest : List Char) :
    percentEncode set (c :: rest) = c :: percentEncode set rest := by
  rw [percentEncode_cons, spares.digit c (by rw [digit]; exact Option.some_ne_none _)]
  rfl

/-- Encoding changes nothing about what a text stands for. -/
theorem percentDecode_percentEncode (cs : List Char) : percentDecode (percentEncode set cs) = percentDecode cs := by
  induction cs using escape_induction with
  | nil => rfl
  | escape a b rest high low isHigh isLow ih =>
    rw [percentEncode_percent spares, percentEncode_digit spares isHigh, percentEncode_digit spares isLow,
      percentDecode_escape isHigh isLow, percentDecode_escape isHigh isLow, ih]
  | percent rest noDigits ih =>
    rw [percentEncode_percent spares, percentDecode_percent (noDigits_percentEncode noDigits),
      percentDecode_percent noDigits, ih]
  | other c rest isOther ih =>
    rw [percentEncode_cons, percentDecode_cons isOther]
    split
    · rw [percentDecode_percentBytes, ih]
    · rw [List.singleton_append, percentDecode_cons isOther, ih]

end

theorem toNat_lt_of_hexValue? {c : Char} (digit : hexValue? c ≠ none) : c.toNat < 128 := by
  have below : ∀ d : Char, c ≤ d → c.toNat ≤ d.toNat := fun d le => le
  rw [hexValue?] at digit
  split at digit
  · next range => exact Nat.lt_of_le_of_lt (below '9' range.2) (by decide)
  · split at digit
    · next range => exact Nat.lt_of_le_of_lt (below 'f' range.2) (by decide)
    · split at digit
      · next range => exact Nat.lt_of_le_of_lt (below 'F' range.2) (by decide)
      · exact absurd rfl digit

theorem sparesEscapes_inPathSet : SparesEscapes inPathSet where
  percent := by decide
  digit := by
    intro c digit
    have all : ∀ n < 128, hexValue? (Char.ofNat n) ≠ none → inPathSet (Char.ofNat n) = false := by decide +kernel
    have spared := all c.toNat (toNat_lt_of_hexValue? digit)
    rw [Char.ofNat_toNat] at spared
    exact spared digit

end CpuUsage
