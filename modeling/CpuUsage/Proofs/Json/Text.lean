import CpuUsage.Json.Decode
import CpuUsage.Json.Writer

/-! String literals are read as they are written, and the literal that is written for a text stands for that text. -/
namespace CpuUsage

/-- A piece of the grammar. -/
inductive Piece.WellFormed : Piece → Prop where
  | plain {c : Char} : 0x20 ≤ c.toNat → c ≠ '\x22' → c ≠ '\x5c' → WellFormed (.plain c)
  | short {mark : Char} : isShortMark mark = true → WellFormed (.short mark)
  | unit {a b c d : Char} : isHexDigit a = true → isHexDigit b = true → isHexDigit c = true → isHexDigit d = true →
      WellFormed (.unit [a, b, c, d])

theorem readLiteral?_plain {c : Char} (printable : 0x20 ≤ c.toNat) (noQuote : c ≠ '\x22') (noSlash : c ≠ '\x5c')
    (rest : List Char) :
    readLiteral? (c :: rest) = (readLiteral? rest).map fun (pieces, rest) => (.plain c :: pieces, rest) := by
  have kept : (c.toNat < 0x20 || decide (c = '\x5c')) = false := by
    simp [noSlash, printable]
  rw [readLiteral?]
  · rw [kept]
    rfl
  · exact noQuote
  · intros
    contradiction
  · intros
    contradiction

theorem readLiteral?_short {mark : Char} (known : isShortMark mark = true) (rest : List Char) :
    readLiteral? ('\x5c' :: mark :: rest) =
      (readLiteral? rest).map fun (pieces, rest) => (.short mark :: pieces, rest) := by
  have other : mark ≠ 'u' := by
    rintro rfl
    contradiction
  rw [readLiteral?, known]
  · rfl
  · intros
    contradiction

theorem readLiteral?_unit {a b c d : Char} (ha : isHexDigit a = true) (hb : isHexDigit b = true)
    (hc : isHexDigit c = true) (hd : isHexDigit d = true) (rest : List Char) :
    readLiteral? ('\x5c' :: 'u' :: a :: b :: c :: d :: rest) =
      (readLiteral? rest).map fun (pieces, rest) => (.unit [a, b, c, d] :: pieces, rest) := by
  rw [readLiteral?, ha, hb, hc, hd]
  rfl

theorem readLiteral?_write_append {p : Piece} (wf : p.WellFormed) (rest : List Char) :
    readLiteral? (p.write ++ rest) = (readLiteral? rest).map fun (pieces, rest) => (p :: pieces, rest) := by
  cases wf with
  | plain printable noQuote noSlash => exact readLiteral?_plain printable noQuote noSlash rest
  | short known => exact readLiteral?_short known rest
  | unit ha hb hc hd => exact readLiteral?_unit ha hb hc hd rest

theorem readLiteral?_append {s : List Piece} (wf : ∀ p ∈ s, p.WellFormed) (rest : List Char) :
    readLiteral? (s.flatMap Piece.write ++ '\x22' :: rest) = some (s, rest) := by
  induction s with
  | nil => rfl
  | cons p s ih =>
    have later := ih fun p member => wf p (List.mem_cons_of_mem _ member)
    rw [List.flatMap_cons, List.append_assoc, readLiteral?_write_append (wf p List.mem_cons_self), later, Option.map_some]

namespace Piece

/-- A unit that is no surrogate stands for itself, whatever follows. -/
theorem meaning?_unit {digits : List Char} (below : hexDigitsValue digits < 0xD800) (rest : List Piece) :
    meaning? (.unit digits :: rest) = (meaning? rest).map (Char.ofNat (hexDigitsValue digits) :: ·) := by
  have high : isHighSurrogate (hexDigitsValue digits) = false := by
    simp [isHighSurrogate, Nat.not_le.mpr below]
  have low : isLowSurrogate (hexDigitsValue digits) = false := by
    have : ¬ 0xDC00 ≤ hexDigitsValue digits := by omega
    simp [isLowSurrogate, this]
  cases rest with
  | nil => simp [meaning?, high, low]
  | cons p rest => cases p <;> simp [meaning?, high, low]

/-- The character is one of the seven with a short mark, a control character, or neither. -/
theorem ofChar_cases (c : Char) :
    (∃ mark, ofChar c = .short mark ∧ isShortMark mark = true ∧ shortMeaning mark = c) ∨
      (c.toNat < 0x20 ∧ ofChar c = .unit ['0', '0', lowerHexDigit (c.toNat / 16), lowerHexDigit (c.toNat % 16)]) ∨
      (0x20 ≤ c.toNat ∧ c ≠ '\x22' ∧ c ≠ '\x5c' ∧ ofChar c = .plain c) := by
  unfold ofChar
  split
  iterate 7 exact .inl ⟨_, rfl, by decide, by decide⟩
  · next noQuote noSlash _ _ _ _ _ =>
    by_cases control : c.toNat < 0x20
    · exact .inr (.inl ⟨control, if_pos control⟩)
    · exact .inr (.inr ⟨Nat.not_lt.mp control, noQuote, noSlash, if_neg control⟩)

theorem wellFormed_ofChar (c : Char) : (ofChar c).WellFormed := by
  rcases ofChar_cases c with ⟨mark, same, known, _⟩ | ⟨control, same⟩ | ⟨printable, noQuote, noSlash, same⟩
  · rw [same]
    exact .short known
  · have digits : ∀ n < 16, isHexDigit (lowerHexDigit n) = true := by decide
    rw [same]
    exact .unit (by decide) (by decide) (digits _ (by omega)) (digits _ (by omega))
  · rw [same]
    exact .plain printable noQuote noSlash

theorem meaning?_ofChar_cons (c : Char) (rest : List Piece) :
    meaning? (ofChar c :: rest) = (meaning? rest).map (c :: ·) := by
  rcases ofChar_cases c with ⟨mark, same, _, means⟩ | ⟨control, same⟩ | ⟨_, _, _, same⟩
  · rw [same, meaning?, means]
  · have spelt : ∀ n < 0x20, hexDigitsValue ['0', '0', lowerHexDigit (n / 16), lowerHexDigit (n % 16)] = n := by
      decide
    have spelt := spelt c.toNat control
    rw [same, meaning?_unit (by omega), spelt, Char.ofNat_toNat]
  · rw [same, meaning?]

/-- The literal that is written for a text stands for it. -/
theorem meaning?_map_ofChar (cs : List Char) : meaning? (cs.map ofChar) = some cs := by
  induction cs with
  | nil => rfl
  | cons c cs ih => rw [List.map_cons, meaning?_ofChar_cons, ih, Option.map_some]

end Piece

@[simp] theorem Decoder.string_ofString (s : String) : Decoder.string (.ofString s) = some s := by
  rw [Json.ofString, Decoder.string, Piece.meaning?_map_ofChar, Option.map_some, String.ofList_toList]

end CpuUsage
