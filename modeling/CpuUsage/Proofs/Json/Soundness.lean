import CpuUsage.Proofs.Json.Grammar

/-! Nothing but the grammar is read: what a reader takes from the front of a text spells what it gives, and the rest is
what it leaves. With the converse, a text is read just if it spells a document. -/
namespace CpuUsage

theorem eq_of_readDigits? {cs digits rest : List Char} (read : readDigits? cs = some (digits, rest)) :
    AreDigits digits ∧ cs = digits ++ rest := by
  simp only [readDigits?] at read
  split at read
  · contradiction
  · next nonempty =>
    cases read
    exact ⟨⟨nonempty, fun c member => List.all_eq_true.mp List.all_takeWhile c member⟩, (List.takeWhile_append_dropWhile).symm⟩

namespace Numeral

theorem eq_of_readWhole? {cs whole rest : List Char} (read : readWhole? cs = some (whole, rest)) :
    AreDigits whole ∧ (whole.head? = some '0' → whole = ['0']) ∧ cs = whole ++ rest := by
  rw [readWhole?] at read
  split at read
  · contradiction
  · next single =>
    obtain ⟨digits, same⟩ := eq_of_readDigits? read
    refine ⟨digits, ?_, same⟩
    intro zero
    cases whole with
    | nil => contradiction
    | cons c ds =>
      cases ds with
      | nil => simpa using zero
      | cons d ds =>
        cases Option.some.inj zero
        exact absurd read (single d ds rest)

theorem eq_of_readFraction? {cs rest : List Char} {fraction : Option (List Char)}
    (read : readFraction? cs = some (fraction, rest)) :
    (∀ digits ∈ fraction, AreDigits digits) ∧ cs = fractionText fraction ++ rest := by
  unfold readFraction? at read
  split at read
  · obtain ⟨⟨digits, rest'⟩, read, same⟩ := Option.map_eq_some_iff.mp read
    cases same
    obtain ⟨areDigits, rfl⟩ := eq_of_readDigits? read
    exact ⟨by simpa using areDigits, rfl⟩
  · cases read
    exact ⟨by simp, rfl⟩

theorem eq_of_readSign {cs rest : List Char} {sign : Option Char} (read : readSign cs = (sign, rest)) :
    (∀ c ∈ sign, c = '+' ∨ c = '-') ∧ cs = sign.toList ++ rest := by
  unfold readSign at read
  split at read <;> cases read <;> simp

theorem eq_of_readPower? {cs rest : List Char} {power : Option (Char × Option Char × List Char)}
    (read : readPower? cs = some (power, rest)) :
    (∀ e ∈ power, (e.1 = 'e' ∨ e.1 = 'E') ∧ (∀ c ∈ e.2.1, c = '+' ∨ c = '-') ∧ AreDigits e.2.2) ∧
      cs = powerText power ++ rest := by
  unfold readPower? at read
  split at read
  · cases read
    exact ⟨by simp, rfl⟩
  · next mark cs =>
    split at read
    · next known =>
      rcases signRead : readSign cs with ⟨sign, behind⟩
      rw [signRead] at read
      obtain ⟨⟨digits, rest'⟩, digitsRead, same⟩ := Option.map_eq_some_iff.mp read
      cases same
      obtain ⟨signs, rfl⟩ := eq_of_readSign signRead
      obtain ⟨areDigits, rfl⟩ := eq_of_readDigits? digitsRead
      refine ⟨?_, by simp [powerText]⟩
      rintro e ⟨⟩
      exact ⟨known, signs, areDigits⟩
    · cases read
      exact ⟨by simp, rfl⟩

theorem eq_of_readBehindSign {negative : Bool} {cs rest : List Char} {n : Numeral}
    (read : readBehindSign negative cs = some (n, rest)) :
    n.WellFormed ∧ (if negative then ['-'] else []) ++ cs = n.write ++ rest := by
  simp only [readBehindSign, Option.bind_eq_bind, Option.bind_eq_some_iff, Option.pure_def, Option.some.injEq] at read
  obtain ⟨⟨whole, cs'⟩, wholeRead, ⟨fraction, cs''⟩, fractionRead, ⟨power, cs'''⟩, powerRead, same⟩ := read
  cases same
  obtain ⟨digits, leading, rfl⟩ := eq_of_readWhole? wholeRead
  obtain ⟨fractionDigits, rfl⟩ := eq_of_readFraction? fractionRead
  obtain ⟨powers, rfl⟩ := eq_of_readPower? powerRead
  refine ⟨⟨digits, leading, fractionDigits, ?_, ?_, ?_⟩, ?_⟩
  · exact fun e member => (powers e member).1
  · exact fun e member => (powers e member).2.1
  · exact fun e member => (powers e member).2.2
  · rw [write_eq]
    simp only [List.append_assoc]

/-- What is read as a numeral is one, and is written as it was read. -/
theorem eq_of_readNumeral? {cs rest : List Char} {n : Numeral} (read : readNumeral? cs = some (n, rest)) :
    n.WellFormed ∧ cs = n.write ++ rest := by
  have signed : ∃ negative cs', cs = (if negative then ['-'] else []) ++ cs' ∧
      readBehindSign negative cs' = some (n, rest) := by
    cases cs with
    | nil => exact ⟨false, [], rfl, read⟩
    | cons c cs =>
      by_cases minus : c = '-'
      · subst minus
        exact ⟨true, cs, rfl, read⟩
      · rw [readNumeral?_cons minus] at read
        exact ⟨false, c :: cs, rfl, read⟩
  obtain ⟨negative, cs', rfl, behind⟩ := signed
  exact eq_of_readBehindSign behind

end Numeral

/-- A literal that is read is of the grammar, up to its closing mark. -/
theorem eq_of_readLiteral? {cs rest : List Char} {s : List Piece} (read : readLiteral? cs = some (s, rest)) :
    (∀ p ∈ s, p.WellFormed) ∧ cs = s.flatMap Piece.write ++ '\x22' :: rest := by
  fun_induction readLiteral? cs generalizing s with
  | case1 => contradiction
  | case2 rest => 
    cases read
    exact ⟨by simp, rfl⟩
  | case3 a b c d cs hex ih => 
    obtain ⟨⟨pieces, rest'⟩, later, same⟩ := Option.map_eq_some_iff.mp read
    cases same
    obtain ⟨wellFormed, rfl⟩ := ih later
    simp only [Bool.and_eq_true] at hex
    obtain ⟨⟨⟨ha, hb⟩, hc⟩, hd⟩ := hex
    exact ⟨List.forall_mem_cons.mpr ⟨.unit ha hb hc hd, wellFormed⟩, rfl⟩
  | case4 => contradiction
  | case5 mark cs _ known ih =>
    obtain ⟨⟨pieces, rest'⟩, later, same⟩ := Option.map_eq_some_iff.mp read
    cases same
    obtain ⟨wellFormed, rfl⟩ := ih later
    exact ⟨List.forall_mem_cons.mpr ⟨.short known, wellFormed⟩, rfl⟩
  | case6 => contradiction
  | case7 => contradiction
  | case8 c cs noQuote _ _ printable ih =>
    obtain ⟨⟨pieces, rest'⟩, later, same⟩ := Option.map_eq_some_iff.mp read
    cases same
    obtain ⟨wellFormed, rfl⟩ := ih later
    simp at printable
    exact ⟨List.forall_mem_cons.mpr ⟨.plain printable.1 noQuote printable.2, wellFormed⟩, rfl⟩

namespace Json

theorem eq_skipJsonBlanks (cs : List Char) : ∃ b, Blanks b ∧ cs = b ++ skipJsonBlanks cs :=
  ⟨cs.takeWhile isJsonBlank, fun c member => List.all_eq_true.mp List.all_takeWhile c member,
    (List.takeWhile_append_dropWhile).symm⟩

/-- With as many steps, what is read is of the grammar. -/
structure ReadsGrammar (fuel : Nat) : Prop where
  value : ∀ {cs doc rest}, readValue? fuel cs = some (doc, rest) →
    ∃ b t, Blanks b ∧ Spells doc t ∧ cs = b ++ (t ++ rest)
  items : ∀ {cs items rest}, readItems? fuel cs = some (items, rest) →
    ∃ t, SpellsItems items t ∧ cs = t ++ ']' :: rest
  members : ∀ {cs members rest}, readMembers? fuel cs = some (members, rest) →
    ∃ t, SpellsMembers members t ∧ cs = t ++ '\x7d' :: rest

section
variable {fuel : Nat} (grammar : ReadsGrammar fuel) {cs rest : List Char}
include grammar

theorem spells_of_bracket {doc : Json} (read : readValue? (fuel + 1) ('[' :: cs) = some (doc, rest)) :
    ∃ t, Spells doc t ∧ '[' :: cs = t ++ rest := by
  rw [readValue?_bracket] at read
  split at read
  · next closed =>
    cases read
    obtain ⟨b, blanks, same⟩ := eq_skipJsonBlanks cs
    rw [closed] at same
    exact ⟨_, .noItems blanks, by simp [same]⟩
  · obtain ⟨⟨items, rest'⟩, read, told⟩ := Option.map_eq_some_iff.mp read
    cases told
    rw [readItems?_skipJsonBlanks] at read
    obtain ⟨t, spells, rfl⟩ := grammar.items read
    exact ⟨_, .array spells, by simp⟩

theorem spells_of_brace {doc : Json} (read : readValue? (fuel + 1) ('\x7b' :: cs) = some (doc, rest)) :
    ∃ t, Spells doc t ∧ '\x7b' :: cs = t ++ rest := by
  rw [readValue?_brace] at read
  split at read
  · next closed =>
    cases read
    obtain ⟨b, blanks, same⟩ := eq_skipJsonBlanks cs
    rw [closed] at same
    exact ⟨_, .noMembers blanks, by simp [same]⟩
  · obtain ⟨⟨members, rest'⟩, read, told⟩ := Option.map_eq_some_iff.mp read
    cases told
    rw [readMembers?_skipJsonBlanks] at read
    obtain ⟨t, spells, rfl⟩ := grammar.members read
    exact ⟨_, .object spells, by simp⟩

theorem spells_of_readValue? {doc : Json} (read : readValue? (fuel + 1) cs = some (doc, rest)) :
    ∃ b t, Blanks b ∧ Spells doc t ∧ cs = b ++ (t ++ rest) := by
  obtain ⟨b, blanks, same⟩ := eq_skipJsonBlanks cs
  have begun {t : List Char} (spells : Spells doc t) (begun : skipJsonBlanks cs = t ++ rest) :
      ∃ b t, Blanks b ∧ Spells doc t ∧ cs = b ++ (t ++ rest) := by
    rw [begun] at same
    exact ⟨b, t, blanks, spells, same⟩
  rw [readValue?] at read
  split at read
  · next start =>
    cases read
    exact begun .null start
  · next start =>
    cases read
    exact begun .true start
  · next start =>
    cases read
    exact begun .false start
  · next behind start =>
    obtain ⟨⟨s, rest'⟩, literal, told⟩ := Option.map_eq_some_iff.mp read
    cases told
    obtain ⟨wellFormed, rfl⟩ := eq_of_readLiteral? literal
    exact begun (.string wellFormed) (by simp [start, writeLiteral])
  · next behind start =>
    have opened := (readValue?_bracket fuel behind).trans read
    obtain ⟨t, spells, taken⟩ := spells_of_bracket grammar opened
    exact begun spells (start.trans taken)
  · next behind start =>
    have opened := (readValue?_brace fuel behind).trans read
    obtain ⟨t, spells, taken⟩ := spells_of_brace grammar opened
    exact begun spells (start.trans taken)
  · next start =>
    obtain ⟨⟨n, rest'⟩, numeral, told⟩ := Option.map_eq_some_iff.mp read
    cases told
    obtain ⟨wellFormed, same⟩ := Numeral.eq_of_readNumeral? numeral
    exact begun (.number wellFormed) same

theorem spells_of_readItems? {items : List Json} (read : readItems? (fuel + 1) cs = some (items, rest)) :
    ∃ t, SpellsItems items t ∧ cs = t ++ ']' :: rest := by
  simp only [readItems?, Option.bind_eq_bind, Option.bind_eq_some_iff] at read
  obtain ⟨⟨item, behind⟩, first, later⟩ := read
  obtain ⟨b, t, blanks, spells, rfl⟩ := grammar.value first
  obtain ⟨b', blanks', same⟩ := eq_skipJsonBlanks behind
  simp only at later
  split at later
  · next closed =>
    cases later
    rw [closed] at same
    exact ⟨_, .last blanks spells blanks', by simp [same]⟩
  · next more =>
    obtain ⟨⟨items, rest'⟩, read, told⟩ := Option.bind_eq_some_iff.mp later
    cases told
    obtain ⟨t', spells', rfl⟩ := grammar.items read
    rw [more] at same
    exact ⟨_, .more blanks spells blanks' spells', by simp [same]⟩
  · contradiction

theorem spells_of_readMembers? {members : List (List Piece × Json)}
    (read : readMembers? (fuel + 1) cs = some (members, rest)) :
    ∃ t, SpellsMembers members t ∧ cs = t ++ '\x7d' :: rest := by
  obtain ⟨b, blanks, same⟩ := eq_skipJsonBlanks cs
  rw [readMembers?] at read
  split at read
  · next behind start =>
    simp only [Option.bind_eq_bind, Option.bind_eq_some_iff] at read
    obtain ⟨⟨name, behind⟩, literal, read⟩ := read
    obtain ⟨wellFormed, rfl⟩ := eq_of_readLiteral? literal
    obtain ⟨b₁, blanks₁, same₁⟩ := eq_skipJsonBlanks behind
    simp only at read
    split at read
    · next colon =>
      simp only [Option.bind_eq_some_iff] at read
      obtain ⟨⟨value, behind⟩, valueRead, later⟩ := read
      obtain ⟨b₂, t, blanks₂, spells, rfl⟩ := grammar.value valueRead
      obtain ⟨b', blanks', same'⟩ := eq_skipJsonBlanks behind
      rw [start] at same
      rw [colon] at same₁
      simp only at later
      split at later
      · next closed =>
        cases later
        rw [closed] at same'
        exact ⟨_, .last wellFormed blanks blanks₁ blanks₂ spells blanks', by simp [same, same₁, same', writeLiteral]⟩
      · next more =>
        obtain ⟨⟨members, rest'⟩, read, told⟩ := Option.bind_eq_some_iff.mp later
        cases told
        obtain ⟨t', spells', rfl⟩ := grammar.members read
        rw [more] at same'
        exact ⟨_, .more wellFormed blanks blanks₁ blanks₂ spells blanks' spells',
          by simp [same, same₁, same', writeLiteral]⟩
      · contradiction
    · contradiction
  · contradiction

end

theorem readsGrammar (fuel : Nat) : ReadsGrammar fuel := by
  induction fuel with
  | zero =>
    constructor
    case value => exact fun read => nomatch read
    case items => exact fun read => nomatch read
    case members => exact fun read => nomatch read
  | succ fuel ih =>
    constructor
    case value => exact spells_of_readValue? ih
    case items => exact spells_of_readItems? ih
    case members => exact spells_of_readMembers? ih

/-- A text is read as a document just if it spells that document, with blanks around it. -/
theorem read?_eq_some_iff {text : String} {doc : Json} :
    read? text = some doc ↔
      ∃ b t b', Blanks b ∧ Spells doc t ∧ Blanks b' ∧ text = String.ofList (b ++ (t ++ b')) := by
  constructor
  · intro read
    simp only [read?] at read
    split at read
    · next doc' rest valueRead =>
      split at read
      · next blank =>
        cases read
        obtain ⟨b, t, blanks, spells, same⟩ := (readsGrammar _).value valueRead
        obtain ⟨b', blanks', same'⟩ := eq_skipJsonBlanks rest
        rw [blank, List.append_nil] at same'
        subst same'
        refine ⟨b, t, rest, blanks, spells, blanks', ?_⟩
        rw [← same, String.ofList_toList]
      · contradiction
    · contradiction
  · rintro ⟨b, t, b', before, spells, after, rfl⟩
    exact read?_of_spells before spells after

mutual
theorem wellFormed_of_spells {doc : Json} {cs : List Char} : Spells doc cs → doc.WellFormed
  | .null => .null
  | .true => .bool true
  | .false => .bool false
  | .number wf => .number wf
  | .string wf => .string wf
  | .noItems _ => .array fun _ member => absurd member List.not_mem_nil
  | .array spells => .array (wellFormed_of_spellsItems spells)
  | .noMembers _ => .object (fun _ member => absurd member List.not_mem_nil)
      fun _ member => absurd member List.not_mem_nil
  | .object spells => .object (fun m member => (wellFormed_of_spellsMembers spells m member).1)
      fun m member => (wellFormed_of_spellsMembers spells m member).2

theorem wellFormed_of_spellsItems {items : List Json} {cs : List Char} :
    SpellsItems items cs → ∀ item ∈ items, item.WellFormed
  | .last _ spells _ => List.forall_mem_singleton.mpr (wellFormed_of_spells spells)
  | .more _ spells _ later =>
    List.forall_mem_cons.mpr ⟨wellFormed_of_spells spells, wellFormed_of_spellsItems later⟩

theorem wellFormed_of_spellsMembers {members : List (List Piece × Json)} {cs : List Char} :
    SpellsMembers members cs → ∀ m ∈ members, (∀ p ∈ m.1, p.WellFormed) ∧ m.2.WellFormed
  | .last wf _ _ _ spells _ => List.forall_mem_singleton.mpr ⟨wf, wellFormed_of_spells spells⟩
  | .more wf _ _ _ spells _ later =>
    List.forall_mem_cons.mpr ⟨⟨wf, wellFormed_of_spells spells⟩, wellFormed_of_spellsMembers later⟩
end

theorem wellFormed_of_read? {text : String} {doc : Json} (read : read? text = some doc) : doc.WellFormed := by
  obtain ⟨_, _, _, _, spells, _⟩ := read?_eq_some_iff.mp read
  exact wellFormed_of_spells spells

end Json
end CpuUsage
