import CpuUsage.Proofs.Json.Number
import CpuUsage.Proofs.Json.Text

/-! The grammar of documents, and that a text of the grammar is read as the document that it spells. Blanks may stand
around every item, name and value; what is written without blanks is one of these texts. -/
namespace CpuUsage.Json

def Blanks (cs : List Char) : Prop :=
  ∀ c ∈ cs, isJsonBlank c = true

mutual
/-- A text that spells a document, without blanks around it. -/
inductive Spells : Json → List Char → Prop where
  | null : Spells .null ['n', 'u', 'l', 'l']
  | true : Spells (.bool true) ['t', 'r', 'u', 'e']
  | false : Spells (.bool false) ['f', 'a', 'l', 's', 'e']
  | number {n : Numeral} : n.WellFormed → Spells (.number n) n.write
  | string {s : List Piece} : (∀ p ∈ s, p.WellFormed) → Spells (.string s) (writeLiteral s)
  | noItems {b : List Char} : Blanks b → Spells (.array []) ('[' :: (b ++ [']']))
  | array {items : List Json} {cs : List Char} : SpellsItems items cs → Spells (.array items) ('[' :: (cs ++ [']']))
  | noMembers {b : List Char} : Blanks b → Spells (.object []) ('\x7b' :: (b ++ ['\x7d']))
  | object {members : List (List Piece × Json)} {cs : List Char} : SpellsMembers members cs →
      Spells (.object members) ('\x7b' :: (cs ++ ['\x7d']))

/-- One item or more, up to the bracket that closes the array. -/
inductive SpellsItems : List Json → List Char → Prop where
  | last {item : Json} {b cs b' : List Char} : Blanks b → Spells item cs → Blanks b' →
      SpellsItems [item] (b ++ (cs ++ b'))
  | more {item : Json} {items : List Json} {b cs b' cs' : List Char} : Blanks b → Spells item cs → Blanks b' →
      SpellsItems items cs' → SpellsItems (item :: items) (b ++ (cs ++ (b' ++ ',' :: cs')))

/-- One member or more, up to the brace that closes the object. -/
inductive SpellsMembers : List (List Piece × Json) → List Char → Prop where
  | last {name : List Piece} {value : Json} {b b₁ b₂ cs b' : List Char} : (∀ p ∈ name, p.WellFormed) → Blanks b →
      Blanks b₁ → Blanks b₂ → Spells value cs → Blanks b' →
      SpellsMembers [(name, value)] (b ++ (writeLiteral name ++ (b₁ ++ ':' :: (b₂ ++ (cs ++ b')))))
  | more {name : List Piece} {value : Json} {members : List (List Piece × Json)} {b b₁ b₂ cs b' cs' : List Char} :
      (∀ p ∈ name, p.WellFormed) → Blanks b → Blanks b₁ → Blanks b₂ → Spells value cs → Blanks b' →
      SpellsMembers members cs' →
      SpellsMembers ((name, value) :: members)
        (b ++ (writeLiteral name ++ (b₁ ++ ':' :: (b₂ ++ (cs ++ (b' ++ ',' :: cs'))))))
end

theorem skipJsonBlanks_append {b : List Char} (blanks : Blanks b) (cs : List Char) :
    skipJsonBlanks (b ++ cs) = skipJsonBlanks cs :=
  List.dropWhile_append_of_pos blanks

theorem skipJsonBlanks_cons {c : Char} (notBlank : isJsonBlank c = false) (cs : List Char) :
    skipJsonBlanks (c :: cs) = c :: cs := by
  simp [skipJsonBlanks, notBlank]

theorem skipJsonBlanks_idem (cs : List Char) : skipJsonBlanks (skipJsonBlanks cs) = skipJsonBlanks cs := by
  induction cs with
  | nil => rfl
  | cons c rest ih =>
    cases blank : isJsonBlank c with
    | true => simpa [skipJsonBlanks, blank] using ih
    | false => rw [skipJsonBlanks_cons blank, skipJsonBlanks_cons blank]

/-- What a document begins with is no blank and closes no array. -/
theorem exists_cons_of_spells {doc : Json} {cs : List Char} (spells : Spells doc cs) :
    ∃ c cs', cs = c :: cs' ∧ isJsonBlank c = false ∧ c ≠ ']' := by
  cases spells with
  | null | true | false | string | noItems | array | noMembers | object => exact ⟨_, _, rfl, by decide, by decide⟩
  | number wf =>
    obtain ⟨c, cs', same, start⟩ := Numeral.exists_cons_write wf
    refine ⟨c, cs', same, ?_⟩
    rcases start with rfl | digit
    · decide
    · have plain : isJsonBlank c = false := by
        simp only [isJsonBlank, Bool.or_eq_false_iff, decide_eq_false_iff_not]
        refine ⟨⟨⟨?_, ?_⟩, ?_⟩, ?_⟩ <;> (rintro rfl; contradiction)
      refine ⟨plain, ?_⟩
      rintro rfl
      contradiction

theorem readValue?_append {b : List Char} (blanks : Blanks b) (fuel : Nat) (cs : List Char) :
    readValue? fuel (b ++ cs) = readValue? fuel cs := by
  cases fuel with
  | zero => rfl
  | succ fuel => rw [readValue?, readValue?, skipJsonBlanks_append blanks]

theorem readValue?_skipJsonBlanks (fuel : Nat) (cs : List Char) :
    readValue? fuel (skipJsonBlanks cs) = readValue? fuel cs := by
  cases fuel with
  | zero => rfl
  | succ fuel => rw [readValue?, readValue?, skipJsonBlanks_idem]

theorem readItems?_skipJsonBlanks (fuel : Nat) (cs : List Char) :
    readItems? fuel (skipJsonBlanks cs) = readItems? fuel cs := by
  cases fuel with
  | zero => rfl
  | succ fuel => rw [readItems?, readItems?, readValue?_skipJsonBlanks]

theorem readMembers?_skipJsonBlanks (fuel : Nat) (cs : List Char) :
    readMembers? fuel (skipJsonBlanks cs) = readMembers? fuel cs := by
  cases fuel with
  | zero => rfl
  | succ fuel => rw [readMembers?, readMembers?, skipJsonBlanks_idem]

theorem readValue?_numeral {c : Char} (start : c = '-' ∨ isDigit c = true) (notBlank : isJsonBlank c = false)
    (fuel : Nat) (cs : List Char) :
    readValue? (fuel + 1) (c :: cs) = (readNumeral? (c :: cs)).map fun (n, rest) => (.number n, rest) := by
  rw [readValue?, skipJsonBlanks_cons notBlank]
  split
  iterate 6
    · next same =>
      cases same
      rcases start with other | other <;> contradiction
  · rfl

theorem readValue?_bracket (fuel : Nat) (cs : List Char) :
    readValue? (fuel + 1) ('[' :: cs) = match skipJsonBlanks cs with
      | ']' :: rest => some (.array [], rest)
      | rest => (readItems? fuel rest).map fun (items, rest) => (.array items, rest) := by
  rw [readValue?, skipJsonBlanks_cons (by decide)]
  rfl

theorem readValue?_brace (fuel : Nat) (cs : List Char) :
    readValue? (fuel + 1) ('\x7b' :: cs) = match skipJsonBlanks cs with
      | '\x7d' :: rest => some (.object [], rest)
      | rest => (readMembers? fuel rest).map fun (members, rest) => (.object members, rest) := by
  rw [readValue?, skipJsonBlanks_cons (by decide)]
  rfl

theorem readValue?_array {cs : List Char} (unclosed : ∀ rest, skipJsonBlanks cs ≠ ']' :: rest) (fuel : Nat) :
    readValue? (fuel + 1) ('[' :: cs) = (readItems? fuel cs).map fun (items, rest) => (.array items, rest) := by
  rw [readValue?_bracket]
  split
  · next rest same => exact absurd same (unclosed rest)
  · rw [readItems?_skipJsonBlanks]

theorem readValue?_object {cs : List Char} (unclosed : ∀ rest, skipJsonBlanks cs ≠ '\x7d' :: rest) (fuel : Nat) :
    readValue? (fuel + 1) ('\x7b' :: cs) = (readMembers? fuel cs).map fun (members, rest) => (.object members, rest) := by
  rw [readValue?_brace]
  split
  · next rest same => exact absurd same (unclosed rest)
  · rw [readMembers?_skipJsonBlanks]

theorem unclosed_of_spellsItems {items : List Json} {cs : List Char} (spells : SpellsItems items cs)
    (tail rest : List Char) : skipJsonBlanks (cs ++ tail) ≠ ']' :: rest := by
  have begun {b cs after : List Char} {item : Json} (blanks : Blanks b) (spells : Spells item cs) :
      skipJsonBlanks (b ++ (cs ++ after)) ≠ ']' :: rest := by
    obtain ⟨c, cs', rfl, notBlank, notClosed⟩ := exists_cons_of_spells spells
    rw [skipJsonBlanks_append blanks, List.cons_append, skipJsonBlanks_cons notBlank]
    exact fun same => notClosed (List.cons.inj same).1
  cases spells with
  | last blanks item => simpa only [List.append_assoc] using begun blanks item
  | more blanks item => simpa only [List.append_assoc] using begun blanks item

theorem unclosed_of_spellsMembers {members : List (List Piece × Json)} {cs : List Char}
    (spells : SpellsMembers members cs) (tail rest : List Char) : skipJsonBlanks (cs ++ tail) ≠ '\x7d' :: rest := by
  have begun {b after : List Char} {name : List Piece} (blanks : Blanks b) :
      skipJsonBlanks (b ++ (writeLiteral name ++ after)) ≠ '\x7d' :: rest := by
    rw [skipJsonBlanks_append blanks, writeLiteral, List.cons_append, List.cons_append, skipJsonBlanks_cons (by decide)]
    exact fun same => absurd (List.cons.inj same).1 (by decide)
  cases spells with
  | last _ blanks => simpa only [List.append_assoc] using begun blanks
  | more _ blanks => simpa only [List.append_assoc] using begun blanks

theorem continuesNumeral_of_blank {c : Char} (blank : isJsonBlank c = true) : continuesNumeral c = false := by
  simp only [isJsonBlank, Bool.or_eq_true, decide_eq_true_eq] at blank
  rcases blank with ((rfl | rfl) | rfl) | rfl <;> decide

theorem stops_append {b rest : List Char} (blanks : Blanks b) (stops : Stops continuesNumeral rest) :
    Stops continuesNumeral (b ++ rest) := by
  cases b with
  | nil => exact stops
  | cons c b => exact stops_cons.mpr (continuesNumeral_of_blank (blanks c List.mem_cons_self))

theorem stops_append_cons {b : List Char} (blanks : Blanks b) {c : Char} (ends : continuesNumeral c = false)
    (rest : List Char) : Stops continuesNumeral (b ++ c :: rest) :=
  stops_append blanks (stops_cons.mpr ends)

theorem readItems?_last {item : Json} {fuel : Nat} {cs b rest : List Char}
    (read : readValue? fuel cs = some (item, b ++ ']' :: rest)) (blanks : Blanks b) :
    readItems? (fuel + 1) cs = some ([item], rest) := by
  simp only [readItems?, read, Option.bind_eq_bind, Option.bind_some, skipJsonBlanks_append blanks]
  rfl

theorem readItems?_more {item : Json} {items : List Json} {fuel : Nat} {cs b rest rest' : List Char}
    (read : readValue? fuel cs = some (item, b ++ ',' :: rest)) (blanks : Blanks b)
    (later : readItems? fuel rest = some (items, rest')) :
    readItems? (fuel + 1) cs = some (item :: items, rest') := by
  simp only [readItems?, read, Option.bind_eq_bind, Option.bind_some, skipJsonBlanks_append blanks]
  change (readItems? fuel rest).bind _ = _
  rw [later]
  rfl

theorem readMembers?_name {name : List Piece} (wf : ∀ p ∈ name, p.WellFormed) {b b' : List Char} (blanks : Blanks b)
    (blanks' : Blanks b') (fuel : Nat) (cs : List Char) :
    readMembers? (fuel + 1) (b ++ (writeLiteral name ++ (b' ++ ':' :: cs))) = (do
      let (value, rest) ← readValue? fuel cs
      match skipJsonBlanks rest with
      | '\x7d' :: rest => return ([(name, value)], rest)
      | ',' :: rest =>
        let (members, rest) ← readMembers? fuel rest
        return ((name, value) :: members, rest)
      | _ => none) := by
  have literal : readLiteral? (name.flatMap Piece.write ++ '\x22' :: (b' ++ ':' :: cs)) = some (name, b' ++ ':' :: cs) :=
    readLiteral?_append wf _
  have begun : skipJsonBlanks (b ++ (writeLiteral name ++ (b' ++ ':' :: cs))) =
      '\x22' :: (name.flatMap Piece.write ++ '\x22' :: (b' ++ ':' :: cs)) := by
    rw [skipJsonBlanks_append blanks, writeLiteral, List.cons_append, List.cons_append, List.append_assoc,
      skipJsonBlanks_cons (by decide)]
    rfl
  rw [readMembers?, begun]
  change (readLiteral? _).bind _ = _
  rw [literal]
  simp only [Option.bind_some, skipJsonBlanks_append blanks']
  rfl

theorem readMembers?_last {name : List Piece} (wf : ∀ p ∈ name, p.WellFormed) {value : Json} {fuel : Nat}
    {b b' b'' cs rest : List Char} (blanks : Blanks b) (blanks' : Blanks b')
    (read : readValue? fuel cs = some (value, b'' ++ '\x7d' :: rest)) (blanks'' : Blanks b'') :
    readMembers? (fuel + 1) (b ++ (writeLiteral name ++ (b' ++ ':' :: cs))) = some ([(name, value)], rest) := by
  simp only [readMembers?_name wf blanks blanks', read, Option.bind_eq_bind, Option.bind_some,
    skipJsonBlanks_append blanks'']
  rfl

theorem readMembers?_more {name : List Piece} (wf : ∀ p ∈ name, p.WellFormed) {value : Json}
    {members : List (List Piece × Json)} {fuel : Nat} {b b' b'' cs rest rest' : List Char} (blanks : Blanks b)
    (blanks' : Blanks b') (read : readValue? fuel cs = some (value, b'' ++ ',' :: rest)) (blanks'' : Blanks b'')
    (later : readMembers? fuel rest = some (members, rest')) :
    readMembers? (fuel + 1) (b ++ (writeLiteral name ++ (b' ++ ':' :: cs))) = some ((name, value) :: members, rest') := by
  simp only [readMembers?_name wf blanks blanks', read, Option.bind_eq_bind, Option.bind_some,
    skipJsonBlanks_append blanks'']
  change (readMembers? fuel rest).bind _ = _
  rw [later]
  rfl

theorem length_pos_of_spells {doc : Json} {cs : List Char} (spells : Spells doc cs) : 0 < cs.length := by
  obtain ⟨c, cs', rfl, _⟩ := exists_cons_of_spells spells
  exact Nat.succ_pos _

mutual
/-- A text of the grammar is read as what it spells, with as many steps as its length allows. -/
theorem readValue?_spells {doc : Json} {cs : List Char} : Spells doc cs → ∀ (fuel : Nat) (rest : List Char),
    2 * cs.length ≤ fuel → Stops continuesNumeral rest → readValue? fuel (cs ++ rest) = some (doc, rest)
  | spells, 0, rest, enough, _ => by
    have := length_pos_of_spells spells
    omega
  | .null, fuel + 1, rest, _, _ => by
    rw [readValue?, List.cons_append, skipJsonBlanks_cons (by decide)]
    rfl
  | .true, fuel + 1, rest, _, _ => by
    rw [readValue?, List.cons_append, skipJsonBlanks_cons (by decide)]
    rfl
  | .false, fuel + 1, rest, _, _ => by
    rw [readValue?, List.cons_append, skipJsonBlanks_cons (by decide)]
    rfl
  | .number wf, fuel + 1, rest, _, stops => by
    obtain ⟨c, cs, same, notBlank, _⟩ := exists_cons_of_spells (.number wf)
    obtain ⟨c', cs', same', start⟩ := Numeral.exists_cons_write wf
    cases same.symm.trans same'
    have read := Numeral.readNumeral?_write wf stops
    rw [same, List.cons_append] at read ⊢
    rw [readValue?_numeral start notBlank, read, Option.map_some]
  | @Spells.string s wf, fuel + 1, rest, _, _ => by
    have literal := readLiteral?_append wf rest
    rw [readValue?, writeLiteral, List.cons_append, List.cons_append, List.append_assoc, skipJsonBlanks_cons (by decide)]
    change (readLiteral? (s.flatMap Piece.write ++ '\x22' :: rest)).map _ = _
    rw [literal, Option.map_some]
  | .noItems blanks, fuel + 1, rest, _, _ => by
    rw [List.cons_append, List.append_assoc, readValue?_bracket, skipJsonBlanks_append blanks]
    rfl
  | .array spells, fuel + 1, rest, enough, _ => by
    simp only [List.length_cons, List.length_append] at enough
    have read := readItems?_spells spells fuel rest (by omega)
    rw [List.cons_append, List.append_assoc, readValue?_array (unclosed_of_spellsItems spells _)]
    exact (congrArg _ read).trans rfl
  | .noMembers blanks, fuel + 1, rest, _, _ => by
    rw [List.cons_append, List.append_assoc, readValue?_brace, skipJsonBlanks_append blanks]
    rfl
  | .object spells, fuel + 1, rest, enough, _ => by
    simp only [List.length_cons, List.length_append] at enough
    have read := readMembers?_spells spells fuel rest (by omega)
    rw [List.cons_append, List.append_assoc, readValue?_object (unclosed_of_spellsMembers spells _)]
    exact (congrArg _ read).trans rfl

theorem readItems?_spells {items : List Json} {cs : List Char} : SpellsItems items cs →
    ∀ (fuel : Nat) (rest : List Char), 2 * cs.length < fuel →
    readItems? fuel (cs ++ ']' :: rest) = some (items, rest)
  | .last before item after, fuel + 1, rest, enough => by
    simp only [List.length_append] at enough
    have read := readValue?_spells item fuel _ (by omega) (stops_append_cons after (c := ']') (by decide) rest)
    rw [← readValue?_append before] at read
    simp only [List.append_assoc]
    exact readItems?_last read after
  | @SpellsItems.more _ _ _ _ _ cs' before item after items, fuel + 1, rest, enough => by
    simp only [List.length_append, List.length_cons] at enough
    have read := readValue?_spells item fuel _ (by omega)
      (stops_append_cons after (c := ',') (by decide) (cs' ++ ']' :: rest))
    have later := readItems?_spells items fuel rest (by omega)
    rw [← readValue?_append before] at read
    simp only [List.append_assoc, List.cons_append]
    exact readItems?_more read after later

theorem readMembers?_spells {members : List (List Piece × Json)} {cs : List Char} : SpellsMembers members cs →
    ∀ (fuel : Nat) (rest : List Char), 2 * cs.length < fuel →
    readMembers? fuel (cs ++ '\x7d' :: rest) = some (members, rest)
  | .last wf before around around' value after, fuel + 1, rest, enough => by
    simp only [List.length_append, List.length_cons] at enough
    have read := readValue?_spells value fuel _ (by omega) (stops_append_cons after (c := '\x7d') (by decide) rest)
    rw [← readValue?_append around'] at read
    simp only [List.append_assoc, List.cons_append]
    exact readMembers?_last wf before around read after
  | @SpellsMembers.more _ _ _ _ _ _ _ _ cs' wf before around around' value after members, fuel + 1, rest, enough => by
    simp only [List.length_append, List.length_cons] at enough
    have read := readValue?_spells value fuel _ (by omega)
      (stops_append_cons after (c := ',') (by decide) (cs' ++ '\x7d' :: rest))
    have later := readMembers?_spells members fuel rest (by omega)
    rw [← readValue?_append around'] at read
    simp only [List.append_assoc, List.cons_append]
    exact readMembers?_more wf before around read after later
end

/-- A text that spells a document, with blanks around it, is read as that document. -/
theorem read?_of_spells {doc : Json} {b cs b' : List Char} (before : Blanks b) (spells : Spells doc cs)
    (after : Blanks b') : read? (String.ofList (b ++ (cs ++ b'))) = some doc := by
  have ends : Stops continuesNumeral b' := by simpa using stops_append after (stops_nil _)
  have enough : 2 * cs.length ≤ 2 * (b ++ (cs ++ b')).length + 2 := by
    simp only [List.length_append]
    omega
  have read := readValue?_spells spells _ b' enough ends
  have blank : skipJsonBlanks b' = [] := by
    have := skipJsonBlanks_append after []
    rwa [List.append_nil] at this
  rw [← readValue?_append before] at read
  simp only [read?, String.toList_ofList, read, blank, if_true]

/-- A document whose literals are of the grammar. -/
inductive WellFormed : Json → Prop where
  | null : WellFormed .null
  | bool (b : Bool) : WellFormed (.bool b)
  | number {n : Numeral} : n.WellFormed → WellFormed (.number n)
  | string {s : List Piece} : (∀ p ∈ s, p.WellFormed) → WellFormed (.string s)
  | array {items : List Json} : (∀ item ∈ items, WellFormed item) → WellFormed (.array items)
  | object {members : List (List Piece × Json)} : (∀ m ∈ members, ∀ p ∈ m.1, p.WellFormed) →
      (∀ m ∈ members, WellFormed m.2) → WellFormed (.object members)

theorem blanks_nil : Blanks [] :=
  fun _ member => absurd member List.not_mem_nil

theorem spellsItems_write {item : Json} {items : List Json} (each : ∀ i ∈ item :: items, Spells i i.write) :
    SpellsItems (item :: items) (writeItems (item :: items)) := by
  induction items generalizing item with
  | nil => simpa [writeItems] using SpellsItems.last blanks_nil (each item List.mem_cons_self) blanks_nil
  | cons next items ih =>
    have later := ih fun i member => each i (List.mem_cons_of_mem _ member)
    exact .more blanks_nil (each item List.mem_cons_self) blanks_nil later

theorem spellsMembers_write {member : List Piece × Json} {members : List (List Piece × Json)}
    (names : ∀ m ∈ member :: members, ∀ p ∈ m.1, p.WellFormed)
    (values : ∀ m ∈ member :: members, Spells m.2 m.2.write) :
    SpellsMembers (member :: members) (writeMembers (member :: members)) := by
  induction members generalizing member with
  | nil =>
    obtain ⟨name, value⟩ := member
    have one := SpellsMembers.last (names (name, value) List.mem_cons_self) blanks_nil blanks_nil blanks_nil
      (values (name, value) List.mem_cons_self) blanks_nil
    simpa [writeMembers, writeMember] using one
  | cons next members ih =>
    obtain ⟨name, value⟩ := member
    have later := ih (fun m member => names m (List.mem_cons_of_mem _ member))
      fun m member => values m (List.mem_cons_of_mem _ member)
    have more := SpellsMembers.more (names (name, value) List.mem_cons_self) blanks_nil blanks_nil blanks_nil
      (values (name, value) List.mem_cons_self) blanks_nil later
    simpa [writeMembers, writeMember] using more

/-- What is written without blanks spells the document. -/
theorem spells_write {doc : Json} (wf : doc.WellFormed) : Spells doc doc.write := by
  induction wf with
  | null => exact .null
  | bool b =>
    cases b with
    | true => exact .true
    | false => exact .false
  | number wf => exact .number wf
  | string wf => exact .string wf
  | @array items _ ih =>
    cases items with
    | nil => exact .noItems blanks_nil
    | cons item items => exact .array (spellsItems_write ih)
  | @object members names _ ih =>
    cases members with
    | nil => exact .noMembers blanks_nil
    | cons member members => exact .object (spellsMembers_write names ih)

theorem read?_compact {doc : Json} (wf : doc.WellFormed) : read? doc.compact = some doc := by
  simpa [compact] using read?_of_spells blanks_nil (spells_write wf) blanks_nil

theorem blanks_newLine (depth : Nat) : Blanks (newLine depth) := by
  intro c member
  rcases List.mem_cons.mp member with rfl | member
  · decide
  · rw [List.eq_of_mem_replicate member]
    decide

theorem spellsItems_indent {depth : Nat} {b : List Char} (after : Blanks b) {item : Json} {items : List Json}
    (each : ∀ i ∈ item :: items, Spells i (i.indent depth)) :
    SpellsItems (item :: items) (newLine depth ++ (indentItems depth (item :: items) ++ b)) := by
  have before := blanks_newLine depth
  induction items generalizing item with
  | nil => exact .last before (each item List.mem_cons_self) after
  | cons next items ih =>
    have later := ih fun i member => each i (List.mem_cons_of_mem _ member)
    have more := SpellsItems.more before (each item List.mem_cons_self) blanks_nil later
    simpa [indentItems] using more

theorem spellsMembers_indent {depth : Nat} {b : List Char} (after : Blanks b) {member : List Piece × Json}
    {members : List (List Piece × Json)} (names : ∀ m ∈ member :: members, ∀ p ∈ m.1, p.WellFormed)
    (values : ∀ m ∈ member :: members, Spells m.2 (m.2.indent depth)) :
    SpellsMembers (member :: members) (newLine depth ++ (indentMembers depth (member :: members) ++ b)) := by
  have before := blanks_newLine depth
  have space : Blanks [' '] := by simp [Blanks, isJsonBlank]
  induction members generalizing member with
  | nil =>
    obtain ⟨name, value⟩ := member
    have one := SpellsMembers.last (names (name, value) List.mem_cons_self) before blanks_nil space
      (values (name, value) List.mem_cons_self) after
    simpa [indentMembers, indentMember] using one
  | cons next members ih =>
    obtain ⟨name, value⟩ := member
    have later := ih (fun m member => names m (List.mem_cons_of_mem _ member))
      fun m member => values m (List.mem_cons_of_mem _ member)
    have more := SpellsMembers.more (names (name, value) List.mem_cons_self) before blanks_nil space
      (values (name, value) List.mem_cons_self) blanks_nil later
    simpa [indentMembers, indentMember] using more

/-- What is written with indentation spells the document, too. -/
theorem spells_indent {doc : Json} (wf : doc.WellFormed) (depth : Nat) : Spells doc (doc.indent depth) := by
  induction wf generalizing depth with
  | null => exact .null
  | bool b =>
    cases b with
    | true => exact .true
    | false => exact .false
  | number wf => exact .number wf
  | string wf => exact .string wf
  | @array items _ ih =>
    cases items with
    | nil => exact .noItems blanks_nil
    | cons item items =>
      have spells := spellsItems_indent (blanks_newLine depth) fun i member => ih i member (depth + 1)
      simpa [indent] using Spells.array spells
  | @object members names _ ih =>
    cases members with
    | nil => exact .noMembers blanks_nil
    | cons member members =>
      have spells := spellsMembers_indent (blanks_newLine depth) names fun m member => ih m member (depth + 1)
      simpa [indent] using Spells.object spells

/-- A document is read back from its text, with indentation or without. -/
theorem read?_pretty {doc : Json} (wf : doc.WellFormed) : read? doc.pretty = some doc := by
  simpa [pretty] using read?_of_spells blanks_nil (spells_indent wf 0) blanks_nil

end CpuUsage.Json
