import CpuUsage.Proofs.Rfc3339
import CpuUsage.Proofs.Text.Split
import CpuUsage.Style
import CpuUsage.Table
import Mathlib.Data.List.Forall2

/-! What stands on a terminal. A printable text keeps its style to the end, and in a table whose cells are of one line
every row is one line, with each cell filled up to the width of its column. -/
namespace CpuUsage

/-- ASCII characters that are seen, and blanks. -/
def IsPrintable (cs : List Char) : Prop :=
  ∀ c ∈ cs, 0x20 ≤ c.toNat ∧ c.toNat < 0x7f

instance (cs : List Char) : Decidable (IsPrintable cs) :=
  List.decidableBAll _ cs

theorem isPrintable_append {cs ds : List Char} : IsPrintable (cs ++ ds) ↔ IsPrintable cs ∧ IsPrintable ds :=
  List.forall_mem_append

theorem isPrintable_cons {c : Char} {cs : List Char} :
    IsPrintable (c :: cs) ↔ (0x20 ≤ c.toNat ∧ c.toNat < 0x7f) ∧ IsPrintable cs :=
  List.forall_mem_cons

theorem IsPrintable.append_cons {c : Char} {cs ds : List Char} (before : IsPrintable cs)
    (between : 0x20 ≤ c.toNat ∧ c.toNat < 0x7f) (behind : IsPrintable ds) : IsPrintable (cs ++ c :: ds) :=
  isPrintable_append.mpr ⟨before, isPrintable_cons.mpr ⟨between, behind⟩⟩

theorem isPrintable_toList_append {a b : String} (first : IsPrintable a.toList) (second : IsPrintable b.toList) :
    IsPrintable (a ++ b).toList := by
  rw [String.toList_append]
  exact isPrintable_append.mpr ⟨first, second⟩

theorem isPrintable_of_areDigits {cs : List Char} (digits : AreDigits cs) : IsPrintable cs := by
  intro c member
  have range := toNat_of_isDigit (digits.all c member)
  omega

theorem Binary64.isPrintable_hundredths (x : Binary64) : IsPrintable x.hundredths := by
  have sign : IsPrintable x.signText := by
    rw [signText]
    split <;> decide
  have digits (n : Nat) : IsPrintable (Nat.toDigits 10 n) := isPrintable_of_areDigits (areDigits_toDigits n)
  rw [hundredths]
  split
  · decide
  · split
    · exact isPrintable_append.mpr ⟨sign, by decide⟩
    · simp only [isPrintable_append]
      exact ⟨⟨⟨⟨sign, digits _⟩, by decide⟩, digits _⟩, digits _⟩

theorem Instant.isPrintable_plainText (t : Instant) : IsPrintable t.plainText.toList := by
  have digits (width n : Nat) : IsPrintable (padded width n) := isPrintable_of_areDigits (areDigits_padded width n)
  have year : IsPrintable (yearText t.date.year) := by
    rw [yearText]
    split
    · exact digits _ _
    · refine isPrintable_cons.mpr ⟨?_, digits _ _⟩
      split <;> decide
  have dash : 0x20 ≤ '-'.toNat ∧ '-'.toNat < 0x7f := by decide
  have colon : 0x20 ≤ ':'.toNat ∧ ':'.toNat < 0x7f := by decide
  have date : IsPrintable t.date.text := (year.append_cons dash (digits _ _)).append_cons dash (digits _ _)
  have clock : IsPrintable t.clockText := ((digits _ _).append_cons colon (digits _ _)).append_cons colon (digits _ _)
  rw [plainText, String.toList_ofList]
  exact date.append_cons (by decide) clock

namespace Style

theorem restart_eq_self (start : List Char) {cs : List Char} (unstyled : '\x1b' ∉ cs) : restart start cs = cs := by
  fun_induction restart start cs with
  | case1 rest => exact absurd List.mem_cons_self unstyled
  | case2 c rest _ ih => rw [ih fun later => unstyled (List.mem_cons_of_mem c later)]
  | case3 => rfl

theorem escape_not_mem {cs : List Char} (printable : IsPrintable cs) : '\x1b' ∉ cs := by
  intro member
  have range := (printable '\x1b' member).1
  contradiction

theorem paint_of_printable (s : Style) {text : String} (printable : IsPrintable text.toList) :
    s.paint true text = s.start ++ text ++ stop := by
  rw [paint, if_pos rfl, restart_eq_self _ (escape_not_mem printable), String.ofList_toList]

end Style

/-- ASCII characters on one line, control characters of a style included. -/
def IsOneLine (cs : List Char) : Prop :=
  ∀ c ∈ cs, c ≠ '\x0a' ∧ c.toNat < 0x80

instance (cs : List Char) : Decidable (IsOneLine cs) :=
  List.decidableBAll _ cs

theorem isOneLine_append {cs ds : List Char} : IsOneLine (cs ++ ds) ↔ IsOneLine cs ∧ IsOneLine ds :=
  List.forall_mem_append

theorem isOneLine_of_printable {cs : List Char} (printable : IsPrintable cs) : IsOneLine cs := by
  intro c member
  have range := printable c member
  refine ⟨?_, by omega⟩
  rintro rfl
  exact absurd range.1 (by decide)

theorem Width.ofText_eq_length {cs : List Char} (ascii : ∀ c ∈ cs, c.toNat < 0x80) : Width.ofText cs = cs.length := by
  have counted (n : Nat) : cs.foldl (fun n c => n + ofChar c) n = n + cs.length := by
    induction cs generalizing n with
    | nil => rfl
    | cons c rest ih =>
      obtain ⟨first, later⟩ := List.forall_mem_cons.mp ascii
      rw [List.foldl_cons, ih later, ofChar, if_pos first, List.length_cons]
      omega
  rw [ofText, counted, Nat.zero_add]

namespace Table

theorem cell_eq_singleton {text : String} (oneLine : IsOneLine text.toList) : cell text = [text.toList] := by
  rw [cell, splitParts_eq_splitOnP]
  exact List.splitOnP_eq_singleton fun c member => decide_eq_false (oneLine c member).1

theorem cellWidth_singleton {line : List Char} (oneLine : IsOneLine line) : cellWidth [line] = line.length := by
  simp [cellWidth, Width.ofText_eq_length fun c member => (oneLine c member).2]

/-- Every cell has room in its column. -/
def Fits (widths : List Nat) (row : List Cell) : Prop :=
  List.Forall₂ (fun w c => cellWidth c ≤ w) widths row

/-- The columns with room for one more row. -/
def widen (widths : List Nat) (row : List Cell) : List Nat :=
  List.zipWith (fun w c => max w (cellWidth c)) widths row

theorem Fits.widen {widths : List Nat} {row r : List Cell} (fits : Fits widths r) (even : row.length = widths.length) :
    Fits (widen widths row) r := by
  induction fits generalizing row with
  | nil => exact .nil
  | cons room _ ih =>
    cases row with
    | nil => contradiction
    | cons c row => exact .cons (Nat.le_trans room (Nat.le_max_left _ _)) (ih (Nat.succ.inj even))

theorem fits_widen {widths : List Nat} {row : List Cell} (even : row.length = widths.length) :
    Fits (widen widths row) row := by
  induction widths generalizing row with
  | nil =>
    cases List.length_eq_zero_iff.mp even
    exact .nil
  | cons w widths ih =>
    cases row with
    | nil => contradiction
    | cons c row => exact .cons (Nat.le_max_right _ _) (ih (Nat.succ.inj even))

/-- Columns never get narrower again, so what has had room keeps it. -/
theorem fits_foldl {rows : List (List Cell)} {widths : List Nat} (even : ∀ r ∈ rows, r.length = widths.length)
    {r : List Cell} (fits : Fits widths r ∨ r ∈ rows) : Fits (rows.foldl widen widths) r := by
  induction rows generalizing widths with
  | nil => exact fits.resolve_right List.not_mem_nil
  | cons row rows ih =>
    obtain ⟨first, later⟩ := List.forall_mem_cons.mp even
    have sameLength : (widen widths row).length = widths.length := by simp [widen, first]
    apply ih fun r member => (later r member).trans sameLength.symm
    rcases fits with fits | member
    · exact .inl (fits.widen first)
    · rcases List.mem_cons.mp member with rfl | member
      · exact .inl (fits_widen first)
      · exact .inr member

theorem fits_columnWidths {row : List Cell} {rows : List (List Cell)} (even : ∀ r ∈ rows, r.length = row.length) :
    ∀ r ∈ row :: rows, Fits (columnWidths (row :: rows)) r := by
  have own : Fits (row.map cellWidth) row :=
    List.forall₂_map_left_iff.mpr (List.forall₂_same.mpr fun c _ => Nat.le_refl _)
  have evenWidths : ∀ r ∈ rows, r.length = (row.map cellWidth).length := by simpa using even
  intro r member
  rcases List.mem_cons.mp member with rfl | member
  · exact fits_foldl evenWidths (.inl own)
  · exact fits_foldl evenWidths (.inr member)

end Table

/-- The texts of a row of three cells. -/
structure Row where
  first : String
  second : String
  third : String

namespace Row

def toList (r : Row) : List String :=
  [r.first, r.second, r.third]

def IsOneLine (r : Row) : Prop :=
  ∀ text ∈ r.toList, CpuUsage.IsOneLine text.toList

end Row

/-- The widths of three columns. -/
structure Columns where
  first : Nat
  second : Nat
  third : Nat

namespace Columns

def toList (w : Columns) : List Nat :=
  [w.first, w.second, w.third]

/-- Every text has room in its column. -/
structure Holds (w : Columns) (r : Row) : Prop where
  first : r.first.length ≤ w.first
  second : r.second.length ≤ w.second
  third : r.third.length ≤ w.third

def blanks (n : Nat) : String :=
  String.ofList (List.replicate n ' ')

def dashes (n : Nat) : String :=
  String.ofList (List.replicate n '─')

/-- The text with a blank on each side, filled up to the width. -/
def cellText (width : Nat) (text : String) : String :=
  " " ++ text ++ blanks (width - text.length) ++ " "

def rowText (w : Columns) (r : Row) : String :=
  "│" ++ cellText w.first r.first ++ "│" ++ cellText w.second r.second ++ "│" ++ cellText w.third r.third ++ "│"

def ruleText (w : Columns) (left mark right : String) : String :=
  left ++ dashes (w.first + 2) ++ mark ++ dashes (w.second + 2) ++ mark ++ dashes (w.third + 2) ++ right

/-- The lines of a table with this header: a rule above it, below it and below the rows. -/
def tableTexts (w : Columns) (header : Row) (rows : List Row) : List String :=
  [w.ruleText "╭" "┬" "╮", w.rowText header, w.ruleText "├" "┼" "┤"] ++ rows.map w.rowText ++
    [w.ruleText "╰" "┴" "╯"]

open Table

theorem ofList_fill {text : String} (oneLine : IsOneLine text.toList) (width : Nat) :
    String.ofList (fill width text.toList) = cellText width text := by
  have columns : Width.ofText text.toList = text.length := by
    rw [Width.ofText_eq_length fun c member => (oneLine c member).2, String.length_toList]
  apply String.toList_inj.mp
  simp [fill, cellText, blanks, columns]

theorem ofList_rowLines {r : Row} (oneLine : r.IsOneLine) (w : Columns) :
    (rowLines w.toList (r.toList.map cell)).map String.ofList = [w.rowText r] := by
  obtain ⟨a, b, c⟩ := r
  have first := oneLine a (by simp [Row.toList])
  have second := oneLine b (by simp [Row.toList])
  have third := oneLine c (by simp [Row.toList])
  have line : rowLines w.toList [[a.toList], [b.toList], [c.toList]] = ['│' :: (fill w.first a.toList ++ ['│'] ++
      (fill w.second b.toList ++ ['│'] ++ (fill w.third c.toList ++ ['│'])))] := by
    simp [rowLines, rowLine, toList, List.range_succ]
  simp only [Row.toList, List.map_cons, List.map_nil, cell_eq_singleton first, cell_eq_singleton second,
    cell_eq_singleton third]
  rw [line, List.map_singleton, rowText, ← ofList_fill first, ← ofList_fill second, ← ofList_fill third]
  congr 1
  apply String.toList_inj.mp
  simp

theorem ofList_allRowLines {rows : List Row} (oneLine : ∀ r ∈ rows, r.IsOneLine) (w : Columns) :
    (((rows.map Row.toList).map (·.map cell)).flatMap (rowLines w.toList)).map String.ofList = rows.map w.rowText := by
  induction rows with
  | nil => rfl
  | cons r rest ih =>
    obtain ⟨first, later⟩ := List.forall_mem_cons.mp oneLine
    simp only [List.map_cons, List.flatMap_cons, List.map_append, ofList_rowLines first, ih later,
      List.singleton_append]

theorem ofList_rule (w : Columns) (left mark right : Char) : String.ofList (rule left mark right w.toList) =
    w.ruleText (String.singleton left) (String.singleton mark) (String.singleton right) := by
  apply String.toList_inj.mp
  simp [rule, ruleText, toList, dashes, List.intercalate]

theorem exists_of_fits {widths : List Nat} {r : Row} (fits : Fits widths (r.toList.map cell)) :
    ∃ w : Columns, widths = w.toList := by
  obtain ⟨w₁, w₂, w₃, rfl⟩ := List.length_eq_three.mp fits.length_eq
  exact ⟨⟨w₁, w₂, w₃⟩, rfl⟩

theorem holds_of_fits {w : Columns} {r : Row} (oneLine : r.IsOneLine) (fits : Fits w.toList (r.toList.map cell)) :
    w.Holds r := by
  obtain ⟨a, b, c⟩ := r
  have width {text : String} (listed : text ∈ Row.toList ⟨a, b, c⟩) : cellWidth (cell text) = text.length := by
    have plain := oneLine text listed
    rw [cell_eq_singleton plain, cellWidth_singleton plain, String.length_toList]
  simp only [toList, Row.toList, Fits, List.map_cons, List.map_nil, List.forall₂_cons] at fits
  obtain ⟨first, second, third, _⟩ := fits
  rw [width (by simp [Row.toList])] at first second third
  exact ⟨first, second, third⟩

/-- In a table with three columns and cells of one line, every row is one line. -/
theorem exists_tableTexts {header : Row} {rows : List Row} (oneLine : ∀ r ∈ header :: rows, r.IsOneLine) :
    ∃ w : Columns, (∀ r ∈ header :: rows, w.Holds r) ∧
      (Table.lines ⟨header.toList, rows.map Row.toList⟩).map String.ofList = w.tableTexts header rows := by
  have fits : ∀ r ∈ header :: rows, Fits
      (columnWidths (header.toList.map cell :: (rows.map Row.toList).map (·.map cell))) (r.toList.map cell) := by
    intro r member
    apply fits_columnWidths
    · simp [Row.toList]
    · rcases List.mem_cons.mp member with rfl | member
      · exact List.mem_cons_self
      · exact List.mem_cons_of_mem _ (by simpa using ⟨r, member, rfl⟩)
  obtain ⟨w, widths⟩ := exists_of_fits (fits header List.mem_cons_self)
  rw [widths] at fits
  refine ⟨w, fun r member => holds_of_fits (oneLine r member) (fits r member), ?_⟩
  obtain ⟨first, later⟩ := List.forall_mem_cons.mp oneLine
  simp only [Table.lines, widths, List.map_append, List.map_singleton, ofList_rule, ofList_rowLines first,
    ofList_allRowLines later]
  rfl

end Columns
end CpuUsage
