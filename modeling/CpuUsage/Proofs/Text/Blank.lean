import CpuUsage.Proofs.Text.Digits
import CpuUsage.Text.Blank

/-! Trimming. What is left of a text begins and ends with no blank, and blanks around the text do not change it. -/
namespace CpuUsage

/-- Neither the first nor the last character is a blank. -/
structure Trimmed (cs : List Char) : Prop where
  first : Stops isBlank cs
  last : Stops isBlank cs.reverse

def AreBlanks (cs : List Char) : Prop :=
  ∀ c ∈ cs, isBlank c = true

theorem AreBlanks.append {cs ds : List Char} (first : AreBlanks cs) (second : AreBlanks ds) : AreBlanks (cs ++ ds) :=
  List.forall_mem_append.mpr ⟨first, second⟩

theorem AreBlanks.reverse {cs : List Char} (blanks : AreBlanks cs) : AreBlanks cs.reverse :=
  fun c member => blanks c (List.mem_reverse.mp member)

theorem stops_dropBlanks (cs : List Char) : Stops isBlank (dropBlanks cs) := by
  intro c first
  have stopped := List.head?_dropWhile_not isBlank cs
  rwa [show (cs.dropWhile isBlank).head? = some c from first] at stopped

theorem exists_append_dropBlanks (cs : List Char) : ∃ before, AreBlanks before ∧ cs = before ++ dropBlanks cs :=
  ⟨cs.takeWhile isBlank, List.all_eq_true.mp List.all_takeWhile, List.takeWhile_append_dropWhile.symm⟩

theorem dropBlanks_append {before cs : List Char} (blanks : AreBlanks before) (stops : Stops isBlank cs) :
    dropBlanks (before ++ cs) = cs :=
  dropWhile_append_of_stops blanks stops

theorem exists_dropBlanks_eq (cs : List Char) : ∃ after, AreBlanks after ∧ dropBlanks cs = trimBlanks cs ++ after := by
  obtain ⟨after, blanks, split⟩ := exists_append_dropBlanks (dropBlanks cs).reverse
  exact ⟨after.reverse, blanks.reverse, by rw [trimBlanks, ← List.reverse_append, ← split, List.reverse_reverse]⟩

/-- What is trimmed off are blanks on both sides. -/
theorem exists_append_trimBlanks (cs : List Char) :
    ∃ before after, AreBlanks before ∧ AreBlanks after ∧ cs = before ++ trimBlanks cs ++ after := by
  obtain ⟨before, blanks, split⟩ := exists_append_dropBlanks cs
  obtain ⟨after, blanks', behind⟩ := exists_dropBlanks_eq cs
  refine ⟨before, after, blanks, blanks', ?_⟩
  rw [List.append_assoc, ← behind]
  exact split

theorem trimmed_trimBlanks (cs : List Char) : Trimmed (trimBlanks cs) where
  first := by
    obtain ⟨after, _, behind⟩ := exists_dropBlanks_eq cs
    intro c first
    apply stops_dropBlanks cs
    rw [behind, List.head?_append, first]
    rfl
  last := by
    rw [trimBlanks, List.reverse_reverse]
    exact stops_dropBlanks _

theorem trimBlanks_append {before cs after : List Char} (blanks : AreBlanks before) (blanks' : AreBlanks after)
    (trimmed : Trimmed cs) : trimBlanks (before ++ cs ++ after) = cs := by
  cases cs with
  | nil =>
    have all : AreBlanks (before ++ [] ++ after) := by simpa using blanks.append blanks'
    have none : dropBlanks (before ++ [] ++ after) = [] := by
      simpa using dropBlanks_append all (stops_nil isBlank)
    rw [trimBlanks, none]
    rfl
  | cons c rest =>
    have stops : Stops isBlank (c :: rest ++ after) := stops_cons.mpr (stops_cons.mp trimmed.first)
    rw [trimBlanks, List.append_assoc, dropBlanks_append blanks stops, List.reverse_append,
      dropBlanks_append blanks'.reverse trimmed.last, List.reverse_reverse]

theorem Trimmed.trimBlanks_eq {cs : List Char} (trimmed : Trimmed cs) : trimBlanks cs = cs := by
  have none : AreBlanks [] := by simp [AreBlanks]
  simpa using trimBlanks_append none none trimmed

/-- Blanks around a text are trimmed off with its own. -/
theorem trimBlanks_surrounded {before after : List Char} (blanks : AreBlanks before) (blanks' : AreBlanks after)
    (cs : List Char) : trimBlanks (before ++ cs ++ after) = trimBlanks cs := by
  obtain ⟨inner, inner', innerBlanks, innerBlanks', split⟩ := exists_append_trimBlanks cs
  have outer := trimBlanks_append (blanks.append innerBlanks) (innerBlanks'.append blanks') (trimmed_trimBlanks cs)
  rw [← outer]
  congr 1
  conv => lhs; rw [split]
  simp only [List.append_assoc]

theorem trimBlanks_eq_nil_iff {cs : List Char} : trimBlanks cs = [] ↔ AreBlanks cs := by
  obtain ⟨before, after, blanks, blanks', split⟩ := exists_append_trimBlanks cs
  constructor
  · intro none
    rw [split, none, List.append_nil]
    exact blanks.append blanks'
  · intro all
    have none : dropBlanks cs = [] := by simpa using dropBlanks_append all (stops_nil isBlank)
    rw [trimBlanks, none]
    rfl

end CpuUsage
