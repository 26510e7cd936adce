/-! Cutting a text at the characters of a set. -/
namespace CpuUsage

/-- The parts between the characters that `p` accepts; there is always one more than there are such characters. -/
def splitParts (p : Char → Bool) : List Char → List (List Char)
  | [] => [[]]
  | c :: rest =>
    if p c then [] :: splitParts p rest
    else match splitParts p rest with
      | [] => [[c]]
      | part :: parts => (c :: part) :: parts

/-- What stands before the first `mark`, and what stands after it if there is one. -/
def splitFirst (mark : Char) (cs : List Char) : List Char × Option (List Char) :=
  match cs.dropWhile (· ≠ mark) with
  | [] => (cs, none)
  | _ :: rest => (cs.takeWhile (· ≠ mark), some rest)

/-- What stands before the last `mark`, if there is one, and what stands after it. -/
def splitLast (mark : Char) (cs : List Char) : Option (List Char) × List Char :=
  match splitFirst mark cs.reverse with
  | (after, none) => (none, after.reverse)
  | (after, some before) => (some before.reverse, after.reverse)

end CpuUsage
