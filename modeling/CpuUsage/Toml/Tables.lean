import CpuUsage.Toml.Basic

/-! Tables as they grow line by line. A table may be defined once, by a header of its own or by dotted names; a
header further down only implies the tables above it, which may still get headers of their own. -/
namespace CpuUsage.Toml

inductive Origin where
  /-- A header names it. -/
  | header
  /-- A header names something within it. -/
  | implied
  /-- Dotted names lead through it. -/
  | dotted
  deriving DecidableEq

inductive Node where
  | value (v : Toml)
  | table (origin : Origin) (entries : List (String × Node))
  /-- Tables with one name, the last one still growing. -/
  | tables (done : List (List (String × Node))) (last : List (String × Node))

abbrev Entries : Type :=
  List (String × Node)

namespace Entries

def get? (es : Entries) (name : String) : Option Node :=
  (es.find? (·.1 = name)).map (·.2)

/-- Puts a node in the place of the one with that name, or at the end. -/
def put : Entries → String → Node → Entries
  | [], name, node => [(name, node)]
  | (name', node') :: rest, name, node =>
    if name' = name then (name, node) :: rest else (name', node') :: put rest name node

end Entries

/-- Changes the entries of the table that a path leads to, making the tables on the way that are missing. What is
made, and what may be passed, depends on whether dotted names or a header walk the path. -/
def updateAt (step : Origin) (change : Origin → Entries → Option Entries) :
    List String → Origin → Entries → Option Entries
  | [], origin, es => change origin es
  | name :: path, _, es =>
    match es.get? name with
    | none => (updateAt step change path step []).map fun inner => es.put name (.table step inner)
    | some (.value _) => none
    | some (.tables done last) =>
      (updateAt step change path .header last).map fun last => es.put name (.tables done last)
    | some (.table origin inner) =>
      if step = .dotted ∧ origin = .header then none
      else (updateAt step change path origin inner).map fun inner => es.put name (.table origin inner)

/-- Adds a value under a new name. A table that was not made by dotted names is not extended by them. -/
def addValue (dotted : Bool) (name : String) (v : Toml) (origin : Origin) (es : Entries) : Option Entries :=
  if dotted ∧ origin ≠ .dotted then none
  else match es.get? name with
    | none => some (es ++ [(name, .value v)])
    | some _ => none

/-- Adds a value under dotted names, the last of which is `name`. -/
def assign (path : List String) (name : String) (v : Toml) (es : Entries) : Option Entries :=
  updateAt .dotted (addValue (path ≠ []) name v) path .header es

def openTable (name : String) (_ : Origin) (es : Entries) : Option Entries :=
  match es.get? name with
  | none => some (es.put name (.table .header []))
  | some (.table .implied inner) => some (es.put name (.table .header inner))
  | some _ => none

/-- Starts another table of those with one name. -/
def openItem (name : String) (_ : Origin) (es : Entries) : Option Entries :=
  match es.get? name with
  | none => some (es.put name (.tables [] []))
  | some (.tables done last) => some (es.put name (.tables (done ++ [last]) []))
  | some _ => none

inductive Statement where
  | pair (path : List String) (name : String) (v : Toml)
  | header (path : List String) (name : String)
  | item (path : List String) (name : String)

/-- The tables so far, and the path of the table that pairs go to. -/
structure Progress where
  root : Entries
  current : List String

def Progress.take (p : Progress) : Statement → Option Progress
  | .pair path name v =>
    (updateAt .implied (fun _ es => assign path name v es) p.current .header p.root).map fun root =>
      { p with root }
  | .header path name =>
    (updateAt .implied (openTable name) path .header p.root).map fun root => ⟨root, path ++ [name]⟩
  | .item path name =>
    (updateAt .implied (openItem name) path .header p.root).map fun root => ⟨root, path ++ [name]⟩

mutual
def Node.toToml : Node → Toml
  | .value v => v
  | .table _ entries => .table (entriesToToml entries)
  | .tables done last => .array (tablesToToml done ++ [.table (entriesToToml last)])

def entriesToToml : List (String × Node) → List (String × Toml)
  | [] => []
  | entry :: rest => entryToToml entry :: entriesToToml rest

def entryToToml : String × Node → String × Toml
  | (name, node) => (name, node.toToml)

def tablesToToml : List (List (String × Node)) → List Toml
  | [] => []
  | es :: rest => .table (entriesToToml es) :: tablesToToml rest
end

def ofStatements? (statements : List Statement) : Option (List (String × Toml)) :=
  (statements.foldlM Progress.take ⟨[], []⟩).map fun p => entriesToToml p.root

end CpuUsage.Toml
