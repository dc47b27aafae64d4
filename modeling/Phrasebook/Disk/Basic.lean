/-!
A tree of files and directories.

A node is found by its location, the names on the way from the root. The root is always a
directory.
-/

namespace Phrasebook

namespace Disk

/-- What a file holds: text, or bytes that are no text. -/
inductive Content where
  | text (s : String)
  | bytes (bs : List UInt8)
deriving DecidableEq, Repr

/-- A file or a directory, with its permission bits. -/
inductive Node where
  | file (content : Content) (mode : Nat)
  | directory (mode : Nat)
deriving DecidableEq, Repr

def Node.mode : Node → Nat
  | .file _ mode => mode
  | .directory mode => mode

def Node.isDirectory : Node → Bool
  | .file _ _ => false
  | .directory _ => true

/-- The permissions of a new file. -/
def newFileMode : Nat := 0o644

/-- The permissions of a new directory. -/
def newDirectoryMode : Nat := 0o755

/-- The names on the way from the root. -/
abbrev Location := List String

end Disk

structure Disk where
  nodes : List (Disk.Location × Disk.Node) := []
deriving DecidableEq, Repr

namespace Disk

/-- The node at a location. -/
def get? (disk : Disk) (loc : Location) : Option Node :=
  if loc = [] then some (.directory newDirectoryMode) else disk.nodes.lookup loc

/-- Replaces the node of a location in a list, or adds it at the end. -/
def setNode (loc : Location) (node : Node) : List (Location × Node) → List (Location × Node)
  | [] => [(loc, node)]
  | (l, n) :: rest => if l = loc then (l, node) :: rest else (l, n) :: setNode loc node rest

/-- Puts a node at a location. -/
def set (disk : Disk) (loc : Location) (node : Node) : Disk := ⟨setNode loc node disk.nodes⟩

theorem lookup_setNode_self (loc : Location) (node : Node) (nodes : List (Location × Node)) :
    (setNode loc node nodes).lookup loc = some node := by
  induction nodes with
  | nil => simp [setNode]
  | cons p rest ih =>
      obtain ⟨l, n⟩ := p
      by_cases h : l = loc
      · simp [setNode, h]
      · have h' : (loc == l) = false := by simpa using Ne.symm h
        simp [setNode, h, List.lookup_cons, h', ih]

theorem lookup_setNode_of_ne {loc other : Location} (h : other ≠ loc) (node : Node)
    (nodes : List (Location × Node)) :
    (setNode loc node nodes).lookup other = nodes.lookup other := by
  have h' : (other == loc) = false := by simpa using h
  induction nodes with
  | nil => simp [setNode, List.lookup_cons, h']
  | cons p rest ih =>
      obtain ⟨l, n⟩ := p
      by_cases hl : l = loc
      · subst hl
        simp [setNode, List.lookup_cons, h']
      · simp [setNode, hl, List.lookup_cons, ih]

@[simp] theorem get?_set_self (disk : Disk) {loc : Location} (h : loc ≠ []) (node : Node) :
    (disk.set loc node).get? loc = some node := by
  simp [get?, set, h, lookup_setNode_self]

/-- Putting a node somewhere leaves all other locations as they are. -/
theorem get?_set_of_ne (disk : Disk) {loc other : Location} (h : other ≠ loc) (node : Node) :
    (disk.set loc node).get? other = disk.get? other := by
  simp [get?, set, lookup_setNode_of_ne h]

/-- Takes away a location and everything below it. -/
def erase (disk : Disk) (loc : Location) : Disk :=
  ⟨disk.nodes.filter fun p => !loc.isPrefixOf p.1⟩

/-- The nodes strictly below a location, with the names on the way from there. -/
def below (disk : Disk) (loc : Location) : List (Location × Node) :=
  disk.nodes.filterMap fun (l, node) =>
    if loc.isPrefixOf l && l.length > loc.length then some (l.drop loc.length, node) else none

/-- The nodes directly below a location, by name. -/
def children (disk : Disk) (loc : Location) : List (String × Node) :=
  (disk.below loc).filterMap fun (names, node) =>
    match names with
    | [name] => some (name, node)
    | _ => none

end Disk

end Phrasebook
