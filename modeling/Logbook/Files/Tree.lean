import Logbook.Files.Fault
import Logbook.Files.Path
import Logbook.Time.Instant

/-!
Trees of files and directories, with the permissions of their owner. Every write stamps a file with the
time of the tree's clock. The order of the entries is the order in which a directory is listed, and nothing
else depends on it.

Left out are symbolic links, owners and sticky bits, devices that are full or fail, so that a permitted
write or removal succeeds, names that are not UTF-8, and stamps that are no `Instant`.
-/

namespace Logbook

/-- Where something stands: the names from the root down to it. -/
abbrev Location : Type := List String

structure File where
  bytes : List UInt8
  modified : Instant
  mode : Nat
deriving DecidableEq

/-- What stands at a location. -/
inductive Entry where
  | file (f : File)
  | directory (mode : Nat)
deriving DecidableEq

namespace Mode

def newFile : Nat := 0o644

def newDirectory : Nat := 0o755

/-- The owner may read a file or list a directory. -/
def canRead (mode : Nat) : Bool := mode.testBit 8

/-- The owner may write a file or change a directory's entries. -/
def canWrite (mode : Nat) : Bool := mode.testBit 7

/-- The owner may go through a directory. -/
def canEnter (mode : Nat) : Bool := mode.testBit 6

/-- Nobody may write. -/
def isReadOnly (mode : Nat) : Bool :=
  !(mode.testBit 7 || mode.testBit 4 || mode.testBit 1)

end Mode

/-- Files and directories below a root. -/
structure FileTree where
  entries : List (Location × Entry)
  /-- The time with which a write stamps a file. -/
  clock : Instant
  /-- The directory in which paths start that do not start at the root. -/
  workingDirectory : Location
  /-- Nothing stands at a location beside something else. -/
  nodup : (entries.map (·.1)).Nodup

namespace FileTree

/-- What stands at a location. The root is always there. -/
def entry? (t : FileTree) (l : Location) : Option Entry :=
  if l = [] then some (.directory Mode.newDirectory) else t.entries.lookup l

/-- Entries with one put in place of what stood at its location, or else at the end. -/
def putEntry (l : Location) (e : Entry) : List (Location × Entry) → List (Location × Entry)
  | [] => [(l, e)]
  | (m, old) :: rest => if m = l then (l, e) :: rest else (m, old) :: putEntry l e rest

theorem mem_putEntry_locations {l m : Location} {e : Entry} {entries : List (Location × Entry)}
    (h : m ∈ (putEntry l e entries).map (·.1)) : m = l ∨ m ∈ entries.map (·.1) := by
  induction entries with
  | nil => simpa [putEntry] using h
  | cons head rest ih =>
    obtain ⟨k, old⟩ := head
    rw [putEntry] at h
    split at h
    · rename_i hk
      simp only [List.map_cons, List.mem_cons] at h ⊢
      exact h.imp_right Or.inr
    · simp only [List.map_cons, List.mem_cons] at h ⊢
      rcases h with h | h
      · exact Or.inr (Or.inl h)
      · exact (ih h).imp_right Or.inr

theorem nodup_putEntry (l : Location) (e : Entry) {entries : List (Location × Entry)}
    (h : (entries.map (·.1)).Nodup) : ((putEntry l e entries).map (·.1)).Nodup := by
  induction entries with
  | nil => simp [putEntry]
  | cons head rest ih =>
    obtain ⟨k, old⟩ := head
    rw [List.map_cons, List.nodup_cons] at h
    rw [putEntry]
    split
    · rename_i hk
      subst hk
      simpa using h
    · rename_i hk
      rw [List.map_cons, List.nodup_cons]
      refine ⟨fun hm => ?_, ih h.2⟩
      rcases mem_putEntry_locations hm with rfl | hm
      · exact hk rfl
      · exact h.1 hm

def put (t : FileTree) (l : Location) (e : Entry) : FileTree :=
  { t with entries := putEntry l e t.entries, nodup := nodup_putEntry l e t.nodup }

def erase (t : FileTree) (l : Location) : FileTree :=
  { t with
    entries := t.entries.filter fun e => e.1 ≠ l
    nodup := (List.filter_sublist.map fun (e : Location × Entry) => e.1).nodup t.nodup }

/-- The tree that an operation has left, or the tree as it was if the operation has failed. -/
def orKeep (t : FileTree) : Except FileFault FileTree → FileTree
  | .ok u => u
  | .error _ => t

/-- Goes from a directory to a name in it, whether or not something stands there. -/
def step (t : FileTree) (here : Location) (name : String) : Except FileFault Location :=
  match t.entry? here with
  | none => .error .notFound
  | some (.file _) => .error .notADirectory
  | some (.directory mode) =>
    if !Mode.canEnter mode then .error .permissionDenied
    else .ok (if name = ".." then here.dropLast else here ++ [name])

def start (t : FileTree) (p : Path) : Location :=
  if p.isAbsolute then [] else t.workingDirectory

/-- The location of a path. Everything before its last name must be a directory. -/
def locate (t : FileTree) (p : Path) : Except FileFault Location :=
  if p.text.isEmpty then .error .notFound else p.names.foldlM t.step (t.start p)

def find (t : FileTree) (p : Path) : Except FileFault Entry := do
  match t.entry? (← t.locate p) with
  | some e => .ok e
  | none => .error .notFound

def contains (t : FileTree) (p : Path) : Bool :=
  match t.find p with
  | .ok _ => true
  | .error _ => false

def isDirectory (t : FileTree) (p : Path) : Bool :=
  match t.find p with
  | .ok (.directory _) => true
  | _ => false

def isFile (t : FileTree) (p : Path) : Bool :=
  match t.find p with
  | .ok (.file _) => true
  | _ => false

def read (t : FileTree) (p : Path) : Except FileFault (List UInt8) := do
  match ← t.find p with
  | .file f => if Mode.canRead f.mode then .ok f.bytes else .error .permissionDenied
  | .directory mode => .error (if Mode.canRead mode then .isADirectory else .permissionDenied)

/-- The regular files in a directory, under their names. A directory that cannot be entered shows
none. -/
def files (t : FileTree) (dir : Path) : Except FileFault (List (String × File)) := do
  let here ← t.locate dir
  match t.entry? here with
  | none => .error .notFound
  | some (.file _) => .error .notADirectory
  | some (.directory mode) =>
    if !Mode.canRead mode then .error .permissionDenied
    else if !Mode.canEnter mode then .ok []
    else .ok (t.entries.filterMap fun
      | (l, .file f) => if l.dropLast = here then l.getLast?.map (·, f) else none
      | (_, .directory _) => none)

/-- Whether entries may be added to a directory or taken from it. -/
def canChange (t : FileTree) (dir : Location) : Bool :=
  match t.entry? dir with
  | some (.directory mode) => Mode.canWrite mode && Mode.canEnter mode
  | _ => false

/-- Makes sure that a file that can be written stands at a path: one that is missing is made empty. -/
def create (t : FileTree) (p : Path) : Except FileFault (Location × File × FileTree) := do
  let l ← t.locate p
  match t.entry? l with
  | some (.directory _) => .error .isADirectory
  | some (.file f) => if Mode.canWrite f.mode then .ok (l, f, t) else .error .permissionDenied
  | none =>
    if t.canChange l.dropLast then
      let f : File := { bytes := [], modified := t.clock, mode := Mode.newFile }
      .ok (l, f, t.put l (.file f))
    else .error .permissionDenied

/-- Adds bytes at the end of the file at a path, which is made if it is missing. -/
def append (t : FileTree) (p : Path) (bytes : List UInt8) : Except FileFault FileTree := do
  let (l, f, t) ← t.create p
  .ok (t.put l (.file { f with bytes := f.bytes ++ bytes, modified := t.clock }))

def write (t : FileTree) (p : Path) (bytes : List UInt8) : Except FileFault FileTree := do
  let (l, f, t) ← t.create p
  .ok (t.put l (.file { f with bytes, modified := t.clock }))

def remove (t : FileTree) (p : Path) : Except FileFault FileTree := do
  let l ← t.locate p
  match t.entry? l with
  | none => .error .notFound
  | some (.directory _) => .error .isADirectory
  | some (.file _) =>
    if t.canChange l.dropLast then .ok (t.erase l) else .error .permissionDenied

/-- Goes from a directory to a name in it, where a directory is made if nothing is there. -/
def enter (t : FileTree) (dir : Location) (name : String) : Except FileFault (Location × FileTree) := do
  let l ← t.step dir name
  match t.entry? l with
  | some (.directory _) => .ok (l, t)
  | some (.file _) => .error .exists
  | none =>
    if t.canChange dir then .ok (l, t.put l (.directory Mode.newDirectory))
    else .error .permissionDenied

/-- Makes the directory with these names below a location, and every directory on the way. Those that have
been made stay when the next one cannot be made. -/
def makeDirectoriesAt (t : FileTree) (base : Location) : List String → Except FileFault Unit × FileTree
  | [] => (.ok (), t)
  | name :: names =>
    match t.enter base name with
    | .error fault => (.error fault, t)
    | .ok (l, u) => u.makeDirectoriesAt l names

def makeDirectories (t : FileTree) (p : Path) : Except FileFault Unit × FileTree :=
  t.makeDirectoriesAt (t.start p) p.names

/-- Makes the directory that a file at this path would stand in, and every directory on the way. -/
def makeParents (t : FileTree) (p : Path) : Except FileFault Unit × FileTree :=
  t.makeDirectoriesAt (t.start p) p.names.dropLast

end FileTree

end Logbook
