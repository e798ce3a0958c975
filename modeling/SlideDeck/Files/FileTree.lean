import SlideDeck.Files.Path

/-!
A tree of files and directories. Paths are followed component by component: double dots go up, what
is no directory has nothing below it, and what may not be searched shows nothing below it. Above the
working directory there are only directories.
-/

namespace SlideDeck.Files

inductive Entry (α : Type) where
  | directory
  | file (content : α)
deriving Repr, Inhabited

/-- Every entry stands under its path, which holds at most one slash in front, and double dots only
in front of all other components. The directories above an entry need not be listed. To read a
directory is to search it or to open it, and to write it is to put new entries into it; what holds
where nothing stands yet will hold for what is put there. -/
structure FileTree (α : Type) where
  entries : List (Path × Entry α) := []
  mayRead : Path → Bool := fun _ => true
  mayWrite : Path → Bool := fun _ => true

inductive FaultKind where
  | missing
  | denied
  | exists
  | notDirectory
  | isDirectory
  | nameTooLong
deriving DecidableEq, Repr

def FaultKind.text : FaultKind → String
  | .missing => "[Errno 2] No such file or directory"
  | .denied => "[Errno 13] Permission denied"
  | .exists => "[Errno 17] File exists"
  | .notDirectory => "[Errno 20] Not a directory"
  | .isDirectory => "[Errno 21] Is a directory"
  | .nameTooLong => "[Errno 36] File name too long"

/-- What is wrong with a path, as it was asked for. -/
structure Fault where
  kind : FaultKind
  path : Path
deriving DecidableEq, Repr

def Fault.message (f : Fault) : String := f.kind.text ++ ": " ++ Text.quoted f.path.text

/-- The most octets of a component, and of a path. -/
def maxComponent : Nat := 255
def maxPath : Nat := 4095

namespace FileTree

variable {α : Type}

/-- Whether a path is that of a directory with something in it. -/
def isAbove (p : Path) (q : Path) : Bool := p.root == q.root && p.parts.isPrefixOf q.parts

/-- The directory above a directory. -/
def above (here : Path) : Path :=
  if here.root = .relative && here.parts.all (· == "..") then
    { here with parts := here.parts ++ [".."] }
  else here.parent

/-- The entry at a path of the form that a tree holds. -/
def get? (t : FileTree α) (p : Path) : Option (Entry α) :=
  if p.parts.isEmpty then some .directory
  else
    match t.entries.lookup p with
    | some e => some e
    | none => if t.entries.any fun e => isAbove p e.1 then some .directory else none

/-- Follows components from a directory on. -/
def walk (t : FileTree α) : (here : Path) → List String → Except FaultKind (Path × Entry α)
  | here, [] => .ok (here, .directory)
  | here, c :: cs =>
    if !t.mayRead here then .error .denied
    else if c = ".." then t.walk (above here) cs
    else if maxComponent < c.utf8ByteSize then .error .nameTooLong
    else
      let next : Path := { here with parts := here.parts ++ [c] }
      match t.get? next with
      | none => .error .missing
      | some .directory => t.walk next cs
      | some (.file a) => if cs.isEmpty then .ok (next, .file a) else .error .notDirectory

/-- Where following a path starts. -/
def start (p : Path) : Path := ⟨if p.root = .relative then .relative else .single, []⟩

/-- Follows a path to its entry. -/
def resolve (t : FileTree α) (p : Path) : Except FaultKind (Path × Entry α) :=
  if maxPath < p.text.utf8ByteSize then .error .nameTooLong else t.walk (start p) p.parts

/-- The content of the file at a path. -/
def read (t : FileTree α) (p : Path) : Except Fault α :=
  match t.resolve p with
  | .ok (place, entry) =>
    if !t.mayRead place then .error ⟨.denied, p⟩
    else match entry with
      | .file a => .ok a
      | .directory => .error ⟨.isDirectory, p⟩
  | .error k => .error ⟨k, p⟩

/-- Whether a path leads to a file. A name that is too long and a directory that may not be searched
are faults; all else that ends the way is none. -/
def isFile (t : FileTree α) (p : Path) : Except Fault Bool :=
  match t.resolve p with
  | .ok (_, .file _) => .ok true
  | .error .nameTooLong => .error ⟨.nameTooLong, p⟩
  | .error .denied => .error ⟨.denied, p⟩
  | _ => .ok false

def isDirectory (t : FileTree α) (p : Path) : Bool :=
  match t.resolve p with
  | .ok (_, .directory) => true
  | _ => false

/-- Where a new entry at a path would stand: in a directory, where nothing stands yet. -/
def vacancy (t : FileTree α) (p : Path) : Except FaultKind Path :=
  match t.resolve p, p.name? with
  | .ok _, _ | .error _, none => .error .exists
  | .error .missing, some name =>
    match t.resolve p.parent with
    | .ok (here, .directory) =>
      if t.mayWrite here then .ok { here with parts := here.parts ++ [name] } else .error .denied
    | .ok (_, .file _) => .error .notDirectory
    | .error k => .error k
  | .error k, some _ => .error k

/-- A tree with one more entry. -/
def add (t : FileTree α) (place : Path) (e : Entry α) : FileTree α :=
  { t with entries := t.entries ++ [(place, e)] }

/-- A tree with another entry at a place. -/
def replace (t : FileTree α) (place : Path) (e : Entry α) : FileTree α :=
  { t with entries := t.entries.map fun x => if x.1 = place then (place, e) else x }

/-- Makes one directory. One that is there already does no harm. -/
def makeDirectory (t : FileTree α) (p : Path) : Except Fault (FileTree α) :=
  match t.vacancy p with
  | .ok place => .ok (t.add place .directory)
  | .error k => if k ≠ .missing && t.isDirectory p then .ok t else .error ⟨k, p⟩

/-- A tree after a change, which leaves it as it was if it fails. -/
def attempt (t : FileTree α) : Except Fault (FileTree α) → FileTree α × Except Fault Unit
  | .ok changed => (changed, .ok ())
  | .error f => (t, .error f)

/-- Makes a directory and those above it that are missing; the first argument bounds their number.
Directories that are made before a fault stay. -/
def makeDirectoriesWithin : Nat → FileTree α → Path → FileTree α × Except Fault Unit
  | 0, t, p => t.attempt (t.makeDirectory p)
  | fuel + 1, t, p =>
    match t.makeDirectory p with
    | .error ⟨.missing, q⟩ =>
      if p.parts.isEmpty then (t, .error ⟨.missing, q⟩)
      else
        match makeDirectoriesWithin fuel t p.parent with
        | (t, .ok ()) => t.attempt (t.makeDirectory p)
        | failed => failed
    | r => t.attempt r

def makeDirectories (t : FileTree α) (p : Path) : FileTree α × Except Fault Unit :=
  makeDirectoriesWithin p.parts.length t p

/-- Writes a file, new or in the place of an older one. -/
def write (t : FileTree α) (p : Path) (content : α) : Except Fault (FileTree α) :=
  match t.resolve p with
  | .ok (_, .directory) => .error ⟨.isDirectory, p⟩
  | .ok (place, .file _) =>
    if t.mayWrite place then .ok (t.replace place (.file content)) else .error ⟨.denied, p⟩
  | .error _ =>
    match t.vacancy p with
    | .ok place => .ok (t.add place (.file content))
    | .error k => .error ⟨k, p⟩

end FileTree

end SlideDeck.Files
