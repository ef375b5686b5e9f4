import BpfDepot.Files

/-! # File trees

A file tree says what stands where: files with their bytes, and directories. Every
call to the file system has its effect on a tree, and fails as a file system fails
when a part of a path is missing or is not what it should be. A call can also be
broken off, and then it has done some of its steps. -/

namespace BpfDepot

/-- The names that lead from the root to a place. -/
abbrev Location := List String

/-- What stands at a place. -/
inductive Node where
  | directory
  | file (bytes : ByteArray)

instance : DecidableEq Node
  | .directory, .directory => isTrue rfl
  | .directory, .file _ => isFalse nofun
  | .file _, .directory => isFalse nofun
  | .file bytes, .file other =>
    decidable_of_iff (bytes.data = other.data) (by rw [Node.file.injEq, ByteArray.ext_iff])

/-- The kind of a node. -/
def Node.kind : Node → FileKind
  | .directory => .directory
  | .file _ => .file

/-- What stands at the places below the root. -/
structure FileTree where
  /-- The places with their nodes. -/
  nodes : List (Location × Node) := []
  deriving DecidableEq

namespace FileTree

/-- The node at a place. The root is a directory. -/
def node? (t : FileTree) (place : Location) : Option Node :=
  if place = [] then some .directory
  else (t.nodes.find? fun entry => entry.1 = place).map Prod.snd

/-- The nodes after a node is put at a place. -/
def putNode (place : Location) (node : Node) :
    List (Location × Node) → List (Location × Node)
  | [] => [(place, node)]
  | entry :: rest =>
    if entry.1 = place then (place, node) :: rest else entry :: putNode place node rest

/-- Puts a node at a place, whatever stood there. -/
def put (t : FileTree) (place : Location) (node : Node) : FileTree :=
  ⟨putNode place node t.nodes⟩

/-- The nodes at a place and below it. -/
def under (t : FileTree) (place : Location) : List (Location × Node) :=
  t.nodes.filter fun entry => place.isPrefixOf entry.1

/-- Removes everything at some places. -/
def without (t : FileTree) (places : List Location) : FileTree :=
  ⟨t.nodes.filter fun entry => !places.contains entry.1⟩

/-! ## Following a path -/

/-- The place that a part of a path leads to. -/
def step (here : Location) (part : String) : Location :=
  if part = "" || part = "." then here
  else if part = ".." then here.dropLast
  else here ++ [part]

/-- Follows the parts of a path. There must be a directory wherever a part leads on
from; what the last part leads to may be missing. -/
def follow (t : FileTree) (here : Location) : List String → Except FileFault Location
  | [] => .ok here
  | part :: rest =>
    match t.node? here with
    | none => .error .notFound
    | some (.file _) => .error .notDirectory
    | some .directory => t.follow (step here part) rest

/-- The place where a path starts. -/
def start (working : Location) (path : String) : Location :=
  if Path.isAbsolute path then [] else working

/-- The place that a path leads to. -/
def locate (t : FileTree) (working : Location) (path : String) : Except FileFault Location :=
  if path = "" then .error .notFound
  else t.follow (start working path) (Path.parts path)

/-- What stands at a path. -/
def kind? (t : FileTree) (working : Location) (path : String) : Option FileKind :=
  match t.locate working path with
  | .ok place => (t.node? place).map Node.kind
  | .error _ => none

/-! ## Calls -/

/-- The bytes of the file at a path. -/
def read (t : FileTree) (working : Location) (path : String) : Except FileFault ByteArray := do
  match t.node? (← t.locate working path) with
  | none => throw .notFound
  | some .directory => throw .isDirectory
  | some (.file bytes) => return bytes

/-- Puts a file at a path where no directory stands. -/
def write (t : FileTree) (working : Location) (path : String) (bytes : ByteArray) :
    Except FileFault FileTree := do
  let place ← t.locate working path
  match t.node? place with
  | some .directory => throw .isDirectory
  | _ => return t.put place (.file bytes)

/-- Makes the directory to which names lead, where nothing stands. -/
def makeDirectory (t : FileTree) (here : Location) (names : List String) :
    Except FileFault FileTree := do
  let place ← t.follow here names
  match t.node? place with
  | some _ => throw .alreadyExists
  | none => return t.put place .directory

/-- Whether a directory stands where names lead. -/
def isDirectory (t : FileTree) (here : Location) (names : List String) : Bool :=
  match t.follow here names with
  | .ok place => t.node? place = some .directory
  | .error _ => false

/-- Makes the directory to which names lead; the names stand in reverse. Only when
one around it is missing are those around it made first. -/
def makeTree (t : FileTree) (here : Location) : List String → FileTree × Except FileFault Unit
  | [] => (t, .ok ())
  | last :: before =>
    let names := (last :: before).reverse
    match t.makeDirectory here names with
    | .ok t => (t, .ok ())
    | .error .notFound =>
      match t.makeTree here before with
      | (t, .error fault) => (t, .error fault)
      | (t, .ok ()) =>
        match t.makeDirectory here names with
        | .ok t => (t, .ok ())
        | .error fault => (t, if t.isDirectory here names then .ok () else .error fault)
    | .error fault => (t, if t.isDirectory here names then .ok () else .error fault)

/-- Makes a directory with those around it. -/
def createTree (t : FileTree) (working : Location) (path : String) :
    FileTree × Except FileFault Unit :=
  t.makeTree (start working path) (Path.names path).reverse

/-- The places of a directory and of everything in it, in the order in which they
are removed: nothing before what it contains. -/
def removalOrder (t : FileTree) (working : Location) (path : String) :
    Except FileFault (List Location) := do
  let place ← t.locate working path
  match t.node? place with
  | none => throw .notFound
  | some (.file _) => throw .notDirectory
  | some .directory =>
    return ((t.under place).map Prod.fst).mergeSort fun a b => decide (b.length ≤ a.length)

/-- Removes a directory with everything in it. -/
def removeTree (t : FileTree) (working : Location) (path : String) :
    Except FileFault FileTree := do
  return t.without (← t.removalOrder working path)

/-- Moves everything at a place and below it, in place of what stands at the other
place. -/
def move (t : FileTree) (source target : Location) : FileTree :=
  let rest := t.without [target]
  ⟨rest.nodes.map fun entry =>
    if source.isPrefixOf entry.1 then (target ++ entry.1.drop source.length, entry.2) else entry⟩

/-- Moves a file or a directory to another path. -/
def rename (t : FileTree) (working : Location) (source target : String) :
    Except FileFault FileTree := do
  let source ← t.locate working source
  let target ← t.locate working target
  match t.node? source, t.node? target with
  | none, _ => throw .notFound
  | some node, present =>
    if source = target then return t
    else if source.isPrefixOf target then throw (.other "Invalid argument (os error 22)")
    else
      match node, present with
      | .directory, some (.file _) => throw .notDirectory
      | .directory, some .directory =>
        if (t.under target).length ≤ 1 then return t.move source target else throw .notEmpty
      | .file _, some .directory => throw .isDirectory
      | _, _ => return t.move source target

/-- Keeps a tree when a change fails. -/
def changed (t : FileTree) : Except FileFault FileTree → FileTree × Except FileFault Unit
  | .ok t => (t, .ok ())
  | .error fault => (t, .error fault)

/-- The effect of a call and what it gives back. -/
def call {α : Type} (t : FileTree) (working : Location) :
    FileCall α → FileTree × Except FileFault α
  | .read path => (t, t.read working path)
  | .write path bytes => t.changed (t.write working path bytes)
  | .createTree path => t.createTree working path
  | .removeTree path => t.changed (t.removeTree working path)
  | .rename source target => t.changed (t.rename working source target)

/-- The effect of a call that is broken off after some of its steps. Writing empties
the file and then writes byte by byte, trees are made from the root and removed
towards it, and moving is one step. -/
def brokenOff {α : Type} (t : FileTree) (working : Location) (steps : Nat) :
    FileCall α → FileTree
  | .read _ => t
  | .write path bytes =>
    match steps with
    | 0 => t
    | steps + 1 => (t.changed (t.write working path (bytes.extract 0 steps))).1
  | .createTree path =>
    (t.makeTree (start working path) ((Path.names path).take steps).reverse).1
  | .removeTree path =>
    match t.removalOrder working path with
    | .ok places => t.without (places.take steps)
    | .error _ => t
  | .rename _ _ => t

end FileTree

end BpfDepot
