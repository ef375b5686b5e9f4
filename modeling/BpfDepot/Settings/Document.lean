import BpfDepot.Settings
import BpfDepot.Yaml.Value

/-! # Settings in a YAML document

The settings are a mapping whose entries may all be left out and may stand among
others. The entries are read from the events of the document in order, so that of
several faults the one that comes first is told, and a fault of the grammar is told
only when the reading comes to it or is over. -/

namespace BpfDepot.Settings

open Yaml (Item Items Place Fault Document Meaning)

/-- Computations that take events from the front of a document. -/
abbrev Reading := StateT Items (Except Fault)

namespace Reading

variable {α : Type}

/-- The next event, which stays. -/
def peek (d : Document) : Reading (Item × Place) := do
  match ← get with
  | item :: _ => return item
  | [] => throw (d.fault.getD .noValue)

/-- Drops the next event. -/
def drop : Reading Unit := modify List.tail

/-- Refuses a value of a wrong kind. -/
def wrongKind (path : String) (item : Item) (place : Place) (expected : String) : Reading α :=
  let refuse (meaning : Meaning) : Reading α :=
    throw (.value path ("invalid type: " ++ meaning.words ++ ", expected " ++ expected) place)
  match item with
  | .scalar tag text style =>
    match Yaml.meaning tag text style with
    | .ok meaning => refuse meaning
    | .error problem => throw (.value path problem place)
  | .mappingStart => refuse .mapping
  | .sequenceStart => refuse .sequence
  | _ => throw .noValue

/-- Whether an event is a plain scalar without text, or nothing at all. -/
def isEmpty : Item → Bool
  | .scalar _ text .plain => text = []
  | .void => true
  | _ => false

/-- Reads a value, or the node that a reference in its place stands for. -/
def value (d : Document) (read : Reading α) : Reading α := do
  match ← peek d with
  | (.alias number, _) =>
    drop
    match read.run (d.following number) with
    | .ok (a, _) => return a
    | .error fault => throw fault
  | _ => read

/-- A text, which may be written as any scalar. -/
def text (d : Document) (path expected : String) : Reading String := value d do
  match ← peek d with
  | (.scalar _ text _, _) => drop; return String.ofList text
  | (item, place) => wrongKind path item place expected

/-- A natural number of 64 bits. -/
def natural (d : Document) (path : String) : Reading Nat := value d do
  let (item, place) ← peek d
  let found := match item with
    | .scalar tag text style =>
      if style = .plain || (style = .literal && tag = some (Yaml.coreTag "int")) then
        Yaml.natural? (Nat.pow 2 64) text
      else none
    | _ => none
  match found with
  | some n => drop; return n
  | none => wrongKind path item place "u64"

/-- A value that may be left out or stand for nothing. `outer` is where the mapping
around it begins. -/
def optional (d : Document) (outer : Place) (read : Reading α) : Reading (Option α) := value d do
  match (← peek d).1 with
  | .scalar tag text .plain =>
    if tag = some (Yaml.coreTag "null") then
      if Yaml.isNull text then drop; return none
      else throw (.value "" (Yaml.misfit text "null") outer)
    else if tag.isNone && (text = [] || Yaml.isNull text) then drop; return none
    else some <$> read
  | .void => drop; return none
  | _ => some <$> read

/-- The texts of a sequence after the first `index`. The fuel bounds their number. -/
def items (d : Document) (path : String) : Nat → Nat → Reading (List String)
  | 0, _ => return []
  | fuel + 1, index => do
    match (← peek d).1 with
    | .sequenceEnd => drop; return []
    | _ =>
      let head ← text d (path ++ "[" ++ toString index ++ "]") "a string"
      return head :: (← items d path fuel (index + 1))

/-- A sequence of texts. -/
def texts (d : Document) (path : String) : Reading (List String) := value d do
  let (item, place) ← peek d
  if item = .sequenceStart then
    drop
    items d path ((← get).length + 1) 0
  else if isEmpty item then drop; return []
  else wrongKind path item place "a sequence"

/-- The events after a node. `depth` counts the sequences and mappings that are open
in it. -/
def afterNode (fault : Fault) : Nat → Items → Except Fault Items
  | _, [] => .error fault
  | depth, (item, _) :: rest =>
    match item with
    | .sequenceStart | .mappingStart => afterNode fault (depth + 1) rest
    | .sequenceEnd | .mappingEnd => if depth ≤ 1 then .ok rest else afterNode fault (depth - 1) rest
    | _ => if depth = 0 then .ok rest else afterNode fault depth rest

/-- Drops a node. -/
def skip (d : Document) : Reading Unit := do
  set (← afterNode (d.fault.getD .noValue) 0 (← get))

/-! ## The mapping -/

/-- The entries that have been read. -/
structure Entries where
  registries : Option (List String) := none
  timeout : Option (Option Nat) := none
  store : Option (Option String) := none

/-- Refuses an entry that is there for the second time. -/
def once (name : String) (seen : Option α) (start : Place) : Reading Unit := do
  if seen.isSome then throw (.value "" ("duplicate field `" ++ name ++ "`") start)

/-- Reads the entries of a mapping that begins at a place. The fuel bounds their
number. -/
def entries (d : Document) (start : Place) : Nat → Entries → Reading Entries
  | 0, found => return found
  | fuel + 1, found => do
    let (item, _) ← peek d
    match item with
    | .mappingEnd => drop; return found
    | _ =>
      let key ← text d "" "field identifier"
      let path := match item with
        | .alias _ => "?"
        | _ => key
      if key = "insecure_registries" then
        once key found.registries start
        let registries ← texts d path
        entries d start fuel { found with registries := some registries }
      else if key = "timeout_secs" then
        once key found.timeout start
        let timeout ← optional d start (natural d path)
        entries d start fuel { found with timeout := some timeout }
      else if key = "store_dir" then
        once key found.store start
        let store ← optional d start (text d path "path string")
        entries d start fuel { found with store := some store }
      else
        skip d
        entries d start fuel found

/-- Reads the settings of a document. -/
def settings (d : Document) : Reading Settings := do
  let (item, place) ← peek d
  let found ←
    if item = .mappingStart then do
      drop
      entries d place ((← get).length + 1) {}
    else if isEmpty item then pure {}
    else wrongKind "" item place "struct RegistryConfig"
  return {
    insecureRegistries := found.registries.getD []
    timeoutSeconds := found.timeout.join
    storeDirectory := found.store.join }

end Reading

/-- The settings that a text holds, or the message of its fault. -/
def ofDocument (text : String) : Except String Settings :=
  let (d, several) := Document.first text.toList
  let result : Except Fault Settings := do
    let (settings, _) ← (Reading.settings d).run d.items
    if let some fault := d.fault then throw fault
    if several then throw .severalDocuments
    return settings
  result.mapError Fault.message

end BpfDepot.Settings
