import BpfDepot.Dictionary
import BpfDepot.Json.Reader
import BpfDepot.Json.Value

/-! # Values as JSON

A codec says how the values of a type are written as JSON and how they are read
back. Codecs of records are put together from the codecs of their fields. A record
is read from an object, whose entries may stand in any order and among entries of
other names, or from a list of its fields in order. -/

namespace BpfDepot.Json

/-- How the values of a type are written and read. -/
structure Codec (α : Type) where
  /-- The JSON value of a value. -/
  write : α → Value
  /-- Reads a value. -/
  read : Reader α

namespace Codec

open Reader

variable {α β : Type}

/-- The codec of a type whose values correspond to those of another type. -/
def via (codec : Codec α) (forth : β → α) (back : α → β) : Codec β where
  write b := codec.write (forth b)
  read := back <$> codec.read

/-- Takes the first byte of a value, blanks before it aside. -/
def firstByte : Reader UInt8 := do
  match ← nextPart? with
  | some b => return b
  | none => failNext .endInValue

/-- Texts of the given description, checked and converted after they are read. A
text that fails the check is refused with a reason. -/
def checkedText (expected : String) (toText : α → String) (ofText : String → Except String α) :
    Codec α where
  write a := .text (toText a)
  read := do
    if (← firstByte) = code '"' then
      drop
      placed do
        match ofText (← Reader.text) with
        | .ok a => return a
        | .error reason => failInside (.badText reason)
    else wrongKind expected

/-- Texts. -/
def text : Codec String := checkedText "a string" id .ok

/-- Paths of files. -/
def path : Codec String := checkedText "path string" id .ok

/-- Whole numbers in a range, which is known under a name. -/
def whole (low high : Int) (name : String) : Codec Int where
  write n := .number n
  read := do
    let b ← firstByte
    let within (n : Int) (numeral : Numeral) : Reader Int :=
      if low ≤ n && n ≤ high then return n
      else failInside (.wrongValue (.numeral numeral) name)
    let accept (numeral : Numeral) : Reader Int :=
      placed <| match numeral with
        | .natural n => within n numeral
        | .negative n => within (-n) numeral
        | .float _ _ => failInside (.wrongKind (.numeral numeral) name)
    if b = code '-' then drop; accept (← numeral true)
    else if isDigit b then accept (← numeral false)
    else wrongKind name

/-- Natural numbers of 64 bits. -/
def natural : Codec Nat := (whole 0 (Nat.pow 2 64 - 1) "u64").via (fun n => n) Int.toNat

/-- Natural numbers of eight bits. -/
def byte : Codec Nat := (whole 0 (Nat.pow 2 8 - 1) "u8").via (fun n => n) Int.toNat

/-- Whole numbers of 64 bits. -/
def integer : Codec Int := whole (-(Nat.pow 2 63)) (Nat.pow 2 63 - 1) "i64"

/-! ## Lists -/

/-- Whether a list goes on; if it does, the blanks and the comma before its next
item are taken. -/
def another (first : Bool) : Reader Bool := do
  match ← nextPart? with
  | none => failNext .endInList
  | some b =>
    if b = code ']' then return false
    else if first then return true
    else if b = code ',' then
      drop
      match ← nextPart? with
      | none => failNext .endInValue
      | some b => if b = code ']' then failNext .trailingComma else return true
    else failNext .expectedCommaOrListEnd

/-- Takes the end of a list. -/
def listEnd : Reader Unit := do
  match ← nextPart? with
  | none => failNext .endInList
  | some b =>
    if b = code ']' then drop
    else if b = code ',' then
      drop
      if (← nextPart?) = some (code ']') then failNext .trailingComma
      else failNext .trailingCharacters
    else failNext .trailingCharacters

/-- Takes the end of an object. -/
def objectEnd : Reader Unit := do
  match ← nextPart? with
  | none => failNext .endInObject
  | some b =>
    if b = code '\x7d' then drop
    else if b = code ',' then failNext .trailingComma
    else failNext .trailingCharacters

/-- Reads the inside of brackets and takes the closing one, also after a fault
inside. Of two faults the one inside counts, and without a place of its own it is
placed where the attempt to close has stopped. -/
def closed (inside : Reader α) (close : Reader Unit) : Reader α :=
  placed fun bytes =>
    let (result, rest) := inside bytes
    let (closing, rest) := close rest
    match result, closing with
    | .error fault, _ => (.error fault, rest)
    | .ok _, .error fault => (.error fault, rest)
    | .ok a, .ok () => (.ok a, rest)

/-- Reads the items of a list; the fuel bounds their number. -/
def items (item : Reader α) : Nat → Bool → Reader (List α)
  | 0, _ => return []
  | fuel + 1, first => do
    if ← another first then
      let head ← item
      let tail ← items item fuel false
      return head :: tail
    else return []

/-- Lists of values. -/
def list (codec : Codec α) : Codec (List α) where
  write as := .list (as.map codec.write)
  read := do
    if (← firstByte) = code '[' then
      drop
      closed (do items codec.read ((← left).length + 1) true) listEnd
    else wrongKind "a sequence"

/-! ## Records -/

/-- The fields of a record, in order. The values read so far fill slots of the
type `σ`, and the values of all fields together have the type `α`. -/
inductive Fields : Type → Type → Type 1 where
  | nil : Fields Unit Unit
  /-- A field that a record must have. -/
  | required {σ α β : Type} (name : String) (codec : Codec β) (rest : Fields σ α) :
      Fields (Option β × σ) (β × α)
  /-- A field that a record may lack. -/
  | optional {σ α β : Type} (name : String) (codec : Codec β) (rest : Fields σ α) :
      Fields (Option (Option β) × σ) (Option β × α)

namespace Fields

variable {σ : Type}

/-- The slots before anything is read. -/
def start : {σ α : Type} → Fields σ α → σ
  | _, _, .nil => ()
  | _, _, .required _ _ rest => (none, rest.start)
  | _, _, .optional _ _ rest => (none, rest.start)

/-- The number of fields. -/
def count : {σ α : Type} → Fields σ α → Nat
  | _, _, .nil => 0
  | _, _, .required _ _ rest => rest.count + 1
  | _, _, .optional _ _ rest => rest.count + 1

/-- The entries of a record. A field that is absent has none. -/
def entries : {σ α : Type} → Fields σ α → α → List (String × Value)
  | _, _, .nil, () => []
  | _, _, .required name codec rest, (b, a) => (name, codec.write b) :: rest.entries a
  | _, _, .optional name codec rest, (b, a) =>
    match b with
    | some b => (name, codec.write b) :: rest.entries a
    | none => rest.entries a

/-- Takes the colon between the key and the value of an entry. -/
def colon : Reader Unit := do
  match ← nextPart? with
  | none => failNext .endInObject
  | some b => if b = code ':' then drop else failNext .expectedColon

/-- A value, or null in its place. -/
def nullable {β : Type} (read : Reader β) : Reader (Option β) := do
  if (← nextPart?) = some (code 'n') then
    drop
    word "ull".toList
    return none
  else return some (← read)

/-- Reads the value of an entry into the slot of its key, if there is one. -/
def fill? : {σ α : Type} → Fields σ α → String → σ → Option (Reader σ)
  | _, _, .nil, _, _ => none
  | _, _, .required name codec rest, key, (slot, slots) =>
    if key = name then
      some do
        if slot.isSome then failInside (.duplicateField name)
        colon
        return (some (← codec.read), slots)
    else (rest.fill? key slots).map fun reader => (fun slots => (slot, slots)) <$> reader
  | _, _, .optional name codec rest, key, (slot, slots) =>
    if key = name then
      some do
        if slot.isSome then failInside (.duplicateField name)
        colon
        return (some (← nullable codec.read), slots)
    else (rest.fill? key slots).map fun reader => (fun slots => (slot, slots)) <$> reader

/-- The values of the fields once all entries are read. -/
def finish : {σ α : Type} → Fields σ α → σ → Reader α
  | _, _, .nil, () => return ()
  | _, _, .required name _ rest, (slot, slots) => do
    match slot with
    | some b => return (b, ← rest.finish slots)
    | none => failInside (.missingField name)
  | _, _, .optional _ _ rest, (slot, slots) => do
    return (slot.join, ← rest.finish slots)

/-- Reads the fields from the items of a list. `index` counts the fields before,
and `expected` says what the list should be. -/
def readItems (expected : String) : {σ α : Type} → Nat → Fields σ α → Reader α
  | _, _, _, .nil => return ()
  | _, _, index, .required _ codec rest => do
    if ← another (index = 0) then
      let b ← codec.read
      return (b, ← rest.readItems expected (index + 1))
    else failInside (.wrongLength index expected)
  | _, _, index, .optional _ codec rest => do
    if ← another (index = 0) then
      let b ← nullable codec.read
      return (b, ← rest.readItems expected (index + 1))
    else failInside (.wrongLength index expected)

/-- Takes the key of the next entry of an object, if there is one. -/
def key? (first : Bool) : Reader (Option String) := do
  let start (b : Option UInt8) : Reader (Option String) := do
    match b with
    | none => failNext .endInValue
    | some b =>
      if b = code '"' then drop; return some (← Reader.text)
      else if b = code '\x7d' then failNext .trailingComma
      else failNext .keyNotText
  match ← nextPart? with
  | none => failNext .endInObject
  | some b =>
    if b = code '\x7d' then return none
    else if first then start (some b)
    else if b = code ',' then
      drop
      start (← nextPart?)
    else failNext .expectedCommaOrObjectEnd

/-- Reads the entries of an object into the slots of their keys and skips entries
of other names; the fuel bounds their number. -/
def readEntries {α : Type} (fields : Fields σ α) : Nat → Bool → σ → Reader σ
  | 0, _, slots => return slots
  | fuel + 1, first, slots => do
    match ← key? first with
    | none => return slots
    | some key =>
      match fields.fill? key slots with
      | some reader => readEntries fields fuel false (← reader)
      | none =>
        colon
        Reader.skip
        readEntries fields fuel false slots

end Fields

/-- Records of the given name. -/
def record {σ : Type} (name : String) (fields : Fields σ α) : Codec α where
  write a := .object (fields.entries a)
  read := do
    let elements := if fields.count = 1 then " element" else " elements"
    let expected := "struct " ++ name ++ " with " ++ toString fields.count ++ elements
    let b ← firstByte
    if b = code '[' then
      drop
      closed (fields.readItems expected 0) listEnd
    else if b = code '\x7b' then
      drop
      closed (do
        let slots ← fields.readEntries ((← left).length + 1) true fields.start
        fields.finish slots) objectEnd
    else wrongKind ("struct " ++ name)

/-! ## Dictionaries -/

/-- Reads the entries of an object into a dictionary; the fuel bounds their
number. -/
def bindings (read : Reader α) : Nat → Bool → Dictionary α → Reader (Dictionary α)
  | 0, _, d => return d
  | fuel + 1, first, d => do
    match ← Fields.key? first with
    | none => return d
    | some key =>
      Fields.colon
      bindings read fuel false (d.insert key (← read))

/-- Dictionaries. Of two entries with one key the later one counts. -/
def dictionary (codec : Codec α) : Codec (Dictionary α) where
  write d := .object (d.entries.map fun entry => (entry.1, codec.write entry.2))
  read := do
    if (← firstByte) = code '\x7b' then
      drop
      closed (do bindings codec.read ((← left).length + 1) true {}) objectEnd
    else wrongKind "a map"

/-! ## Documents -/

/-- Reads a document, which is one value with nothing but blanks around it. -/
def document (codec : Codec α) : Reader α := do
  let a ← codec.read
  match ← nextPart? with
  | none => return a
  | some _ => failNext .trailingCharacters

/-- The value of a document, or the message of its fault. -/
def decode (codec : Codec α) (bytes : List UInt8) : Except String α :=
  match (codec.document.run bytes).1 with
  | .ok a => .ok a
  | .error fault => .error (fault.message bytes)

/-- The value of a document that is a string. -/
def decodeText (codec : Codec α) (s : String) : Except String α :=
  codec.decode s.toUTF8.toList

/-- The document of a value, with nothing between its parts. -/
def encode (codec : Codec α) (a : α) : String := (codec.write a).toText

/-- The document of a value, with one entry to a line. -/
def encodeLines (codec : Codec α) (a : α) : String := (codec.write a).toLines

end Codec

end BpfDepot.Json
