import BpfDepot.Json.Fault

/-! # Reading the parts of a JSON document

A reader takes bytes from the front of what is left of a document. It fails at a
place: at the end of what it has taken, or one byte later when it has looked at
that byte and not taken it. -/

namespace BpfDepot.Json

/-- A reader over the bytes that are left of a document, which it leaves shorter
also when it fails. -/
abbrev Reader := ExceptT Fault (StateM (List UInt8))

namespace Reader

variable {α : Type}

/-- The bytes that are left. -/
def left : Reader (List UInt8) := get

/-- Fails at the end of what has been taken. -/
def fail (cause : Cause) : Reader α := do throw ⟨cause, some (← left).length⟩

/-- Fails after the next byte, or at the end of the document if there is none. -/
def failNext (cause : Cause) : Reader α := do throw ⟨cause, some ((← left).length - 1)⟩

/-- Fails at a place that a reader around this one will know. -/
def failInside (cause : Cause) : Reader α := throw ⟨cause, none⟩

/-- Gives a fault without a place the place where the reading has stopped. -/
def placed (reader : Reader α) : Reader α :=
  fun bytes => match reader bytes with
    | (.error ⟨cause, none⟩, rest) => (.error ⟨cause, some rest.length⟩, rest)
    | result => result

/-- The next byte, which stays. -/
def next? : Reader (Option UInt8) := return (← left).head?

/-- Takes the next byte, if there is one. -/
def take? : Reader (Option UInt8) := do
  match ← left with
  | [] => return none
  | b :: rest => set rest; return some b

/-- Drops the next byte. -/
def drop : Reader Unit := modify List.tail

/-- Whether a byte is blank between the parts of a document. -/
def isBlank (b : UInt8) : Bool := b = 32 || b = 10 || b = 9 || b = 13

/-- Drops the blanks; the byte after them, which stays. -/
def nextPart? : Reader (Option UInt8) := do
  modify (List.dropWhile isBlank)
  next?

/-- The code of a character of the ASCII range. -/
def code (c : Char) : UInt8 := UInt8.ofNat c.toNat

/-- Takes the rest of a word that has been begun. -/
def word : List Char → Reader Unit
  | [] => return ()
  | c :: rest => do
    match ← take? with
    | none => fail .endInValue
    | some b => if b = code c then word rest else fail .expectedWord

/-! ## Texts -/

/-- The number that a byte stands for as a digit to the base 16. -/
def hexValue? (b : UInt8) : Option Nat :=
  if 48 ≤ b && b ≤ 57 then some (b.toNat - 48)
  else if 97 ≤ b && b ≤ 102 then some (b.toNat - 87)
  else if 65 ≤ b && b ≤ 70 then some (b.toNat - 55)
  else none

/-- Takes four digits to the base 16. -/
def fourDigits : Reader Nat := do
  match ← left with
  | a :: b :: c :: d :: rest =>
    set rest
    match hexValue? a, hexValue? b, hexValue? c, hexValue? d with
    | some a, some b, some c, some d => return ((a * 16 + b) * 16 + c) * 16 + d
    | _, _, _, _ => fail .badEscape
  | _ => set ([] : List UInt8); fail .endInText

/-- Takes one byte of the second half of an escaped pair. -/
def pairByte (expected : UInt8) : Reader Unit := do
  match ← take? with
  | none => fail .endInText
  | some b => if b = expected then return () else fail .surrogateNotFollowed

/-- Takes the digits of an escaped character. Two halves of a pair stand for one
character. -/
def escapedCode : Reader Char := do
  let first ← fourDigits
  if 0xDC00 ≤ first && first ≤ 0xDFFF then fail .loneSurrogate
  else if first < 0xD800 || 0xDBFF < first then return Char.ofNat first
  else
    pairByte (code '\\')
    pairByte (code 'u')
    let second ← fourDigits
    if second < 0xDC00 || 0xDFFF < second then fail .loneSurrogate
    else return Char.ofNat ((first - 0xD800) * 1024 + (second - 0xDC00) + 0x10000)

/-- The character that one letter after a backslash stands for. -/
def shortEscape? (b : UInt8) : Option Char :=
  ([('"', '"'), ('\\', '\\'), ('/', '/'), ('b', '\x08'), ('f', '\x0c'), ('n', '\n'),
    ('r', '\r'), ('t', '\t')].find? fun pair => code pair.1 = b).map Prod.snd

/-- Takes what follows a backslash. -/
def escaped : Reader Char := do
  match ← take? with
  | none => fail .endInText
  | some b =>
    match shortEscape? b with
    | some c => return c
    | none => if b = code 'u' then escapedCode else fail .badEscape

/-- Takes the bytes of a text up to its closing quotation mark. The fuel bounds
the number of characters. -/
def textBytes : Nat → List UInt8 → Reader (List UInt8)
  | 0, _ => fail .endInText
  | fuel + 1, taken => do
    match ← take? with
    | none => fail .endInText
    | some b =>
      if b = code '"' then return taken.reverse
      else if b = code '\\' then
        let c ← escaped
        textBytes fuel ((String.singleton c).toUTF8.toList.reverse ++ taken)
      else if b < 0x20 then fail .controlInText
      else textBytes fuel (b :: taken)

/-- The number of bytes, from a place on, that encode characters. The fuel bounds
the number of characters. -/
def encodedLength (bytes : ByteArray) : Nat → Nat → Nat
  | 0, place => place
  | fuel + 1, place =>
    match bytes.utf8DecodeChar? place with
    | some c => encodedLength bytes fuel (place + c.utf8Size)
    | none => place

/-- Takes a text whose opening quotation mark has been taken. Bytes that encode no
character are refused once the text has ended, at the place of the first of
them. -/
def text : Reader String := do
  let start ← left
  let bytes ← textBytes (start.length + 1) []
  match String.fromUTF8? (ByteArray.mk bytes.toArray) with
  | some s => return s
  | none =>
    set (start.drop (encodedLength (ByteArray.mk start.toArray) start.length 0 + 1))
    fail .badEncoding

/-- Takes a text without reading it. The four digits of an escape may stand for
anything, and so may bytes outside the ASCII range. -/
def skipText : Nat → Reader Unit
  | 0 => fail .endInText
  | fuel + 1 => do
    match ← next? with
    | none => fail .endInText
    | some b =>
      if b = code '"' then drop
      else if b = code '\\' then
        drop
        match ← take? with
        | none => fail .endInText
        | some b =>
          if (shortEscape? b).isSome then skipText fuel
          else if b = code 'u' then
            let _ ← fourDigits
            skipText fuel
          else fail .badEscape
      else if b < 0x20 then fail .controlInText
      else drop; skipText fuel

/-! ## Numbers -/

/-- Whether a byte is a decimal digit. -/
def isDigit (b : UInt8) : Bool := 48 ≤ b && b ≤ 57

/-- Takes all digits in front. -/
def digits : Reader (List Nat) := do
  let bytes ← left
  set (bytes.dropWhile isDigit)
  return (bytes.takeWhile isDigit).map fun b => b.toNat - 48

/-- Appends digits to a number while it stays below `2 ^ 64`; the number, and how
many digits were appended. -/
def gather (n : Nat) : List Nat → Nat × Nat
  | [] => (n, 0)
  | d :: rest =>
    if 10 * n + d < Nat.pow 2 64 then
      let (m, used) := gather (10 * n + d) rest
      (m, used + 1)
    else (n, 0)

/-- The double `n * 10 ^ power`, computed from the nearest double of `n` in steps
that each round once. Powers beyond the range of a double are divided off in
several steps. -/
def scaled? : Nat → Number.Binary64 → Int → Option Number.Binary64
  | 0, x, _ => some x
  | fuel + 1, x, power =>
    if power.natAbs ≤ 308 then
      match Number.Binary64.ofNat? (Nat.pow 10 power.natAbs) with
      | some tens => if 0 ≤ power then x.mul? tens else x.div? tens
      | none => none
    else if x.significand = 0 then some x
    else if 0 ≤ power then none
    else
      match Number.Binary64.ofNat? (Nat.pow 10 308) with
      | some tens =>
        match x.div? tens with
        | some y => scaled? fuel y (power + 308)
        | none => none
      | none => none

/-- The number with the given digits and power of ten. -/
def float (minus : Bool) (n : Nat) (power : Int) : Reader Numeral := do
  match (Number.Binary64.ofNat? n).bind fun x => scaled? 4 x power with
  | some x => return .float minus x
  | none => fail .numberTooGreat

/-- How many digits of an exponent are read before it exceeds 31 bits. -/
def overlong? (n : Nat) : List Nat → Option Nat
  | [] => none
  | d :: rest =>
    if 10 * n + d < Nat.pow 2 31 then (overlong? (10 * n + d) rest).map (· + 1) else some 1

/-- Takes an exponent and finishes a number with it. -/
def exponent (minus : Bool) (n : Nat) (power : Int) : Reader Numeral := do
  drop
  let sign ← next?
  if sign = some (code '+') || sign = some (code '-') then drop
  let negative := sign = some (code '-')
  match ← take? with
  | none => fail .endInValue
  | some b =>
    if !isDigit b then fail .badNumber
    else
      let first := b.toNat - 48
      let before ← left
      let more ← digits
      match overlong? first more with
      | some used =>
        if n ≠ 0 && !negative then
          set (before.drop used)
          fail .numberTooGreat
        else return .float minus .zero
      | none =>
        let size : Nat := more.foldl (fun m d => 10 * m + d) first
        float minus n (if negative then power - size else power + size)

/-- Takes what may follow the digits of a number before its point or exponent. -/
def fraction (minus : Bool) (n : Nat) (power : Int) : Reader Numeral := do
  drop
  let more ← digits
  if more = [] then
    match ← next? with
    | some _ => failNext .badNumber
    | none => failNext .endInValue
  else
    let (n, used) := gather n more
    let power := power - used
    let next ← next?
    if next = some (code 'e') || next = some (code 'E') then exponent minus n power
    else float minus n power

/-- Takes a number whose sign has been taken. -/
def numeral (minus : Bool) : Reader Numeral := do
  let whole (n : Nat) (power : Nat) : Reader Numeral := do
    let next ← next?
    if next = some (code '.') then fraction minus n power
    else if next = some (code 'e') || next = some (code 'E') then exponent minus n power
    else if power ≠ 0 then float minus n power
    else if !minus then return .natural n
    else if 1 ≤ n && n ≤ Nat.pow 2 63 then return .negative n
    else float true n 0
  match ← take? with
  | none => fail .endInValue
  | some b =>
    if b = code '0' then
      if (← next?).any isDigit then failNext .badNumber else whole 0 0
    else if isDigit b then
      let more ← digits
      let (n, used) := gather (b.toNat - 48) more
      whole n (more.length - used)
    else fail .badNumber

/-- Takes the exponent of a number that is not read. -/
def skipExponent : Reader Unit := do
  drop
  let sign ← next?
  if sign = some (code '+') || sign = some (code '-') then drop
  match ← take? with
  | none => fail .badNumber
  | some b => if isDigit b then let _ ← digits else fail .badNumber

/-- Takes a number that is not read, its sign aside. -/
def skipNumeral : Reader Unit := do
  match ← take? with
  | none => fail .badNumber
  | some b =>
    if b = code '0' then
      if (← next?).any isDigit then failNext .badNumber
    else if isDigit b then
      let _ ← digits
    else fail .badNumber
    let next ← next?
    if next = some (code '.') then
      drop
      if (← digits) = [] then failNext .badNumber
      let next ← next?
      if next = some (code 'e') || next = some (code 'E') then skipExponent
    else if next = some (code 'e') || next = some (code 'E') then skipExponent

/-! ## Values that are not read -/

/-- What a value that is being skipped stands in. -/
inductive Frame where
  | list
  | object
  deriving DecidableEq, Repr

/-- Takes the key of an entry that is skipped, and the colon after it. -/
def skipKey : Reader Unit := do
  match ← nextPart? with
  | none => fail .endInObject
  | some b =>
    if b = code '"' then
      drop
      skipText ((← left).length + 1)
      match ← nextPart? with
      | none => fail .endInObject
      | some b => if b = code ':' then drop else failNext .expectedColon
    else failNext .keyNotText

/-- Goes on after a value that is skipped, or after the opening bracket of one
(`fresh`): the frames that a further value stands in, or none when the outermost
value has ended. -/
def skipOn (fresh : Bool) : List Frame → Reader (List Frame)
  | [] => return []
  | frame :: outer => do
    let closing := match frame with | .list => code ']' | .object => code '\x7d'
    let enter : Reader (List Frame) := do
      if frame = .object then skipKey
      return frame :: outer
    match ← nextPart? with
    | none => failNext (match frame with | .list => .endInList | .object => .endInObject)
    | some b =>
      if b = closing then
        drop
        skipOn false outer
      else if fresh then enter
      else if b = code ',' then
        drop
        enter
      else
        failNext (match frame with
          | .list => .expectedCommaOrListEnd
          | .object => .expectedCommaOrObjectEnd)

/-- Takes a value that is not read, inside the given frames. The fuel bounds the
number of scalars and opening brackets. -/
def skipInside : Nat → List Frame → Reader Unit
  | 0, _ => failNext .endInValue
  | fuel + 1, frames => do
    let on (fresh : Bool) (frames : List Frame) : Reader Unit := do
      match ← skipOn fresh frames with
      | [] => return ()
      | frames => skipInside fuel frames
    match ← nextPart? with
    | none => failNext .endInValue
    | some b =>
      if b = code 'n' then drop; word "ull".toList; on false frames
      else if b = code 't' then drop; word "rue".toList; on false frames
      else if b = code 'f' then drop; word "alse".toList; on false frames
      else if b = code '-' then drop; skipNumeral; on false frames
      else if isDigit b then skipNumeral; on false frames
      else if b = code '"' then drop; skipText ((← left).length + 1); on false frames
      else if b = code '[' then drop; on true (.list :: frames)
      else if b = code '\x7b' then drop; on true (.object :: frames)
      else failNext .expectedValue

/-- Takes a value that is not read. Nesting of any depth is allowed. -/
def skip : Reader Unit := do skipInside ((← left).length + 1) []

/-! ## Values of the wrong kind -/

/-- Fails because a value of another kind was expected. A scalar is read first, so
that the message can show it and the place lies after it. -/
def wrongKind (expected : String) : Reader α :=
  placed do
    match ← next? with
    | none => failNext .expectedValue
    | some b =>
      if b = code 'n' then drop; word "ull".toList; failInside (.wrongKind .null expected)
      else if b = code 't' then
        drop; word "rue".toList; failInside (.wrongKind (.bool true) expected)
      else if b = code 'f' then
        drop; word "alse".toList; failInside (.wrongKind (.bool false) expected)
      else if b = code '-' then
        drop; failInside (.wrongKind (.numeral (← numeral true)) expected)
      else if isDigit b then failInside (.wrongKind (.numeral (← numeral false)) expected)
      else if b = code '"' then drop; failInside (.wrongKind (.text (← text)) expected)
      else if b = code '[' then failInside (.wrongKind .list expected)
      else if b = code '\x7b' then failInside (.wrongKind .object expected)
      else failNext .expectedValue

end Reader

end BpfDepot.Json
