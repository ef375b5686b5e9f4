import BpfDepot.Yaml.Scalar

/-! # Tokens of a YAML document

A document is a sequence of tokens. Signs are tokens, and so are names, tags,
directives and whole scalars; the tokens that open and close blocks stand for a
change of the indentation. -/

namespace BpfDepot.Yaml

/-- A tag as it is written: the handle of a directive, and what follows it. -/
structure TagName where
  handle : List Char
  suffix : List Char
  deriving DecidableEq, Repr

/-- What a token says. -/
inductive Word where
  | streamEnd
  | version (major minor : Nat)
  /-- A directive that says what a handle stands for. -/
  | handle (name stem : List Char)
  | documentStart
  | documentEnd
  | blockSequence
  | blockMapping
  | blockEnd
  | flowSequence
  | flowSequenceEnd
  | flowMapping
  | flowMappingEnd
  | blockEntry
  | flowEntry
  | key
  | value
  | alias (name : List Char)
  | anchor (name : List Char)
  | tag (name : TagName)
  | scalar (text : List Char) (style : Style)
  deriving DecidableEq, Repr

/-- A token with the places where it begins and ends. -/
structure Token where
  word : Word
  start : Place
  stop : Place
  deriving DecidableEq, Repr

open Scan

/-! ## Anchors -/

/-- Takes the name of a node, or of a node that is referred to. -/
def takeAnchor (context : String) : Scan (List Char) := do
  let start ← here
  skip 1
  let name ← takeWhile isNameChar
  let ends (c : Char) : Bool := isSpace c || "?:,]\x7d%@`".toList.contains c
  if name = [] || !(← nextIsOrEnd ends) then
    fail context start "did not find expected alphabetic or numeric character"
  return name

/-! ## Tags -/

/-- What is said when the parts of a tag cannot be read. -/
def tagContext (inDirective : Bool) : String :=
  if inDirective then "while parsing a %TAG directive" else "while parsing a tag"

/-- Takes the handle of a tag, or what may be one. -/
def takeHandle (inDirective : Bool) (start : Place) : Scan (List Char) := do
  if !(← nextIs (· = '!')) then
    fail (if inDirective then "while scanning a tag directive" else "while scanning a tag") start
      "did not find expected '!'"
  skip 1
  let name ← takeWhile isNameChar
  if ← nextIs (· = '!') then
    skip 1
    return '!' :: name ++ ['!']
  if inDirective && name ≠ [] then
    fail "while parsing a tag directive" start "did not find expected '!'"
  return '!' :: name

/-- The number of bytes of a character whose first byte is given. -/
def encodedWidth? (byte : Nat) : Option Nat :=
  if byte < 0x80 then some 1
  else if byte < 0xC0 then none
  else if byte < 0xE0 then some 2
  else if byte < 0xF0 then some 3
  else if byte < 0xF8 then some 4
  else none

/-- Takes one byte that is written by its digits. -/
def takeEscapedByte (inDirective : Bool) (start : Place) : Scan Nat := do
  match (← ahead).take 3 with
  | ['%', a, b] =>
    match Text.hexValue? a, Text.hexValue? b with
    | some a, some b => return 16 * a + b
    | _, _ => fail (tagContext inDirective) start "did not find URI escaped octet"
  | _ => fail (tagContext inDirective) start "did not find URI escaped octet"

/-- Takes the further bytes of a character. -/
def takeTrailingBytes (inDirective : Bool) (start : Place) : Nat → Scan (List Char)
  | 0 => return []
  | count + 1 => do
    let byte ← takeEscapedByte inDirective start
    if byte < 0x80 || 0xC0 ≤ byte then
      fail (tagContext inDirective) start "found an incorrect trailing UTF-8 octet"
    skip 3
    return Char.ofNat byte :: (← takeTrailingBytes inDirective start count)

/-- Takes the bytes of one character that are written by their digits. -/
def takeEscapedChar (inDirective : Bool) (start : Place) : Scan (List Char) := do
  let byte ← takeEscapedByte inDirective start
  match encodedWidth? byte with
  | none => fail (tagContext inDirective) start "found an incorrect leading UTF-8 octet"
  | some width =>
    skip 3
    return Char.ofNat byte :: (← takeTrailingBytes inDirective start (width - 1))

/-- Whether a character may stand in an address. -/
def isAddressChar (verbatim : Bool) (c : Char) : Bool :=
  isNameChar c || ";/?:@&=+$.%!~*'()".toList.contains c
    || (verbatim && (c = ',' || c = '[' || c = ']'))

/-- Takes the characters of an address; the fuel bounds their number. -/
def takeAddressChars (verbatim inDirective : Bool) (start : Place) : Nat → Scan (List Char)
  | 0 => return []
  | fuel + 1 => do
    match (← ahead).head? with
    | some c =>
      if c = '%' then
        let bytes ← takeEscapedChar inDirective start
        return bytes ++ (← takeAddressChars verbatim inDirective start fuel)
      else if isAddressChar verbatim c then
        skip 1
        return c :: (← takeAddressChars verbatim inDirective start fuel)
      else return []
    | none => return []

/-- Takes an address that may have begun with a head already taken, which counts
without its first character. -/
def takeAddress (verbatim inDirective : Bool) (head : List Char) (start : Place) :
    Scan (List Char) := do
  let rest ← takeAddressChars verbatim inDirective start (← bound)
  if head = [] && rest = [] then
    fail (tagContext inDirective) start "did not find expected tag URI"
  return head.drop 1 ++ rest

/-- Takes a tag. -/
def takeTag (inFlow : Bool) : Scan TagName := do
  let start ← here
  let name ←
    if ((← ahead).drop 1).head? = some '<' then do
      skip 2
      let suffix ← takeAddress true false [] start
      if !(← nextIs (· = '>')) then fail "while scanning a tag" start "did not find the expected '>'"
      skip 1
      pure ⟨[], suffix⟩
    else do
      let handle ← takeHandle false start
      if 1 < handle.length && handle.getLast? = some '!' then
        pure ⟨handle, ← takeAddress false false [] start⟩
      else
        let suffix ← takeAddress false false handle start
        pure (if suffix = [] then ⟨[], ['!']⟩ else ⟨['!'], suffix⟩)
  if !(← nextIsOrEnd isSpace) && !(inFlow && (← nextIs (· = ','))) then
    fail "while scanning a tag" start "did not find expected whitespace or line break"
  return name

/-! ## Directives -/

/-- What is said when a version cannot be read. -/
def versionContext : String := "while scanning a %YAML directive"

/-- Takes a number of a version. -/
def takeVersionNumber (start : Place) : Scan Nat := do
  let digits := (← ahead).takeWhile Char.isDigit
  if 9 < digits.length then
    skip 9
    fail versionContext start "found extremely long version number"
  skip digits.length
  if digits = [] then fail versionContext start "did not find expected version number"
  return digits.foldl (fun n c => 10 * n + (c.toNat - '0'.toNat)) 0

/-- Takes a version. -/
def takeVersion (start : Place) : Scan Word := do
  skipWhile isBlank
  let major ← takeVersionNumber start
  if !(← nextIs (· = '.')) then
    fail versionContext start "did not find expected digit or '.' character"
  skip 1
  return .version major (← takeVersionNumber start)

/-- Takes a handle and what it stands for. -/
def takeHandleMeaning (start : Place) : Scan Word := do
  skipWhile isBlank
  let name ← takeHandle true start
  if !(← nextIs isBlank) then
    fail "while scanning a %TAG directive" start "did not find expected whitespace"
  skipWhile isBlank
  let stem ← takeAddress true true [] start
  if !(← nextIsOrEnd isSpace) then
    fail "while scanning a %TAG directive" start "did not find expected whitespace or line break"
  return .handle name stem

/-- What is said when a directive cannot be read. -/
def failDirective {α : Type} (start : Place) (problem : String) : Scan α :=
  fail "while scanning a directive" start problem

/-- Takes a directive with its line. -/
def takeDirective : Scan Token := do
  let start ← here
  skip 1
  let name ← takeWhile isNameChar
  if name = [] then failDirective start "could not find expected directive name"
  if !(← nextIsOrEnd isSpace) then
    failDirective start "found unexpected non-alphabetical character"
  let word ←
    if name = "YAML".toList then takeVersion start
    else if name = "TAG".toList then takeHandleMeaning start
    else failDirective start "found unknown directive name"
  let stop ← here
  skipWhile isBlank
  skipComment
  if !(← nextIsOrEnd isBreak) then
    failDirective start "did not find expected comment or line break"
  let _ ← takeBreak
  return { word, start, stop }

end BpfDepot.Yaml
