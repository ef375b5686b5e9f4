import BpfDepot.Yaml.Cursor

/-! # The text of scalars

A scalar is plain, stands between quotation marks, or is a block of lines. In a
plain or quoted scalar the blanks around a line end count for nothing, a single line
end counts as a space, and of several the first counts for nothing. In a block,
lines are kept, or folded unless they begin with a blank. -/

namespace BpfDepot.Yaml

/-- How a scalar is written. -/
inductive Style where
  | plain
  | quoted
  | literal
  | folded
  deriving DecidableEq, Repr

namespace Scalar

open Scan

/-! ## Gaps inside plain and quoted scalars -/

/-- The blanks and line ends between two parts of a scalar. -/
structure Gap where
  /-- Whether there is a line end, after which blanks count for nothing. -/
  broken : Bool := false
  /-- The blanks of a gap without a line end. -/
  blanks : List Char := []
  /-- The first line end. -/
  first : List Char := []
  /-- The other line ends. -/
  others : List Char := []

/-- What a gap counts as. -/
def Gap.text (gap : Gap) : List Char :=
  if !gap.broken then gap.blanks
  else if gap.first = ['\n'] then if gap.others = [] then [' '] else gap.others
  else gap.first ++ gap.others

/-- Takes blanks and line ends. `check` is run before each blank; the fuel bounds
the number of characters. -/
def takeGap (check : Gap → Scan Unit) : Nat → Gap → Scan Gap
  | 0, gap => return gap
  | fuel + 1, gap => do
    if ← nextIs isBlank then
      check gap
      let blank := (← ahead).take 1
      skip 1
      takeGap check fuel (if gap.broken then gap else { gap with blanks := gap.blanks ++ blank })
    else if ← nextIs isBreak then
      let line ← takeBreak
      takeGap check fuel
        (if gap.broken then { gap with others := gap.others ++ line }
         else { gap with broken := true, blanks := [], first := line })
    else return gap

/-! ## Plain scalars -/

/-- The characters that have a meaning inside brackets. -/
def isFlowSign (c : Char) : Bool := c = ',' || c = '[' || c = ']' || c = '\x7b' || c = '\x7d'

/-- Takes the characters of a plain scalar up to a blank, a line end or what ends
the scalar. -/
def takePlain (inFlow : Bool) (start : Place) : Nat → Scan (List Char)
  | 0 => return []
  | fuel + 1 => do
    match ← ahead with
    | [] => return []
    | c :: rest =>
      if isSpace c then return []
      else if inFlow && c = ':' && rest.head?.any (fun d => isFlowSign d || d = '?') then
        fail "while scanning a plain scalar" start "found unexpected ':'"
      else if (c = ':' && rest.head?.all isSpace) || (inFlow && isFlowSign c) then return []
      else
        skip 1
        return c :: (← takePlain inFlow start fuel)

/-- Takes the lines of a plain scalar; its text, and whether it ended after a line
end. The fuel bounds the number of parts between gaps. -/
def plainLines (inFlow : Bool) (indent : Nat) (start : Place) :
    Nat → List Char → Gap → Scan (List Char × Bool)
  | 0, text, gap => return (text, gap.broken)
  | fuel + 1, text, gap => do
    if (← isAtMark '-') || (← isAtMark '.') || (← nextIs (· = '#')) then
      return (text, gap.broken)
    let part ← takePlain inFlow start (← bound)
    let (text, gap) := if part = [] then (text, gap) else (text ++ gap.text ++ part, {})
    if !(← nextIs isSpace) then return (text, gap.broken)
    let gap ← takeGap (fun gap => do
      if gap.broken && (← here).column < indent && (← nextIs (· = '\t')) then
        fail "while scanning a plain scalar" start
          "found a tab character that violates indentation") (← bound) gap
    if !inFlow && (← here).column < indent then return (text, gap.broken)
    plainLines inFlow indent start fuel text gap

/-- Takes a plain scalar whose further lines are indented by a number of characters;
its text, and whether it ended after a line end. -/
def takePlainScalar (inFlow : Bool) (indent : Nat) : Scan (List Char × Bool) := do
  plainLines inFlow indent (← here) (← bound) [] {}

/-! ## Quoted scalars -/

/-- What is said when a quoted scalar cannot be read on. -/
def failQuoted {α : Type} (start : Place) (problem : String) : Scan α :=
  fail "while scanning a quoted scalar" start problem

/-- What is said when an escape in a quoted scalar cannot be read. -/
def failEscape {α : Type} (start : Place) (problem : String) : Scan α :=
  fail "while parsing a quoted scalar" start problem

/-- The character that one letter after a backslash stands for. -/
def shortEscape? (c : Char) : Option Char :=
  ([('0', '\x00'), ('a', '\x07'), ('b', '\x08'), ('t', '\t'), ('\t', '\t'), ('n', '\n'),
    ('v', '\x0b'), ('f', '\x0c'), ('r', '\r'), ('e', '\x1b'), (' ', ' '), ('"', '"'), ('/', '/'),
    ('\\', '\\'), ('N', '\u0085'), ('_', '\u00a0'), ('L', '\u2028'), ('P', '\u2029')].find?
      fun pair => pair.1 = c).map Prod.snd

/-- The number of digits that follow a letter after a backslash. -/
def escapeWidth? (c : Char) : Option Nat :=
  if c = 'x' then some 2 else if c = 'u' then some 4 else if c = 'U' then some 8 else none

/-- Takes a backslash and what belongs to it. -/
def takeEscape (start : Place) : Scan Char := do
  let letter := ((← ahead).drop 1).head?.getD '\x00'
  match shortEscape? letter, escapeWidth? letter with
  | some c, _ => skip 2; return c
  | none, none => failEscape start "found unknown escape character"
  | none, some width =>
    skip 2
    let digits := (← ahead).take width
    match digits.mapM Text.hexValue? with
    | some values =>
      if values.length < width then failEscape start "did not find expected hexdecimal number"
      let code := values.foldl (fun n d => 16 * n + d) 0
      if (0xD800 ≤ code && code ≤ 0xDFFF) || 0x10FFFF < code then
        failEscape start "found invalid Unicode character escape code"
      skip width
      return Char.ofNat code
    | none => failEscape start "did not find expected hexdecimal number"

/-- Takes the characters of a quoted scalar up to a blank, a line end or the closing
mark; the characters, and whether an escaped line end was taken last. -/
def takeQuoted (quote : Char) (start : Place) : Nat → Scan (List Char × Bool)
  | 0 => return ([], false)
  | fuel + 1 => do
    let more (c : Char) : Scan (List Char × Bool) := do
      let (text, broken) ← takeQuoted quote start fuel
      return (c :: text, broken)
    match ← ahead with
    | [] => return ([], false)
    | c :: rest =>
      if isSpace c then return ([], false)
      else if c = quote then
        if quote = '\'' && rest.head? = some quote then skip 2; more quote
        else return ([], false)
      else if quote = '"' && c = '\\' then
        if rest.head?.any isBreak then
          skip 1
          let _ ← takeBreak
          return ([], true)
        else more (← takeEscape start)
      else skip 1; more c

/-- Takes the lines of a quoted scalar up to its closing mark. The fuel bounds the
number of parts between gaps. -/
def quotedLines (quote : Char) (start : Place) : Nat → List Char → Scan (List Char)
  | 0, text => return text
  | fuel + 1, text => do
    if (← isAtMark '-') || (← isAtMark '.') then
      failQuoted start "found unexpected document indicator"
    if ← isAtEnd then failQuoted start "found unexpected end of stream"
    let (part, broken) ← takeQuoted quote start (← bound)
    let text := text ++ part
    if ← nextIs (· = quote) then return text
    let gap ← takeGap (fun _ => return ()) (← bound) { broken }
    quotedLines quote start fuel (text ++ gap.text)

/-- Takes a quoted scalar. -/
def takeQuotedScalar (quote : Char) : Scan (List Char) := do
  let start ← here
  skip 1
  let text ← quotedLines quote start (← bound) []
  skip 1
  return text

/-! ## Block scalars -/

/-- What becomes of the line ends at the end of a block. -/
inductive Chomping where
  /-- None is kept. -/
  | strip
  /-- One is kept. -/
  | clip
  /-- All are kept. -/
  | keep
  deriving DecidableEq

/-- What is said when a block scalar cannot be read on. -/
def failBlock {α : Type} (start : Place) (problem : String) : Scan α :=
  fail "while scanning a block scalar" start problem

/-- Takes the sign that says what becomes of the last line ends. -/
def takeChomping? : Scan (Option Chomping) := do
  match (← ahead).head? with
  | some '+' => skip 1; return some .keep
  | some '-' => skip 1; return some .strip
  | _ => return none

/-- Takes the digit that says how far a block is indented. -/
def takeIncrement? (start : Place) : Scan (Option Nat) := do
  match (← ahead).head? with
  | some c =>
    if c.isDigit then
      if c = '0' then failBlock start "found an indentation indicator equal to 0"
      skip 1
      return some (c.toNat - '0'.toNat)
    else return none
  | none => return none

/-- Takes the signs at the head of a block, in either order. -/
def takeBlockHead (start : Place) : Scan (Chomping × Option Nat) := do
  match ← takeChomping? with
  | some chomping => return (chomping, ← takeIncrement? start)
  | none =>
    let increment ← takeIncrement? start
    if increment.isSome then return ((← takeChomping?).getD .clip, increment)
    else return (.clip, none)

/-- Takes empty lines and the indentation after them; the line ends, and the
greatest column of an indentation. Without an indentation that is known, all spaces
are taken. The fuel bounds the number of lines. -/
def takeEmptyLines (start : Place) (indent : Option Nat) :
    Nat → List Char → Nat → Scan (List Char × Nat)
  | 0, breaks, widest => return (breaks, widest)
  | fuel + 1, breaks, widest => do
    let column := (← here).column
    let spaces := ((← ahead).takeWhile (· = ' ')).length
    skip (match indent with
      | none => spaces
      | some indent => min spaces (indent - column))
    let column := (← here).column
    let widest := max widest column
    if indent.all (column < ·) && (← nextIs (· = '\t')) then
      failBlock start "found a tab character where an indentation space is expected"
    if ← nextIs isBreak then
      let line ← takeBreak
      takeEmptyLines start indent fuel (breaks ++ line) widest
    else return (breaks, widest)

/-- Takes the lines of a block. `first` is the end of the line before, `others` are
those of empty lines, and `blankBefore` says whether the line before began with a
blank. The fuel bounds the number of lines. -/
def blockLines (isLiteral : Bool) (start : Place) (indent : Nat) :
    Nat → List Char → List Char → List Char → Bool →
    Scan (List Char × List Char × List Char)
  | 0, text, first, others, _ => return (text, first, others)
  | fuel + 1, text, first, others, blankBefore => do
    if (← here).column = indent && !(← isAtEnd) then
      let blank ← nextIs isBlank
      let joint :=
        if !isLiteral && first = ['\n'] && !blankBefore && !blank then
          if others = [] then [' '] else []
        else first
      let line ← takeWhile fun c => !isBreak c
      let first ← takeBreak
      let (breaks, _) ← takeEmptyLines start (some indent) (← bound) [] 0
      blockLines isLiteral start indent fuel (text ++ joint ++ others ++ line) first breaks blank
    else return (text, first, others)

/-- Takes a block scalar inside an indentation, which is below zero at the top. -/
def takeBlockScalar (isLiteral : Bool) (outer : Int) : Scan (List Char) := do
  let start ← here
  skip 1
  let (chomping, increment) ← takeBlockHead start
  skipWhile isBlank
  skipComment
  if !(← nextIsOrEnd isBreak) then
    failBlock start "did not find expected comment or line break"
  let _ ← takeBreak
  let known := increment.map fun n => outer.toNat + n
  let (breaks, widest) ← takeEmptyLines start known (← bound) [] 0
  let indent := known.getD (max widest (max (outer + 1).toNat 1))
  let (text, first, others) ←
    blockLines isLiteral start indent (← bound) [] [] breaks false
  return match chomping with
    | .strip => text
    | .clip => text ++ first
    | .keep => text ++ first ++ others

end Scalar

end BpfDepot.Yaml
