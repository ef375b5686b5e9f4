import BpfDepot.Yaml.Token

/-! # From characters to tokens

Two things make the tokens of a document more than a cutting of its characters. The
tokens that open and close blocks follow from the columns of other tokens. And a
token may turn out to be a key only when the colon after it is found, so that a
token for the key has to be put before it. Tokens therefore wait in a queue, and the
first one is delivered only when it can no longer become a key. -/

namespace BpfDepot.Yaml

/-- A token that a colon may turn into a key. -/
structure PossibleKey where
  /-- Whether there must be a colon, because nothing else can stand there. -/
  required : Bool
  /-- The number of tokens before it. -/
  number : Nat
  /-- Where it begins. -/
  start : Place

/-- The state of the scanner. -/
structure Scanner where
  /-- What is left of the document. -/
  cursor : Cursor
  /-- The tokens that have not been delivered. -/
  queue : List Token := []
  /-- The number of tokens that have been delivered. -/
  delivered : Nat := 0
  /-- The column of the innermost block, or minus one outside all blocks. -/
  indent : Int := -1
  /-- The columns of the blocks around it. -/
  indents : List Int := []
  /-- Whether a key may begin at the cursor. -/
  keyAllowed : Bool := true
  /-- What may become a key, outside all brackets. -/
  blockKey : Option PossibleKey := none
  /-- What may become a key inside each of the open brackets, the innermost first. -/
  flowKeys : List (Option PossibleKey) := []

namespace Scanner

/-- Computations that scan. -/
abbrev M := StateT Scanner (Except Fault)

/-- Moves the cursor. -/
def scan {α : Type} (step : Scan α) : M α := do
  let s ← get
  let (a, cursor) ← step.run s.cursor
  set { s with cursor }
  return a

/-- The place of the cursor. -/
def here : M Place := return (← get).cursor.place

/-- Whether the cursor is inside brackets. -/
def inFlow : M Bool := return !(← get).flowKeys.isEmpty

/-- Fails at the cursor where something must not stand. -/
def refuse (problem : String) : M Unit := do
  throw (.grammar problem (← here) none)

/-- Puts a token at the end of the queue. -/
def enqueue (token : Token) : M Unit := modify fun s => { s with queue := s.queue ++ [token] }

/-- Puts a token before the token with a number. -/
def insertBefore (number : Nat) (token : Token) : M Unit := modify fun s =>
  let place := number - s.delivered
  { s with queue := s.queue.take place ++ token :: s.queue.drop place }

/-- Takes signs of one line as a token. -/
def takeSign (word : Word) (length : Nat) : M Unit := do
  let start ← here
  scan (Scan.skip length)
  enqueue { word, start, stop := ← here }

/-- Takes a token that other characters make. -/
def takeToken (step : Scan Word) : M Unit := do
  let start ← here
  let word ← scan step
  enqueue { word, start, stop := ← here }

/-! ## Keys -/

/-- What may become a key inside the innermost brackets. -/
def innermostKey (s : Scanner) : Option PossibleKey :=
  match s.flowKeys with
  | key :: _ => key
  | [] => s.blockKey

/-- Changes what may become a key inside the innermost brackets. -/
def withInnermostKey (s : Scanner) (key : Option PossibleKey) : Scanner :=
  match s.flowKeys with
  | _ :: rest => { s with flowKeys := key :: rest }
  | [] => { s with blockKey := key }

/-- Gives up a key, which must not be one that has to be there. -/
def giveUp (key : PossibleKey) : M Unit := do
  if key.required then
    throw (.grammar "could not find expected ':'" (← here)
      (some ("while scanning a simple key", key.start)))

/-- Gives up the key inside the innermost brackets. -/
def dropKey : M Unit := do
  if let some key := innermostKey (← get) then giveUp key
  modify fun s => withInnermostKey s none

/-- Notes that the next token may become a key. -/
def noteKey : M Unit := do
  let s ← get
  if s.keyAllowed then
    let start := s.cursor.place
    let key : PossibleKey := {
      required := s.flowKeys.isEmpty && s.indent = start.column
      number := s.delivered + s.queue.length
      start }
    dropKey
    modify fun s => withInnermostKey s (some key)

/-- Whether a key would be too long: keys end on their line, and soon. -/
def isStale (place : Place) (key : PossibleKey) : Bool :=
  key.start.line < place.line || key.start.index + 1024 < place.index

/-- A key unless it would be too long. -/
def freshKey (key : Option PossibleKey) : M (Option PossibleKey) := do
  match key with
  | some key => if isStale (← here) key then giveUp key; return none else return some key
  | none => return none

/-- Gives up the keys that would be too long, the outermost first. -/
def dropStaleKeys : M Unit := do
  let s ← get
  let blockKey ← freshKey s.blockKey
  let flowKeys ← s.flowKeys.reverse.mapM freshKey
  modify fun s => { s with blockKey, flowKeys := flowKeys.reverse }

/-- Whether the first token of the queue may still become a key. -/
def firstMayBeKey (s : Scanner) : Bool :=
  (s.blockKey :: s.flowKeys).any fun key => key.any fun key => key.number = s.delivered

/-! ## Blocks -/

/-- Opens a block at a column if it is further in than the innermost one. The token
stands before the token with a number, or at the end of the queue. -/
def openBlock (column : Nat) (number : Option Nat) (word : Word) (place : Place) : M Unit := do
  let s ← get
  if s.flowKeys.isEmpty && s.indent < column then
    set { s with indents := s.indent :: s.indents, indent := (column : Int) }
    let token : Token := { word, start := place, stop := place }
    match number with
    | some number => insertBefore number token
    | none => enqueue token

/-- Ends the blocks further in than a column, which are among those given. -/
def closeBlocksAmong (column : Int) : List Int → M Unit
  | [] => return ()
  | outer :: rest => do
    let s ← get
    if column < s.indent then
      let place := s.cursor.place
      set { s with indent := outer, indents := rest }
      enqueue { word := .blockEnd, start := place, stop := place }
      closeBlocksAmong column rest

/-- Ends the blocks further in than a column. -/
def closeBlocks (column : Int) : M Unit := do
  if !(← inFlow) then closeBlocksAmong column (← get).indents

/-! ## Tokens -/

/-- Says whether a key may begin at the cursor. -/
def allowKey (allowed : Bool) : M Unit := modify fun s => { s with keyAllowed := allowed }

/-- Moves to the next token, over blanks, comments and line ends. The fuel bounds
the number of lines. -/
def skipToToken : Nat → M Unit
  | 0 => return ()
  | fuel + 1 => do
    let s ← get
    if s.cursor.place.index = 0 then
      scan (Scan.skip (s.cursor.rest.takeWhile (· = '\uFEFF') |>.take 1).length)
    let tabs := !s.flowKeys.isEmpty || !s.keyAllowed
    scan (Scan.skipWhile fun c => c = ' ' || (tabs && c = '\t'))
    scan Scan.skipComment
    if ← scan (Scan.nextIs isBreak) then
      let _ ← scan Scan.takeBreak
      if s.flowKeys.isEmpty then allowKey true
      skipToToken fuel

/-- Ends everything at the end of the document, as on a new line. -/
def takeEnd : M Unit := do
  modify fun s =>
    let place := s.cursor.place
    if place.column = 0 then s
    else { s with cursor := { s.cursor with
      place := { place with line := place.line + 1, column := 0 } } }
  closeBlocks (-1)
  dropKey
  allowKey false
  takeSign .streamEnd 0

/-- Ends all blocks before a directive or a mark of a document. -/
def endBlocks : M Unit := do
  closeBlocks (-1)
  dropKey
  allowKey false

/-- Takes an opening bracket. -/
def openFlow (word : Word) : M Unit := do
  noteKey
  modify fun s => { s with flowKeys := none :: s.flowKeys }
  allowKey true
  takeSign word 1

/-- Takes a closing bracket. -/
def closeFlow (word : Word) : M Unit := do
  dropKey
  modify fun s => { s with flowKeys := s.flowKeys.drop 1 }
  allowKey false
  takeSign word 1

/-- Opens a block for a sign at the cursor, where a key must be allowed. -/
def openBlockHere (word : Word) (problem : String) : M Unit := do
  let s ← get
  if s.flowKeys.isEmpty then
    if !s.keyAllowed then refuse problem
    openBlock s.cursor.place.column none word s.cursor.place

/-- Takes the dash before an item. -/
def takeBlockEntry : M Unit := do
  openBlockHere .blockSequence "block sequence entries are not allowed in this context"
  dropKey
  allowKey true
  takeSign .blockEntry 1

/-- Takes the question mark before a key. -/
def takeKey : M Unit := do
  openBlockHere .blockMapping "mapping keys are not allowed in this context"
  dropKey
  allowKey (!(← inFlow))
  takeSign .key 1

/-- Takes the colon before a value. What stood before it becomes a key, if it can. -/
def takeValue : M Unit := do
  match innermostKey (← get) with
  | some key =>
    insertBefore key.number { word := .key, start := key.start, stop := key.start }
    openBlock key.start.column (some key.number) .blockMapping key.start
    modify fun s => withInnermostKey s none
    allowKey false
  | none =>
    openBlockHere .blockMapping "mapping values are not allowed in this context"
    allowKey (!(← inFlow))
  takeSign .value 1

/-- Takes a token that may become a key. -/
def takeNode (step : Scan Word) : M Unit := do
  noteKey
  allowKey false
  takeToken step

/-- Takes a block of lines. -/
def takeBlock (isLiteral : Bool) : M Unit := do
  dropKey
  allowKey true
  let indent := (← get).indent
  takeToken do
    let text ← Scalar.takeBlockScalar isLiteral indent
    return .scalar text (if isLiteral then .literal else .folded)

/-- Takes a plain scalar. After one that ended after a line end a key may begin. -/
def takePlain : M Unit := do
  noteKey
  allowKey false
  let s ← get
  let start ← here
  let (text, broken) ←
    scan (Scalar.takePlainScalar (!s.flowKeys.isEmpty) (s.indent + 1).toNat)
  enqueue { word := .scalar text .plain, start, stop := ← here }
  if broken then allowKey true

/-- Whether a plain scalar may begin with a character before others. -/
def startsPlain (inFlow : Bool) (c : Char) (rest : List Char) : Bool :=
  (!isSpace c && !"-?:,[]\x7b\x7d#&*!|>'\"%@`".toList.contains c)
    || (c = '-' && !rest.head?.any isBlank)
    || (!inFlow && (c = '?' || c = ':') && !rest.head?.all isSpace)

/-- Takes the next token with those that come with it. -/
def takeNext : M Unit := do
  skipToToken (← scan Scan.bound)
  dropStaleKeys
  closeBlocks (← here).column
  let s ← get
  let flow := !s.flowKeys.isEmpty
  match s.cursor.rest with
  | [] => takeEnd
  | c :: rest =>
    let apart := flow || rest.head?.all isSpace
    if s.cursor.place.column = 0 && c = '%' then
      endBlocks
      enqueue (← scan takeDirective)
    else if ← scan (Scan.isAtMark '-') then endBlocks; takeSign .documentStart 3
    else if ← scan (Scan.isAtMark '.') then endBlocks; takeSign .documentEnd 3
    else if c = '[' then openFlow .flowSequence
    else if c = '\x7b' then openFlow .flowMapping
    else if c = ']' then closeFlow .flowSequenceEnd
    else if c = '\x7d' then closeFlow .flowMappingEnd
    else if c = ',' then
      dropKey
      allowKey true
      takeSign .flowEntry 1
    else if c = '-' && rest.head?.all isSpace then takeBlockEntry
    else if c = '?' && apart then takeKey
    else if c = ':' && apart then takeValue
    else if c = '*' then takeNode (.alias <$> takeAnchor "while scanning an alias")
    else if c = '&' then takeNode (.anchor <$> takeAnchor "while scanning an anchor")
    else if c = '!' then takeNode (.tag <$> takeTag flow)
    else if c = '|' && !flow then takeBlock true
    else if c = '>' && !flow then takeBlock false
    else if c = '\'' || c = '"' then
      takeNode do return .scalar (← Scalar.takeQuotedScalar c) .quoted
    else if startsPlain flow c rest then takePlain
    else
      scan (Scan.fail "while scanning for the next token" s.cursor.place
        "found character that cannot start any token")

/-- Delivers the next token. The fuel bounds the number of tokens that are taken
before it can be delivered. -/
def deliver : Nat → M (Option Token)
  | 0 => return none
  | fuel + 1 => do
    if (← get).queue.isEmpty then
      takeNext
      deliver fuel
    else
      dropStaleKeys
      let s ← get
      if firstMayBeKey s then
        takeNext
        deliver fuel
      else
        set { s with queue := s.queue.drop 1, delivered := s.delivered + 1 }
        return s.queue.head?

/-- The tokens that are delivered, and the fault that stops them. The fuel bounds
their number. -/
def deliverAll : Nat → Scanner → List Token × Option Fault
  | 0, _ => ([], none)
  | fuel + 1, s =>
    match (deliver (s.cursor.size + 3)).run s with
    | .error fault => ([], some fault)
    | .ok (none, _) => ([], none)
    | .ok (some token, s) =>
      if token.word = .streamEnd then ([token], none)
      else
        let (tokens, fault) := deliverAll fuel s
        (token :: tokens, fault)

end Scanner

/-- The number of bytes before the first character that no document may hold. -/
def findControl? : List Char → Option Nat
  | [] => none
  | c :: rest => if isAllowed c then (findControl? rest).map (· + c.utf8Size) else some 0

/-- The tokens of a document, and the fault that stops them. -/
def tokens (text : List Char) : List Token × Option Fault :=
  match findControl? text with
  | some offset => ([], some (.control offset))
  | none => Scanner.deliverAll (4 * text.length + 8) { cursor := { size := text.length, rest := text } }

end BpfDepot.Yaml
