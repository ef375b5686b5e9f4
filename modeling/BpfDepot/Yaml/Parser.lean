import BpfDepot.Yaml.Scanner

/-! # From tokens to nodes

The tokens of a document are read as nodes: scalars, sequences and mappings. The
parser is a machine that takes tokens and tells events, one at each step; what it
does next is its state, and what it does after that waits on a stack. A node that is
left out where one is needed counts as an empty plain scalar. -/

namespace BpfDepot.Yaml

/-- What the parser tells. -/
inductive Event where
  | streamEnd
  | documentStart
  | documentEnd
  | alias (name : List Char)
  | scalar (anchor : Option (List Char)) (tag : Option (List Char)) (text : List Char)
      (style : Style)
  | sequenceStart (anchor : Option (List Char))
  | sequenceEnd
  | mappingStart (anchor : Option (List Char))
  | mappingEnd
  deriving DecidableEq, Repr

namespace Parser

/-- What the parser does next. -/
inductive Task where
  /-- Begins a document; the first one needs no mark. -/
  | documentStart (first : Bool)
  | documentContent
  | documentEnd
  | blockNode
  | blockItem (first : Bool)
  | indentlessItem
  | blockKey (first : Bool)
  | blockValue
  | flowItem (first : Bool)
  /-- The key of a pair that is an item of a sequence. -/
  | pairKey
  | pairValue
  | pairEnd
  | flowKey (first : Bool)
  /-- A value in a mapping in brackets, which may be left out with its colon. -/
  | flowValue (isEmpty : Bool)
  | stop
  deriving DecidableEq

/-- The state of the parser. -/
structure State where
  /-- The tokens that are left. -/
  tokens : List Token
  /-- The fault that stops the tokens. -/
  fault : Option Fault
  /-- What to do next. -/
  task : Task := .documentStart true
  /-- What to do after that. -/
  later : List Task := []
  /-- Where the open sequences and mappings begin. -/
  opened : List Place := []
  /-- What the handles of tags stand for. -/
  handles : List (List Char × List Char) := []

/-- Steps of the parser. -/
abbrev M := StateT State (Except Fault)

/-- The next token, which stays. -/
def peek : M Token := do
  let s ← get
  match s.tokens, s.fault with
  | token :: _, _ => return token
  | [], some fault => throw fault
  | [], none => throw .noValue

/-- Drops the next token. -/
def drop : M Unit := modify fun s => { s with tokens := s.tokens.drop 1 }

/-- Says what to do next. -/
def goTo (task : Task) : M Unit := modify fun s => { s with task }

/-- Says what to do later. -/
def push (task : Task) : M Unit := modify fun s => { s with later := task :: s.later }

/-- Goes on with what was to be done later. -/
def pop : M Unit := modify fun s =>
  { s with task := s.later.headD .stop, later := s.later.drop 1 }

/-- Notes where a sequence or a mapping begins. -/
def openAt (place : Place) : M Unit := modify fun s => { s with opened := place :: s.opened }

/-- Where the innermost sequence or mapping began, which is forgotten. -/
def close : M Place := modifyGet fun s =>
  (s.opened.headD {}, { s with opened := s.opened.drop 1 })

/-- Fails at a token. -/
def refuse {α : Type} (token : Token) (problem : String) : M α :=
  throw (.grammar problem token.start none)

/-- Fails at a token inside something that began at a place. -/
def refuseInside {α : Type} (context : String) (since : Place) (token : Token)
    (problem : String) : M α :=
  throw (.grammar problem token.start (some (context, since)))

/-- The scalar in place of a node that is left out. -/
def emptyScalar (place : Place) : Event × Place := (.scalar none none [] .plain, place)

/-! ## Documents -/

/-- The handles that need no directive. -/
def usualHandles : List (List Char × List Char) :=
  [("!".toList, "!".toList), ("!!".toList, "tag:yaml.org,2002:".toList)]

/-- Takes the directives before a document. The fuel bounds their number. -/
def takeDirectives : Nat → Bool → List (List Char × List Char) →
    M (List (List Char × List Char))
  | 0, _, handles => return handles
  | fuel + 1, versioned, handles => do
    let token ← peek
    match token.word with
    | .version major minor =>
      if versioned then refuse token "found duplicate %YAML directive"
      if major ≠ 1 || (minor ≠ 1 && minor ≠ 2) then
        refuse token "found incompatible YAML document"
      drop
      takeDirectives fuel true handles
    | .handle name stem =>
      if handles.any fun entry => entry.1 = name then
        refuse token "found duplicate %TAG directive"
      drop
      takeDirectives fuel versioned (handles ++ [(name, stem)])
    | _ => return handles

/-- Takes the directives before a document, and adds the handles that need none. -/
def useDirectives : M Unit := do
  let handles ← takeDirectives ((← get).tokens.length + 1) false []
  modify fun s => { s with handles := handles ++ usualHandles }

/-- Drops further marks of the end of a document. The fuel bounds their number. -/
def dropEnds : Nat → M Unit
  | 0 => return ()
  | fuel + 1 => do
    if (← peek).word = .documentEnd then
      drop
      dropEnds fuel

/-- Whether a token belongs to the frame of a document. -/
def isFrame : Word → Bool
  | .version _ _ | .handle _ _ | .documentStart | .documentEnd | .streamEnd => true
  | _ => false

/-- Begins a document, or ends the stream. -/
def documentStart (first : Bool) : M (Event × Place) := do
  if !first then dropEnds ((← get).tokens.length + 1)
  let token ← peek
  if token.word = .streamEnd then
    goTo .stop
    drop
    return (.streamEnd, token.start)
  else if first && (!isFrame token.word || token.word = .documentEnd) then
    useDirectives
    push .documentEnd
    goTo .blockNode
    return (.documentStart, token.start)
  else
    useDirectives
    let mark ← peek
    if mark.word ≠ .documentStart then refuse mark "did not find expected <document start>"
    push .documentEnd
    goTo .documentContent
    drop
    return (.documentStart, token.start)

/-- Ends a document. -/
def documentEnd : M (Event × Place) := do
  let token ← peek
  if token.word = .documentEnd then drop
  modify fun s => { s with handles := [] }
  goTo (.documentStart false)
  return (.documentEnd, token.start)

/-! ## Nodes -/

/-- What is said of a node before its content. -/
structure Properties where
  anchor : Option (List Char) := none
  /-- The tag, and where it begins. -/
  tag : Option (TagName × Place) := none
  /-- Where the node begins. -/
  start : Place

/-- Takes what is said of a node before its content, in either order. -/
def takeProperties : M Properties := do
  let token ← peek
  match token.word with
  | .anchor name =>
    drop
    let next ← peek
    match next.word with
    | .tag tag => drop; return { anchor := name, tag := (tag, next.start), start := token.start }
    | _ => return { anchor := name, start := token.start }
  | .tag tag =>
    drop
    let next ← peek
    match next.word with
    | .anchor name => drop; return { anchor := name, tag := (tag, token.start), start := token.start }
    | _ => return { tag := (tag, token.start), start := token.start }
  | _ => return { start := token.start }

/-- The tag of a node with its handle replaced by what it stands for. -/
def resolveTag (properties : Properties) : M (Option (List Char)) := do
  match properties.tag with
  | none => return none
  | some (tag, place) =>
    if tag.handle = [] then return some tag.suffix
    else
      match (← get).handles.find? fun entry => entry.1 = tag.handle with
      | some (_, stem) => return some (stem ++ tag.suffix)
      | none =>
        throw (.grammar "found undefined tag handle" place
          (some ("while parsing a node", properties.start)))

/-- Begins a node. In a block it may be a block, and after a key also a sequence
without an indentation of its own. -/
def node (inBlock indentless : Bool) : M (Event × Place) := do
  let token ← peek
  if let .alias name := token.word then
    pop
    drop
    return (.alias name, token.start)
  let properties ← takeProperties
  let tag ← resolveTag properties
  let { anchor, start, .. } := properties
  let token ← peek
  match token.word, inBlock with
  | .scalar text style, _ =>
    pop
    drop
    return (.scalar anchor (if tag = some ['!'] then none else tag) text style, start)
  | .flowSequence, _ => goTo (.flowItem true); return (.sequenceStart anchor, start)
  | .flowMapping, _ => goTo (.flowKey true); return (.mappingStart anchor, start)
  | .blockSequence, true => goTo (.blockItem true); return (.sequenceStart anchor, start)
  | .blockMapping, true => goTo (.blockKey true); return (.mappingStart anchor, start)
  | word, _ =>
    if indentless && word = .blockEntry then
      goTo .indentlessItem
      return (.sequenceStart anchor, start)
    else if anchor.isSome || tag.isSome then
      pop
      return (.scalar anchor tag [] .plain, start)
    else
      refuseInside (if inBlock then "while parsing a block node" else "while parsing a flow node")
        start token "did not find expected node content"

/-- Begins a node, after which something is to be done, unless one of some words
follows, before which the node is left out. -/
def nodeUnless (ends : List Word) (inBlock indentless : Bool) (after : Task) (place : Place) :
    M (Event × Place) := do
  if ends.contains (← peek).word then
    goTo after
    return emptyScalar place
  else
    push after
    node inBlock indentless

/-- The content of a document that has a mark at its beginning. -/
def documentContent : M (Event × Place) := do
  let token ← peek
  if isFrame token.word then
    pop
    return emptyScalar token.start
  else node true false

/-! ## Blocks -/

/-- The next item of a sequence in a block. -/
def blockItem (first : Bool) : M (Event × Place) := do
  if first then
    openAt (← peek).start
    drop
  let token ← peek
  match token.word with
  | .blockEntry =>
    drop
    nodeUnless [.blockEntry, .blockEnd] true false (.blockItem false) token.stop
  | .blockEnd =>
    pop
    let _ ← close
    drop
    return (.sequenceEnd, token.start)
  | _ =>
    refuseInside "while parsing a block collection" (← close) token
      "did not find expected '-' indicator"

/-- The next item of a sequence that is as far in as the keys around it. -/
def indentlessItem : M (Event × Place) := do
  let token ← peek
  match token.word with
  | .blockEntry =>
    drop
    nodeUnless [.blockEntry, .key, .value, .blockEnd] true false .indentlessItem token.stop
  | _ =>
    pop
    return (.sequenceEnd, token.start)

/-- The next key of a mapping in a block. -/
def blockKey (first : Bool) : M (Event × Place) := do
  if first then
    openAt (← peek).start
    drop
  let token ← peek
  match token.word with
  | .key =>
    drop
    nodeUnless [.key, .value, .blockEnd] true true .blockValue token.stop
  | .blockEnd =>
    pop
    let _ ← close
    drop
    return (.mappingEnd, token.start)
  | _ =>
    refuseInside "while parsing a block mapping" (← close) token "did not find expected key"

/-- The value after a key of a mapping in a block. -/
def blockValue : M (Event × Place) := do
  let token ← peek
  match token.word with
  | .value =>
    drop
    nodeUnless [.key, .value, .blockEnd] true true (.blockKey false) token.stop
  | _ =>
    goTo (.blockKey false)
    return emptyScalar token.start

/-! ## Brackets -/

/-- Takes the comma before an item that is not the first. -/
def takeComma (first : Bool) (context problem : String) : M Unit := do
  if !first then
    let token ← peek
    if token.word = .flowEntry then drop
    else refuseInside context (← close) token problem

/-- The next item of a sequence in brackets. -/
def flowItem (first : Bool) : M (Event × Place) := do
  if first then
    openAt (← peek).start
    drop
  if (← peek).word ≠ .flowSequenceEnd then
    takeComma first "while parsing a flow sequence" "did not find expected ',' or ']'"
  let token ← peek
  match token.word with
  | .flowSequenceEnd =>
    pop
    let _ ← close
    drop
    return (.sequenceEnd, token.start)
  | .key =>
    goTo .pairKey
    drop
    return (.mappingStart none, token.start)
  | _ =>
    push (.flowItem false)
    node false false

/-- The key of a pair that is an item of a sequence. What follows a key that is left
out is dropped. -/
def pairKey : M (Event × Place) := do
  let token ← peek
  if [Word.value, .flowEntry, .flowSequenceEnd].contains token.word then
    drop
    goTo .pairValue
    return emptyScalar token.stop
  else
    push .pairValue
    node false false

/-- The value of a pair that is an item of a sequence. -/
def pairValue : M (Event × Place) := do
  let token ← peek
  match token.word with
  | .value =>
    drop
    nodeUnless [.flowEntry, .flowSequenceEnd] false false .pairEnd (← peek).start
  | _ =>
    goTo .pairEnd
    return emptyScalar token.start

/-- The end of a pair that is an item of a sequence. -/
def pairEnd : M (Event × Place) := do
  goTo (.flowItem false)
  return (.mappingEnd, (← peek).start)

/-- The next key of a mapping in brackets. -/
def flowKey (first : Bool) : M (Event × Place) := do
  if first then
    openAt (← peek).start
    drop
  if (← peek).word ≠ .flowMappingEnd then
    takeComma first "while parsing a flow mapping" "did not find expected ',' or '\x7d'"
  let token ← peek
  match token.word with
  | .flowMappingEnd =>
    pop
    let _ ← close
    drop
    return (.mappingEnd, token.start)
  | .key =>
    drop
    nodeUnless [.value, .flowEntry, .flowMappingEnd] false false (.flowValue false)
      (← peek).start
  | _ =>
    push (.flowValue true)
    node false false

/-- The value after a key of a mapping in brackets. -/
def flowValue (isEmpty : Bool) : M (Event × Place) := do
  let token ← peek
  if !isEmpty && token.word = .value then
    drop
    nodeUnless [.flowEntry, .flowMappingEnd] false false (.flowKey false) (← peek).start
  else
    goTo (.flowKey false)
    return emptyScalar token.start

/-! ## The machine -/

/-- One step. -/
def step : M (Event × Place) := do
  match (← get).task with
  | .documentStart first => documentStart first
  | .documentContent => documentContent
  | .documentEnd => documentEnd
  | .blockNode => node true false
  | .blockItem first => blockItem first
  | .indentlessItem => indentlessItem
  | .blockKey first => blockKey first
  | .blockValue => blockValue
  | .flowItem first => flowItem first
  | .pairKey => pairKey
  | .pairValue => pairValue
  | .pairEnd => pairEnd
  | .flowKey first => flowKey first
  | .flowValue isEmpty => flowValue isEmpty
  | .stop => throw .noValue

/-- The events up to the end of the stream, and the fault that stops them. The fuel
bounds their number. -/
def run : Nat → State → List (Event × Place) × Option Fault
  | 0, _ => ([], none)
  | fuel + 1, s =>
    match step.run s with
    | .error fault => ([], some fault)
    | .ok ((event, place), s) =>
      if event = .streamEnd then ([(event, place)], none)
      else
        let (events, fault) := run fuel s
        ((event, place) :: events, fault)

end Parser

/-- The events of a document, each with the place where it begins, and the fault that
stops them. A token gives rise to no more than four events. -/
def events (text : List Char) : List (Event × Place) × Option Fault :=
  let (tokens, fault) := tokens text
  Parser.run (4 * tokens.length + 8) { tokens, fault }

end BpfDepot.Yaml
