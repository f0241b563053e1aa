import ConfigRollout.Yaml.Scanner

/-!
# The YAML event parser

Turns the scanner's tokens into events: the start and end of the stream, of documents, of
sequences and of mappings, scalars and aliases. It is a state machine over a stack of states
to return to and a stack of marks where the open collections began, taking one event per
call; the rules and messages are those of the reference C reader, so a malformed document
fails with the same problem at the same place.

A mapping written with indentation may hold a sequence whose `-` entries are not indented
below its key (an *indentless sequence*); the parser accepts it in value position.
-/

set_option autoImplicit false

namespace ConfigRollout.Yaml

/-- The kinds of event. -/
inductive EventKind where
  | streamStart
  | streamEnd
  | documentStart
  | documentEnd
  | alias (anchor : String)
  | scalar (anchor tag : Option String) (text : String) (style : ScalarStyle)
  | sequenceStart (anchor tag : Option String)
  | sequenceEnd
  | mappingStart (anchor tag : Option String)
  | mappingEnd
  deriving Repr, Inhabited

/-- An event and where it starts. -/
structure Event where
  kind : EventKind
  start : Mark
  deriving Repr, Inhabited

/-- What the parser expects next. -/
inductive ParseState where
  | streamStart
  | implicitDocumentStart
  | documentStart
  | documentContent
  | documentEnd
  | blockNode
  | blockSequenceFirstEntry
  | blockSequenceEntry
  | indentlessSequenceEntry
  | blockMappingFirstKey
  | blockMappingKey
  | blockMappingValue
  | flowSequenceFirstEntry
  | flowSequenceEntry
  | flowSequenceEntryMappingKey
  | flowSequenceEntryMappingValue
  | flowSequenceEntryMappingEnd
  | flowMappingFirstKey
  | flowMappingKey
  | flowMappingValue
  | flowMappingEmptyValue
  | finished
  deriving DecidableEq, Repr, Inhabited

/-- The parser's state. -/
structure Parser where
  scanner : Scanner
  state : ParseState := .streamStart
  /-- The states to return to when the current node is complete. -/
  states : List ParseState := []
  /-- Where the open collections began. -/
  marks : List Mark := []
  /-- The tag handles of the current document and their prefixes. -/
  tagDirectives : List (String × String) := []
  deriving Inhabited

/-- Parsing: the parser as state, a failure as a `YamlError`. -/
abbrev Parse := StateT Parser (Except YamlError)

/-- Runs a scanning step inside the parser. -/
def liftScan {α : Type} (m : Scan α) : Parse α := fun p => do
  let (a, s) ← m.run p.scanner
  pure (a, { p with scanner := s })

def peek : Parse Token := liftScan peekToken

def take : Parse Unit := liftScan skipToken

def parseFail {α : Type} (context : Option (String × Mark)) (problem : String) (mark : Mark) : Parse α :=
  throw { problem := problem, mark := mark, context := context }

def setState (st : ParseState) : Parse Unit :=
  modify fun p => { p with state := st }

def pushState (st : ParseState) : Parse Unit :=
  modify fun p => { p with states := st :: p.states }

/-- Returns to the state saved last. -/
def popState : Parse Unit :=
  modify fun p => match p.states with
    | st :: rest => { p with state := st, states := rest }
    | [] => { p with state := .finished }

def pushMark (m : Mark) : Parse Unit :=
  modify fun p => { p with marks := m :: p.marks }

def popMark : Parse Mark := do
  let p ← get
  match p.marks with
  | m :: rest =>
    set { p with marks := rest }
    pure m
  | [] => pure {}

/-- The empty plain scalar that stands for a missing node. -/
def emptyScalar (m : Mark) : Event := ⟨.scalar none none "" .plain, m⟩

def isDirective (t : Token) : Bool :=
  match t.kind with
  | .versionDirective .. => true
  | .tagDirective .. => true
  | _ => false

/-- The tag handles every document knows. -/
def defaultTagDirectives : List (String × String) :=
  [("!", "!"), ("!!", "tag:yaml.org,2002:")]

def directivesAux (seenVersion : Bool) : Nat → List (String × String) → Parse (List (String × String))
  | 0, acc => pure acc
  | n + 1, acc => do
    let t ← peek
    match t.kind with
    | .versionDirective major minor =>
      if seenVersion then parseFail none "found duplicate %YAML directive" t.start
      else if major != 1 || (minor != 1 && minor != 2) then parseFail none "found incompatible YAML document" t.start
      else
        take
        directivesAux true n acc
    | .tagDirective handle pfx =>
      if acc.any (·.1 == handle) then parseFail none "found duplicate %TAG directive" t.start
      else
        take
        directivesAux seenVersion n (acc ++ [(handle, pfx)])
    | _ => pure acc

/-- Reads the directives before a document and sets its tag handles. -/
def processDirectives : Parse Unit := do
  let declared ← directivesAux false ((← get).scanner.remaining + 2) []
  let all := declared ++ defaultTagDirectives.filter (fun d => !declared.any (·.1 == d.1))
  modify fun p => { p with tagDirectives := all }

def parseDocumentEndsAux : Nat → Parse Token
  | 0 => peek
  | n + 1 => do
    let t ← peek
    if t.kind == .documentEnd then
      take
      parseDocumentEndsAux n
    else pure t

/-- The start of a document, or the end of the stream. A document without `---` may only
start where no directive stands. -/
def parseDocumentStart (implicit : Bool) : Parse Event := do
  let t ← if implicit then peek else parseDocumentEndsAux ((← get).scanner.remaining + 2)
  if implicit && !(isDirective t || t.kind == .documentStart || t.kind == .streamEnd) then
    processDirectives
    pushState .documentEnd
    setState .blockNode
    pure ⟨.documentStart, t.start⟩
  else if t.kind != .streamEnd then
    let start := t.start
    processDirectives
    let t ← peek
    if t.kind != .documentStart then parseFail none "did not find expected <document start>" t.start
    else
      pushState .documentEnd
      setState .documentContent
      take
      pure ⟨.documentStart, start⟩
  else
    setState .finished
    take
    pure ⟨.streamEnd, t.start⟩

def parseDocumentEnd : Parse Event := do
  let t ← peek
  if t.kind == .documentEnd then take
  modify fun p => { p with tagDirectives := [] }
  setState .documentStart
  pure ⟨.documentEnd, t.start⟩

/-- A node: an alias, or a scalar or collection with an optional anchor and tag. In block
context a block collection may start here; `indentless` also admits a sequence of `-`
entries at the indentation of the enclosing mapping. -/
def parseNode (block indentless : Bool) : Parse Event := do
  let t ← peek
  match t.kind with
  | .alias name =>
    popState
    take
    pure ⟨.alias name, t.start⟩
  | _ =>
    let start := t.start
    let (anchor, tagParts, tagMark, t) ← match t.kind with
      | .anchor a => do
        take
        let t2 ← peek
        match t2.kind with
        | .tag h s =>
          take
          pure (some a, some (h, s), t2.start, ← peek)
        | _ => pure (some a, none, start, t2)
      | .tag h s => do
        take
        let t2 ← peek
        match t2.kind with
        | .anchor a =>
          take
          pure (some a, some (h, s), start, ← peek)
        | _ => pure (none, some (h, s), start, t2)
      | _ => pure (none, none, start, t)
    let tag ← match tagParts with
      | none => pure none
      | some (h, s) =>
        if h.isEmpty then pure (some s)
        else match (← get).tagDirectives.lookup h with
          | some pfx => pure (some (pfx ++ s))
          | none => parseFail (some ("while parsing a node", start)) "found undefined tag handle" tagMark
    let emptyOrFail : Parse Event :=
      if anchor.isSome || tag.isSome then do
        popState
        pure ⟨.scalar anchor tag "" .plain, start⟩
      else
        parseFail (some (if block then "while parsing a block node" else "while parsing a flow node", start))
          "did not find expected node content" t.start
    if indentless && t.kind == .blockEntry then
      setState .indentlessSequenceEntry
      pure ⟨.sequenceStart anchor tag, start⟩
    else match t.kind with
      | .scalar text style =>
        popState
        take
        pure ⟨.scalar anchor tag text style, start⟩
      | .flowSequenceStart =>
        setState .flowSequenceFirstEntry
        pure ⟨.sequenceStart anchor tag, start⟩
      | .flowMappingStart =>
        setState .flowMappingFirstKey
        pure ⟨.mappingStart anchor tag, start⟩
      | .blockSequenceStart =>
        if block then
          setState .blockSequenceFirstEntry
          pure ⟨.sequenceStart anchor tag, start⟩
        else emptyOrFail
      | .blockMappingStart =>
        if block then
          setState .blockMappingFirstKey
          pure ⟨.mappingStart anchor tag, start⟩
        else emptyOrFail
      | _ => emptyOrFail

def parseDocumentContent : Parse Event := do
  let t ← peek
  if isDirective t || t.kind == .documentStart || t.kind == .documentEnd || t.kind == .streamEnd then
    popState
    pure (emptyScalar t.start)
  else parseNode true false

/-- Opens a collection: remembers where it began and takes its start token. -/
def openCollection : Parse Unit := do
  let t ← peek
  pushMark t.start
  take

def parseBlockSequenceEntry (first : Bool) : Parse Event := do
  if first then openCollection
  let t ← peek
  if t.kind == .blockEntry then
    let m := t.stop
    take
    let t ← peek
    if t.kind != .blockEntry && t.kind != .blockEnd then
      pushState .blockSequenceEntry
      parseNode true false
    else
      setState .blockSequenceEntry
      pure (emptyScalar m)
  else if t.kind == .blockEnd then
    popState
    let _ ← popMark
    take
    pure ⟨.sequenceEnd, t.start⟩
  else
    let m ← popMark
    parseFail (some ("while parsing a block collection", m)) "did not find expected '-' indicator" t.start

def parseIndentlessSequenceEntry : Parse Event := do
  let t ← peek
  if t.kind == .blockEntry then
    let m := t.stop
    take
    let t ← peek
    if t.kind != .blockEntry && t.kind != .key && t.kind != .value && t.kind != .blockEnd then
      pushState .indentlessSequenceEntry
      parseNode true false
    else
      setState .indentlessSequenceEntry
      pure (emptyScalar m)
  else
    popState
    pure ⟨.sequenceEnd, t.start⟩

def parseBlockMappingKey (first : Bool) : Parse Event := do
  if first then openCollection
  let t ← peek
  if t.kind == .key then
    let m := t.stop
    take
    let t ← peek
    if t.kind != .key && t.kind != .value && t.kind != .blockEnd then
      pushState .blockMappingValue
      parseNode true true
    else
      setState .blockMappingValue
      pure (emptyScalar m)
  else if t.kind == .blockEnd then
    popState
    let _ ← popMark
    take
    pure ⟨.mappingEnd, t.start⟩
  else
    let m ← popMark
    parseFail (some ("while parsing a block mapping", m)) "did not find expected key" t.start

def parseBlockMappingValue : Parse Event := do
  let t ← peek
  if t.kind == .value then
    let m := t.stop
    take
    let t ← peek
    if t.kind != .key && t.kind != .value && t.kind != .blockEnd then
      pushState .blockMappingKey
      parseNode true true
    else
      setState .blockMappingKey
      pure (emptyScalar m)
  else
    setState .blockMappingKey
    pure (emptyScalar t.start)

/-- Closes a flow collection at its end token. -/
def closeFlow (t : Token) (kind : EventKind) : Parse Event := do
  popState
  let _ ← popMark
  take
  pure ⟨kind, t.start⟩

def parseFlowSequenceEntry (first : Bool) : Parse Event := do
  if first then openCollection
  let t ← peek
  if t.kind == .flowSequenceEnd then closeFlow t .sequenceEnd
  else
    let t ←
      if first then pure t
      else if t.kind == .flowEntry then do
        take
        peek
      else do
        let m ← popMark
        parseFail (some ("while parsing a flow sequence", m)) "did not find expected ',' or ']'" t.start
    if t.kind == .key then
      setState .flowSequenceEntryMappingKey
      take
      pure ⟨.mappingStart none none, t.start⟩
    else if t.kind != .flowSequenceEnd then
      pushState .flowSequenceEntry
      parseNode false false
    else closeFlow t .sequenceEnd

def parseFlowSequenceEntryMappingKey : Parse Event := do
  let t ← peek
  if t.kind != .value && t.kind != .flowEntry && t.kind != .flowSequenceEnd then
    pushState .flowSequenceEntryMappingValue
    parseNode false false
  else
    setState .flowSequenceEntryMappingValue
    pure (emptyScalar t.start)

def parseFlowSequenceEntryMappingValue : Parse Event := do
  let t ← peek
  if t.kind == .value then
    take
    let t ← peek
    if t.kind != .flowEntry && t.kind != .flowSequenceEnd then
      pushState .flowSequenceEntryMappingEnd
      parseNode false false
    else
      setState .flowSequenceEntryMappingEnd
      pure (emptyScalar t.start)
  else
    setState .flowSequenceEntryMappingEnd
    pure (emptyScalar t.start)

def parseFlowSequenceEntryMappingEnd : Parse Event := do
  let t ← peek
  setState .flowSequenceEntry
  pure ⟨.mappingEnd, t.start⟩

def parseFlowMappingKey (first : Bool) : Parse Event := do
  if first then openCollection
  let t ← peek
  if t.kind == .flowMappingEnd then closeFlow t .mappingEnd
  else
    let t ←
      if first then pure t
      else if t.kind == .flowEntry then do
        take
        peek
      else do
        let m ← popMark
        parseFail (some ("while parsing a flow mapping", m)) "did not find expected ',' or '\x7d'" t.start
    if t.kind == .key then
      take
      let t ← peek
      if t.kind != .value && t.kind != .flowEntry && t.kind != .flowMappingEnd then
        pushState .flowMappingValue
        parseNode false false
      else
        setState .flowMappingValue
        pure (emptyScalar t.start)
    else if t.kind != .flowMappingEnd then
      pushState .flowMappingEmptyValue
      parseNode false false
    else closeFlow t .mappingEnd

def parseFlowMappingValue (empty : Bool) : Parse Event := do
  let t ← peek
  if empty then
    setState .flowMappingKey
    pure (emptyScalar t.start)
  else if t.kind == .value then
    take
    let t ← peek
    if t.kind != .flowEntry && t.kind != .flowMappingEnd then
      pushState .flowMappingKey
      parseNode false false
    else
      setState .flowMappingKey
      pure (emptyScalar t.start)
  else
    setState .flowMappingKey
    pure (emptyScalar t.start)

/-- The next event. -/
def nextEvent : Parse Event := do
  match (← get).state with
  | .streamStart =>
    let t ← peek
    if t.kind != .streamStart then parseFail none "did not find expected <stream-start>" t.start
    else
      setState .implicitDocumentStart
      take
      pure ⟨.streamStart, t.start⟩
  | .implicitDocumentStart => parseDocumentStart true
  | .documentStart => parseDocumentStart false
  | .documentContent => parseDocumentContent
  | .documentEnd => parseDocumentEnd
  | .blockNode => parseNode true false
  | .blockSequenceFirstEntry => parseBlockSequenceEntry true
  | .blockSequenceEntry => parseBlockSequenceEntry false
  | .indentlessSequenceEntry => parseIndentlessSequenceEntry
  | .blockMappingFirstKey => parseBlockMappingKey true
  | .blockMappingKey => parseBlockMappingKey false
  | .blockMappingValue => parseBlockMappingValue
  | .flowSequenceFirstEntry => parseFlowSequenceEntry true
  | .flowSequenceEntry => parseFlowSequenceEntry false
  | .flowSequenceEntryMappingKey => parseFlowSequenceEntryMappingKey
  | .flowSequenceEntryMappingValue => parseFlowSequenceEntryMappingValue
  | .flowSequenceEntryMappingEnd => parseFlowSequenceEntryMappingEnd
  | .flowMappingFirstKey => parseFlowMappingKey true
  | .flowMappingKey => parseFlowMappingKey false
  | .flowMappingValue => parseFlowMappingValue false
  | .flowMappingEmptyValue => parseFlowMappingValue true
  | .finished => pure ⟨.streamEnd, (← get).scanner.mark⟩

end ConfigRollout.Yaml
