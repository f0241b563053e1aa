import ConfigRollout.Yaml.Token

/-!
# The YAML scanner

Turns YAML text into tokens, one request at a time, the way the reference C reader does; its
error messages are the ones a kubeconfig user sees, so the scanner keeps that reader's rules
and the order in which it notices problems.

Block structure is made explicit: the scanner tracks the indentation of open block
collections and emits `blockSequenceStart`, `blockMappingStart` and `blockEnd` tokens as
columns grow and shrink. A plain or quoted scalar may turn out to be a mapping key only when
a `:` follows it, so each flow level remembers one *possible simple key*; a `:` then inserts
the `key` token (and, in block context, the mapping start) in front of it. A possible key
dies at the end of its line or 1024 bytes further on, and one that had to be a key (it stood
at the indentation of a block mapping) is then an error.

Loops run on fuel: each iteration reads at least one character, so the number of characters
left (plus one) always suffices.
-/

set_option autoImplicit false

namespace ConfigRollout.Yaml

/-- Line breaks: carriage return, line feed, next line, line and paragraph separators. -/
def isBreak (c : Char) : Bool :=
  c == '\r' || c == '\n' || c == '\u0085' || c == '\u2028' || c == '\u2029'

/-- Blanks: space and tab. -/
def isBlank (c : Char) : Bool :=
  c == ' ' || c == '\t'

/-- The characters of anchors, handles and directive names: ASCII letters, digits, `_` and `-`. -/
def isWordChar (c : Char) : Bool :=
  c.isAlphanum || c == '_' || c == '-'

/-- ASCII hexadecimal digits. -/
def isHexDigit (c : Char) : Bool :=
  c.isDigit || ('a' ≤ c && c ≤ 'f') || ('A' ≤ c && c ≤ 'F')

/-- The value of a hexadecimal digit. -/
def hexDigitValue (c : Char) : Nat :=
  if c.isDigit then c.toNat - '0'.toNat
  else if 'a' ≤ c ∧ c ≤ 'f' then c.toNat - 'a'.toNat + 10
  else c.toNat - 'A'.toNat + 10

/-- Whether the reader accepts a character: tab, line feed, carriage return, and the printable
characters outside the surrogates and the last two code points of the basic plane. -/
def isAllowedChar (c : Char) : Bool :=
  let v := c.toNat
  v == 0x09 || v == 0x0A || v == 0x0D || (0x20 ≤ v && v ≤ 0x7E) || v == 0x85 ||
    (0xA0 ≤ v && v ≤ 0xD7FF) || (0xE000 ≤ v && v ≤ 0xFFFD) || (0x10000 ≤ v && v ≤ 0x10FFFF)

/-- The byte offset of the first character the reader refuses. -/
def refusedOffset? (text : String) : Option Nat :=
  go text.toList 0
where
  go : List Char → Nat → Option Nat
    | [], _ => none
    | c :: cs, off => if isAllowedChar c then go cs (off + c.utf8Size) else some off

/-- The indicator characters, which cannot start a plain scalar (the backquote is code 96). -/
def isIndicator (c : Char) : Bool :=
  "-?:,[]\x7b\x7d#&*!|>\"%@".toList.contains c || c == '\'' || c.toNat == 96

/-- What the scanner knows about a scalar that may still become a mapping key. -/
structure SimpleKey where
  possible : Bool := false
  /-- Whether it must be a key: it stands at the indentation of a block mapping. -/
  required : Bool := false
  /-- The number of the first token of the possible key. -/
  tokenNumber : Nat := 0
  mark : Mark := {}
  deriving Inhabited

/-- The scanner's state. -/
structure Scanner where
  input : Array Char
  pos : Nat := 0
  mark : Mark := {}
  /-- Tokens scanned but not yet taken, in order. -/
  queue : List Token := []
  /-- The number of tokens taken. -/
  tokensParsed : Nat := 0
  /-- Whether the head of the queue may be taken without scanning further. -/
  tokenAvailable : Bool := false
  /-- The column of the innermost open block collection, -1 at the top. -/
  indent : Int := -1
  indents : List Int := []
  simpleKeyAllowed : Bool := false
  /-- One possible simple key per flow level, innermost first. -/
  simpleKeys : List SimpleKey := []
  flowLevel : Nat := 0
  streamStartProduced : Bool := false
  streamEndProduced : Bool := false
  deriving Inhabited

/-- Scanning: the scanner as state, a failure as a `YamlError`. -/
abbrev Scan := StateT Scanner (Except YamlError)

namespace Scanner

/-- A scanner at the start of a text. A byte order mark at the very start only names the
encoding: it is dropped and takes no place in the marks. -/
def ofString (text : String) : Scanner :=
  match text.toList with
  | '\uFEFF' :: rest => { input := rest.toArray }
  | cs => { input := cs.toArray }

/-- The character `k` places ahead, none past the end. -/
def charAt (s : Scanner) (k : Nat) : Option Char := s.input[s.pos + k]?

def is (s : Scanner) (k : Nat) (c : Char) : Bool := s.charAt k == some c

def isBreakAt (s : Scanner) (k : Nat) : Bool := (s.charAt k).any isBreak

def isBlankAt (s : Scanner) (k : Nat) : Bool := (s.charAt k).any isBlank

def isEndAt (s : Scanner) (k : Nat) : Bool := (s.charAt k).isNone

def isBreakzAt (s : Scanner) (k : Nat) : Bool := s.isEndAt k || s.isBreakAt k

def isBlankzAt (s : Scanner) (k : Nat) : Bool := s.isBlankAt k || s.isBreakzAt k

/-- The number of characters not yet read. -/
def remaining (s : Scanner) : Nat := s.input.size - s.pos

/-- The number of bytes of the character at the current position in UTF-8. -/
def width (s : Scanner) : Nat := ((s.charAt 0).map Char.utf8Size).getD 1

/-- Moves past one character of a line: the index counts bytes, the column characters. -/
def skip (s : Scanner) : Scanner :=
  { s with pos := s.pos + 1,
           mark := { s.mark with index := s.mark.index + s.width, column := s.mark.column + 1 } }

/-- Moves past a line break; CR LF counts as one. -/
def skipLine (s : Scanner) : Scanner :=
  if s.is 0 '\r' && s.is 1 '\n' then
    { s with pos := s.pos + 2, mark := { index := s.mark.index + 2, line := s.mark.line + 1, column := 0 } }
  else if s.isBreakAt 0 then
    { s with pos := s.pos + 1,
             mark := { index := s.mark.index + s.width, line := s.mark.line + 1, column := 0 } }
  else s

/-- The line break at the current position as it is read: line and paragraph separators stay,
every other break reads as a line feed. -/
def lineBreak (s : Scanner) : String :=
  match s.charAt 0 with
  | some '\u2028' => "\u2028"
  | some '\u2029' => "\u2029"
  | _ => "\n"

/-- Whether a document marker `---` or `...` starts at the current position. -/
def atDocumentIndicator (s : Scanner) : Bool :=
  s.mark.column == 0 &&
    ((s.is 0 '-' && s.is 1 '-' && s.is 2 '-') || (s.is 0 '.' && s.is 1 '.' && s.is 2 '.')) &&
    s.isBlankzAt 3

end Scanner

/-- Fails with a problem at the current position. -/
def scanFail {α : Type} (context : Option (String × Mark)) (problem : String) : Scan α := do
  throw { problem := problem, mark := (← get).mark, context := context }

def here : Scan Mark := do
  pure (← get).mark

def advance : Scan Unit := modify Scanner.skip

def advanceLine : Scan Unit := modify Scanner.skipLine

/-- Reads a line break. -/
def readLine : Scan String := do
  let b := (← get).lineBreak
  advanceLine
  pure b

/-- Moves past `n` characters of a line. -/
def skipN : Nat → Scan Unit
  | 0 => pure ()
  | n + 1 => do
    advance
    skipN n

def readWhileAux (p : Char → Bool) : Nat → String → Scan String
  | 0, acc => pure acc
  | n + 1, acc => do
    match (← get).charAt 0 with
    | some c =>
      if p c then
        advance
        readWhileAux p n (acc.push c)
      else pure acc
    | none => pure acc

/-- Reads the characters that pass a test. -/
def readWhile (p : Char → Bool) : Scan String := do
  readWhileAux p ((← get).remaining + 1) ""

def skipWhile (p : Char → Bool) : Scan Unit := do
  let _ ← readWhile p

/-- Appends a token to the queue. -/
def enqueue (kind : TokenKind) (start stop : Mark) : Scan Unit :=
  modify fun s => { s with queue := s.queue ++ [⟨kind, start, stop⟩] }

/-- Inserts a token at a place in the queue. -/
def insertToken (i : Nat) (t : Token) : Scan Unit :=
  modify fun s => { s with queue := s.queue.take i ++ t :: s.queue.drop i }

/-! ## Simple keys and indentation -/

/-- The failure of a key that had to be a key but met no `:`. -/
def keyNotFound (k : SimpleKey) (at_ : Mark) : YamlError :=
  { problem := "could not find expected ':'", mark := at_, context := some ("while scanning a simple key", k.mark) }

/-- Drops the possible keys that can no longer be keys: they began on an earlier line or more
than 1024 bytes back. -/
def staleSimpleKeys : Scan Unit := do
  let s ← get
  let keys ← s.simpleKeys.reverse.mapM fun (k : SimpleKey) =>
    if k.possible && (k.mark.line < s.mark.line || k.mark.index + 1024 < s.mark.index) then
      if k.required then (throw (keyNotFound k s.mark) : Scan SimpleKey)
      else pure { k with possible := false }
    else pure k
  set { s with simpleKeys := keys.reverse }

/-- Forgets the possible key of the current flow level. -/
def removeSimpleKey : Scan Unit := do
  let s ← get
  match s.simpleKeys with
  | k :: rest =>
    if k.possible && k.required then throw (keyNotFound k s.mark)
    set { s with simpleKeys := { k with possible := false } :: rest }
  | [] => pure ()

/-- Remembers that the next token may start a simple key. -/
def saveSimpleKey : Scan Unit := do
  let s ← get
  if s.simpleKeyAllowed then
    let required := s.flowLevel == 0 && s.indent == (s.mark.column : Int)
    let key : SimpleKey :=
      { possible := true, required := required, tokenNumber := s.tokensParsed + s.queue.length, mark := s.mark }
    removeSimpleKey
    modify fun s => { s with simpleKeys := key :: s.simpleKeys.drop 1 }

def increaseFlowLevel : Scan Unit :=
  modify fun s => { s with simpleKeys := {} :: s.simpleKeys, flowLevel := s.flowLevel + 1 }

def decreaseFlowLevel : Scan Unit :=
  modify fun s =>
    if s.flowLevel > 0 then { s with flowLevel := s.flowLevel - 1, simpleKeys := s.simpleKeys.drop 1 } else s

/-- Opens a block collection when a column is deeper than the current indentation; the start
token goes at the end of the queue or in front of the token of a given number. -/
def rollIndent (column : Int) (number : Option Nat) (kind : TokenKind) (mark : Mark) : Scan Unit := do
  let s ← get
  if s.flowLevel == 0 && s.indent < column then
    set { s with indents := s.indent :: s.indents, indent := column }
    match number with
    | none => enqueue kind mark mark
    | some n => insertToken (n - s.tokensParsed) ⟨kind, mark, mark⟩

def unrollIndentAux (column : Int) : Nat → Scan Unit
  | 0 => pure ()
  | n + 1 => do
    let s ← get
    if s.indent > column then
      enqueue .blockEnd s.mark s.mark
      modify fun s => match s.indents with
        | i :: rest => { s with indent := i, indents := rest }
        | [] => { s with indent := -1 }
      unrollIndentAux column n

/-- Closes every block collection deeper than a column. -/
def unrollIndent (column : Int) : Scan Unit := do
  let s ← get
  if s.flowLevel == 0 then unrollIndentAux column (s.indents.length + 1)

/-! ## Whitespace, comments and markers -/

def skipSeparators : Nat → Scan Unit
  | 0 => pure ()
  | n + 1 => do
    let s ← get
    if s.is 0 ' ' || ((s.flowLevel > 0 || !s.simpleKeyAllowed) && s.is 0 '\t') then
      advance
      skipSeparators n

/-- Skips blanks, comments and line breaks up to the next token. Tabs count as blanks only
where no simple key may start; a line break in block context allows a simple key again. -/
def scanToNextToken : Nat → Scan Unit
  | 0 => pure ()
  | n + 1 => do
    if (← get).mark.column == 0 && (← get).is 0 '\uFEFF' then advance
    skipSeparators ((← get).remaining + 1)
    if (← get).is 0 '#' then skipWhile (fun c => !isBreak c)
    if (← get).isBreakAt 0 then
      advanceLine
      if (← get).flowLevel == 0 then modify fun s => { s with simpleKeyAllowed := true }
      scanToNextToken n

def fetchStreamStart : Scan Unit := do
  let m ← here
  modify fun s => { s with indent := -1, simpleKeys := [{}], simpleKeyAllowed := true, streamStartProduced := true }
  enqueue .streamStart m m

/-- The end of the input: a last line is closed, then every block collection. -/
def fetchStreamEnd : Scan Unit := do
  let s ← get
  if s.mark.column != 0 then
    set { s with mark := { s.mark with column := 0, line := s.mark.line + 1 } }
  unrollIndent (-1)
  removeSimpleKey
  modify fun s => { s with simpleKeyAllowed := false }
  let m ← here
  enqueue .streamEnd m m

def fetchDocumentIndicator (kind : TokenKind) : Scan Unit := do
  unrollIndent (-1)
  removeSimpleKey
  modify fun s => { s with simpleKeyAllowed := false }
  let start ← here
  skipN 3
  enqueue kind start (← here)

def fetchFlowCollectionStart (kind : TokenKind) : Scan Unit := do
  saveSimpleKey
  increaseFlowLevel
  modify fun s => { s with simpleKeyAllowed := true }
  let start ← here
  advance
  enqueue kind start (← here)

def fetchFlowCollectionEnd (kind : TokenKind) : Scan Unit := do
  removeSimpleKey
  decreaseFlowLevel
  modify fun s => { s with simpleKeyAllowed := false }
  let start ← here
  advance
  enqueue kind start (← here)

def fetchFlowEntry : Scan Unit := do
  removeSimpleKey
  modify fun s => { s with simpleKeyAllowed := true }
  let start ← here
  advance
  enqueue .flowEntry start (← here)

def fetchBlockEntry : Scan Unit := do
  let s ← get
  if s.flowLevel == 0 then
    if !s.simpleKeyAllowed then scanFail none "block sequence entries are not allowed in this context"
    rollIndent s.mark.column none .blockSequenceStart s.mark
  removeSimpleKey
  modify fun s => { s with simpleKeyAllowed := true }
  let start ← here
  advance
  enqueue .blockEntry start (← here)

def fetchKey : Scan Unit := do
  let s ← get
  if s.flowLevel == 0 then
    if !s.simpleKeyAllowed then scanFail none "mapping keys are not allowed in this context"
    rollIndent s.mark.column none .blockMappingStart s.mark
  removeSimpleKey
  modify fun s => { s with simpleKeyAllowed := s.flowLevel == 0 }
  let start ← here
  advance
  enqueue .key start (← here)

/-- A `:`. After a possible simple key it makes that key a key; otherwise it is a value with
an empty key, which block context allows only where a key could start. -/
def fetchValue : Scan Unit := do
  let s ← get
  match s.simpleKeys with
  | k :: rest =>
    if k.possible then
      insertToken (k.tokenNumber - s.tokensParsed) ⟨.key, k.mark, k.mark⟩
      rollIndent k.mark.column (some k.tokenNumber) .blockMappingStart k.mark
      modify fun s => { s with simpleKeys := { k with possible := false } :: rest, simpleKeyAllowed := false }
    else
      if s.flowLevel == 0 then
        if !s.simpleKeyAllowed then scanFail none "mapping values are not allowed in this context"
        rollIndent s.mark.column none .blockMappingStart s.mark
      modify fun s => { s with simpleKeyAllowed := s.flowLevel == 0 }
  | [] => pure ()
  let start ← here
  advance
  enqueue .value start (← here)

/-! ## Anchors, aliases and tags -/

def scanAnchor (isAlias : Bool) : Scan Unit := do
  let start ← here
  advance
  let name ← readWhile isWordChar
  let s ← get
  let ends := s.isBlankzAt 0 || s.is 0 '?' || s.is 0 ':' || s.is 0 ',' || s.is 0 ']' || s.is 0 '}' ||
    s.is 0 '%' || s.is 0 '@' || (s.charAt 0).any (·.toNat == 96)
  if name.isEmpty || !ends then
    scanFail (some (if isAlias then "while scanning an alias" else "while scanning an anchor", start))
      "did not find expected alphabetic or numeric character"
  enqueue (if isAlias then .alias name else .anchor name) start s.mark

def fetchAnchor (isAlias : Bool) : Scan Unit := do
  saveSimpleKey
  modify fun s => { s with simpleKeyAllowed := false }
  scanAnchor isAlias

/-- A tag handle: `!`, `!!` or `!word!`; a `!word` without its closing `!` is left to the URI. -/
def scanTagHandle (directive : Bool) (start : Mark) : Scan String := do
  let ctx := if directive then "while scanning a tag directive" else "while scanning a tag"
  if !(← get).is 0 '!' then scanFail (some (ctx, start)) "did not find expected '!'"
  advance
  let word ← readWhile isWordChar
  if (← get).is 0 '!' then
    advance
    pure ("!" ++ word ++ "!")
  else
    if directive && !word.isEmpty then
      scanFail (some ("while parsing a tag directive", start)) "did not find expected '!'"
    pure ("!" ++ word)

/-- The characters of a tag URI; brackets and commas only in a verbatim tag or a prefix. -/
def isUriChar (flowChars : Bool) (c : Char) : Bool :=
  isWordChar c || ";/?:@&=+$.%!~*()".toList.contains c || c == '\'' ||
    (flowChars && (c == ',' || c == '[' || c == ']'))

def uriEscapes (ctx : String) (start : Mark) : Nat → Nat → List UInt8 → Scan (List UInt8)
  | 0, _, acc => pure acc
  | n + 1, width, acc => do
    let s ← get
    match s.charAt 1, s.charAt 2 with
    | some h, some l =>
      if s.is 0 '%' && isHexDigit h && isHexDigit l then
        let octet := hexDigitValue h * 16 + hexDigitValue l
        let width ←
          if width == 0 then
            let w := if octet < 0x80 then 1 else if octet / 32 == 6 then 2 else if octet / 16 == 14 then 3
              else if octet / 8 == 30 then 4 else 0
            if w == 0 then scanFail (some (ctx, start)) "found an incorrect leading UTF-8 octet" else pure w
          else if octet / 64 != 2 then scanFail (some (ctx, start)) "found an incorrect trailing UTF-8 octet"
          else pure width
        skipN 3
        if width == 1 then pure (acc ++ [octet.toUInt8])
        else uriEscapes ctx start n (width - 1) (acc ++ [octet.toUInt8])
      else scanFail (some (ctx, start)) "did not find URI escaped octet"
    | _, _ => scanFail (some (ctx, start)) "did not find URI escaped octet"

def tagUriAux (flowChars : Bool) (ctx : String) (start : Mark) : Nat → String → Scan String
  | 0, acc => pure acc
  | n + 1, acc => do
    match (← get).charAt 0 with
    | some c =>
      if isUriChar flowChars c then
        if c == '%' then
          let bytes ← uriEscapes ctx start 4 0 []
          let text := (String.fromUTF8? (ByteArray.mk bytes.toArray)).getD ""
          tagUriAux flowChars ctx start n (acc ++ text)
        else
          advance
          tagUriAux flowChars ctx start n (acc.push c)
      else pure acc
    | none => pure acc

/-- A tag URI, continuing a handle that turned out to be part of it (without its `!`). -/
def scanTagUri (flowChars directive : Bool) (head : String) (start : Mark) : Scan String := do
  let ctx := if directive then "while parsing a %TAG directive" else "while parsing a tag"
  let before := (← get).pos
  let text ← tagUriAux flowChars ctx start ((← get).remaining + 1) (String.ofList (head.toList.drop 1))
  if head.length + ((← get).pos - before) == 0 then scanFail (some (ctx, start)) "did not find expected tag URI"
  pure text

def scanTag : Scan Unit := do
  let start ← here
  let s ← get
  let (handle, suffix) ←
    if s.is 1 '<' then do
      skipN 2
      let suffix ← scanTagUri true false "" start
      if !(← get).is 0 '>' then scanFail (some ("while scanning a tag", start)) "did not find the expected '>'"
      advance
      pure ("", suffix)
    else do
      let handle ← scanTagHandle false start
      if handle.length > 1 && handle.toList.head? == some '!' && handle.toList.getLast? == some '!' then
        let suffix ← scanTagUri false false "" start
        pure (handle, suffix)
      else
        let suffix ← scanTagUri false false handle start
        if suffix.isEmpty then pure ("", "!") else pure ("!", suffix)
  let s ← get
  if !s.isBlankzAt 0 && (s.flowLevel == 0 || !s.is 0 ',') then
    scanFail (some ("while scanning a tag", start)) "did not find expected whitespace or line break"
  enqueue (.tag handle suffix) start s.mark

def fetchTag : Scan Unit := do
  saveSimpleKey
  modify fun s => { s with simpleKeyAllowed := false }
  scanTag

/-! ## Directives -/

def versionDigits (start : Mark) : Nat → Nat → Nat → Scan (Nat × Nat)
  | 0, len, v => pure (len, v)
  | n + 1, len, v => do
    match (← get).charAt 0 with
    | some c =>
      if c.isDigit then
        if len + 1 > 9 then
          scanFail (some ("while scanning a %YAML directive", start)) "found extremely long version number"
        else
          advance
          versionDigits start n (len + 1) (v * 10 + (c.toNat - '0'.toNat))
      else pure (len, v)
    | none => pure (len, v)

def scanVersionNumber (start : Mark) : Scan Nat := do
  let (len, v) ← versionDigits start ((← get).remaining + 1) 0 0
  if len == 0 then scanFail (some ("while scanning a %YAML directive", start)) "did not find expected version number"
  pure v

/-- A `%YAML` or `%TAG` directive line. -/
def scanDirective : Scan Unit := do
  let start ← here
  advance
  let ctx := some ("while scanning a directive", start)
  let name ← readWhile isWordChar
  if name.isEmpty then scanFail ctx "could not find expected directive name"
  if !(← get).isBlankzAt 0 then scanFail ctx "found unexpected non-alphabetical character"
  if name == "YAML" then
    skipWhile isBlank
    let major ← scanVersionNumber start
    if !(← get).is 0 '.' then
      scanFail (some ("while scanning a %YAML directive", start)) "did not find expected digit or '.' character"
    advance
    let minor ← scanVersionNumber start
    enqueue (.versionDirective major minor) start (← here)
  else if name == "TAG" then
    skipWhile isBlank
    let handle ← scanTagHandle true start
    if !(← get).isBlankAt 0 then
      scanFail (some ("while scanning a %TAG directive", start)) "did not find expected whitespace"
    skipWhile isBlank
    let pfx ← scanTagUri true true "" start
    if !(← get).isBlankzAt 0 then
      scanFail (some ("while scanning a %TAG directive", start)) "did not find expected whitespace or line break"
    enqueue (.tagDirective handle pfx) start (← here)
  else scanFail ctx "found unknown directive name"
  skipWhile isBlank
  if (← get).is 0 '#' then skipWhile (fun c => !isBreak c)
  if !(← get).isBreakzAt 0 then scanFail ctx "did not find expected comment or line break"
  if (← get).isBreakAt 0 then advanceLine

def fetchDirective : Scan Unit := do
  unrollIndent (-1)
  removeSimpleKey
  modify fun s => { s with simpleKeyAllowed := false }
  scanDirective

/-! ## Scalars -/

/-- The text of a scalar being read, with the blanks and line breaks not yet joined to it. -/
structure Folding where
  text : String := ""
  leadingBreak : String := ""
  trailingBreaks : String := ""
  whitespaces : String := ""
  leadingBlanks : Bool := false

/-- Joins pending blanks or line breaks to the text: one line break between two lines folds
into a space, further breaks are kept, and blanks inside a line are kept. -/
def Folding.join (f : Folding) : Folding :=
  if f.leadingBlanks then
    if f.leadingBreak.toList.head? == some '\n' then
      let text := if f.trailingBreaks.isEmpty then f.text.push ' ' else f.text ++ f.trailingBreaks
      { f with text := text, trailingBreaks := "", leadingBreak := "", leadingBlanks := false }
    else
      { f with text := f.text ++ f.leadingBreak ++ f.trailingBreaks, leadingBreak := "",
               trailingBreaks := "", leadingBlanks := false }
  else
    { f with text := f.text ++ f.whitespaces, whitespaces := "" }

/-- Reads blanks and line breaks after a part of a scalar: blanks before the first break are
kept for joining, the first break and the further ones are collected apart. -/
def scalarBlanks (tabCheck : Option (Int × Mark)) : Nat → Folding → Scan Folding
  | 0, f => pure f
  | n + 1, f => do
    let s ← get
    match s.charAt 0 with
    | some c =>
      if isBlank c then
        match tabCheck with
        | some (indent, start) =>
          if f.leadingBlanks && (s.mark.column : Int) < indent && c == '\t' then
            scanFail (some ("while scanning a plain scalar", start)) "found a tab character that violates indentation"
          else
            advance
            scalarBlanks tabCheck n (if f.leadingBlanks then f else { f with whitespaces := f.whitespaces.push c })
        | none =>
          advance
          scalarBlanks tabCheck n (if f.leadingBlanks then f else { f with whitespaces := f.whitespaces.push c })
      else if isBreak c then
        let b ← readLine
        scalarBlanks tabCheck n
          (if f.leadingBlanks then { f with trailingBreaks := f.trailingBreaks ++ b }
           else { f with whitespaces := "", leadingBreak := b, leadingBlanks := true })
      else pure f
    | none => pure f

/-- Reads the characters of one line of a plain scalar, up to a blank or an indicator that
ends it. -/
def plainChars (start : Mark) : Nat → Folding → Mark → Scan (Folding × Mark)
  | 0, f, e => pure (f, e)
  | n + 1, f, e => do
    let s ← get
    match s.charAt 0 with
    | none => pure (f, e)
    | some c =>
      if isBlank c || isBreak c then pure (f, e)
      else if s.flowLevel > 0 && c == ':' &&
          (s.is 1 ',' || s.is 1 '?' || s.is 1 '[' || s.is 1 ']' || s.is 1 '{' || s.is 1 '}') then
        scanFail (some ("while scanning a plain scalar", start)) "found unexpected ':'"
      else if (c == ':' && s.isBlankzAt 1) ||
          (s.flowLevel > 0 && (c == ',' || c == '[' || c == ']' || c == '{' || c == '}')) then
        pure (f, e)
      else
        let f := if f.leadingBlanks || !f.whitespaces.isEmpty then f.join else f
        advance
        plainChars start n { f with text := f.text.push c } (← here)

/-- Reads the lines of a plain scalar. It ends at a document marker, a comment, an indicator,
or in block context at a line indented no deeper than the enclosing collection. -/
def plainLines (indent : Int) (start : Mark) : Nat → Folding → Mark → Scan (Folding × Mark)
  | 0, f, e => pure (f, e)
  | n + 1, f, e => do
    let s ← get
    if s.atDocumentIndicator || s.is 0 '#' then return (f, e)
    let (f, e) ← plainChars start (s.remaining + 1) f e
    let s ← get
    if !(s.isBlankAt 0 || s.isBreakAt 0) then return (f, e)
    let f ← scalarBlanks (some (indent, start)) (s.remaining + 1) f
    let s ← get
    if s.flowLevel == 0 && (s.mark.column : Int) < indent then return (f, e)
    plainLines indent start n f e

def fetchPlainScalar : Scan Unit := do
  saveSimpleKey
  modify fun s => { s with simpleKeyAllowed := false }
  let s ← get
  let start := s.mark
  let (f, e) ← plainLines (s.indent + 1) start (s.remaining + 1) {} start
  enqueue (.scalar f.text .plain) start e
  if f.leadingBlanks then modify fun s => { s with simpleKeyAllowed := true }

/-- The character a one-letter escape of a double-quoted scalar stands for. -/
def simpleEscape : Char → Option Char
  | '0' => some '\x00'
  | 'a' => some '\x07'
  | 'b' => some '\x08'
  | 't' => some '\t'
  | '\t' => some '\t'
  | 'n' => some '\n'
  | 'v' => some '\x0b'
  | 'f' => some '\x0c'
  | 'r' => some '\r'
  | 'e' => some '\x1b'
  | ' ' => some ' '
  | '"' => some '"'
  | '/' => some '/'
  | '\'' => some '\''
  | '\\' => some '\\'
  | 'N' => some '\u0085'
  | '_' => some '\u00A0'
  | 'L' => some '\u2028'
  | 'P' => some '\u2029'
  | _ => none

/-- The number of hexadecimal digits of a numeric escape, zero for other letters. -/
def hexEscapeLength : Char → Nat
  | 'x' => 2
  | 'u' => 4
  | 'U' => 8
  | _ => 0

/-- The value of `len` hexadecimal digits ahead, when they are all there. -/
def hexAhead (s : Scanner) (len : Nat) : Option Nat :=
  (List.range len).foldl (fun acc k => acc.bind fun v =>
    (s.charAt k).bind fun c => if isHexDigit c then some (v * 16 + hexDigitValue c) else none) (some 0)

/-- Reads an escape sequence of a double-quoted scalar. -/
def scanEscape (start : Mark) (f : Folding) : Scan Folding := do
  let s ← get
  let ctx := some ("while parsing a quoted scalar", start)
  match s.charAt 1 with
  | none => scanFail ctx "found unknown escape character"
  | some e =>
    match simpleEscape e with
    | some c =>
      skipN 2
      pure { f with text := f.text.push c }
    | none =>
      let len := hexEscapeLength e
      if len == 0 then scanFail ctx "found unknown escape character"
      else
        skipN 2
        match hexAhead (← get) len with
        | none => scanFail ctx "did not find expected hexadecimal number"
        | some v =>
          if (0xD800 ≤ v && v ≤ 0xDFFF) || v > 0x10FFFF then
            scanFail ctx "found invalid Unicode character escape code"
          else
            skipN len
            pure { f with text := f.text.push (Char.ofNat v) }

/-- Reads the characters of one line of a quoted scalar, up to a blank or the closing quote. -/
def quotedChars (single : Bool) (start : Mark) : Nat → Folding → Scan Folding
  | 0, f => pure f
  | n + 1, f => do
    let s ← get
    match s.charAt 0 with
    | none => pure f
    | some c =>
      if isBlank c || isBreak c then pure f
      else if single && c == '\'' && s.is 1 '\'' then
        skipN 2
        quotedChars single start n { f with text := f.text.push '\'' }
      else if c == (if single then '\'' else '"') then pure f
      else if !single && c == '\\' && s.isBreakAt 1 then
        advance
        advanceLine
        pure { f with leadingBlanks := true }
      else if !single && c == '\\' then
        let f ← scanEscape start f
        quotedChars single start n f
      else
        advance
        quotedChars single start n { f with text := f.text.push c }

/-- Reads the lines of a quoted scalar up to its closing quote. -/
def quotedLines (single : Bool) (start : Mark) : Nat → Folding → Scan Folding
  | 0, f => pure f
  | n + 1, f => do
    let s ← get
    let ctx := some ("while scanning a quoted scalar", start)
    if s.atDocumentIndicator then scanFail ctx "found unexpected document indicator"
    else if s.isEndAt 0 then scanFail ctx "found unexpected end of stream"
    else
      let f ← quotedChars single start (s.remaining + 1) { f with leadingBlanks := false }
      if (← get).is 0 (if single then '\'' else '"') then pure f
      else
        let f ← scalarBlanks none ((← get).remaining + 1) f
        quotedLines single start n f.join

def fetchFlowScalar (single : Bool) : Scan Unit := do
  saveSimpleKey
  modify fun s => { s with simpleKeyAllowed := false }
  let start ← here
  advance
  let f ← quotedLines single start ((← get).remaining + 1) {}
  advance
  enqueue (.scalar f.text (if single then .singleQuoted else .doubleQuoted)) start (← here)

def skipIndentSpaces (indent : Nat) : Nat → Scan Unit
  | 0 => pure ()
  | n + 1 => do
    let s ← get
    if (indent == 0 || s.mark.column < indent) && s.is 0 ' ' then
      advance
      skipIndentSpaces indent n

def blockBreaksAux (start : Mark) (indent : Nat) : Nat → Nat → String → Mark → Scan (Nat × String × Mark)
  | 0, maxIndent, breaks, e => pure (maxIndent, breaks, e)
  | n + 1, maxIndent, breaks, e => do
    skipIndentSpaces indent ((← get).remaining + 1)
    let s ← get
    let maxIndent := max maxIndent s.mark.column
    if (indent == 0 || s.mark.column < indent) && s.is 0 '\t' then
      scanFail (some ("while scanning a block scalar", start)) "found a tab character where an indentation space is expected"
    else if !s.isBreakAt 0 then pure (maxIndent, breaks, e)
    else
      let b ← readLine
      blockBreaksAux start indent n maxIndent (breaks ++ b) (← here)

/-- Reads the indentation and empty lines before a line of a block scalar. An indentation of
zero is not yet known: it becomes the deepest of these lines, at least one more than the
enclosing collection's and at least one. -/
def blockBreaks (start : Mark) (indent : Nat) : Scan (Nat × String × Mark) := do
  let (maxIndent, breaks, e) ← blockBreaksAux start indent ((← get).remaining + 1) 0 "" (← here)
  let s ← get
  let indent := if indent == 0 then max (max maxIndent (s.indent + 1).toNat) 1 else indent
  pure (indent, breaks, e)

/-- Reads the lines of a block scalar at its indentation; a folded scalar joins two lines
that do not start with a blank by a space. -/
def blockLines (literal : Bool) (start : Mark) (indent : Nat) :
    Nat → String → String → String → Bool → Mark → Scan (String × String × String × Mark)
  | 0, text, leadingBreak, trailing, _, e => pure (text, leadingBreak, trailing, e)
  | n + 1, text, leadingBreak, trailing, leadingBlank, e => do
    let s ← get
    if !(s.mark.column == indent && !s.isEndAt 0) then return (text, leadingBreak, trailing, e)
    let trailingBlank := s.isBlankAt 0
    let text :=
      if !literal && leadingBreak.toList.head? == some '\n' && !leadingBlank && !trailingBlank then
        if trailing.isEmpty then text.push ' ' else text
      else text ++ leadingBreak
    let text := text ++ trailing
    let lineText ← readWhile (fun c => !isBreak c)
    let lb ← if (← get).isBreakAt 0 then readLine else pure ""
    let (_, trailing, e) ← blockBreaks start indent
    blockLines literal start indent n (text ++ lineText) lb trailing trailingBlank e

/-- The chomping indicator (`+` keeps, `-` strips) and the indentation indicator of a block
scalar header, in either order. -/
def blockHeader (start : Mark) : Scan (Int × Nat) := do
  let ctx := some ("while scanning a block scalar", start)
  let s ← get
  if s.is 0 '+' || s.is 0 '-' then
    let chomping : Int := if s.is 0 '+' then 1 else -1
    advance
    match (← get).charAt 0 with
    | some c =>
      if c.isDigit then
        if c == '0' then scanFail ctx "found an indentation indicator equal to 0"
        else
          advance
          pure (chomping, c.toNat - '0'.toNat)
      else pure (chomping, 0)
    | none => pure (chomping, 0)
  else
    match s.charAt 0 with
    | some c =>
      if c.isDigit then
        if c == '0' then scanFail ctx "found an indentation indicator equal to 0"
        else
          advance
          let s ← get
          if s.is 0 '+' || s.is 0 '-' then
            let chomping : Int := if s.is 0 '+' then 1 else -1
            advance
            pure (chomping, c.toNat - '0'.toNat)
          else pure (0, c.toNat - '0'.toNat)
      else pure (0, 0)
    | none => pure (0, 0)

def fetchBlockScalar (literal : Bool) : Scan Unit := do
  removeSimpleKey
  modify fun s => { s with simpleKeyAllowed := true }
  let start ← here
  advance
  let (chomping, increment) ← blockHeader start
  skipWhile isBlank
  if (← get).is 0 '#' then skipWhile (fun c => !isBreak c)
  if !(← get).isBreakzAt 0 then
    scanFail (some ("while scanning a block scalar", start)) "did not find expected comment or line break"
  if (← get).isBreakAt 0 then advanceLine
  let s ← get
  let indent : Nat :=
    if increment > 0 then (if s.indent ≥ 0 then (s.indent + increment).toNat else increment) else 0
  let (indent, trailing, e) ← blockBreaks start indent
  let (text, leadingBreak, trailing, e) ←
    blockLines literal start indent ((← get).remaining + 1) "" "" trailing false e
  let text := if chomping != -1 then text ++ leadingBreak else text
  let text := if chomping == 1 then text ++ trailing else text
  enqueue (.scalar text (if literal then .literal else .folded)) start e

/-! ## The token loop -/

/-- Whether a character starts a plain scalar here. -/
def startsPlain (s : Scanner) (c : Char) : Bool :=
  !(s.isBlankzAt 0 || isIndicator c) || (c == '-' && !s.isBlankAt 1) ||
    (s.flowLevel == 0 && (c == '?' || c == ':') && !s.isBlankzAt 1)

/-- Scans the next token (with the block ends and keys it implies). -/
def fetchNextToken : Scan Unit := do
  if !(← get).streamStartProduced then fetchStreamStart
  else
    scanToNextToken ((← get).remaining + 1)
    staleSimpleKeys
    unrollIndent ((← get).mark.column : Int)
    let s ← get
    match s.charAt 0 with
    | none => fetchStreamEnd
    | some c =>
      let column0 := s.mark.column == 0
      if column0 && c == '%' then fetchDirective
      else if column0 && s.is 0 '-' && s.is 1 '-' && s.is 2 '-' && s.isBlankzAt 3 then
        fetchDocumentIndicator .documentStart
      else if column0 && s.is 0 '.' && s.is 1 '.' && s.is 2 '.' && s.isBlankzAt 3 then
        fetchDocumentIndicator .documentEnd
      else if c == '[' then fetchFlowCollectionStart .flowSequenceStart
      else if c == '{' then fetchFlowCollectionStart .flowMappingStart
      else if c == ']' then fetchFlowCollectionEnd .flowSequenceEnd
      else if c == '}' then fetchFlowCollectionEnd .flowMappingEnd
      else if c == ',' then fetchFlowEntry
      else if c == '-' && s.isBlankzAt 1 then fetchBlockEntry
      else if c == '?' && (s.flowLevel > 0 || s.isBlankzAt 1) then fetchKey
      else if c == ':' && (s.flowLevel > 0 || s.isBlankzAt 1) then fetchValue
      else if c == '*' then fetchAnchor true
      else if c == '&' then fetchAnchor false
      else if c == '!' then fetchTag
      else if c == '|' && s.flowLevel == 0 then fetchBlockScalar true
      else if c == '>' && s.flowLevel == 0 then fetchBlockScalar false
      else if c == '\'' then fetchFlowScalar true
      else if c == '"' then fetchFlowScalar false
      else if startsPlain s c then fetchPlainScalar
      else
        scanFail (some ("while scanning for the next token", s.mark)) "found character that cannot start any token"

/-- Scans until the head of the queue is settled: no possible simple key still waits to
become the head. -/
def fetchMoreTokens : Nat → Scan Unit
  | 0 => pure ()
  | n + 1 => do
    let need ←
      if (← get).queue.isEmpty then pure true
      else
        staleSimpleKeys
        let s ← get
        pure (s.simpleKeys.any fun k => k.possible && k.tokenNumber == s.tokensParsed)
    if need then
      fetchNextToken
      fetchMoreTokens n

/-- The next token, scanning as far as needed. -/
def peekToken : Scan Token := do
  if !(← get).tokenAvailable then
    fetchMoreTokens (2 * (← get).remaining + 16)
    modify fun s => { s with tokenAvailable := true }
  match (← get).queue with
  | t :: _ => pure t
  | [] =>
    let m ← here
    pure ⟨.streamEnd, m, m⟩

/-- Takes the next token. -/
def skipToken : Scan Unit :=
  modify fun s =>
    match s.queue with
    | t :: rest =>
      { s with queue := rest, tokenAvailable := false, tokensParsed := s.tokensParsed + 1,
               streamEndProduced := t.kind == .streamEnd }
    | [] => s

end ConfigRollout.Yaml
