import ConfigRollout.Yaml.Parser
import ConfigRollout.Text.Escaped
import ConfigRollout.Data.Binary64

/-!
# YAML documents and their values

A YAML text is read one document at a time. The events of a whole document are collected
first, so a syntax error anywhere in it, or an alias to an anchor not defined before it,
fails the document before its value is built. An empty text is one empty document.

The value of a document is then built from its events. Untagged plain scalars resolve to null
(`~`, `null` or nothing), booleans (`true`, `false` in three casings), integers (decimal, or
hexadecimal, octal and binary after `0x`, `0o`, `0b`), floating-point numbers, and otherwise
strings; digits with a leading zero are a string. An integer must fit a 64-bit word, signed or
unsigned: a wider one that fits 128 bits is refused, and a wider one still is read as a float.
Quoted scalars are strings. The standard tags `bool`, `int`, `float` and `null` demand their
type, another standard tag makes a string, and a tag that starts with `!` makes a tagged value.

A mapping keeps its entries in order and fails on a key it already holds; keys are equal when
their values are, mappings compared without regard to order and the two zeros and all NaNs
being equal. Failures name the path of the node and its position. Anchors are numbered by how
many distinct names were defined before them, and an alias follows the number of its anchor to
the node last given that number.
-/

set_option autoImplicit false

namespace ConfigRollout.Yaml

/-- A YAML value. Integers stay within the 64-bit words, signed or unsigned; a tagged value
keeps its tag without the leading `!`. -/
inductive Value where
  | null
  | bool (b : Bool)
  | int (n : Int)
  | float (x : Binary64)
  | str (s : String)
  | seq (items : List Value)
  | map (entries : List (Value × Value))
  | tagged (tag : String) (v : Value)
  deriving Inhabited

/-- A tag as tags are compared: without a leading `!`, unless that is all of it. -/
def tagKey (t : String) : String :=
  if t.startsWith "!" && 1 < t.length then String.ofList (t.toList.drop 1) else t

/-- A float as keys compare it: one text per number, the two zeros sharing one and all NaNs
sharing one. -/
def floatKey : Binary64 → String
  | .nan => "nan"
  | .infinity neg => if neg then "-inf" else "inf"
  | .finite neg mant exp =>
    if mant = 0 then "0" else (if neg then "-" else "") ++ toString mant ++ "p" ++ toString exp

/-- Texts in increasing order. -/
def sortTexts (xs : List String) : List String :=
  xs.mergeSort (fun a b => !decide (b < a))

mutual
/-- A text that two values share exactly when they are equal as mapping keys. -/
def Value.keyText : Value → String
  | .null => "~"
  | .bool b => "b" ++ toString b
  | .int n => "i" ++ toString n
  | .float x => "f" ++ floatKey x
  | .str s => "s" ++ s.quote
  | .seq items => "[" ++ itemsKeyText items ++ "]"
  | .map entries => "\x7b" ++ String.join (sortTexts (entriesKeyTexts entries)) ++ "\x7d"
  | .tagged t v => "!" ++ (tagKey t).quote ++ v.keyText

def itemsKeyText : List Value → String
  | [] => ""
  | v :: rest => v.keyText ++ "," ++ itemsKeyText rest

def entriesKeyTexts : List (Value × Value) → List String
  | [] => []
  | (k, v) :: rest => (k.keyText ++ ":" ++ v.keyText ++ ",") :: entriesKeyTexts rest
end

/-- How an unexpected value is named in a type error. -/
def Value.unexpected : Value → String
  | .null => "unit value"
  | .bool b => "boolean `" ++ toString b ++ "`"
  | .int n => "integer `" ++ toString n ++ "`"
  | .float x => "floating point `" ++ x.unexpectedText ++ "`"
  | .str s => "string " ++ Text.escaped s
  | .seq _ => "sequence"
  | .map _ => "map"
  | .tagged .. => "enum"

/-- The value under all of its tags. -/
def Value.untag : Value → Value
  | .tagged _ v => v.untag
  | v => v

/-- A float as a key is named: YAML's words for the infinities and NaN, and otherwise the
shortest digits, with an exponent only for very large or very small numbers. -/
def numberText : Binary64 → String
  | .nan => ".nan"
  | .infinity neg => if neg then "-.inf" else ".inf"
  | .finite neg mant exp => Binary64.compactText neg mant exp

/-- A type failure: the value found and what was expected. -/
def invalidType (found expected : String) : String :=
  "invalid type: " ++ found ++ ", expected " ++ expected

/-- A value failure: the text found and what was expected. -/
def invalidValue (text expected : String) : String :=
  "invalid value: string " ++ Text.escaped text ++ ", expected " ++ expected

/-! ## Scalars -/

/-- The words for null. -/
def isNullWord (s : String) : Bool :=
  s == "~" || s == "null" || s == "Null" || s == "NULL"

def boolText? (s : String) : Option Bool :=
  if s == "true" || s == "True" || s == "TRUE" then some true
  else if s == "false" || s == "False" || s == "FALSE" then some false
  else none

/-- The value of digits in a radix; none when there are none or one is not a digit. -/
def digitsValue? (radix : Nat) (cs : List Char) : Option Nat :=
  if cs.isEmpty then none
  else cs.foldl (fun acc c => acc.bind fun v =>
    let d := if c.isDigit then c.toNat - '0'.toNat
      else if 'a' ≤ c ∧ c ≤ 'z' then c.toNat - 'a'.toNat + 10
      else if 'A' ≤ c ∧ c ≤ 'Z' then c.toNat - 'A'.toNat + 10
      else radix
    if d < radix then some (v * radix + d) else none) (some 0)

/-- An integer in a radix, read as a machine integer is: an optional `+` (or `-` for a signed
one), then at least one digit. -/
def radixInt? (signed : Bool) (radix : Nat) : List Char → Option Int
  | '+' :: ds => (digitsValue? radix ds).map Int.ofNat
  | '-' :: ds => if signed then (digitsValue? radix ds).map (fun n => -(n : Int)) else none
  | ds => (digitsValue? radix ds).map Int.ofNat

/-- An integer when it lies within bounds. -/
def within (lo hi : Int) (n : Int) : Option Int :=
  if lo ≤ n ∧ n ≤ hi then some n else none

/-- Whether a text starts with a sign. -/
def startsWithSign (cs : List Char) : Bool :=
  cs.head? == some '+' || cs.head? == some '-'

/-- Digits with a leading zero and nothing else, after an optional sign: a string, not a
number. -/
def digitsButNotNumber (cs : List Char) : Bool :=
  let body := match cs with
    | '-' :: r => r
    | '+' :: r => r
    | r => r
  1 < body.length && body.head? == some '0' && (body.drop 1).all Char.isDigit

/-- A text without one leading `+`; none when a second sign follows it. -/
def unpositive? : List Char → Option (List Char)
  | '+' :: r => if startsWithSign r then none else some r
  | r => some r

/-- Tries to read the digits after the radix prefix `0` and `c`; `next` is tried when the
prefix is absent or the digits do not read, and a sign right after the prefix refuses the text. -/
def afterPrefix (cs : List Char) (c : Char) (radix : Nat) (hi : Int) (next : Unit → Option Int) :
    Option Int :=
  match cs with
  | '0' :: c' :: rest =>
    if c' = c then
      if startsWithSign rest then none
      else match (radixInt? false radix rest).bind (within 0 hi) with
        | some n => some n
        | none => next ()
    else next ()
  | _ => next ()

/-- A non-negative integer up to `hi`: an optional `+`, then digits after `0x`, `0o` or `0b`, or
decimal digits without a leading zero. -/
def unsignedInt? (hi : Int) (cs : List Char) : Option Int :=
  (unpositive? cs).bind fun u =>
    afterPrefix u 'x' 16 hi fun _ => afterPrefix u 'o' 8 hi fun _ => afterPrefix u 'b' 2 hi fun _ =>
      if startsWithSign u || digitsButNotNumber cs then none
      else (radixInt? false 10 u).bind (within 0 hi)

/-- Tries to read a negative integer after the prefix `-0` and `c`. -/
def afterNegativePrefix (cs : List Char) (c : Char) (radix : Nat) (lo hi : Int)
    (next : Unit → Option Int) : Option Int :=
  match cs with
  | '-' :: '0' :: c' :: rest =>
    if c' = c then
      match (radixInt? true radix ('-' :: rest)).bind (within lo hi) with
      | some n => some n
      | none => next ()
    else next ()
  | _ => next ()

/-- A signed integer within bounds: `-` before digits after `0x`, `0o` or `0b`, or signed
decimal digits without a leading zero. -/
def signedInt? (lo hi : Int) (cs : List Char) : Option Int :=
  afterNegativePrefix cs 'x' 16 lo hi fun _ => afterNegativePrefix cs 'o' 8 lo hi fun _ =>
    afterNegativePrefix cs 'b' 2 lo hi fun _ =>
      if digitsButNotNumber cs then none else (radixInt? true 10 cs).bind (within lo hi)

/-- The integer a scalar stands for: a value that fits 64 bits, a failure naming one that only
fits 128 bits, or none when the text is no integer. -/
def intReading? (s : String) : Option (Except String Int) :=
  let cs := s.toList
  match unsignedInt? (Int.pow 2 64 - 1) cs with
  | some n => some (.ok n)
  | none =>
    match signedInt? (-(Int.pow 2 63)) (Int.pow 2 63 - 1) cs with
    | some n => some (.ok n)
    | none =>
      match unsignedInt? (Int.pow 2 128 - 1) cs with
      | some n => some (.error ("integer `" ++ toString n ++ "` as u128"))
      | none =>
        match signedInt? (-(Int.pow 2 127)) (Int.pow 2 127 - 1) cs with
        | some n => some (.error ("integer `" ++ toString n ++ "` as i128"))
        | none => none

/-- The float a scalar stands for: YAML's words for the infinities and NaN, or a finite
decimal number. -/
def floatReading? (s : String) : Option Binary64 :=
  (unpositive? s.toList).bind fun u =>
    let us := String.ofList u
    if us == ".inf" || us == ".Inf" || us == ".INF" then some (.infinity false)
    else if s == "-.inf" || s == "-.Inf" || s == "-.INF" then some (.infinity true)
    else if s == ".nan" || s == ".NaN" || s == ".NAN" then some .nan
    else match Binary64.ofText? us with
      | some x => if x.isFinite then some x else none
      | none => none

/-- The value of an untagged plain scalar. -/
def resolvePlain (text : String) : Except String Value :=
  if text.isEmpty || isNullWord text then .ok .null
  else match boolText? text with
    | some b => .ok (.bool b)
    | none =>
      match intReading? text with
      | some (.ok n) => .ok (.int n)
      | some (.error wide) => .error (invalidType wide "any YAML value")
      | none =>
        if digitsButNotNumber text.toList then .ok (.str text)
        else match floatReading? text with
          | some x => .ok (.float x)
          | none => .ok (.str text)

/-- A standard tag. -/
def coreTag (name : String) : String := "tag:yaml.org,2002:" ++ name

/-- The value of a scalar that is not read as a tagged value. Its own tag counts only when it
is not already inside one. -/
def scalarValue (tag : Option String) (text : String) (style : ScalarStyle) (inTagged : Bool) :
    Except String Value :=
  match tag, inTagged with
  | some t, false =>
    if t == coreTag "bool" then
      match boolText? text with
      | some b => .ok (.bool b)
      | none => .error (invalidValue text "a boolean")
    else if t == coreTag "int" then
      match intReading? text with
      | some (.ok n) => .ok (.int n)
      | some (.error wide) => .error (invalidType wide "any YAML value")
      | none => .error (invalidValue text "an integer")
    else if t == coreTag "float" then
      match floatReading? text with
      | some x => .ok (.float x)
      | none => .error (invalidValue text "a float")
    else if t == coreTag "null" then
      if isNullWord text then .ok .null else .error (invalidValue text "null")
    else if t.startsWith "!" && style == .plain then resolvePlain text
    else .ok (.str text)
  | _, _ => if style == .plain then resolvePlain text else .ok (.str text)

/-- The tag under which a node is read as a tagged value: one that starts with `!`, without
that `!` unless it is all of the tag. -/
def enumTag? : Option String → Option String
  | some t => if t.startsWith "!" then some (tagKey t) else none
  | none => none

/-! ## Documents -/

/-- An event of a document as it is kept: an alias holds the number of its anchor. -/
inductive DocEvent where
  | scalar (tag : Option String) (text : String) (style : ScalarStyle)
  | alias (anchor : Nat)
  | sequenceStart (tag : Option String)
  | sequenceEnd
  | mappingStart (tag : Option String)
  | mappingEnd
  | empty
  deriving Inhabited

/-- The events of a document with the event each anchor number points at. -/
structure Document where
  events : Array (DocEvent × Mark)
  targets : List (Nat × Nat)
  deriving Inhabited

/-- What reading the next document gave. -/
inductive DocumentRead where
  | events (d : Document)
  | failed (message : String)
  | finished

/-- A message with the path of the node it is about and its position. -/
def positioned (msg path : String) (m : Mark) : String :=
  (if path == "." then "" else path ++ ": ") ++ msg ++ (if m.isStart then "" else " at " ++ m.text)

/-- Sets the value of a key in an association list, in place when the key is there. -/
def assocSet {α : Type} [BEq α] (key : α) (value : Nat) : List (α × Nat) → List (α × Nat)
  | [] => [(key, value)]
  | (k, v) :: rest => if k == key then (key, value) :: rest else (k, v) :: assocSet key value rest

/-- The anchors met so far: the number of each name, and the event each number points at. -/
structure Anchors where
  names : List (String × Nat) := []
  targets : List (Nat × Nat) := []

/-- Defines an anchor at an event. Its number is the count of distinct names defined before
it, so a name defined again takes a number that a later new name takes too. -/
def Anchors.define (a : Anchors) (anchor : Option String) (index : Nat) : Anchors :=
  match anchor with
  | some name =>
    let id := a.names.length
    { names := assocSet name id a.names, targets := assocSet id index a.targets }
  | none => a

def readDocumentAux (first : Bool) : Nat → Parser → Anchors → Array (DocEvent × Mark) →
    DocumentRead × Parser
  | 0, p, a, es => (.events ⟨es, a.targets⟩, p)
  | n + 1, p, a, es =>
    match nextEvent.run p with
    | .error e => (.failed e.message, p)
    | .ok (ev, p) =>
      match ev.kind with
      | .streamStart => readDocumentAux first n p a es
      | .documentStart => readDocumentAux first n p a es
      | .streamEnd =>
        if first then (.events ⟨if es.isEmpty then #[(.empty, ev.start)] else es, a.targets⟩, p)
        else (.finished, p)
      | .documentEnd => (.events ⟨es, a.targets⟩, p)
      | .alias name =>
        match a.names.lookup name with
        | some id => readDocumentAux first n p a (es.push (.alias id, ev.start))
        | none => (.failed (positioned "unknown anchor" "." ev.start), p)
      | .scalar anchor tag text style =>
        readDocumentAux first n p (a.define anchor es.size) (es.push (.scalar tag text style, ev.start))
      | .sequenceStart anchor tag =>
        readDocumentAux first n p (a.define anchor es.size) (es.push (.sequenceStart tag, ev.start))
      | .sequenceEnd => readDocumentAux first n p a (es.push (.sequenceEnd, ev.start))
      | .mappingStart anchor tag =>
        readDocumentAux first n p (a.define anchor es.size) (es.push (.mappingStart tag, ev.start))
      | .mappingEnd => readDocumentAux first n p a (es.push (.mappingEnd, ev.start))

/-- Reads the events of the next document; the first document of an empty stream is empty. -/
def readDocument (first : Bool) (p : Parser) : DocumentRead × Parser :=
  readDocumentAux first (4 * p.scanner.remaining + 16) p {} #[]

/-- The path of the value under a key. -/
def childPath (path key : String) : String :=
  (if path == "." then "" else path ++ ".") ++ key

/-- How a repeated key is reported, by the key the mapping already holds. -/
def duplicateKey (k : Value) : String :=
  "duplicate entry " ++ match k with
    | .null => "with null key"
    | .bool b => "with key `" ++ toString b ++ "`"
    | .int n => "with key " ++ toString n
    | .float x => "with key " ++ numberText x
    | .str s => "with key " ++ Text.escaped s
    | _ => "in YAML map"

mutual
/-- Builds the node that starts at event `i`: its value, the index of the event after it, and
the count of aliases followed so far. A collection may nest 128 deep, and a document may follow
at most a hundred aliases per event. -/
def buildNode (d : Document) (path : String) (fuel depth i jumps : Nat) (inTagged : Bool) :
    Except String (Value × Nat × Nat) :=
  match fuel with
  | 0 => .error "recursion limit exceeded"
  | fuel + 1 =>
    match d.events[i]? with
    | none => .error "unexpected end of document"
    | some (ev, m) =>
      match ev with
      | .alias id =>
        if d.events.size * 100 < jumps + 1 then .error "repetition limit exceeded"
        else match d.targets.lookup id with
          | none => .error "unresolved alias"
          | some target => do
            let (v, _, jumps) ← buildNode d path fuel depth target (jumps + 1) false
            pure (v, i + 1, jumps)
      | .scalar tag text style =>
        match (if inTagged then none else enumTag? tag) with
        | some t => do
          let (v, j, jumps) ← buildNode d path fuel depth i jumps true
          pure (.tagged t v, j, jumps)
        | none =>
          match scalarValue tag text style inTagged with
          | .ok v => .ok (v, i + 1, jumps)
          | .error msg => .error (positioned msg path m)
      | .sequenceStart tag =>
        match (if inTagged then none else enumTag? tag) with
        | some t => do
          let (v, j, jumps) ← buildNode d path fuel depth i jumps true
          pure (.tagged t v, j, jumps)
        | none =>
          if depth == 0 then .error (positioned "recursion limit exceeded" "." m)
          else do
            let (items, j, jumps) ← buildItems d path fuel (depth - 1) (i + 1) 0 jumps []
            pure (.seq items, j, jumps)
      | .mappingStart tag =>
        match (if inTagged then none else enumTag? tag) with
        | some t => do
          let (v, j, jumps) ← buildNode d path fuel depth i jumps true
          pure (.tagged t v, j, jumps)
        | none =>
          if depth == 0 then .error (positioned "recursion limit exceeded" "." m)
          else do
            let (entries, j, jumps) ← buildEntries d path m fuel (depth - 1) (i + 1) jumps []
            pure (.map entries, j, jumps)
      | .empty => .ok (.null, i + 1, jumps)
      | _ => .error "unexpected end of collection"
termination_by structural fuel

def buildItems (d : Document) (path : String) (fuel depth i index jumps : Nat)
    (acc : List Value) : Except String (List Value × Nat × Nat) :=
  match fuel with
  | 0 => .error "recursion limit exceeded"
  | fuel + 1 =>
    match d.events[i]? with
    | some (.sequenceEnd, _) => .ok (acc.reverse, i + 1, jumps)
    | some _ => do
      let (v, j, jumps) ← buildNode d (path ++ "[" ++ toString index ++ "]") fuel depth i jumps false
      buildItems d path fuel depth j (index + 1) jumps (v :: acc)
    | none => .error "unexpected end of document"
termination_by structural fuel

def buildEntries (d : Document) (path : String) (start : Mark) (fuel depth i jumps : Nat)
    (acc : List (Value × Value)) : Except String (List (Value × Value) × Nat × Nat) :=
  match fuel with
  | 0 => .error "recursion limit exceeded"
  | fuel + 1 =>
    match d.events[i]? with
    | some (.mappingEnd, _) => .ok (acc.reverse, i + 1, jumps)
    | some (ev, _) => do
      let keyName := match ev with
        | .scalar _ text _ => text
        | _ => "?"
      let (k, j, jumps) ← buildNode d path fuel depth i jumps false
      match acc.find? (fun e => e.1.keyText == k.keyText) with
      | some (held, _) => .error (positioned (duplicateKey held) path start)
      | none =>
        let (v, j2, jumps) ← buildNode d (childPath path keyName) fuel depth j jumps false
        buildEntries d path start fuel depth j2 jumps ((k, v) :: acc)
    | none => .error "unexpected end of document"
termination_by structural fuel
end

/-- The value of a document. -/
def documentValue (d : Document) : Except String Value := do
  let n := d.events.size
  let (v, _, _) ← buildNode d "." (4 * (n + 1) * (100 * n + 2) + 16) 128 0 0 false
  pure v

/-- A YAML text ready to be read document by document. -/
structure YamlStream where
  parser : Parser
  /-- The failure of a character the reader refuses, met before any document. -/
  refused : Option String
  read : Nat := 0
  done : Bool := false

/-- A stream over a text. -/
def YamlStream.ofString (text : String) : YamlStream :=
  { parser := { scanner := Scanner.ofString text },
    refused := (refusedOffset? text).map fun off =>
      ({ problem := "control characters are not allowed", offset := off } : YamlError).message }

/-- The next document's value, a failure, or none at the end of the stream. -/
def YamlStream.next (s : YamlStream) : Option (Except String Value) × YamlStream :=
  if s.done then (none, s)
  else match s.refused with
    | some msg => (some (.error msg), { s with done := true })
    | none =>
      match readDocument (s.read == 0) s.parser with
      | (.events d, p) => (some (documentValue d), { s with parser := p, read := s.read + 1 })
      | (.failed msg, p) => (some (.error msg), { s with parser := p, done := true })
      | (.finished, p) => (none, { s with parser := p, done := true })

end ConfigRollout.Yaml
