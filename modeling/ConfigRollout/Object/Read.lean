import ConfigRollout.Object.Schema
import ConfigRollout.Data.Json.Reader
import ConfigRollout.Text.Escaped

/-!
# Reading typed values from JSON text

An answer body is read directly as the value its request expects, and the first thing that
does not fit is the failure: a syntax failure where the text goes wrong, or a value of the
wrong type, named by what was found and what was expected, placed where the reader stands once
the innermost value that saw it is done. `readShape` reads one value of a `Shape`:

* a scalar is read as its token; a token of another kind is read anyway and named
  (`integer 5`, `string "x"`, `null`, `sequence`), and the failure is placed after it, or at a
  bracket that opens it;
* a list or a map reads its items with the list and object syntax; a type of the API reads its
  known fields, skips the others, and checks a fixed `apiVersion` and `kind`; a plain record
  also refuses a repeated field and a missing required one, after the closing brace;
* containers may nest 127 deep; the 128th opening bracket fails.

`null` stands for an absent value wherever the field is optional; elsewhere it is a value of
the wrong type. The result is the value as JSON, with the known fields of each record.
-/

set_option autoImplicit false

namespace ConfigRollout.Reader

/-- The text of a double in a failure: its shortest digits, with `.0` or an exponent. -/
def doubleText : Binary64 → String
  | .finite neg mant exp => Binary64.compactText neg mant exp
  | .infinity neg => if neg then "-inf" else "inf"
  | .nan => "NaN"

/-- How a number is named when it was not expected. -/
def Number.unexpected : Number → String
  | .unsigned n => "integer `" ++ toString n ++ "`"
  | .signed n => "integer `" ++ toString n ++ "`"
  | .double x => "floating point `" ++ x.unexpectedText ++ "`"

/-- A number as JSON. -/
def Number.json : Number → Json
  | .unsigned n => .int n
  | .signed n => .int n
  | .double x => .float (doubleText x)

/-- The failure of a value of the wrong type. -/
def invalidType (found expected : String) : String :=
  "invalid type: " ++ found ++ ", expected " ++ expected

/-- The failure of a value of the right type that is refused. -/
def invalidValue (found expected : String) : String :=
  "invalid value: " ++ found ++ ", expected " ++ expected

/-- Reads the value at the reader's position anyway and fails naming it, placed after it (at
a bracket, where it stands). White space is already skipped. -/
def wrongType {α : Type} (input : Array UInt8) (expected : String) : Read α := do
  let found ← do
    match ← peek input with
    | some 110 => do
      advance
      expectWord input [117, 108, 108]
      pure "null"
    | some 116 => do
      advance
      expectWord input [114, 117, 101]
      pure "boolean `true`"
    | some 102 => do
      advance
      expectWord input [97, 108, 115, 101]
      pure "boolean `false`"
    | some 45 => do
      advance
      pure (← number input false).unexpected
    | some 34 => do
      advance
      pure ("string " ++ Text.escaped (← string input))
    | some 91 => pure "sequence"
    | some 123 => pure "map"
    | some c =>
      if isDigit c then pure (← number input true).unexpected
      else failAhead input .expectedSomeValue
    | none => failAhead input .expectedSomeValue
  rethrowPlaced input ⟨invalidType found expected, none⟩

/-- Skips white space and fails at the end of the text; otherwise the next byte. -/
def valueStart (input : Array UInt8) : Read UInt8 := do
  match ← skipSpace input with
  | some b => pure b
  | none => failAhead input .eofWhileParsingValue

/-- Closes a list: the closing bracket, or a failure for what stands there instead. -/
def endList (input : Array UInt8) : Read Unit := do
  match ← skipSpace input with
  | some 93 => advance
  | some 44 => do
    advance
    match ← skipSpace input with
    | some 93 => failAhead input .trailingComma
    | _ => failAhead input .trailingCharacters
  | some _ => failAhead input .trailingCharacters
  | none => failAhead input .eofWhileParsingList

/-- Closes an object: the closing brace, or a failure for what stands there instead. -/
def endObject (input : Array UInt8) : Read Unit := do
  match ← skipSpace input with
  | some 125 => advance
  | some 44 => failAhead input .trailingComma
  | some _ => failAhead input .trailingCharacters
  | none => failAhead input .eofWhileParsingObject

/-- Finishes a container: the reading of its content, then its closing. A failure of the
content wins and is placed after the closing was tried. -/
def finish {α : Type} (input : Array UInt8) (content : Except ReadError α) (close : Read Unit) :
    Read α := do
  let closed ← attempt close
  match content, closed with
  | .ok v, .ok () => pure v
  | .error e, _ => rethrowPlaced input e
  | .ok _, .error e => throw e

/-- Enters a container at its opening bracket: fails at the bracket when it is nested too
deep, and otherwise takes the bracket and gives the depth left inside. -/
def enter (input : Array UInt8) (depth : Nat) : Read Nat := do
  match depth with
  | 0 | 1 => failAhead input .recursionLimitExceeded
  | d + 1 => do
    advance
    pure d

/-- Moves to the next item of a list: false at its end, true at the start of an item. -/
def itemStart (input : Array UInt8) (first : Bool) : Read Bool := do
  let ahead ← do
    match ← skipSpace input with
    | some 93 => return false
    | some 44 =>
      if first then pure (some 44)
      else do
        advance
        skipSpace input
    | some b => if first then pure (some b) else failAhead input .expectedListCommaOrEnd
    | none => failAhead input .eofWhileParsingList
  match ahead with
  | some 93 => failAhead input .trailingComma
  | some _ => pure true
  | none => failAhead input .eofWhileParsingValue

/-- Moves to the next member of an object and reads its key: none at its end. -/
def memberKey (input : Array UInt8) (first : Bool) : Read (Option String) := do
  let ahead ← do
    match ← skipSpace input with
    | some 125 => return none
    | some 44 =>
      if first then pure (some 44)
      else do
        advance
        skipSpace input
    | some b => if first then pure (some b) else failAhead input .expectedObjectCommaOrEnd
    | none => failAhead input .eofWhileParsingObject
  match ahead with
  | some 34 => do
    advance
    some <$> string input
  | some 125 => failAhead input .trailingComma
  | some _ => failAhead input .keyMustBeAString
  | none => failAhead input .eofWhileParsingValue

/-- Takes the colon after a key. -/
def colon (input : Array UInt8) : Read Unit := do
  match ← skipSpace input with
  | some 58 => advance
  | some _ => failAhead input .expectedColon
  | none => failAhead input .eofWhileParsingObject

/-- Reads a string token and checks it; a refusal is placed after the string. -/
def checkedString (input : Array UInt8) (expected : String) (check : String → Option String) :
    Read Json := do
  let b ← valueStart input
  if b == 34 then do
    advance
    let s ← string input
    match check s with
    | none => pure (.str s)
    | some reason => rethrowPlaced input ⟨reason, none⟩
  else wrongType input expected

/-- Reads a boolean. -/
def boolean (input : Array UInt8) : Read Json := do
  match ← valueStart input with
  | 116 => do
    advance
    expectWord input [114, 117, 101]
    pure (.bool true)
  | 102 => do
    advance
    expectWord input [97, 108, 115, 101]
    pure (.bool false)
  | _ => wrongType input "a boolean"

/-- Reads an integer of a bounded type named `name`. -/
def boundedInt (input : Array UInt8) (name : String) (lo hi : Int) : Read Json := do
  let b ← valueStart input
  let n ← do
    if b == 45 then do
      advance
      number input false
    else if isDigit b then number input true
    else wrongType input name
  let refuse (found : String) : Read Json := rethrowPlaced input ⟨invalidValue found name, none⟩
  match n with
  | .unsigned v => if (v : Int) ≤ hi then pure (.int v) else refuse n.unexpected
  | .signed v => if lo ≤ v ∧ v ≤ hi then pure (.int v) else refuse n.unexpected
  | .double _ => rethrowPlaced input ⟨invalidType n.unexpected name, none⟩

/-- A 32-bit integer as an integer-or-string takes it. -/
def intOrStringNumber (input : Array UInt8) (n : Number) : Read Json :=
  let refuse : Read Json :=
    rethrowPlaced input ⟨invalidValue n.unexpected "a 32-bit integer", none⟩
  match n with
  | .unsigned v => if v < Nat.pow 2 31 then pure (.int v) else refuse
  | .signed v => if -(Int.pow 2 31) ≤ v then pure (.int v) else refuse
  | .double _ => rethrowPlaced input ⟨invalidType n.unexpected "IntOrString", none⟩

/-- The number of fields of a plain record, as its list form names it. -/
def elementsText (name : String) (n : Nat) : String :=
  "struct " ++ name ++ " with " ++ toString n ++ (if n == 1 then " element" else " elements")

/-- The failure of a plain record whose list form ends early. -/
def invalidLength (index : Nat) (expected : String) : String :=
  "invalid length " ++ toString index ++ ", expected " ++ expected

mutual

/-- Reads a value of a shape within `fuel` steps and `depth` levels of nesting; `nullable`
lets `null` stand for an absent value. -/
def readShape (input : Array UInt8) : Nat → Nat → Shape → Bool → Read Json
  | 0, _, _, _ => fail input .recursionLimitExceeded
  | fuel + 1, depth, shape, nullable => do
    let b ← valueStart input
    if nullable && b == 110 then do
      advance
      expectWord input [117, 108, 108]
      return .null
    match shape with
    | .any => readAny input fuel depth
    | .string => checkedString input "a string" (fun _ => none)
    | .time =>
      checkedString input "an RFC 3339 formatted date and time string" fun s =>
        match Text.readTime s with
        | .ok _ => none
        | .error e => some e.message
    | .bytes =>
      checkedString input "a base64-encoded string" fun s =>
        match Base64.decodeText s with
        | .ok _ => none
        | .error e => some e.message
    | .bool => boolean input
    | .int name lo hi => boundedInt input name lo hi
    | .intOrString =>
      if b == 110 then do
        advance
        expectWord input [117, 108, 108]
        rethrowPlaced input ⟨invalidType "null" "IntOrString", none⟩
      else if b == 116 || b == 102 then do
        let _ ← boolean input
        rethrowPlaced input ⟨invalidType (if b == 116 then "boolean `true`" else "boolean `false`")
          "IntOrString", none⟩
      else if b == 45 then do
        advance
        intOrStringNumber input (← number input false)
      else if isDigit b then do intOrStringNumber input (← number input true)
      else if b == 34 then do
        advance
        pure (.str (← string input))
      else if b == 91 then do
        let _ ← enter input depth
        finish input (.error ⟨invalidType "sequence" "IntOrString", none⟩) (endList input)
      else if b == 123 then do
        let _ ← enter input depth
        finish input (.error ⟨invalidType "map" "IntOrString", none⟩) (endObject input)
      else failAhead input .expectedSomeValue
    | .list item =>
      if b == 91 then do
        let d ← enter input depth
        let items ← attempt (readItems input fuel d item true [])
        finish input (items.map Json.arr) (endList input)
      else wrongType input "a sequence"
    | .map value =>
      if b == 123 then do
        let d ← enter input depth
        let entries ← attempt (readEntries input fuel d value true [])
        finish input (entries.map Json.obj) (endObject input)
      else wrongType input "a map"
    | .apiType name typeMeta fields =>
      if b == 91 then do
        let _ ← enter input depth
        finish input (.error ⟨invalidType "sequence" name, none⟩) (endList input)
      else if b == 123 then do
        let d ← enter input depth
        let members ← attempt (readApiMembers input fuel d typeMeta fields true [])
        finish input (members.map Json.obj) (endObject input)
      else wrongType input name
    | .record name flatten fields =>
      if b == 123 then do
        let d ← enter input depth
        let members ← attempt (readRecordMembers input fuel d flatten fields true [])
        let members := match members with
          | .ok found =>
            match fields.find? (fun (f : String × Shape × Presence) =>
                f.2.2 != Presence.optional && f.2.2 != Presence.defaulted &&
                (found.find? (fun (m : String × Json) => m.1 == f.1)).isNone) with
            | some (missing, _) =>
              Except.error (ReadError.mk ("missing field `" ++ missing ++ "`") none)
            | none => Except.ok found
          | .error e => Except.error e
        finish input (members.map Json.obj) (endObject input)
      else if b == 91 && !flatten then do
        let d ← enter input depth
        let values ← attempt (readRecordElements input fuel d name fields.length 0 fields true [])
        finish input (values.map Json.obj) (endList input)
      else wrongType input ("struct " ++ name)

/-- Reads any value, as the generic JSON value does: every number is checked for range and
every string for its escapes. -/
def readAny (input : Array UInt8) : Nat → Nat → Read Json
  | 0, _ => fail input .recursionLimitExceeded
  | fuel + 1, depth => do
    let b ← valueStart input
    if b == 110 then do
      advance
      expectWord input [117, 108, 108]
      pure .null
    else if b == 116 || b == 102 then boolean input
    else if b == 45 then do
      advance
      pure (← number input false).json
    else if isDigit b then do pure (← number input true).json
    else if b == 34 then do
      advance
      pure (.str (← string input))
    else if b == 91 then do
      let d ← enter input depth
      let items ← attempt (readItems input fuel d .any true [])
      finish input (items.map Json.arr) (endList input)
    else if b == 123 then do
      let d ← enter input depth
      let entries ← attempt (readEntries input fuel d .any true [])
      finish input (entries.map Json.obj) (endObject input)
    else failAhead input .expectedSomeValue

/-- Reads the items of a list up to its closing bracket. -/
def readItems (input : Array UInt8) : Nat → Nat → Shape → Bool → List Json → Read (List Json)
  | 0, _, _, _, _ => fail input .eofWhileParsingList
  | fuel + 1, depth, item, first, acc => do
    if ← itemStart input first then do
      let v ← readShape input fuel depth item false
      readItems input fuel depth item false (v :: acc)
    else pure acc.reverse

/-- Reads the members of a map up to its closing brace. -/
def readEntries (input : Array UInt8) : Nat → Nat → Shape → Bool → List (String × Json) →
    Read (List (String × Json))
  | 0, _, _, _, _ => fail input .eofWhileParsingObject
  | fuel + 1, depth, value, first, acc => do
    match ← memberKey input first with
    | none => pure acc.reverse
    | some k => do
      colon input
      let v ← readShape input fuel depth value false
      readEntries input fuel depth value false ((k, v) :: acc)

/-- Reads the members of an object as a type of the API: known fields by their shapes, others
skipped, and a fixed `apiVersion` and `kind` checked. -/
def readApiMembers (input : Array UInt8) : Nat → Nat → Option (String × String) →
    List (String × Shape) → Bool → List (String × Json) → Read (List (String × Json))
  | 0, _, _, _, _, _ => fail input .eofWhileParsingObject
  | fuel + 1, depth, typeMeta, fields, first, acc => do
    match ← memberKey input first with
    | none => pure acc.reverse
    | some k => do
      colon input
      let fixed : Option String := match typeMeta with
        | some (apiVersion, kind) =>
          if k == "apiVersion" then some apiVersion else if k == "kind" then some kind else none
        | none => none
      match fixed with
      | some expected => do
        let v ← readShape input fuel depth .string false
        match v with
        | .str s =>
          if s == expected then
            readApiMembers input fuel depth typeMeta fields false ((k, v) :: acc)
          else failMeaning (invalidValue ("string " ++ Text.escaped s) expected)
        | _ => failMeaning (invalidType "null" "a string")
      | none =>
        match Shape.lookup k fields with
        | some shape => do
          let v ← readShape input fuel depth shape true
          readApiMembers input fuel depth typeMeta fields false ((k, v) :: acc)
        | none => do
          skipValue input
          readApiMembers input fuel depth typeMeta fields false acc

/-- Reads the members of an object as a plain record: each known field once, unknown ones
skipped, or read as any value when the record gathers them. -/
def readRecordMembers (input : Array UInt8) : Nat → Nat → Bool →
    List (String × Shape × Presence) → Bool → List (String × Json) → Read (List (String × Json))
  | 0, _, _, _, _, _ => fail input .eofWhileParsingObject
  | fuel + 1, depth, flatten, fields, first, acc => do
    match ← memberKey input first with
    | none => pure acc.reverse
    | some k =>
      match fields.find? (·.1 == k) with
      | some (_, shape, presence) =>
        if (acc.find? (·.1 == k)).isSome then failMeaning ("duplicate field `" ++ k ++ "`")
        else do
          colon input
          let v ← readShape input fuel depth shape presence.nullable
          readRecordMembers input fuel depth flatten fields false ((k, v) :: acc)
      | none => do
        colon input
        if flatten then
          let _ ← readAny input fuel depth
        else skipValue input
        readRecordMembers input fuel depth flatten fields false acc

/-- Reads the list form of a plain record: its fields' values in order. A missing value fails
unless the field has a default. -/
def readRecordElements (input : Array UInt8) : Nat → Nat → String → Nat → Nat →
    List (String × Shape × Presence) → Bool → List (String × Json) → Read (List (String × Json))
  | 0, _, _, _, _, _, _, _ => fail input .eofWhileParsingList
  | _ + 1, _, _, _, _, [], _, acc => pure acc.reverse
  | fuel + 1, depth, name, total, index, (k, shape, presence) :: rest, first, acc => do
    if ← itemStart input first then do
      let v ← readShape input fuel depth shape presence.nullable
      readRecordElements input fuel depth name total (index + 1) rest false ((k, v) :: acc)
    else if presence == .defaulted then
      readRecordElements input fuel depth name total (index + 1) rest first acc
    else failMeaning (invalidLength index (elementsText name total))

end

/-- Reads whole bytes as a value of a shape: nothing but white space may follow it. -/
def readBytes (shape : Shape) (input : Array UInt8) : Except ReadError Json :=
  let whole : Read Json := do
    let v ← readShape input (4 * input.size + 16) 128 shape false
    match ← skipSpace input with
    | some _ => failAhead input .trailingCharacters
    | none => pure v
  (whole.run.run 0).1

/-- Reads a whole text as a value of a shape. -/
def readText (shape : Shape) (text : String) : Except ReadError Json :=
  readBytes shape text.toUTF8.data

end ConfigRollout.Reader
