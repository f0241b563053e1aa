/-!
# YAML tokens, positions and errors

The vocabulary shared by the YAML scanner and parser: positions in the input, the tokens the
scanner produces, and the errors both report. An error names its problem and where it was
found, and usually what was being read and where that began; `YamlError.message` renders it
the way the kubeconfig loader shows it, positions counted from one.
-/

set_option autoImplicit false

namespace ConfigRollout.Yaml

/-- A position in the input: bytes read, line and column (in characters), all counted from
zero. -/
structure Mark where
  index : Nat := 0
  line : Nat := 0
  column : Nat := 0
  deriving DecidableEq, Repr, Inhabited

/-- The text of a position, with lines and columns counted from one. -/
def Mark.text (m : Mark) : String :=
  "line " ++ toString (m.line + 1) ++ " column " ++ toString (m.column + 1)

/-- Whether a position is the very start of the input, which an error does not name. -/
def Mark.isStart (m : Mark) : Bool :=
  m.line == 0 && m.column == 0

/-- Why reading a YAML text failed. -/
structure YamlError where
  problem : String
  /-- Where the problem was found. -/
  mark : Mark := {}
  /-- The byte offset of a character the reader refused; zero for every other error. -/
  offset : Nat := 0
  /-- What was being read, and where it began. -/
  context : Option (String × Mark) := none
  deriving Repr, Inhabited

/-- The text of an error: the problem and its position, then the context and its position
when that differs from the problem's. The start of the input is never named. -/
def YamlError.message (e : YamlError) : String :=
  let head := e.problem ++
    (if !e.mark.isStart then " at " ++ e.mark.text
     else if e.offset != 0 then " at position " ++ toString e.offset else "")
  match e.context with
  | none => head
  | some (ctx, m) =>
    head ++ ", " ++ ctx ++
      (if !m.isStart && (m.line != e.mark.line || m.column != e.mark.column) then " at " ++ m.text else "")

/-- How a scalar was written. -/
inductive ScalarStyle where
  | plain
  | singleQuoted
  | doubleQuoted
  | literal
  | folded
  deriving DecidableEq, Repr, Inhabited

/-- The kinds of token. -/
inductive TokenKind where
  | streamStart
  | streamEnd
  | versionDirective (major minor : Nat)
  | tagDirective (handle pfx : String)
  | documentStart
  | documentEnd
  | blockSequenceStart
  | blockMappingStart
  | blockEnd
  | flowSequenceStart
  | flowSequenceEnd
  | flowMappingStart
  | flowMappingEnd
  | blockEntry
  | flowEntry
  | key
  | value
  | alias (name : String)
  | anchor (name : String)
  | tag (handle suffix : String)
  | scalar (text : String) (style : ScalarStyle)
  deriving DecidableEq, Repr, Inhabited

/-- A token and the positions where it starts and ends. -/
structure Token where
  kind : TokenKind
  start : Mark
  stop : Mark
  deriving Repr, Inhabited

end ConfigRollout.Yaml
