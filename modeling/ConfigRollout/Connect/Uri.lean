/-!
# URIs

Addresses read as URIs the way the HTTP client reads them: an absolute URI with scheme and
authority (`https://host:6443/path?query`), an authority alone (`localhost:6443`), or a path
with its query (`/api/v1?watch=true`). A reader fails with one of a fixed set of reasons.

The rules, on the characters of the text:

* a scheme is letters, digits, `+`, `-`, `.` and `~` before `://`, at most 64 of them; `http`
  and `https` are recognised in any case and written in lower case;
* an authority runs up to the first `/`, `?` or `#` and holds only URI characters; it has at
  most one port colon outside brackets, balanced brackets, no `%` outside the user part, and
  something after an `@`; after a scheme it must not be empty;
* a path may hold `!`, `$` to `;`, `=`, `@` to `_`, `a` to `z`, `|`, `~`, `"`, `{`, `}` and any
  character beyond ASCII; a `?` starts the query, which may hold `!`, `$` to `;`, `=`, `?` to
  `~` and any character beyond ASCII; a `#` ends both, and the fragment after it is dropped;
* the whole text has at most 65534 bytes.

`Uri.text` writes a URI back: the scheme with `://`, the authority, then the path (`/` for an
empty path when there is a scheme) and the query.
-/

set_option autoImplicit false

namespace ConfigRollout.Connect

/-- Why a text does not read as a URI. -/
inductive UriError where
  | invalidUriChar
  | invalidAuthority
  | invalidFormat
  | tooLong
  | empty
  | schemeTooLong
  deriving DecidableEq, Repr, Inhabited

def UriError.message : UriError → String
  | .invalidUriChar => "invalid uri character"
  | .invalidAuthority => "invalid authority"
  | .invalidFormat => "invalid format"
  | .tooLong => "uri too long"
  | .empty => "empty string"
  | .schemeTooLong => "scheme too long"

/-- The scheme of a URI. -/
inductive Scheme where
  | http
  | https
  /-- Any other scheme, as written. -/
  | other (name : String)
  deriving DecidableEq, Repr, Inhabited

/-- The name of a scheme. -/
def Scheme.name : Scheme → String
  | .http => "http"
  | .https => "https"
  | .other name => name

/-- A path and its query, the fragment dropped. -/
structure PathAndQuery where
  path : String := ""
  query : Option String := none
  deriving DecidableEq, Repr, Inhabited

/-- A URI: its scheme, its authority (empty when it has none) and its path and query. -/
structure Uri where
  scheme : Option Scheme := none
  authority : String := ""
  target : PathAndQuery := {}
  deriving DecidableEq, Repr, Inhabited

/-- The path of a URI as written: `/` for an empty path after a scheme or before a query. -/
def Uri.path (u : Uri) : String :=
  if u.target.path.isEmpty && u.target.query.isNone && u.scheme.isNone then ""
  else if u.target.path.isEmpty then "/"
  else u.target.path

/-- A URI written out. -/
def Uri.text (u : Uri) : String :=
  (match u.scheme with
    | some s => s.name ++ "://"
    | none => "") ++
  u.authority ++ u.path ++
  (match u.target.query with
    | some q => "?" ++ q
    | none => "")

def isAsciiAlnum (c : Char) : Bool :=
  c.isDigit || ('A' ≤ c && c ≤ 'Z') || ('a' ≤ c && c ≤ 'z')

/-- The characters that may stand in an authority besides `%`. -/
def isUriChar (c : Char) : Bool :=
  isAsciiAlnum c || "!#$&'()*+,-./:;=?@[]_~".toList.contains c

/-- The characters of a scheme name. -/
def isSchemeChar (c : Char) : Bool :=
  isAsciiAlnum c || c == '+' || c == '-' || c == '.' || c == '~'

def lowerAscii (c : Char) : Char :=
  if 'A' ≤ c && c ≤ 'Z' then Char.ofNat (c.toNat + 32) else c

/-- Whether characters start, ignoring ASCII case, with a text. -/
def startsWithIgnoringCase (cs : List Char) (pfx : String) : Bool :=
  let p := pfx.toList
  cs.length ≥ p.length && (cs.take p.length).map lowerAscii == p

/-- Looks for `name://` at the start, where `i` characters of the name are read. -/
def schemeScan (cs : List Char) (i : Nat) : List Char → Except UriError (Option Nat)
  | [] => .ok none
  | c :: rest =>
    if c == ':' then
      if cs.length < i + 3 then .ok none
      else if (cs.drop (i + 1)).take 2 != ['/', '/'] then .ok none
      else if i > 64 then .error .schemeTooLong
      else .ok (some i)
    else if isSchemeChar c then schemeScan cs (i + 1) rest
    else .ok none

/-- The scheme at the start of a text and the number of characters it takes with its `://`. -/
def schemePrefix (cs : List Char) : Except UriError (Option (Scheme × Nat)) :=
  if startsWithIgnoringCase cs "http://" then .ok (some (.http, 7))
  else if startsWithIgnoringCase cs "https://" then .ok (some (.https, 8))
  else if cs.length > 3 then do
    match ← schemeScan cs 0 cs with
    | some n => .ok (some (.other (String.ofList (cs.take n)), n + 3))
    | none => .ok none
  else .ok none

/-- What the authority reader has seen so far. -/
structure AuthorityScan where
  colons : Nat := 0
  startBracket : Bool := false
  endBracket : Bool := false
  percent : Bool := false
  atSign : Option Nat := none

def authorityScan (st : AuthorityScan) (i : Nat) : List Char → Except UriError (AuthorityScan × Nat)
  | [] => .ok (st, i)
  | c :: rest =>
    if c == '/' || c == '?' || c == '#' then .ok (st, i)
    else if c == ':' then
      if st.colons ≥ 8 then .error .invalidAuthority
      else authorityScan { st with colons := st.colons + 1 } (i + 1) rest
    else if c == '[' then
      if st.percent || st.startBracket then .error .invalidAuthority
      else authorityScan { st with startBracket := true } (i + 1) rest
    else if c == ']' then
      if !st.startBracket || st.endBracket then .error .invalidAuthority
      else authorityScan { st with endBracket := true, colons := 0, percent := false } (i + 1) rest
    else if c == '@' then authorityScan { st with atSign := some i, colons := 0, percent := false } (i + 1) rest
    else if c == '%' then authorityScan { st with percent := true } (i + 1) rest
    else if isUriChar c then authorityScan st (i + 1) rest
    else .error .invalidUriChar

/-- The number of characters of the authority at the start of a text. -/
def authorityLength (cs : List Char) : Except UriError Nat := do
  let (st, stop) ← authorityScan {} 0 cs
  if st.startBracket != st.endBracket then .error .invalidAuthority
  else if st.colons > 1 then .error .invalidAuthority
  else if stop > 0 && st.atSign == some (stop - 1) then .error .invalidAuthority
  else if st.percent then .error .invalidAuthority
  else .ok stop

def isPathChar (c : Char) : Bool :=
  let b := c.toNat
  b == 0x21 || (0x24 ≤ b && b ≤ 0x3B) || b == 0x3D || (0x40 ≤ b && b ≤ 0x5F) ||
    (0x61 ≤ b && b ≤ 0x7A) || b == 0x7C || b == 0x7E || b ≥ 0x80 || b == 0x22 || b == 0x7B ||
    b == 0x7D

def isQueryChar (c : Char) : Bool :=
  let b := c.toNat
  b == 0x21 || (0x24 ≤ b && b ≤ 0x3B) || b == 0x3D || (0x3F ≤ b && b ≤ 0x7E) || b ≥ 0x80

/-- Reads a query up to a fragment. -/
def readQuery (acc : List Char) : List Char → Except UriError String
  | [] => .ok (String.ofList acc.reverse)
  | c :: rest =>
    if c == '#' then .ok (String.ofList acc.reverse)
    else if isQueryChar c then readQuery (c :: acc) rest
    else .error .invalidUriChar

/-- Reads a path and its query up to a fragment. -/
def readPath (acc : List Char) : List Char → Except UriError PathAndQuery
  | [] => .ok { path := String.ofList acc.reverse }
  | c :: rest =>
    if c == '?' then do
      let q ← readQuery [] rest
      .ok { path := String.ofList acc.reverse, query := some q }
    else if c == '#' then .ok { path := String.ofList acc.reverse }
    else if isPathChar c then readPath (c :: acc) rest
    else .error .invalidUriChar

/-- Reads a text as a URI. -/
def Uri.parse (s : String) : Except UriError Uri := do
  let cs := s.toList
  if s.utf8ByteSize > 65534 then .error .tooLong
  else match cs with
    | [] => .error .empty
    | [c] =>
      if c == '/' then .ok { target := { path := "/" } }
      else if c == '*' then .ok { target := { path := "*" } }
      else
        let stop ← authorityLength cs
        if stop != 1 then .error .invalidUriChar else .ok { authority := s }
    | c :: _ =>
      if c == '/' then .ok { target := ← readPath [] cs }
      else match ← schemePrefix cs with
        | none =>
          let stop ← authorityLength cs
          if stop != cs.length then .error .invalidFormat else .ok { authority := s }
        | some (scheme, n) =>
          let rest := cs.drop n
          if rest.isEmpty then .error .empty
          else
            let stop ← authorityLength rest
            if stop == 0 then .error .invalidFormat
            else .ok { scheme := some scheme, authority := String.ofList (rest.take stop),
                       target := ← readPath [] (rest.drop stop) }

end ConfigRollout.Connect
