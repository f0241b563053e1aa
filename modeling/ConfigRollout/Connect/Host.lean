import ConfigRollout.Text.Escaped

/-!
# The host the program runs on

Configuring a client may read files that the kubeconfig names and may run a credential
command. `Host` is the machine the program meets: the kubeconfig file at its path, the
directories above it and a few system directories, the empty device `/dev/null`, and four
programs (`echo`, `true`, `false` and `cat`) in `/bin` and `/usr/bin`. Nothing else exists.

A path is followed component by component from the root (`Host.resolve`): an empty component
or `.` stays, `..` goes up, and any component after a file fails, so a trailing `/` asks for a
directory. Reading fails as the system does: a missing entry, a directory, a path through a
file. Running a command (`Host.spawn`) looks it up on the search path unless it names a path;
only a program runs, and anything else that exists is refused. The programs behave as their
usual implementations do on their arguments, with an empty standard input.
-/

set_option autoImplicit false

namespace ConfigRollout.Connect

/-- Why an operation on the host fails. -/
inductive IoError where
  | notFound
  | permissionDenied
  | notADirectory
  | isADirectory
  /-- A file read as text is not UTF-8. -/
  | invalidUtf8
  /-- A command, argument or variable holds a NUL character. -/
  | nulByte
  deriving DecidableEq, Repr, Inhabited

/-- The error as the system describes it. -/
def IoError.message : IoError → String
  | .notFound => "No such file or directory (os error 2)"
  | .permissionDenied => "Permission denied (os error 13)"
  | .notADirectory => "Not a directory (os error 20)"
  | .isADirectory => "Is a directory (os error 21)"
  | .invalidUtf8 => "stream did not contain valid UTF-8"
  | .nulByte => "nul byte found in provided data"

/-- The error's description without its number, as command-line tools print it. -/
def IoError.reason : IoError → String
  | .notFound => "No such file or directory"
  | .permissionDenied => "Permission denied"
  | .notADirectory => "Not a directory"
  | .isADirectory => "Is a directory"
  | .invalidUtf8 => "stream did not contain valid UTF-8"
  | .nulByte => "nul byte found in provided data"

/-- The error in the record notation of a debugging dump. -/
def IoError.dump : IoError → String
  | .notFound => "Os \x7b code: 2, kind: NotFound, message: \"No such file or directory\" \x7d"
  | .permissionDenied =>
    "Os \x7b code: 13, kind: PermissionDenied, message: \"Permission denied\" \x7d"
  | .notADirectory => "Os \x7b code: 20, kind: NotADirectory, message: \"Not a directory\" \x7d"
  | .isADirectory => "Os \x7b code: 21, kind: IsADirectory, message: \"Is a directory\" \x7d"
  | .invalidUtf8 =>
    "Error \x7b kind: InvalidData, message: \"stream did not contain valid UTF-8\" \x7d"
  | .nulByte =>
    "Error \x7b kind: InvalidInput, message: \"nul byte found in provided data\" \x7d"

/-- The programs the host has. -/
inductive Program where
  /-- Writes its arguments. -/
  | echo
  /-- Succeeds. -/
  | succeed
  /-- Fails with status 1. -/
  | fail
  /-- Writes the files it names. -/
  | concatenate
  deriving DecidableEq, Repr, Inhabited

/-- A program by its file name. -/
def Program.ofName? : String → Option Program
  | "echo" => some .echo
  | "true" => some .succeed
  | "false" => some .fail
  | "cat" => some .concatenate
  | _ => none

/-- What a path leads to. -/
inductive Entry where
  | directory
  | file (bytes : List UInt8)
  | program (p : Program)
  deriving DecidableEq, Repr, Inhabited

/-- The first bytes of a program file: not text. -/
def programBytes : List UInt8 := [0x7f, 0x45, 0x4c, 0x46, 0x02, 0x01, 0x01, 0x00, 0xff]

/-- The machine: where the kubeconfig file is, as path components, and its text when it is
there. -/
structure Host where
  kubeconfigPath : List String
  kubeconfig : Option String
  deriving Repr, Inhabited

/-- The directories every host has besides those above the kubeconfig. -/
def systemDirectories : List (List String) :=
  [[], ["tmp"], ["bin"], ["usr"], ["usr", "bin"], ["etc"], ["dev"]]

/-- The directories searched for a command, in order. -/
def searchPath : List (List String) :=
  [["usr", "local", "sbin"], ["usr", "local", "bin"], ["usr", "sbin"], ["usr", "bin"], ["sbin"],
   ["bin"]]

/-- The components of a path, split at every `/`. -/
def pathComponents (path : String) : List String := path.splitOn "/"

namespace Host

/-- What lies at a place given by its components from the root. -/
def entry? (h : Host) (place : List String) : Option Entry :=
  if place == h.kubeconfigPath then h.kubeconfig.map (fun t => .file t.toUTF8.toList)
  else if place.length < h.kubeconfigPath.length && h.kubeconfigPath.take place.length == place then
    some .directory
  else if systemDirectories.contains place then some .directory
  else if place == ["dev", "null"] then some (.file [])
  else match place with
    | ["bin", name] => (Program.ofName? name).map .program
    | ["usr", "bin", name] => (Program.ofName? name).map .program
    | _ => none

/-- Follows components from a directory: the place reached and what lies there. -/
def walk (h : Host) (place : List String) (here : Entry) :
    List String → Except IoError (List String × Entry)
  | [] => .ok (place, here)
  | c :: rest =>
    if here != .directory then .error .notADirectory
    else if c == "" || c == "." then walk h place here rest
    else if c == ".." then
      let up := place.dropLast
      walk h up .directory rest
    else
      match h.entry? (place ++ [c]) with
      | some e => walk h (place ++ [c]) e rest
      | none => .error .notFound

/-- Follows a path from the root; a relative path starts there too. -/
def resolve (h : Host) (path : String) : Except IoError (List String × Entry) :=
  if path.isEmpty then .error .notFound else h.walk [] .directory (pathComponents path)

/-- The bytes of a file. -/
def readFile (h : Host) (path : String) : Except IoError (List UInt8) := do
  match (← h.resolve path).2 with
  | .file bytes => .ok bytes
  | .program _ => .ok programBytes
  | .directory => .error .isADirectory

/-- The text of a file, which must be UTF-8. -/
def readText (h : Host) (path : String) : Except IoError String := do
  match String.fromUTF8? (ByteArray.mk (← h.readFile path).toArray) with
  | some s => .ok s
  | none => .error .invalidUtf8

end Host

/-! ## Running programs -/

/-- What a finished program leaves: its exit status and its output streams. -/
structure Output where
  status : Nat
  stdout : List UInt8 := []
  stderr : List UInt8 := []
  deriving DecidableEq, Repr, Inhabited

/-- The value of a hexadecimal digit. -/
def hexDigit? (b : UInt8) : Option Nat :=
  if 48 ≤ b && b ≤ 57 then some (b.toNat - 48)
  else if 97 ≤ b && b ≤ 102 then some (b.toNat - 87)
  else if 65 ≤ b && b ≤ 70 then some (b.toNat - 55)
  else none

/-- Whether a byte is an octal digit. -/
def isOctal (b : UInt8) : Bool := 48 ≤ b && b ≤ 55

/-- Up to `n` more octal digits added to a value. -/
def octalDigits : Nat → Nat → List UInt8 → Nat × List UInt8
  | 0, v, bs => (v, bs)
  | n + 1, v, b :: bs => if isOctal b then octalDigits n (v * 8 + (b.toNat - 48)) bs else (v, b :: bs)
  | _ + 1, v, [] => (v, [])

/-- Expands the backslash escapes of a word within `fuel` steps: the bytes written, and
whether `\c` stopped all output. Each step takes at least one byte, so the length of the word
is fuel enough. -/
def expandEscapes : Nat → List UInt8 → List UInt8 × Bool
  | 0, _ => ([], false)
  | _ + 1, [] => ([], false)
  | fuel + 1, 92 :: c :: rest =>
    let emit (b : UInt8) (rest : List UInt8) : List UInt8 × Bool :=
      let (out, stop) := expandEscapes fuel rest
      (b :: out, stop)
    let literal : List UInt8 × Bool :=
      let (out, stop) := expandEscapes fuel (c :: rest)
      (92 :: out, stop)
    match c with
    | 97 => emit 7 rest
    | 98 => emit 8 rest
    | 99 => ([], true)
    | 101 => emit 27 rest
    | 102 => emit 12 rest
    | 110 => emit 10 rest
    | 114 => emit 13 rest
    | 116 => emit 9 rest
    | 118 => emit 11 rest
    | 92 => emit 92 rest
    | 120 =>
      match rest with
      | h :: l :: rest' =>
        match hexDigit? h, hexDigit? l with
        | some v, some w => emit (v * 16 + w).toUInt8 rest'
        | some v, none => emit v.toUInt8 (l :: rest')
        | none, _ => literal
      | [h] =>
        match hexDigit? h with
        | some v => emit v.toUInt8 []
        | none => literal
      | [] => literal
    | 48 =>
      let (v, rest') := octalDigits 3 0 rest
      emit v.toUInt8 rest'
    | _ =>
      if isOctal c then
        let (v, rest') := octalDigits 2 (c.toNat - 48) rest
        emit v.toUInt8 rest'
      else literal
  | fuel + 1, b :: rest =>
    let (out, stop) := expandEscapes fuel rest
    (b :: out, stop)

/-- Whether an argument is a cluster of the echo options `-n`, `-e` and `-E`. -/
def isEchoOption (arg : String) : Bool :=
  match arg.toList with
  | '-' :: c :: cs => (c :: cs).all (fun c => c == 'n' || c == 'e' || c == 'E')
  | _ => false

/-- The options of echo: leading option clusters, the last of `-e` and `-E` winning. -/
def echoOptions : List String → Bool → Bool → Bool × Bool × List String
  | [], newline, escapes => (newline, escapes, [])
  | a :: rest, newline, escapes =>
    if isEchoOption a then
      let (newline, escapes) := a.toList.foldl (fun (acc : Bool × Bool) c =>
        if c == 'n' then (false, acc.2) else if c == 'e' then (acc.1, true)
        else if c == 'E' then (acc.1, false) else acc) (newline, escapes)
      echoOptions rest newline escapes
    else (newline, escapes, a :: rest)

/-- What echo writes for its arguments. -/
def echoOutput (args : List String) : List UInt8 :=
  match args with
  | ["--help"] => "Usage: echo [SHORT-OPTION]... [STRING]...\n".toUTF8.toList
  | ["--version"] => "echo (GNU coreutils)\n".toUTF8.toList
  | _ =>
    let (newline, escapes, words) := echoOptions args true false
    let text := (String.intercalate " " words).toUTF8.toList
    if escapes then
      let (out, stop) := expandEscapes (text.length + 1) text
      if stop then out else out ++ (if newline then [10] else [])
    else text ++ (if newline then [10] else [])

/-- Runs `cat` over its operands: each file in turn, a failure reported and remembered. -/
def catOutput (h : Host) : List String → Output
  | [] => {status := 0}
  | a :: rest =>
    let later := catOutput h rest
    if a == "-" then later
    else if a.startsWith "-" then later
    else match h.readFile a with
      | .ok bytes => { later with stdout := bytes ++ later.stdout }
      | .error e =>
        { later with status := 1,
                     stderr := ("cat: " ++ a ++ ": " ++ e.reason ++ "\n").toUTF8.toList ++ later.stderr }

/-- Runs a program on arguments. -/
def Program.run (h : Host) (args : List String) : Program → Output
  | .echo => { status := 0, stdout := echoOutput args }
  | .succeed => { status := 0 }
  | .fail => { status := 1 }
  | .concatenate => catOutput h args

/-- The program a command names: by its path when it has a `/`, else the first on the search
path. Something that is not a program cannot run. -/
def Host.program (h : Host) (command : String) : Except IoError Program :=
  if command.contains '/' then
    match h.resolve command with
    | .ok (_, .program p) => .ok p
    | .ok _ => .error .permissionDenied
    | .error e => .error e
  else
    match searchPath.findSome? (fun dir =>
        match h.entry? (dir ++ [command]) with
        | some (.program p) => some p
        | _ => none) with
    | some p => .ok p
    | none => .error .notFound

/-- Starts a command with arguments and extra environment text, and waits for it. -/
def Host.spawn (h : Host) (command : String) (args : List String) (environment : List String) :
    Except IoError Output :=
  if (command :: args ++ environment).any (·.contains '\x00') then .error .nulByte
  else (h.program command).map (Program.run h args)

end ConfigRollout.Connect
