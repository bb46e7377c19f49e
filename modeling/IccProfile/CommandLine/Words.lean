import IccProfile.Text.Blank

/-!
# The words of a command line

A word is an operand, or it names options: a long one behind two dashes, or short ones
behind one dash. An option that takes a value has it behind an equals sign, directly
behind its letter, or as the next word, which then must not look like an option. After
two dashes alone every word is an operand.
-/

set_option autoImplicit false

namespace IccProfile.CommandLine

/-- An option of the command line. -/
inductive Flag
  | help
  | verbose
  | settings
  | profileDir
  | device
  | className
  | position
  | rankMap
  | output
deriving DecidableEq, Inhabited

namespace Flag

/-- The long name of an option. -/
def longName : Flag → String
  | .help => "help"
  | .verbose => "verbose"
  | .settings => "settings"
  | .profileDir => "profile-dir"
  | .device => "device"
  | .className => "class"
  | .position => "pos"
  | .rankMap => "rank-map"
  | .output => "output"

/-- The letter of an option. -/
def letter? : Flag → Option Char
  | .help => some 'h'
  | .verbose => some 'v'
  | .output => some 'o'
  | _ => none

/-- Whether an option takes a value. -/
def takesValue : Flag → Bool
  | .help | .verbose => false
  | _ => true

end Flag

/-- Why words are not taken. -/
inductive Refused
  /-- The user asks how the program is used. -/
  | help
  /-- The words do not form a command. -/
  | misuse
deriving DecidableEq, Inhabited

/-- What a word is. -/
inductive Word
  | operand (text : String)
  /-- Two dashes: all further words are operands. -/
  | separator
  /-- Options with their values, and perhaps a last one whose value is the next word. -/
  | options (given : List (Flag × String)) (awaiting : Option Flag)
deriving DecidableEq, Inhabited

namespace Word

/-- A long option behind its dashes. -/
def ofLong (known : List Flag) (cs : List Char) : Except Refused Word :=
  let name := String.ofList (cs.takeWhile (· ≠ '='))
  match known.find? (·.longName = name), cs.dropWhile (· ≠ '=') with
  | none, _ => .error .misuse
  | some flag, _ :: value =>
    if flag.takesValue then .ok (.options [(flag, String.ofList value)] none)
    else .error .misuse
  | some .help, [] => .error .help
  | some flag, [] =>
    if flag.takesValue then .ok (.options [] (some flag)) else .ok (.options [(flag, "")] none)

/-- The value that stands directly behind a letter, an equals sign in between left out. -/
def attached : List Char → String
  | '=' :: value => String.ofList value
  | value => String.ofList value

/-- Short options behind their dash, those before them given. -/
def ofLetters (known : List Flag) (given : List (Flag × String)) :
    List Char → Except Refused Word
  | [] => .ok (.options given none)
  | c :: rest =>
    match known.find? (·.letter? = some c), rest with
    | none, _ => .error .misuse
    | some .help, _ => .error .help
    | some flag, [] =>
      if flag.takesValue then .ok (.options given (some flag))
      else .ok (.options (given ++ [(flag, "")]) none)
    | some flag, _ =>
      if flag.takesValue then .ok (.options (given ++ [(flag, attached rest)]) none)
      else ofLetters known (given ++ [(flag, "")]) rest

/-- What a word is where some options are known. -/
def ofText (known : List Flag) (text : String) : Except Refused Word :=
  match text.toList with
  | ['-', '-'] => .ok .separator
  | '-' :: '-' :: rest => ofLong known rest
  | ['-'] => .ok (.operand text)
  | '-' :: rest => ofLetters known [] rest
  | _ => .ok (.operand text)

end Word

/-- Options with their values, and operands. -/
structure Reading where
  given : List (Flag × String)
  operands : List String
deriving DecidableEq, Inhabited

namespace Reading

/-- Nothing read. -/
def empty : Reading := ⟨[], []⟩

/-- A reading with further options in front. -/
def withOptions (given : List (Flag × String)) (r : Reading) : Reading :=
  { r with given := given ++ r.given }

/-- A reading with a further operand in front. -/
def withOperand (text : String) (r : Reading) : Reading :=
  { r with operands := text :: r.operands }

/-- Reads words behind an option that perhaps awaits its value. -/
def ofWords (known : List Flag) : (awaiting : Option Flag) → List String → Except Refused Reading
  | none, [] => .ok empty
  | some _, [] => .error .misuse
  | awaiting, text :: rest => do
    match ← Word.ofText known text, awaiting with
    | .operand value, some flag => return (← ofWords known none rest).withOptions [(flag, value)]
    | .operand text, none => return (← ofWords known none rest).withOperand text
    | .separator, none => return ⟨[], rest⟩
    | .options given next, none => return (← ofWords known next rest).withOptions given
    | _, some _ => .error .misuse

/-- Reads the options before the first operand; the words from there on are left. -/
def beforeOperand (known : List Flag) :
    (awaiting : Option Flag) → List String → Except Refused (List (Flag × String) × List String)
  | none, [] => .ok ([], [])
  | some _, [] => .error .misuse
  | awaiting, text :: rest => do
    match ← Word.ofText known text, awaiting with
    | .operand value, some flag =>
      let (given, left) ← beforeOperand known none rest
      return ((flag, value) :: given, left)
    | .operand _, none => return ([], text :: rest)
    | .options more next, none =>
      let (given, left) ← beforeOperand known next rest
      return (more ++ given, left)
    | _, _ => .error .misuse

/-- The values of an option. -/
def values (r : Reading) (flag : Flag) : List String :=
  r.given.filterMap fun e => if e.1 = flag then some e.2 else none

/-- The value of an option that is given at most once. -/
def single? (r : Reading) (flag : Flag) : Except Refused (Option String) :=
  match r.values flag with
  | [] => .ok none
  | [value] => .ok (some value)
  | _ => .error .misuse

end Reading

end IccProfile.CommandLine
