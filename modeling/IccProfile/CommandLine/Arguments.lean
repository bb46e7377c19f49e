import IccProfile.CommandLine.Words
import IccProfile.Files.Path
import IccProfile.Number.Integer

/-!
# Commands

What the program is asked to do, read from the words of its command line. Some options
may stand before the name of the command or behind it; values behind it take the place
of those before it.
-/

set_option autoImplicit false

namespace IccProfile.CommandLine

/-- The choice of a device. -/
structure DeviceChoice where
  /-- The file that lists devices. -/
  file : Path
  /-- The device class, the first of the file when none is named. -/
  className : Option String
  /-- The position within the class. -/
  position : Nat
  /-- The file with the rank map, for want of which the stored one serves. -/
  rankMap : Option Path
deriving DecidableEq, Inhabited

/-- What is printed of a device. -/
inductive DumpKind
  /-- The assigned profile. -/
  | profile
  /-- The device with its properties. -/
  | device
  /-- The rank map. -/
  | rankMap
deriving DecidableEq, Inhabited

namespace DumpKind

/-- The kind of a name. -/
def ofName? : String → Option DumpKind
  | "icc" => some .profile
  | "openicc" => some .device
  | "openicc-rank-map" => some .rankMap
  | _ => none

end DumpKind

/-- What the program is to do. -/
inductive Command
  /-- Describe a profile. -/
  | info (profile : Path)
  /-- Rank the known profiles for a device. -/
  | list (device : DeviceChoice)
  /-- Assign a profile to a device. -/
  | assign (device : DeviceChoice) (profile : String)
  /-- Take the assignment of a device back. -/
  | unassign (device : DeviceChoice)
  /-- Assign a profile, the assigned one again, or the best. -/
  | setup (device : DeviceChoice) (profile : Option String)
  /-- Print the data of a device. -/
  | dump (kind : DumpKind) (device : DeviceChoice) (output : Option Path)
  /-- Store the computed ID in a profile. -/
  | fixId (profile : Path)
deriving DecidableEq, Inhabited

/-- A command with the options that every command has. -/
structure Invocation where
  /-- The file that keeps the settings. -/
  settings : Option Path
  /-- Directories of profiles that are searched first. -/
  profileDirs : List Path
  command : Command
deriving DecidableEq, Inhabited

/-- The options of every command. -/
def commonFlags : List Flag := [.help, .verbose, .settings, .profileDir]

/-- The options that choose a device. -/
def deviceFlags : List Flag := [.device, .className, .position, .rankMap]

/-- A path that is not empty. -/
def asPath (text : String) : Except Refused Path :=
  if text = "" then .error .misuse else .ok ⟨text⟩

/-- A position, a number of at most 64 bits. -/
def asPosition (text : String) : Except Refused Nat :=
  match Number.naturalBelow? 0x10000000000000000 text.toList with
  | some n => .ok n
  | none => .error .misuse

namespace Reading

/-- The path that an option gives. -/
def path? (r : Reading) (flag : Flag) : Except Refused (Option Path) := do
  match ← r.single? flag with
  | none => return none
  | some text => return some (← asPath text)

/-- The chosen device. -/
def device (r : Reading) : Except Refused DeviceChoice := do
  let some file ← r.path? .device
    | .error .misuse
  let className ← r.single? .className
  let position ← match ← r.single? .position with
    | none => pure 0
    | some text => asPosition text
  let rankMap ← r.path? .rankMap
  return { file, className, position, rankMap }

/-- Requires that there are no operands. -/
def noOperands (r : Reading) : Except Refused Unit :=
  if r.operands.isEmpty then .ok () else .error .misuse

/-- The only operand. -/
def operand (r : Reading) : Except Refused String :=
  match r.operands with
  | [text] => .ok text
  | _ => .error .misuse

/-- The operand, which may be left out. -/
def operand? (r : Reading) : Except Refused (Option String) :=
  match r.operands with
  | [] => .ok none
  | [text] => .ok (some text)
  | _ => .error .misuse

end Reading

namespace Command

/-- The options that a command of a name has besides the common ones. -/
def ownFlags? : String → Option (List Flag)
  | "info" | "fix-id" => some []
  | "list" | "assign" | "unassign" | "setup" => some deviceFlags
  | "dump" => some (deviceFlags ++ [.output])
  | _ => none

/-- The command of a name with what was read behind it. -/
def ofReading (name : String) (r : Reading) : Except Refused Command := do
  match name with
  | "info" => return .info (← asPath (← r.operand))
  | "fix-id" => return .fixId (← asPath (← r.operand))
  | "list" =>
    r.noOperands
    return .list (← r.device)
  | "assign" => return .assign (← r.device) (← r.operand)
  | "unassign" =>
    r.noOperands
    return .unassign (← r.device)
  | "setup" => return .setup (← r.device) (← r.operand?)
  | "dump" =>
    match DumpKind.ofName? (← r.operand) with
    | some kind => return .dump kind (← r.device) (← r.path? .output)
    | none => .error .misuse
  | _ => .error .misuse

end Command

namespace Invocation

/-- The common options of one side of the command name. -/
def common (r : Reading) : Except Refused (Option Path × List Path) := do
  return (← r.path? .settings, ← (r.values .profileDir).mapM asPath)

/-- Reads the words of a command line. -/
def ofWords (words : List String) : Except Refused Invocation := do
  let (given, rest) ← Reading.beforeOperand commonFlags none words
  let (outerSettings, outerDirs) ← common ⟨given, []⟩
  match rest with
  | [] => .error .misuse
  | name :: rest =>
    if name = "help" then .error .help
    else
      match Command.ownFlags? name with
      | none => .error .misuse
      | some own =>
        let r ← Reading.ofWords (commonFlags ++ own) none rest
        let (settings, dirs) ← common r
        let command ← Command.ofReading name r
        return {
          command
          settings := settings.or outerSettings
          profileDirs := if dirs.isEmpty then outerDirs else dirs }

end Invocation

end IccProfile.CommandLine
