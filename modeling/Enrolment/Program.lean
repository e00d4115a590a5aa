import Enrolment.Command.Arguments

/-!
# Enrolment.Program

The program: it reads its arguments, performs the command that they ask for, and ends with a status
and what it prints. The status is 0 for success, 1 for a command that failed and 2 for arguments
that ask for nothing, which make no call.
-/

namespace Enrolment

/-- How the program ends: its status, and what it prints. -/
structure ProgramEnd where
  exitStatus : Nat
  output : String
  /-- What is printed for errors. -/
  complaint : Option String
  deriving DecidableEq, Repr

namespace ProgramEnd

def versionText : String := "fleetprov 0.1.0\n"

def helpText : String :=
  "Usage: fleetprov <COMMAND>\n\n" ++
  "Commands:\n" ++
  "  provision  Exchange the claim for a certificate and register the thing\n" ++
  "  validate   Check the settings and the claim without connecting\n" ++
  "  show       Print the identity recorded by the last run\n\n" ++
  "Options of every command:\n" ++
  "  -c, --config <PATH>   The file of the settings\n\n" ++
  "Options of provision:\n" ++
  "  --log-level <LEVEL>   What is logged\n" ++
  "  --dry-run             Print the plan and stop\n"

def ofResult : Except CommandError String → ProgramEnd
  | .ok output => ⟨0, output, none⟩
  | .error e => ⟨e.exitStatus, "", some ("Error: " ++ e.message)⟩

/-- The end of the program whose arguments ask for nothing. -/
def ofUsageError (e : UsageError) : ProgramEnd := ⟨2, "", some ("error: " ++ e.message)⟩

end ProgramEnd

/-- The program: what it does with its arguments, given the environment and what it finds on the
disk. -/
def program (env : Environment) (d : Disk) (arguments : List String) : Interaction ProgramEnd :=
  match Invocation.parse env arguments with
  | .error e => return .ofUsageError e
  | .ok .version => return ⟨0, ProgramEnd.versionText, none⟩
  | .ok .help => return ⟨0, ProgramEnd.helpText, none⟩
  | .ok (.command c) => do return .ofResult (← c.run env d)

end Enrolment
