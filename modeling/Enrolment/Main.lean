import Enrolment.Program

/-!
# Enrolment.Main

The command line. What a command looks at is read into a disk before the command starts. This
program has neither a source of keys nor a network: a run that asks for a key is told so, and ends
there.
-/

namespace Enrolment

/-- The entries of a disk for a path: those of the directories above it, and its own if something is
there. -/
def entriesOf (path : String) (entry : Option DiskEntry) : List (Place × DiskEntry) :=
  let names := (Path.significant (Text.split '/' path)).filter fun name => !Path.isIdle name
  let above := (List.range (names.length - 1)).map fun n =>
    (names.take (n + 1), DiskEntry.directory)
  match entry with
  | some entry => above ++ [(names, entry)]
  | none => []

def lookAt (path : String) : IO (List (Place × DiskEntry)) := do
  try
    let content ← IO.FS.readBinFile path
    return entriesOf path (some (.file .shared content.toList))
  catch _ =>
    try
      let _ ← IO.FS.realPath path
      return entriesOf path (some .directory)
    catch _ => return []

def diskOf (paths : List String) : IO Disk := do
  let entries ← paths.mapM lookAt
  return entries.flatten.foldl (fun d e => d.set e.1 e.2) ⟨[], []⟩

/-- The files that a command with given settings looks at. -/
def filesOf (path : String) (s : Settings) : List String :=
  [path, s.claim.certificate, s.claim.privateKey, s.claim.rootCa, s.store.identityPath]

def reply : (c : Call) → IO c.Reply
  | .connect _ | .subscribe _ | .publish .. | .unsubscribe _ | .disconnect =>
    return .error (.transport "no network")
  | .poll _ => return .error .closed
  | .draw => return .error "no source of random numbers"
  | .pause milliseconds => IO.sleep (UInt32.ofNat milliseconds)
  | .clock => IO.monoNanosNow
  | .calendar => return ⟨⟨1970, 1, 1⟩, 0, 0, 0, 0, by decide⟩
  | .generateKey .. => return .error (.generation "no source of keys")
  | .storeCertificate handle .. => return .error (.unknownKey handle)
  | .storeIdentity _ => return .error .record
  | .log line => IO.eprintln (line.level.name ++ " " ++ line.text)

def perform {α : Type} : Interaction α → IO α
  | .done value => return value
  | .call c next => do perform (next (← reply c))

def readEnvironment : IO Environment := do
  let values ← Environment.names.mapM fun name => do return (name, ← IO.getEnv name)
  return .ofLookup fun name => (values.lookup name).join

/-- What the program finds on the disk. -/
def readDisk (env : Environment) (arguments : List String) : IO Disk := do
  match Invocation.parse env arguments with
  | .ok (.command c) =>
    let d ← diskOf [c.settingsPath]
    match Command.loadSettings env d c.settingsPath with
    | .ok s => diskOf (filesOf c.settingsPath s)
    | .error _ => return d
  | _ => return ⟨[], []⟩

end Enrolment

def main (arguments : List String) : IO UInt32 := do
  let env ← Enrolment.readEnvironment
  let d ← Enrolment.readDisk env arguments
  let ended ← Enrolment.perform (Enrolment.program env d arguments)
  IO.print ended.output
  if let some complaint := ended.complaint then IO.eprintln complaint
  return UInt32.ofNat ended.exitStatus
