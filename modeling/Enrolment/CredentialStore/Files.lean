import Enrolment.CredentialStore.Basic
import Enrolment.Identity
import Enrolment.Log
import Enrolment.Pem

/-!
# Enrolment.CredentialStore.Files

The credential store that keeps everything in files of one directory: `<label>.key.pem`, which only
its owner may read, `<label>.crt.pem` and `identity.json`. A label is a plain file name, so that
it leads nowhere else. A certificate is stored only beside a key, and only if it can be read. An
operation says how it ended, what the disk is then, and what it writes to the log.
-/

namespace Enrolment

/-- The credential store in the files of a directory. -/
structure FileStore where
  directory : String
  deriving DecidableEq, Repr

/-- A private key in PEM form, and the signing request that proves its possession. -/
structure KeyMaterial where
  privateKey : String
  signingRequest : String
  deriving DecidableEq, Repr

/-- How an operation of the store ended. -/
structure Stored (α : Type) where
  result : Except StoreError α
  disk : Disk
  log : List LogLine

def isLabelChar (c : Char) : Bool := c.isAlphanum || c == '-' || c == '_' || c == '.'

/-- Whether a label is a plain file name: not empty, of letters, digits, `-`, `_` and `.`, and not
starting with a dot. -/
def isLabel (label : String) : Bool :=
  match label.toList with
  | [] => false
  | c :: cs => c != '.' && (c :: cs).all isLabelChar

namespace FileStore

def keyPath (s : FileStore) (label : String) : String := Path.join s.directory (label ++ ".key.pem")

def certificatePath (s : FileStore) (label : String) : String :=
  Path.join s.directory (label ++ ".crt.pem")

def identityPath (s : FileStore) : String := Path.join s.directory "identity.json"

def makeDirectory (s : FileStore) (d : Disk) : Except StoreError Unit × Disk :=
  let (made, d) := d.makeDirectories s.directory
  (made.mapError (.io s.directory), d)

/-- Writes a file, and one line to the log if that succeeds. -/
def write {α : Type} (d : Disk) (path : String) (mode : FileMode) (content : String) (value : α)
    (text : String) : Stored α :=
  match d.write path mode (utf8 content) with
  | .ok d => ⟨.ok value, d, [⟨.info, text⟩]⟩
  | .error fault => ⟨.error (.io path fault), d, []⟩

def storeKey (s : FileStore) (d : Disk) (label : String) (material : KeyMaterial) :
    Stored KeyArtifact :=
  if !isLabel label then ⟨.error (.invalidLabel label), d, []⟩
  else match s.makeDirectory d with
    | (.error e, d) => ⟨.error e, d, []⟩
    | (.ok (), d) =>
      write d (s.keyPath label) .ownerOnly material.privateKey ⟨material.signingRequest, label⟩
        s!"generated key {label} at {s.keyPath label}"

/-- Keeps a certificate under `label`, beside the key with the given handle. -/
def storeCertificate (s : FileStore) (d : Disk) (handle label pem : String) : Stored Unit :=
  if !isLabel label then ⟨.error (.invalidLabel label), d, []⟩
  else if !d.pathExists (s.keyPath handle) then ⟨.error (.unknownKey handle), d, []⟩
  else match Pem.certificates? (utf8 pem) with
    | none | some [] => ⟨.error (.invalidCertificate label), d, []⟩
    | some _ =>
      write d (s.certificatePath label) .shared pem ()
        s!"stored certificate {label} for key {handle}"

/-- Keeps the record of a run, in place of an earlier one. -/
def storeIdentity (s : FileStore) (d : Disk) (record : Identity) : Stored Unit :=
  match s.makeDirectory d with
  | (.error e, d) => ⟨.error e, d, []⟩
  | (.ok (), d) =>
    write d s.identityPath .shared record.toText ()
      s!"recorded identity {record.thingName} at {s.identityPath}"

def loadIdentity (s : FileStore) (d : Disk) : Except StoreError Identity :=
  match d.read s.identityPath with
  | .error fault => .error (.io s.identityPath fault)
  | .ok content => match Identity.ofBytes? content with
    | some record => .ok record
    | none => .error .record

end FileStore

end Enrolment
