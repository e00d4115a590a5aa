import Enrolment.Disk.Basic
import Enrolment.Text.Quoted

/-!
# Enrolment.CredentialStore.Basic

What a run asks of the store that keeps keys, certificates and the record of the run, and how the
store fails.
-/

namespace Enrolment

inductive StoreError
  | generation (reason : String)
  | unknownKey (handle : String)
  | invalidCertificate (label : String)
  | invalidLabel (label : String)
  | io (path : String) (fault : DiskFault)
  /-- A record that cannot be read. -/
  | record
  deriving DecidableEq, Repr

def StoreError.message : StoreError → String
  | generation reason => "key generation failed: " ++ reason
  | unknownKey handle => "unknown key handle " ++ handle
  | invalidCertificate label => "certificate for " ++ label ++ " is not a valid PEM certificate"
  | invalidLabel label => "invalid label " ++ Text.quoted label
  | io path fault => "credential store io failed on " ++ path ++ ": " ++ fault.message
  | record => "identity record is malformed"

/-- A new key, known by its handle, and the signing request that proves its possession. -/
structure KeyArtifact where
  signingRequest : String
  handle : String
  deriving DecidableEq, Repr

end Enrolment
