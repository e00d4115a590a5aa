import Enrolment.Der
import Enrolment.Disk.Basic
import Enrolment.Pem

/-!
# Enrolment.ClaimMaterial

What a device shows to the broker before it has an identity of its own: the claim certificate and
its key, and the root certificates that the broker is held to. The roots are read first, then
the certificate, then the key. Of the keys in a file the first of the most general form counts.
-/

namespace Enrolment

structure ClaimPaths where
  certificate : String
  privateKey : String
  rootCa : String
  deriving DecidableEq, Repr

/-- What a secured connection is opened with. -/
structure ClaimMaterial where
  roots : List Bytes
  chain : List Bytes
  key : Bytes
  /-- The application protocols offered. -/
  protocols : List Bytes
  deriving DecidableEq, Repr

inductive ClaimError
  | certificateNotOpened (path : String)
  | certificateNotParsed (path : String)
  | noCertificates (path : String)
  | noRoots (path : String)
  | keyNotRead (path : String)
  | keyNotParsed (path : String)
  | noKey (path : String)
  /-- The key has no form that can sign. -/
  | unusable
  deriving DecidableEq, Repr

def ClaimError.message : ClaimError → String
  | certificateNotOpened path => "open certificate " ++ path
  | certificateNotParsed path => "parse certificates " ++ path
  | noCertificates path => "no certificates found in " ++ path
  | noRoots path => "no CA certificates loaded from " ++ path
  | keyNotRead path => "read key " ++ path
  | keyNotParsed path => "parse private key " ++ path
  | noKey path => "no supported private key found in " ++ path
  | unusable => "build TLS client config"

namespace ClaimMaterial

/-- The certificates of a file, one at least. A directory can be opened, but not read. -/
def loadCertificates (d : Disk) (path : String) : Except ClaimError (List Bytes) :=
  match d.read path with
  | .error .isADirectory => .error (.certificateNotParsed path)
  | .error _ => .error (.certificateNotOpened path)
  | .ok text => match Pem.certificates? text with
    | none => .error (.certificateNotParsed path)
    | some [] => .error (.noCertificates path)
    | some certificates => .ok certificates

/-- The labels of private keys, the most general first. -/
def keyLabels : List String := ["PRIVATE KEY", "RSA PRIVATE KEY", "EC PRIVATE KEY"]

def loadKey (d : Disk) (path : String) : Except ClaimError Bytes :=
  match d.read path with
  | .error _ => .error (.keyNotRead path)
  | .ok text => match keyLabels.mapM fun label => Pem.contents? label text with
    | none => .error (.keyNotParsed path)
    | some keys => match keys.flatten with
      | [] => .error (.noKey path)
      | key :: _ => .ok key

def load (d : Disk) (paths : ClaimPaths) (protocols : List String) :
    Except ClaimError ClaimMaterial := do
  let roots := (← loadCertificates d paths.rootCa).filter Der.isCertificate
  if roots.isEmpty then throw (.noRoots paths.rootCa)
  let chain ← loadCertificates d paths.certificate
  let key ← loadKey d paths.privateKey
  if Der.isPrivateKey key then return ⟨roots, chain, key, protocols.map utf8⟩ else throw .unusable

end ClaimMaterial

end Enrolment
