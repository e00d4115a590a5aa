import Enrolment.CredentialStore.Files
import Enrolment.Interaction

/-!
# Enrolment.CredentialStore.World

A run over the credential store in files. The calls to the store are answered from the disk, and
change it; every other call goes to the surroundings. What the store writes to the log goes there
too.
-/

namespace Enrolment.FileStore

variable {σ : Type}

/-- An answer of the store, with its log lines handed on. -/
def settle {α : Type} (others : Interaction.World σ) (stored : Stored α) (s : σ) :
    Except StoreError α × Disk × σ :=
  (stored.result, stored.disk, stored.log.foldl (fun s line => (others (.log line) s).2) s)

/-- The world of a run whose credentials are kept in files. A new key comes from `keys`, which is
given the common name of the request to be signed. -/
def world (store : FileStore) (keys : String → KeyMaterial) (others : Interaction.World σ) :
    Interaction.World (Disk × σ)
  | .generateKey label commonName, (d, s) =>
    settle others (store.storeKey d label (keys commonName)) s
  | .storeCertificate handle label pem, (d, s) =>
    settle others (store.storeCertificate d handle label pem) s
  | .storeIdentity record, (d, s) => settle others (store.storeIdentity d record) s
  | call, (d, s) =>
    let (reply, s) := others call s
    (reply, d, s)

end Enrolment.FileStore
