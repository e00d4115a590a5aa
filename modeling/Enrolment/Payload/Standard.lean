import Enrolment.Payload.Binary
import Enrolment.Payload.Textual

/-!
# Enrolment.Payload.Standard

The codec of a payload format: the documented payloads, with the texts of responses held to limits.
-/

namespace Enrolment

def Codec.standard (limits : FieldLimits) : PayloadFormat → Codec
  | .cbor => {
      writeSigningRequest := fun csr => .ok (Payload.Binary.signingRequest csr)
      readCredential := Payload.Binary.readCredential limits
      writeRegistration := fun token parameters =>
        .ok (Payload.Binary.registration token parameters)
      readRegistration := Payload.Binary.readRegistration limits
      readRejection := Payload.Binary.readRejection }
  | .json => {
      writeSigningRequest := fun csr => .ok (Payload.Textual.signingRequest csr)
      readCredential := Payload.Textual.readCredential limits
      writeRegistration := fun token parameters =>
        .ok (Payload.Textual.registration token parameters)
      readRegistration := Payload.Textual.readRegistration limits
      readRejection := Payload.Textual.readRejection }

end Enrolment
