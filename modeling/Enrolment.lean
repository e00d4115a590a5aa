import Enrolment.Main
import Enrolment.Mqtt.World
import Enrolment.Proofs.Order
import Enrolment.Proofs.Provenance
import Enrolment.Proofs.Acknowledgement
import Enrolment.Proofs.Noninterference
import Enrolment.Proofs.Capacity
import Enrolment.Proofs.Reruns
import Enrolment.Proofs.Requests
import Enrolment.Proofs.Formats
import Enrolment.Proofs.RetryMachine
import Enrolment.Proofs.Labels
import Enrolment.Proofs.Effort
import Enrolment.Proofs.LostLink
import Enrolment.Proofs.Records
import Enrolment.Proofs.Overflow
import Enrolment.Proofs.Topics
import Enrolment.Proofs.Statuses
import Enrolment.Proofs.Lengths
import Enrolment.Proofs.Objects
import Enrolment.Proofs.Ownership
import Enrolment.Proofs.TimeLimits
import Enrolment.Proofs.FirstMatch
import Enrolment.Proofs.Refusals
import Enrolment.Proofs.EntryCounts
