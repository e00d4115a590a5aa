import Enrolment.Mqtt
import Enrolment.Proofs.Capacity
import Enrolment.Settings.Reader
import Mathlib.Order.Bounds.Basic

/-!
# Enrolment.Proofs.TimeLimits

The time limits of an attempt to open a link. The connection below the session is limited in whole
seconds, and the attempt as a whole by the sum of the two times of its request; what is between the
two limits is left for the broker's answer. Under settings that pass the check the first time is
given in whole seconds, one at least, so rounding up does not take anything from the broker. But the
check has no upper bound for either time, and a sum that is longer than the longest span does not
exist: such settings pass the check, and no attempt can be made with them.

* `Duration.wholeSeconds_isLeast`, `Duration.add?_eq_none_iff`: rounding up, and sums of spans.
* `checked_limits_exist_iff`: which settings have limits, and what these leave for the answer.
* `checked_limits_missing`: a file of settings that pass the check and have none.
-/

namespace Enrolment

namespace Duration

theorem toNanos_ofSecs (n : Nat) : (ofSecs n).toNanos = n * nanosPerSec := by
  simp only [ofSecs, toNanos, Nat.add_zero]

theorem toNanos_ofMillis (n : Nat) : (ofMillis n).toNanos = n * 1000000 := by
  simp only [ofMillis, toNanos, nanosPerSec]
  omega

/-- Some seconds, one at least, that are not shorter than the span. -/
def Covers (d : Duration) (n : Nat) : Prop := 1 ≤ n ∧ d.toNanos ≤ n * nanosPerSec

theorem wholeSeconds_isLeast {d : Duration} (h : d.nanos < nanosPerSec) :
    IsLeast {n | d.Covers n} d.wholeSeconds := by
  simp only [nanosPerSec] at h
  constructor
  · simp only [Set.mem_ofPred_eq, Covers, wholeSeconds, toNanos, nanosPerSec]
    split <;> omega
  · intro n hn
    simp only [Set.mem_ofPred_eq, Covers, toNanos, nanosPerSec] at hn
    simp only [wholeSeconds]
    split <;> omega

theorem wholeSeconds_ofSecs {n : Nat} (h : 0 < n) : (ofSecs n).wholeSeconds = n :=
  Nat.max_eq_right h

theorem add?_eq_some {a b : Duration} (h : a.toNanos + b.toNanos < secsBound * nanosPerSec) :
    a.add? b = some (ofNanos (a.toNanos + b.toNanos)) :=
  if_pos (Nat.div_lt_of_lt_mul (Nat.mul_comm .. ▸ h))

theorem add?_eq_none_iff {a b : Duration} :
    a.add? b = none ↔ secsBound * nanosPerSec ≤ a.toNanos + b.toNanos := by
  refine ⟨fun hnone => Nat.le_of_not_lt fun hlt => ?_, fun hle => if_neg (Nat.not_lt.2 ?_)⟩
  · rw [add?_eq_some hlt] at hnone
    cases hnone
  · exact (Nat.le_div_iff_mul_le (by decide)).2 hle

end Duration

open Duration (nanosPerSec secsBound)

namespace Settings

variable {s : Settings} {d : Disk}

theorem transportTimeout_pos (h : s.check d = .ok ()) :
    0 < s.timing.transportTimeoutSecs.toNat := by
  have hrule : faultUnless (0 < s.timing.transportTimeoutSecs) .noTransportTimeout = none :=
    check_eq_ok_iff.1 h _ (List.mem_of_getElem? (i := 5) rfl)
  by_cases hpos : 0 < s.timing.transportTimeoutSecs
  · exact UInt64.lt_iff_toNat_lt.1 hpos
  · rw [decide_eq_false hpos] at hrule
    cases hrule

/-- The whole seconds that both times of the settings fill, when they are added up. -/
def connectSecs (s : Settings) : Nat :=
  s.timing.transportTimeoutSecs.toNat + s.timing.connackTimeoutMs.toNat / 1000

theorem toNanos_connectRequest (s : Settings) :
    s.connectRequest.transportTimeout.toNanos + s.connectRequest.connackTimeout.toNanos =
      s.timing.transportTimeoutSecs.toNat * nanosPerSec +
        s.timing.connackTimeoutMs.toNat * 1000000 := by
  rw [connectRequest, Duration.toNanos_ofSecs, Duration.toNanos_ofMillis]

theorem connectSecs_lt_iff (s : Settings) :
    s.connectSecs < secsBound ↔
      s.connectRequest.transportTimeout.toNanos + s.connectRequest.connackTimeout.toNanos <
        secsBound * nanosPerSec := by
  rw [toNanos_connectRequest, connectSecs]
  simp only [secsBound, nanosPerSec]
  omega

end Settings

/-- Under settings that pass the check, the time for the connection below the session is rounded up
to the least number of whole seconds that covers it, which is a span of time. If the two times add
up, the attempt has that limit for the connection and their sum for the whole, and exactly the time
for the broker's answer is between them. Otherwise, which no rule excludes, it has no limits. -/
theorem checked_limits_exist_iff {s : Settings} {d : Disk} (h : s.check d = .ok ()) :
    let request := s.connectRequest
    let secs := request.transportTimeout.wholeSeconds
    IsLeast {n | request.transportTimeout.Covers n} secs ∧
    secs < secsBound ∧
    (s.connectSecs < secsBound → ∃ total,
      request.transportTimeout.add? request.connackTimeout = some total ∧
      Mqtt.connectLimits? request = some ⟨secs, total⟩ ∧
      total.toNanos = secs * nanosPerSec + request.connackTimeout.toNanos) ∧
    (secsBound ≤ s.connectSecs →
      request.transportTimeout.add? request.connackTimeout = none ∧
      Mqtt.connectLimits? request = none) := by
  intro request secs
  have hsecs : secs = s.timing.transportTimeoutSecs.toNat :=
    Duration.wholeSeconds_ofSecs (Settings.transportTimeout_pos h)
  have hword : secs < secsBound := hsecs ▸ s.timing.transportTimeoutSecs.toNat_lt
  have hexact : request.transportTimeout.toNanos = secs * nanosPerSec := by
    rw [hsecs]
    exact Duration.toNanos_ofSecs _
  refine ⟨Duration.wholeSeconds_isLeast (show 0 < nanosPerSec by decide), hword, ?_, ?_⟩
  · intro hlt
    have hsum := Duration.add?_eq_some ((Settings.connectSecs_lt_iff s).1 hlt)
    refine ⟨_, hsum, ?_, ?_⟩
    · rw [Mqtt.connectLimits?, hsum]
      exact if_pos hword
    · rw [Duration.toNanos_ofNanos]
      exact congrArg (· + request.connackTimeout.toNanos) hexact
  · intro hle
    have hnone : request.transportTimeout.add? request.connackTimeout = none :=
      Duration.add?_eq_none_iff.2
        (Nat.not_lt.1 (mt (Settings.connectSecs_lt_iff s).2 (Nat.not_lt.2 hle)))
    exact ⟨hnone, by rw [Mqtt.connectLimits?, hnone]; rfl⟩

/-- Settings with the longest time for the connection that can be written. -/
def patientText : String :=
  "\x7b\"broker\": \x7b\"endpoint\": \"broker\", \"client_id\": \"device\"\x7d, " ++
  "\"claim\": \x7b\"certificate_path\": \"claim.pem\", \"private_key_path\": \"claim.pem\", " ++
  "\"root_ca_path\": \"claim.pem\"\x7d, \"provisioning\": \x7b\"template_name\": \"Fleet\"\x7d, " ++
  "\"timing\": \x7b\"transport_timeout_secs\": 18446744073709551615\x7d\x7d"

/-- A disk with a claim and with these settings. -/
def patientDisk : Disk :=
  ⟨[(["claim.pem"], .file .shared []), (["settings.json"], .file .shared (utf8 patientText))], []⟩

def patientSettings : Settings :=
  { claimedSettings .standard with
    timing := { TimingSettings.standard with transportTimeoutSecs := 0xffffffffffffffff } }

/-- The settings are read and pass the check, and with a second for the broker's answer the times of
their request do not add up. -/
theorem checked_limits_missing :
    Settings.load patientDisk "settings.json" = .ok patientSettings ∧
      patientSettings.check patientDisk = .ok () ∧
      patientSettings.connectRequest.connackTimeout = .ofSecs 1 ∧
      patientSettings.connectRequest.transportTimeout.add?
        patientSettings.connectRequest.connackTimeout = none ∧
      Mqtt.connectLimits? patientSettings.connectRequest = none := by
  decide +kernel

/-- The longest times that add up, with the last nanoseconds missing. -/
def boundarySettings : Settings :=
  { claimedSettings .standard with
    timing := { TimingSettings.standard with
      transportTimeoutSecs := 0xfffffffffffffffe, connackTimeoutMs := 1999 } }

theorem boundarySettings_limits :
    boundarySettings.check claimDisk = .ok () ∧ boundarySettings.connectSecs < secsBound ∧
      ∃ total, Mqtt.connectLimits? boundarySettings.connectRequest =
          some ⟨0xfffffffffffffffe, total⟩ ∧
        total.toNanos = 0xfffffffffffffffe * nanosPerSec + 1999000000 := by
  have hcheck : boundarySettings.check claimDisk = .ok () := by rfl
  have hsecs : boundarySettings.connectSecs < secsBound := by decide
  obtain ⟨total, -, hlimits, htotal⟩ := (checked_limits_exist_iff hcheck).2.2.1 hsecs
  exact ⟨hcheck, hsecs, total, hlimits, htotal⟩

end Enrolment
