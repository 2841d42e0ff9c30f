import Mathlib
import FrameLink.Settings.Connect
import FrameLink.Proofs.Settings.Reading
/-!
How long a connect waits at most. An interval is a 64-bit count of milliseconds and the attempts are a
32-bit count, so their product can be more than the whole seconds of a duration can say.
-/

namespace FrameLink

namespace Duration

theorem ofNanos?_eq_some {n : Nat} {d : Duration} : ofNanos? n = some d ↔ d.nanos = n := by
  unfold ofNanos?
  split
  next bounded =>
    constructor
    · rintro ⟨rfl⟩
      rfl
    · rintro rfl
      rfl
  next beyond =>
    have apart : d.nanos ≠ n := fun same => beyond (same ▸ d.bounded)
    simp [apart]

theorem nanos_ofMillis (ms : UInt64) : (ofMillis ms).nanos = ms.toNat * 1000000 := rfl

theorem isSome_ofNanos? {n : Nat} : (ofNanos? n).isSome = true ↔ n < durationBound := by
  unfold ofNanos?
  split
  next bounded => simp [bounded]
  next beyond => simp [beyond]

end Duration

namespace ConnectSettings

open Settings

theorem interval_and_attempts {lookup : Lookup} {settings : ConnectSettings}
    (made : ofLookup lookup = .ok settings) :
    (∃ ms, meant? readMillis lookup "ENGINE_LINK_POLL_INTERVAL_MS" 1000 = some ms ∧
      settings.pollInterval = .ofMillis ms) ∧
    meant? readCount lookup "ENGINE_LINK_MAX_ATTEMPTS" 30 = some settings.maxAttempts := by
  have filled := ofLookup_eq_ok.mp made
  obtain ⟨ms, interval, set⟩ := filled.pollInterval
  exact ⟨⟨ms, (means_iff reads_millis).mp interval, set⟩,
    (means_iff reads_count).mp filled.maxAttempts⟩

/-- The budget is the product of interval and attempts, to the nanosecond, and there is one exactly if its
whole seconds fit into 64 bits. -/
theorem handshakeBudget_iff {lookup : Lookup} {settings : ConnectSettings}
    (made : ofLookup lookup = .ok settings) :
    ∃ ms attempts, meant? readMillis lookup "ENGINE_LINK_POLL_INTERVAL_MS" 1000 = some ms ∧
      meant? readCount lookup "ENGINE_LINK_MAX_ATTEMPTS" 30 = some attempts ∧
      let total := ms.toNat * attempts.toNat
      (settings.handshakeBudget?.isSome = true ↔ total / 1000 < 2 ^ 64) ∧
      ∀ budget, settings.handshakeBudget? = some budget →
        budget.nanos = settings.pollInterval.nanos * settings.maxAttempts.toNat ∧
        budget.secs = total / 1000 ∧ budget.subsecNanos = total % 1000 * 1000000 := by
  obtain ⟨⟨ms, interval, sets⟩, attempts⟩ := interval_and_attempts made
  refine ⟨ms, settings.maxAttempts, interval, attempts, ?_⟩
  intro total
  have product : settings.pollInterval.nanos * settings.maxAttempts.toNat = total * 1000000 := by
    rw [sets, Duration.nanos_ofMillis, Nat.mul_right_comm]
  constructor
  · rw [handshakeBudget?, Duration.times?, Duration.isSome_ofNanos?, product, durationBound]
    omega
  · intro budget found
    have nanos := Duration.ofNanos?_eq_some.mp found
    refine ⟨nanos, ?_, ?_⟩
    · rw [Duration.secs, nanos, product, Duration.second]
      omega
    · rw [Duration.subsecNanos, nanos, product, Duration.second]
      omega

/-- The longest interval, and as many attempts as still fit. -/
theorem longest_interval_thousand_times :
    let lookup := Lookup.ofList [("ENGINE_LINK_POLL_INTERVAL_MS", " 18446744073709551615 "),
      ("ENGINE_LINK_MAX_ATTEMPTS", "+1000")]
    ∃ settings budget, ofLookup lookup = .ok settings ∧ settings.handshakeBudget? = some budget ∧
      budget.secs = 18446744073709551615 ∧ budget.subsecNanos = 0 := by
  intro lookup
  let settings : ConnectSettings := { pollInterval := .ofMillis 18446744073709551615, maxAttempts := 1000 }
  have made : ofLookup lookup = .ok settings := by decide +kernel
  obtain ⟨ms, attempts, interval, count, fits, product⟩ := handshakeBudget_iff made
  have readInterval : meant? readMillis lookup "ENGINE_LINK_POLL_INTERVAL_MS" 1000 =
      some 18446744073709551615 := by decide +kernel
  have readAttempts : meant? readCount lookup "ENGINE_LINK_MAX_ATTEMPTS" 30 = some 1000 := by
    decide +kernel
  cases readInterval.symm.trans interval
  cases readAttempts.symm.trans count
  obtain ⟨budget, found⟩ := Option.isSome_iff_exists.mp (fits.mpr (by decide))
  exact ⟨settings, budget, made, found, (product budget found).2⟩

/-- With one attempt more there is no such duration. -/
theorem no_budget_for_all_settings : ¬∀ (lookup : Lookup) (settings : ConnectSettings),
    ofLookup lookup = .ok settings → ∃ budget, settings.handshakeBudget? = some budget ∧
      budget.nanos = settings.pollInterval.nanos * settings.maxAttempts.toNat := by
  intro always
  let lookup := Lookup.ofList [("ENGINE_LINK_POLL_INTERVAL_MS", "18446744073709551615"),
    ("ENGINE_LINK_MAX_ATTEMPTS", "1001")]
  let settings : ConnectSettings := { pollInterval := .ofMillis 18446744073709551615, maxAttempts := 1001 }
  have made : ofLookup lookup = .ok settings := by decide +kernel
  have none : settings.handshakeBudget? = none := by decide +kernel
  obtain ⟨budget, found, -⟩ := always lookup settings made
  cases none.symm.trans found

end ConnectSettings

end FrameLink
