import CapsuleLoom.Proofs.Steps
import CapsuleLoom.Service.State

/-!
# What the steps of the service do

## Main results

* `Run.ofExcept_apply`, `Run.settings_apply`, `Run.meter_apply`, `Run.log_apply`,
  `Run.readClock_apply`, `Run.attempt_apply` : the outcome and the state after each step.
* `Run.mapError_of_ok`, `Run.mapError_of_error` : a step with its error seen from further out.
-/

namespace CapsuleLoom

/-- The service after it told about an event. -/
def Service.tell (level : Level) (logger message : String) (service : Service) : Service :=
  { service with
    journal :=
      { service.journal with events := service.journal.events ++ [⟨level, logger, message⟩] } }

namespace Run

variable {ε ε' α : Type} (service : Service)

@[simp] theorem ofExcept_apply (outcome : Except ε α) :
    (ofExcept outcome : Run ε α) service = (outcome, service) := by
  cases outcome <;> rfl

@[simp] theorem attempt_apply (run : Run ε α) :
    (attempt run : Run ε' (Except ε α)) service = (.ok (run service).1, (run service).2) := rfl

@[simp] theorem settings_apply :
    (settings : Run ε Settings) service = (.ok service.settings, service) := rfl

@[simp] theorem meter_apply (f : Board → Board) :
    (meter f : Run ε Unit) service = (.ok (), { service with board := f service.board }) := rfl

@[simp] theorem log_apply (level : Level) (logger message : String) :
    (log level logger message : Run ε Unit) service =
      (.ok (), service.tell level logger message) := rfl

@[simp] theorem readClock_apply :
    (readClock : Run ε Double) service =
      (.ok service.clock.advance.now, { service with clock := service.clock.advance }) := rfl

section MapError

variable {service} {after : Service} (f : ε → ε')

theorem mapError_of_ok {run : Run ε α} {value : α} (hrun : run service = (.ok value, after)) :
    mapError f run service = (.ok value, after) := by
  change ((run service).1.mapError f, (run service).2) = _
  rw [hrun]
  rfl

theorem mapError_of_error {run : Run ε α} {error : ε} (hrun : run service = (.error error, after)) :
    mapError f run service = (.error (f error), after) := by
  change ((run service).1.mapError f, (run service).2) = _
  rw [hrun]
  rfl

theorem ofExcept_mapError_of_ok {outcome : Except ε α} {value : α}
    (houtcome : outcome = .ok value) :
    (ofExcept (outcome.mapError f) : Run ε' α) service = (.ok value, service) := by
  rw [houtcome]
  rfl

theorem ofExcept_mapError_of_error {outcome : Except ε α} {error : ε}
    (houtcome : outcome = .error error) :
    (ofExcept (outcome.mapError f) : Run ε' α) service = (.error (f error), service) := by
  rw [houtcome]
  rfl

end MapError

end Run

end CapsuleLoom
