import Acceptance.Run.Fixture

namespace Acceptance.Samples

/-! A service that can never be set up. -/

structure Unreachable where
  calls : Nat := 0
  teardowns : Nat := 0
deriving DecidableEq

namespace Unreachable

def registry : Registry Unreachable :=
  Registry.empty
    |>.register "call"
      (.action [] fun () service => { service with calls := service.calls + 1 })

def fixture : Fixture Unreachable where
  setup service := (service, .returned (.error "service is down"))
  steps := .returned registry
  teardown service := ({ service with teardowns := service.teardowns + 1 }, .returned ())

end Unreachable

end Acceptance.Samples
