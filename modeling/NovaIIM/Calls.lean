import NovaIIM.Runs
import NovaIIM.World

/-!
What happens around the handlers, and serial runs of the server.

`Surroundings` is what the environment decides: the statements that will fail,
the readings of the clocks, and who is logged in on which connection. A `Call` is
a request with the surroundings in which the server takes it up, and `perform`
runs its handler to the end.
-/
namespace NovaIIM

/-- What the environment decides before the server goes on. -/
structure Surroundings where
  faults : List Bool := []
  /-- how far the steady clock has moved -/
  elapsed : Nat := 0
  systemMs : Int := 0
  connections : ConnId → Connection := fun _ => {}
  connManager : ConnManager := {}

/-- A request and the circumstances in which it is served. -/
structure Call (ι : Type) extends Surroundings where
  request : ι

namespace Surroundings

/-- The world as the environment leaves it. -/
def enter (around : Surroundings) (w : World) : World :=
  { w with
    faults := around.faults
    mem := { w.mem with
      steady := w.mem.steady + around.elapsed
      systemMs := around.systemMs
      connections := around.connections
      connManager := around.connManager } }

variable (around : Surroundings) (w : World)

@[simp] theorem enter_tables : (around.enter w).tables = w.tables := rfl
@[simp] theorem enter_saved : (around.enter w).saved = w.saved := rfl
@[simp] theorem enter_faults : (around.enter w).faults = around.faults := rfl
@[simp] theorem enter_config : (around.enter w).mem.config = w.mem.config := rfl
@[simp] theorem enter_dedup : (around.enter w).mem.dedup = w.mem.dedup := rfl
@[simp] theorem enter_inFlight : (around.enter w).mem.inFlight = w.mem.inFlight := rfl
@[simp] theorem enter_connections : (around.enter w).mem.connections = around.connections := rfl
@[simp] theorem enter_connManager : (around.enter w).mem.connManager = around.connManager := rfl

end Surroundings

/-- What the service of a call leads to. -/
def served {ι : Type} (handle : ι → Handler) (w : World) (call : Call ι) : Outcome World Event Unit :=
  (handle call.request).run (call.enter w)

/-- The world after a call. -/
def perform {ι : Type} (handle : ι → Handler) (w : World) (call : Call ι) : World :=
  (served handle w call).state

end NovaIIM
