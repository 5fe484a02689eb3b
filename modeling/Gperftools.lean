import Gperftools.Profiler.Handler
import Gperftools.Profiler.Control
import Gperftools.Profiler.Lifecycle
import Gperftools.Profiler.Abstract
import Gperftools.Profiler.Interleaving
import Gperftools.Profiler.Linearization
import Gperftools.Profiler.Progress
import Gperftools.Profiler.Refinement
import Gperftools.Profiler.Instance
import Gperftools.Profiler.Switch
import Gperftools.Profiler.SwitchRace
import Gperftools.Profiler.CurrentState
import Gperftools.HeapProfileTable
import Gperftools.OverrideFunctions
