import Wasmi.Core.Num
import Wasmi.Core.Memory
import Wasmi.Ir.BranchOffset
import Wasmi.Ir.BlockFuel
import Wasmi.Ir.Comparator
import Wasmi.Engine.Executor
import Wasmi.Engine.Store
import Wasmi.Engine.Simd
import Wasmi.Engine.Run
