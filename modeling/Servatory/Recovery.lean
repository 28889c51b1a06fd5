import Servatory.Lib.Progress
import Servatory.System

/-! Both parties from some time on, when nothing fails any more: no frame is lost, every write succeeds, the port can be
    opened, and nobody starts again. The clock does not run back. -/

namespace Servatory
namespace System

variable (config : Config) (daemon firmware : SoftwareVersion)

end System
end Servatory
