import Moxxy.Browser.Actions

/-!
`BridgeHandler.do_POST`: one HTTP request, from its header and body to the one response it writes,
or to the exception that ends it before it writes any.
-/

namespace Moxxy

end Moxxy
