import Moxxy.Browser.Server

/-!
When `do_POST` answers: the requests it writes no response to, and the shape of the responses it
writes.
-/

namespace Moxxy

section Post

variable {loaded : Except LoadError Json} {run : Json → Json → Except PyException Json}

end Post

section Handler

variable {header : Option String} {read : Int → Except PyException String}
  {loads : String → Except LoadError Json} {run : Json → Json → Except PyException Json}

end Handler

end Moxxy
