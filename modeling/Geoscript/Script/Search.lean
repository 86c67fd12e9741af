import Geoscript.Expression.Reader
import Geoscript.Script.Fault

/-! Some passes look for what a name or an export writes, and read it as an expression. -/

namespace Geoscript.Script

def searchFor (flags : List Expression.Flag) (t : Text) : Except Fault Search :=
  match Search.read flags t with
  | .ok q => .ok q
  | .error .badValue => .error .badSetting
  | .error .twoEditions => .error .twoEditions
  | .error _ => .error .badPattern

/-- Whether a text stands for itself in an expression, as word characters do. -/
def isPlain (t : Text) : Bool :=
  t.all Text.isWord

end Geoscript.Script
