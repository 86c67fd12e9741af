import Geoscript.Text.Basic

/-! The imports and definitions in front of a generated script. -/

namespace Geoscript.Script

def imports : Text := Text.ofLines [
  "import ee",
  "import warnings",
  "import math",
  "import inspect",
  "import locale",
  "import regex",
  ""]

def typeofDefinition : Text := Text.ofLines [
  "",
  "",
  "# Javascript typeof wrapper ---------------------------------------",
  "def typeof(x):",
  "    # Python version of Javascript typeof",
  "    if x == '__None':",
  "        return \"undefined\"",
  "    elif x == None:",
  "        return \"object\"",
  "    elif isinstance(x, bool):",
  "        return \"boolean\"  ",
  "    elif isinstance(x, (int, float)):",
  "        return \"number\"",
  "    elif isinstance(x, str):",
  "        return \"string\"",
  "    elif hasattr(x, '__call__'):",
  "        return \"function\"",
  "    else:",
  "        return \"object\"",
  "# -----------------------------------------------------------------",
  ""]

/-- The definition of the operator that adds numbers and joins texts. -/
def plusDefinition : Text := Text.ofLines [
  "",
  "# Javascript sum module -------------------------------------------------------",
  "class Infix:",
  "    def __init__(self, function):",
  "        self.function = function",
  "    def __ror__(self, other):",
  "        return Infix(lambda x, self=self, other=other: self.function(other, x))",
  "    def __or__(self, other):",
  "        return self.function(other)",
  "    def __rlshift__(self, other):",
  "        return Infix(lambda x, self=self, other=other: self.function(other, x))",
  "    def __rshift__(self, other):",
  "        return self.function(other)",
  "    def __call__(self, value1, value2):",
  "        return self.function(value1, value2)",
  "",
  "def __eextra_plus(*args):",
  "    try:        ",
  "        sum_container = 0",
  "        for arg in args:",
  "            sum_container = sum_container + arg",
  "    except:",
  "        sum_container = \"\"",
  "        args = [str(arg) for arg in args]",
  "        for arg in args:",
  "            sum_container = sum_container + arg",
  "    return sum_container",
  "",
  "plus = Infix(__eextra_plus)",
  "# -----------------------------------------------------------------------------",
  ""]

/-- The definition of the object that collects what a script exports. -/
def exportsDefinition : Text := Text.ofLines [
  "",
  "class AttrDict(dict):",
  "    def __init__(self, *args, **kwargs):",
  "        super(AttrDict, self).__init__(*args, **kwargs)",
  "        self.__dict__ = self",
  "exports = AttrDict()",
  ""]

end Geoscript.Script
