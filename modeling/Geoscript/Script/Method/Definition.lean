import Geoscript.Text.Basic

/-! The functions that a generated script calls in place of the methods and global functions of the source language.
-/

namespace Geoscript.Script.Definition

/-- A function that acts on receivers of one type, and evaluates a call for all others. -/
def onType (name receiver parameters type : String) (body : List String) (call : String) : Text :=
  Text.ofLines ("" :: ("def __ee_extra" ++ name ++ "(" ++ receiver ++ parameters ++ "):") ::
    ("    vars_name = varName(" ++ receiver ++ ")") :: ("    if isinstance(" ++ receiver ++ ", " ++ type ++ "):") ::
    (body ++ ["    return eval(" ++ call, ""]))

/-- A method of arrays that takes a function. -/
def withFunction (name : String) (body : List String) : Text :=
  onType ("_" ++ name) "array" ", function" "list" body
    ("\"%s." ++ name ++ "(%s)\" % (vars_name, function.__name__))")

def charCodeAt : Text :=
  onType "_charCodeAt" "string" ", index" "str" ["        return ord(string[index])"]
    "\"%s.charAt(%s)\" % (vars_name, index))"

/-- Looks up the name of a variable for the other definitions. -/
def varName : Text := Text.ofLines [
  "",
  "def varName(var):",
  "    lcls = inspect.stack()[2][0].f_locals",
  "    for name in lcls:",
  "        if id(var) == id(lcls[name]):",
  "            return name",
  "    return None",
  ""]

def charAt : Text :=
  onType "_charAt" "string" ", index" "str" ["        return string[index]"]
    "\"%s.charAt(%s)\" % (vars_name, index))"

def concat : Text := Text.ofLines [
  "",
  "def flatten(L):",
  "    for item in L:",
  "        try:",
  "            yield from flatten(item)",
  "        except TypeError:",
  "            yield item",
  "",
  "def __ee_extra_concat(string, *args):",
  "    vars_name = varName(string)",
  "    if isinstance(string, str):",
  "        return string + \"\".join(args)",
  "    if isinstance(string, list):",
  "        if isinstance(args, (list, tuple)):",
  "            args_flatten = list(flatten(args))",
  "            return string + args_flatten",
  "        else:",
  "            string.append(args)",
  "            return string",
  "    args = [str(arg)for arg in args]",
  "    return eval(\"%s.concat(%s)\" % (vars_name, \", \".join(args)))",
  ""]

def indexOf : Text := Text.ofLines [
  "",
  "def __ee_extra_indexOf(iterable, start=None, item=None):",
  "    vars_name = varName(iterable)",
  "    if isinstance(iterable, str):",
  "        search_string = regex.search(start, iterable)",
  "        if search_string is None:",
  "            return -1",
  "        return search_string.start()",
  "    elif isinstance(iterable, list):",
  "        item, start = start, item",
  "        if start is None:",
  "            start = 0",
  "        try:",
  "            indexof = iterable.index(item, start)",
  "        except:",
  "            indexof=-1",
  "        return indexof",
  "    if item is None:",
  "        return eval(\"%s.indexOf(%s, %s)\" % (vars_name, start))",
  "    else:",
  "        return eval(\"%s.indexOf(%s, %s)\" % (vars_name, item, start))",
  ""]

def lastIndexOf : Text :=
  onType "_lastIndexOf" "iterable" ", start=None, item=None" "str"
    ["        search_string = regex.search(start, iterable[::-1])",
    "        if search_string is None:",
    "            return -1",
    "        return len(iterable) - search_string.start() - 1",
    "    if isinstance(iterable, list):",
    "        item, start = start, item",
    "        if start is None:",
    "            start = len(iterable) - 1            ",
    "        nstart = len(iterable) - start - 1",
    "        return len(iterable) - 1 - iterable[::-1].index(item, nstart)"]
    "\"%s.lastIndexOf(%s)\" % (vars_name, start))"

def localeCompare : Text :=
  onType "_localeCompare" "string" ", compareString" "str"
    ["        return locale.strcoll(string.lower(), compareString.lower())"]
    "\"%s.localeCompare(%s)\" % (vars_name, compareString))    "

def length : Text :=
  onType "_length" "string" "" "str"
    ["        return len(string)",
    "    elif isinstance(string, list):",
    "        return len(string)"]
    "\"%s.length\" % vars_name)    "

def matchText : Text :=
  onType "_match" "string" ", regexp" "str"
    ["        if regex.match(regexp, string) is None:",
    "            return None",
    "        return regex.match(regexp, string).group()"]
    "\"%s.match(%s)\" % (vars_name, regexp))    "

def search : Text :=
  onType "_search" "string" ", regexp" "str"
    ["        if regex.search(regexp, string) is None:",
    "            return None",
    "        return regex.search(regexp, string).start()"]
    "\"%s.search(%s)\" % (vars_name, regexp))    "

def slice : Text := Text.ofLines [
  "",
  "def __ee_extra_slice(iterable, start=None, end=None):",
  "    vars_name = varName(iterable)",
  "    if start is None:",
  "        start = 0",
  "    if end is None:",
  "        end = len(iterable)",
  "    if isinstance(iterable, str):",
  "        return iterable[start:end]",
  "    elif isinstance(iterable, list):",
  "        return iterable[start:end]",
  "    return eval(\"%s.slice(%s, %s)\" % (vars_name, start, end))",
  ""]

def substr : Text :=
  onType "_substr" "string" ", start, length" "str" ["        return string[start:][:(length -1)]"]
    "\"%s.substr(%s, %s)\" % (vars_name, start, length))    "

def substring : Text :=
  onType "_substring" "string" ", start, end" "str" ["        return string[start:end]"]
    "\"%s.substring(%s, %s)\" % (vars_name, start, end))    "

def toLowerCase : Text :=
  onType "_toLowerCase" "string" "" "str" ["        return string.lower()"]
    "\"%s.toLowerCase()\" % vars_name)    "

def toUpperCase : Text :=
  onType "_toUpperCase" "string" "" "str" ["        return string.upper()"]
    "\"%s.toUpperCase()\" % vars_name)    "

def toString : Text :=
  onType "_toString" "string" "" "int"
    ["        return str(string)",
    "    elif isinstance(string, str):",
    "        return str(string)",
    "    elif isinstance(string, list):",
    "        return \", \".join([str(xchr) for xchr in string])"]
    "\"%s.toString()\" % vars_name)    "

def trim : Text :=
  onType "_trim" "string" "" "str" ["        return string.strip()"]
    "\"%s.trim()\" % vars_name)"

def every : Text :=
  withFunction "every" ["        return all(list(map(function, array)))"]

def filter : Text :=
  withFunction "filter" ["        return list(filter(function, array))"]

def forEach : Text := Text.ofLines [
  "",
  "def __ee_extra_foreach(array, function):",
  "    vars_name = varName(array)",
  "    if isinstance(array, list):        ",
  "        for index, element in enumerate(array):",
  "            try:",
  "                try:",
  "                    function(element)",
  "                except:",
  "                    function(element, index)",
  "            except:",
  "                warnings.warn(\"Sorry ee_extra does not support complex forEach yet.\")",
  "                return \"%s.forEach(%s)\" % (vars_name, function.__name__)",
  "    return eval(\"%s.forEach(%s)\" % (vars_name, function.__name__))",
  ""]

def arrayFrom : Text := Text.ofLines [
  "",
  "from collections.abc import Iterable",
  "def __ee_extra_arrayfrom(iterable):",
  "    vars_name = varName(iterable)",
  "    if isinstance(iterable, Iterable):",
  "        return list(iterable)",
  "    return eval(\"Array.from(%s)\" % (vars_name))",
  ""]

def isArray : Text := Text.ofLines [
  "",
  "def __ee_extra_isArray(array):",
  "    vars_name = varName(array)",
  "    if isinstance(array, list):",
  "        return True",
  "    return False",
  ""]

def join : Text :=
  onType "_join" "array" ", separator=\",\"" "list"
    ["        newarray = [str(element) for element in array]",
    "        return separator.join(newarray)"]
    "\"%s.join(%s)\" % (vars_name, separator))"

def map : Text :=
  withFunction "map" ["        return list(map(function, array))"]

def push : Text :=
  onType "_push" "array" ", *args" "list"
    ["        exec(\"global %s\" % vars_name)",
    "        exec(\"%s.extend(%s)\" % (vars_name, args))",
    "        return len(array)"]
    "\"%s.push(%s)\" % (vars_name, *args))"

def reduce : Text :=
  withFunction "reduce" ["        import functools", "        return functools.reduce(function, array)"]

def reduceRight : Text :=
  withFunction "reduceRight" ["        import functools", "        return functools.reduce(function, array[::-1])"]

def shift : Text :=
  onType "_shift" "array" "" "list"
    ["        exec(\"global %s\" % vars_name)",
    "        toreturn = array[0]",
    "        del array[0]",
    "        return toreturn"]
    "\"%s.shift()\" % (vars_name))"

def some : Text :=
  withFunction "some" ["        return any(list(map(function, array)))"]

def splice : Text := Text.ofLines [
  "",
  "def __ee_extra_splice(array, index=None, howmany=None, *args):",
  "    vars_name = varName(array)",
  "    if index is None:",
  "        index = 0",
  "    if howmany is None:",
  "        howmany = len(array)",
  "                    ",
  "    if isinstance(array, list):",
  "        exec(\"global %s\" % vars_name)",
  "        to_return = array[index:index+howmany]",
  "        if len(args) == 0:",
  "            for to_remove in range(howmany):",
  "                exec(\"del %s[%s]\" % (vars_name, index))",
  "            return to_return",
  "        else:",
  "            for to_remove in range(howmany):",
  "                exec(\"del %s[%s]\" % (vars_name, index))",
  "            for to_add in args[::-1]:",
  "                try:",
  "                    exec(\"%s.insert(%s, %s)\" % (vars_name, index, to_add))",
  "                except:",
  "                    exec(\"%s.insert(%s, '%s')\" % (vars_name, index, to_add))",
  "            return to_return",
  "    args = [str(arg)for arg in args]",
  "    return eval(\"%s.splice(%s, %s, %s)\" % (vars_name, index, howmany, \", \".join(args)))    ",
  ""]

def unshift : Text :=
  onType "_unshift" "array" ", *args" "list"
    ["        if vars_name is not None:",
    "            exec(\"global %s\" % vars_name)",
    "            for arg in args[::-1]:",
    "                try:",
    "                    exec(\"%s.insert(0, %s)\" % (vars_name, arg))",
    "                except:",
    "                    exec(\"%s.insert(0, '%s')\" % (vars_name, arg))",
    "            return len(array)",
    "        else:",
    "            return len(args) + len(array)",
    "    args = [str(arg)for arg in args]        "]
    "\"%s.unshift(%s)\" % (vars_name, \", \".join(args)))"

def valueOf : Text :=
  onType "_valueOf" "array" "" "list" ["        return array"]
    "\"%s.valueOf()\" % (vars_name))"

def parseInt : Text :=
  onType "func_parseInt" "string" ", radix=10" "str" ["        return int(string, radix)"]
    "\"%s.parseInt(%s)\" % (vars_name, radix))"

def parseFloat : Text :=
  onType "func_parseFloat" "string" "" "str"
    ["        condition = r\"([0-9]+)([a-zA-Z]+)\"",
    "        if regex.search(condition, string):",
    "            string = regex.match(condition, string).group(1)",
    "        return float(string)"]
    "\"parseInt(%s)\" % (vars_name))"

def number : Text :=
  onType "func_Number" "string" "" "str" ["        return int(string)"]
    "\"Number(%s)\" % (vars_name))"

def string : Text := Text.ofLines [
  "",
  "def __ee_extrafunc_String(string):",
  "    return str(string)",
  ""]

end Geoscript.Script.Definition
