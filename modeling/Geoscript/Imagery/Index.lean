import Geoscript.Imagery.Kernel
import Geoscript.Imagery.Scaling

/-! Bands computed by the formulas of spectral indices. An index that is not known, or whose letters the platform does
not have, is left out with a warning. -/

namespace Geoscript.Imagery

open Geoscript.Graph

def indicesAddress : String :=
  "https://raw.githubusercontent.com/awesome-spectral-indices/awesome-spectral-indices/main/" ++
    "output/spectral-indices-dict.json"

/-- The table of indices: the newest one, or the one of the catalogue. -/
def indexTable (online : Value) : Term := do
  let document ←
    if online.isTrue then fetchDocument indicesAddress
    else pure ((← read).catalog.view .indices)
  lift (document.part (.str "SpectralIndices"))

def indexNames (online : Value) : Term := do
  return Catalog.ofTexts ((← lift (← indexTable online).entries).map (·.1))

def applicationsAddress : String :=
  "https://raw.githubusercontent.com/samapriya/ee-appshot/main/app_urls.json"

/-- The table of applications: the newest one, or the one of the catalogue. -/
def applicationTable (online : Value) : Term := do
  if online.isTrue then fetchDocument applicationsAddress
  else return (← read).catalog.view .applications

def dropNull (entries : Entries) : Entries :=
  entries.filter (·.2 != .null)

structure IndexRequest where
  index : Value
  constants : Entries
  kernel : Value
  sigma : Value
  p : Value
  c : Value
  online : Value
  drop : Value

namespace IndexRequest

def isNegative (v : Value) : Bool :=
  match v.number? with
  | some n => n.lt (.int 0)
  | none => false

def check (r : IndexRequest) : Except Failure Unit := do
  if isNegative r.sigma then throw (.negativeSigma r.sigma.render)
  let refusal : Failure := .badKernelParameters r.p.render r.c.render
  if (← r.p.number).le (.int 0) then throw refusal
  if (← r.c.number).lt (.int 0) then throw refusal

def letters (r : IndexRequest) : Except Failure Entries :=
  r.constants.mapM fun (name, v) => do return (name, .float (← v.toDouble))

def domains : List String :=
  ["vegetation", "burn", "water", "snow", "urban", "soil", "kernel", "radar"]

/-- The indices that a request names: a list, all of them, all of a domain, or one. -/
def wanted (index : Value) (table : Entries) : Except Failure (List Value) :=
  match index with
  | .list items => .ok items
  | .str "all" => .ok (table.map fun (name, _) => .str name)
  | .str s =>
    if domains.contains s then do
      let found ← table.filterM fun (_, entry) => do
        return (← entry.part (.str "application_domain")) == .str s
      return found.map fun (name, _) => .str name
    else .ok [index]
  | v => .ok [v]

def hasLetters (entry : Value) (letters : Entries) : Except Failure Bool := do
  let bands ← (← entry.part (.str "bands")).items
  return bands.all fun band => (entryAt? letters band).isSome

def addIndex (r : IndexRequest) (platform name : String) (constants : Entries) (entry : Value)
    (img : Term) : Term := do
  let letters := Value.merge (← lettersFor img (.str platform)) constants
  let letters := dropNull (Value.merge letters (← kernelLetters img letters r.kernel r.sigma))
  if ← lift (hasLetters entry letters) then
    let formula ← lift (entry.part (.str "formula"))
    let band := img.call "expression" [formula, Value.dict letters]
    img.call "addBands" [band.call "rename" [name]]
  else
    warn ("This platform doesn't have the required bands for " ++ name ++ " computation!")
    img

def step (r : IndexRequest) (platform : String) (constants table : Entries) (x : Term)
    (index : Value) : Build Term := do
  match index.text?.bind fun name => (table.lookup name).map fun entry => (name, entry) with
  | some (name, entry) => (eachImage x (r.addIndex platform name constants entry) x).share
  | none =>
    warn ("Index " ++ index.render ++ " is not a built-in index and it won't be computed!")
    return x

end IndexRequest

def spectralIndices (r : IndexRequest) (x : Term) : Term := do
  let platform ← platform x
  lift r.check
  let constants ← lift r.letters
  let table ← lift (← indexTable r.online).entries
  let indices ← lift (IndexRequest.wanted r.index table)
  let result ← indices.foldlM (r.step platform.name constants table) x
  if r.drop.isTrue then result.call "select" [Value.list indices] else result

end Geoscript.Imagery
