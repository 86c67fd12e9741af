import Geoscript.Value.Basic

/-! What is known of datasets, the scales and offsets of their bands, spectral indices and published applications.
Each table has a view as a value, in its order. -/

namespace Geoscript

/-- Whether a dataset is one image, a collection of images or something else, such as a table. -/
inductive DatasetKind where
  | image
  | collection
  | other (name : String)
  deriving Repr, DecidableEq

structure Dataset where
  id : String
  kind : DatasetKind
  address : String
  citation : String
  doi : String
  deriving Repr, DecidableEq

/-- A band with the scale and the offset that turn its values into physical ones. -/
structure ScaledBand where
  name : String
  scale : Number
  offset : Number
  deriving Repr, DecidableEq

structure Scaling where
  id : String
  bands : List ScaledBand
  deriving Repr, DecidableEq

structure SpectralIndex where
  name : String
  shortName : String
  longName : String
  domain : String
  bands : List String
  formula : String
  platforms : List String
  reference : String
  contributor : String
  added : String
  deriving Repr, DecidableEq

/-- The applications that one owner has published. -/
structure Applications where
  owner : String
  addresses : List String
  deriving Repr, DecidableEq

structure Catalog where
  datasets : List Dataset
  scalings : List Scaling
  indices : List SpectralIndex
  applications : List Applications
  deriving Repr, DecidableEq

namespace Catalog

def ofTexts (ts : List String) : Value :=
  .list (ts.map Value.str)

def kindName : DatasetKind → String
  | .image => "image"
  | .collection => "image_collection"
  | .other name => name

def datasetView (d : Dataset) : Value :=
  .dict [("gee:type", .str (kindName d.kind)), ("href", .str d.address),
    ("sci:citation", .str d.citation), ("sci:doi", .str d.doi)]

def scaleView (s : Scaling) : Value :=
  .dict (s.bands.map fun b => (b.name, .ofNumber b.scale))

def offsetView (s : Scaling) : Value :=
  .dict (s.bands.map fun b => (b.name, .ofNumber b.offset))

def indexView (i : SpectralIndex) : Value :=
  .dict [("application_domain", .str i.domain), ("bands", ofTexts i.bands),
    ("contributor", .str i.contributor), ("date_of_addition", .str i.added),
    ("formula", .str i.formula), ("long_name", .str i.longName),
    ("platforms", ofTexts i.platforms), ("reference", .str i.reference),
    ("short_name", .str i.shortName)]

inductive Table where
  | datasets
  | scales
  | offsets
  | indices
  | applications
  deriving Repr, DecidableEq

def view (c : Catalog) : Table → Value
  | .datasets => .dict (c.datasets.map fun d => (d.id, datasetView d))
  | .scales => .dict (c.scalings.map fun s => (s.id, scaleView s))
  | .offsets => .dict (c.scalings.map fun s => (s.id, offsetView s))
  | .indices =>
    .dict [("SpectralIndices", .dict (c.indices.map fun i => (i.name, indexView i)))]
  | .applications => .dict (c.applications.map fun a => (a.owner, ofTexts a.addresses))

def dataset? (c : Catalog) (id : String) : Option Dataset :=
  c.datasets.find? (·.id = id)

def scaling? (c : Catalog) (id : String) : Option Scaling :=
  c.scalings.find? (·.id = id)

end Catalog

end Geoscript
