import Geoscript.Catalog.Basic
import Geoscript.Catalog.Rows

/-! Reads the rows of the tables. A row opens with the name of an entry; its other parts start with a mark that says
what they give. -/

namespace Geoscript.Catalog

/-- An entry of a table: its head, and the mark and the text of each other part. -/
structure Entry where
  head : Text
  parts : List (Char × Text)

def readEntry (row : Text) : Entry :=
  let pieces := Text.fields '$' row
  ⟨pieces.headD [], pieces.tail.filterMap fun piece => piece.head?.map fun mark => (mark, piece.drop 1)⟩

/-- The name in full: `~` at its start stands for the name before up to the last of the given characters. -/
def inFull (ends before name : Text) : Text :=
  match name with
  | '~' :: rest => (before.reverse.dropWhile fun c => !ends.contains c).reverse ++ rest
  | _ => name

def allInFull (ends : Text) : Text → List Text → List Text
  | _, [] => []
  | before, name :: rest => inFull ends before name :: allInFull ends (inFull ends before name) rest

def Entry.name (e : Entry) : Text :=
  (Text.fields ' ' e.head).headD []

def Entry.with (e : Entry) (mark : Char) : List (Char × Text) :=
  e.parts.filter (·.1 == mark)

/-- The parts with a mark of the entry with a name, or of the nearest one that has such parts if no name is given. -/
def listed (earlier : List Entry) (mark : Char) (name : Text) : List (Char × Text) :=
  match earlier.find? fun e => if name.isEmpty then !(e.with mark).isEmpty else e.name = name with
  | some e => e.with mark
  | none => []

def readPlace (digits : Text) : Nat :=
  digits.foldl (fun n c => 10 * n + (c.toNat - 48)) 0

/-- The parts of an entry that are repeated, or those at the places given of the nearest one. -/
def repeated (earlier : List Entry) (mark : Char) (text : Text) : List (Char × Text) :=
  if text.head?.any Char.isDigit then
    let places := (Text.fields '-' text).map readPlace
    let first := places.headD 0
    ((listed earlier mark []).take (places.getLastD first)).drop (first - 1)
  else listed earlier mark (text.dropWhile (· == ' '))

def partsFor (earlier : List Entry) : Char × Text → List (Char × Text)
  | ('^', text) => repeated earlier '>' text
  | ('&', text) => repeated earlier '|' text
  | part => [part]

/-- The entries with what their parts stand for. The earlier entries are given, the nearest first. -/
def withRepeats : List Entry → List Entry → List Entry
  | _, [] => []
  | earlier, e :: rest =>
    let parts := e.parts.flatMap (partsFor earlier)
    ⟨e.head, parts⟩ :: withRepeats (⟨e.head, parts⟩ :: earlier) rest

/-- The entries of a table, a row on a line. -/
def entriesOf (rows : String) : List Entry :=
  let entries := (Text.lines rows.toList).map readEntry
  withRepeats [] (entries.zipWith (fun e head => ⟨head, e.parts⟩) (allInFull ['/', '_'] [] (entries.map (·.head))))

def Entry.marked (e : Entry) (mark : Char) : List Text :=
  (e.with mark).map (·.2)

def Entry.words (e : Entry) : List Text :=
  (e.marked '|').flatMap fun line => (Text.fields ' ' line).filter (!·.isEmpty)

def linkAddress (text : Text) : Text :=
  if "doi:".toList.isPrefixOf text then "https://doi.org/".toList ++ text.drop 4 else text

/-- The pieces of a line that ends each piece but the last with a link, with the addresses of the links. -/
def joinLinks : List Text → Text
  | [] => []
  | [piece] => piece
  | piece :: rest =>
    let text := (piece.reverse.takeWhile (· != '[')).reverse
    piece ++ "](" ++ linkAddress text ++ ')' :: joinLinks rest

def withAddresses (line : Text) : Text :=
  joinLinks (Text.splitOn "]()" line)

/-! ### Datasets -/

/-- The folder of a description: the first part of the name, and for the datasets of projects the
project. -/
def descriptionFolder (id : Text) : Text :=
  match Text.fields '/' id with
  | first :: second :: _ => if first = "projects" then second else first
  | first :: _ => first
  | [] => []

def descriptionAddress (id : Text) : Text :=
  "https://storage.googleapis.com/earthengine-stac/catalog/" ++ descriptionFolder id ++
    '/' :: id.map (fun c => if c = '/' then '_' else c) ++ ".json"

/-- The text of the first part with a mark, without the blank after the mark. -/
def Entry.note? (e : Entry) (mark : Char) : Option String :=
  (e.marked mark).head?.map fun line => String.ofList (line.drop 1)

def readKind (word : Text) : DatasetKind :=
  if word = "image" then .image else .collection

def readDataset (e : Entry) : Dataset :=
  { id := String.ofList e.name
    kind := readKind (e.head.drop (e.name.length + 1))
    address := String.ofList (descriptionAddress e.name)
    citation :=
      match e.marked '>' with
      | [] => "Citation not available"
      | lines => String.ofList (Text.unlines (lines.map withAddresses))
    doi := (e.note? '=').getD "DOI not available" }

/-! ### Scales and offsets -/

/-- A number with a point or an exponent is a double, any other an integer. -/
def readNumber (t : Text) : Number :=
  match Numeral.read? t with
  | some (.finite negative mantissa exponent) =>
    if t.any fun c => c == '.' || c == 'e' then .double (Double.ofDecimal negative mantissa exponent)
    else .int (if negative then -(mantissa : Int) else mantissa)
  | _ => .int 0

def readBand (t : Text) : ScaledBand :=
  let zero : Number := .double (Double.ofDecimal false 0 0)
  match Text.fields '*' t with
  | name :: factors :: _ =>
    match Text.fields '+' factors with
    | scale :: offset :: _ => ⟨String.ofList name, readNumber scale, readNumber offset⟩
    | _ => ⟨String.ofList name, readNumber factors, zero⟩
  | _ => ⟨String.ofList t, .double (Double.ofDecimal false 1 0), zero⟩

/-- The bands with the scale and the offset of the band before where `*` stands alone. -/
def withFactors : Text → List Text → List Text
  | _, [] => []
  | before, band :: rest =>
    let band := if band.getLast? = some '*' then band.dropLast ++ before.dropWhile (· != '*') else band
    band :: withFactors band rest

def readScaling (e : Entry) : Scaling :=
  ⟨String.ofList e.name, (withFactors [] (allInFull ['/', '_'] [] e.words)).map readBand⟩

/-! ### Spectral indices -/

def fieldName (part : Text) : Text :=
  (part.drop 1).takeWhile (· != ' ')

/-- The entries with the fields that they take from the one before, whose parts are given: all but the short name. -/
def withFields : List (Char × Text) → List Entry → List Entry
  | _, [] => []
  | before, e :: rest =>
    let given := "short".toList :: e.parts.map fun part => fieldName part.2
    let parts := e.parts ++ before.filter fun part => !given.contains (fieldName part.2)
    ⟨e.head, parts⟩ :: withFields parts rest

/-- The text of a field: what follows the name of the field and a blank. -/
def Entry.field? (e : Entry) (name : String) : Option String :=
  (e.marked '|').findSome? fun line =>
    let word := ' ' :: name.toList
    if line = word then some ""
    else if (word ++ [' ']).isPrefixOf line then some (String.ofList (line.drop (word.length + 1)))
    else none

def Entry.field (e : Entry) (name : String) : String :=
  (e.field? name).getD ""

def Entry.fieldList (e : Entry) (name : String) : List String :=
  match e.field name with
  | "" => []
  | s => s.splitOn ", "

def platformWords : List (String × String) := [
  ("S2", "Sentinel-2"), ("OLI", "Landsat-OLI"), ("TM", "Landsat-TM"), ("ETM", "Landsat-ETM+"), ("M", "MODIS"),
  ("PF", "Planet-Fusion")]

def readIndex (e : Entry) : SpectralIndex :=
  let name := String.ofList e.head
  { name := name
    shortName := (e.field? "short").getD name
    longName := e.field "name"
    domain := e.field "domain"
    bands := e.fieldList "bands"
    formula := e.field "formula"
    platforms := (e.fieldList "on").map fun word => (platformWords.lookup word).getD word
    reference := String.ofList (linkAddress (e.field "from").toList)
    contributor := e.field "by"
    added := e.field "added" }

/-! ### Applications -/

def applicationAddress (owner word : Text) : String :=
  if Text.has "://" word then String.ofList word
  else
    String.ofList ("https://" ++ owner ++ ".users.earthengine.app/view/" ++ word)

def readApplications (e : Entry) : Applications :=
  let words := (Text.fields ' ' e.head).drop 1
  ⟨String.ofList e.name, (allInFull ['-'] [] words).map (applicationAddress e.name)⟩

/-! ### All tables -/

def datasetEntries : List Entry :=
  entriesOf datasetRows

def builtin : Catalog where
  datasets := datasetEntries.map readDataset
  scalings := (datasetEntries.filter fun e => !(e.with '|').isEmpty).map readScaling
  indices := (withFields [] (entriesOf indexRows)).map readIndex
  applications := (entriesOf applicationRows).map readApplications

end Geoscript.Catalog
