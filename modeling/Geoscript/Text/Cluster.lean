import Geoscript.Text.Basic
import Geoscript.Text.Category
import Geoscript.Text.Trait

/-! What a reader takes for one character may be several: a letter with its marks, a syllable spelled in parts, a
flag, a joined picture. -/

namespace Geoscript.Text

/-- How a character behaves at the edge of a cluster. -/
inductive ClusterRole where
  | return
  | feed
  | control
  | extending
  | joiner
  | regional
  | leader
  | spacing
  | initialConsonant
  | vowel
  | finalConsonant
  | openSyllable
  | closedSyllable
  | picture
  | other
  deriving Repr, DecidableEq

def leaders : Ranges := Ranges.read
  "600-5 DD 70F 890-1 E2 D4E 110BD CD 1C2-3 3D1 93F 41 A3A 84-9 D46 F02"

def freeSpacingMarks : Ranges := Ranges.read "
  102B-C 38 62-4 7-D 83 7-C F 9A-C A61 3-4 AA7B D 11720-1"

def pictures : Ranges := traitNamed "Extended_Pictographic"

def ignorables : Ranges := traitNamed "Default_Ignorable_Code_Point"

def isExtending (n : Nat) : Bool :=
  hasCategory "Mn" n || hasCategory "Me" n || otherGraphemeExtend.has n ||
    (0x1F3FB ≤ n && n ≤ 0x1F3FF)

def isControlling (n : Nat) : Bool :=
  hasCategory "Cc" n || hasCategory "Zl" n || hasCategory "Zp" n || hasCategory "Cf" n ||
    (ignorables.has n && !isAssigned n)

def clusterRole (n : Nat) : ClusterRole :=
  if n = 13 then .return
  else if n = 10 then .feed
  else if 32 ≤ n && n < 127 then .other
  else if n = 0x200D then .joiner
  else if isExtending n then .extending
  else if 0x1F1E6 ≤ n && n ≤ 0x1F1FF then .regional
  else if leaders.has n then .leader
  else if isControlling n then .control
  else if n = 0xE33 || n = 0xEB3 then .spacing
  else if hasCategory "Mc" n && !freeSpacingMarks.has n then .spacing
  else if (0x1100 ≤ n && n ≤ 0x115F) || (0xA960 ≤ n && n ≤ 0xA97C) then .initialConsonant
  else if (0x1160 ≤ n && n ≤ 0x11A7) || (0xD7B0 ≤ n && n ≤ 0xD7C6) then .vowel
  else if (0x11A8 ≤ n && n ≤ 0x11FF) || (0xD7CB ≤ n && n ≤ 0xD7FB) then .finalConsonant
  else if 0xAC00 ≤ n && n ≤ 0xD7A3 then
    if (n - 0xAC00) % 28 = 0 then .openSyllable else .closedSyllable
  else if pictures.has n then .picture
  else .other

/-- Whether a picture and what extends it end the characters given, nearest first. -/
def endsWithPicture : Text → Bool
  | [] => false
  | c :: rest =>
    match clusterRole c.toNat with
    | .extending => endsWithPicture rest
    | .picture => true
    | _ => false

/-- How many regional characters end the characters given, nearest first. -/
def regionalCount (before : Text) : Nat :=
  (before.takeWhile fun c => clusterRole c.toNat == .regional).length

/-- Whether two characters that meet belong to one cluster. `earlier` holds the characters before the
first of them, nearest first. -/
def joinsCluster (earlier : Text) (left right : ClusterRole) : Bool :=
  match left, right with
  | .return, .feed => true
  | .return, _ | .feed, _ | .control, _ => false
  | _, .return | _, .feed | _, .control => false
  | _, .extending | _, .joiner | _, .spacing => true
  | .leader, _ => true
  | .initialConsonant, .initialConsonant | .initialConsonant, .vowel => true
  | .initialConsonant, .openSyllable | .initialConsonant, .closedSyllable => true
  | .openSyllable, .vowel | .openSyllable, .finalConsonant => true
  | .vowel, .vowel | .vowel, .finalConsonant => true
  | .closedSyllable, .finalConsonant | .finalConsonant, .finalConsonant => true
  | .joiner, .picture => endsWithPicture earlier
  | .regional, .regional => regionalCount earlier % 2 == 0
  | _, _ => false

/-- Whether a cluster ends between the characters before, nearest first, and those after. -/
def atClusterEdge : Text → Text → Bool
  | [], [] => false
  | [], _ => true
  | _, [] => true
  | l :: earlier, r :: _ => !joinsCluster earlier (clusterRole l.toNat) (clusterRole r.toNat)

end Geoscript.Text
