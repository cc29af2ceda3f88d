import LedgerTrust.Text.Parts
import LedgerTrust.Url.Scheme

/-!
# Paths

A path is a list of segments, each after a slash, or a text without a root. A segment of one
point stands for nothing, and one of two points for the segment before it, which it removes. In
the path of a file a segment may name a drive, which is never removed.
-/

namespace LedgerTrust.Url

/-- The path of a URL. -/
inductive Path where
  /-- A path that does not start at a root and has no segments. -/
  | rootless (text : String)
  /-- The segments of a path, each after a slash. -/
  | segments (list : List String)
  deriving DecidableEq, Repr

namespace Path

def text : Path → String
  | .rootless t => t
  | .segments l => String.join (l.map ("/" ++ ·))

/-- The segments of a path; none if it has no root. -/
def held : Path → List String
  | .segments l => l
  | .rootless _ => []

end Path

/-! ### Segments -/

/-- A segment that stands for the segment before it. -/
def isParent (t : String) : Bool :=
  let t := t.toLower
  t == ".." || t == ".%2e" || t == "%2e." || t == "%2e%2e"

/-- A segment that stands for nothing. -/
def isCurrent (t : String) : Bool :=
  let t := t.toLower
  t == "." || t == "%2e"

/-- The letter of the drive that a text names, which is the letter and a colon or a bar. -/
def driveLetter? : List Char → Option Char
  | [c, d] => if c.isAlpha && (d == ':' || d == '|') then some c else none
  | _ => none

/-- Whether a segment names a drive. -/
def isDrive (t : String) : Bool := (driveLetter? t.toList).isSome

namespace Kind

/-- A segment as it is held: the name of a drive is written with a colon. -/
def segment (k : Kind) (t : String) : String :=
  match k, driveLetter? t.toList with
  | .file, some c => String.ofList [c, ':']
  | _, _ => t

/-- The segments without the last one, unless it names a drive. -/
def shortened (k : Kind) (l : List String) : List String :=
  if k = .file ∧ l.getLast?.any isDrive then l else l.dropLast

/-- The segments after a further one, which is the last or not. -/
def addSegment (k : Kind) (l : List String) (t : String) (isLast : Bool) : List String :=
  let closed (l : List String) := if isLast then l ++ [""] else l
  if isParent t then closed (k.shortened l)
  else if isCurrent t then closed l
  else l ++ [k.segment t]

/-- The segments after those of a list, with dot segments resolved. -/
def addSegments (k : Kind) (l : List String) : List String → List String
  | [] => l
  | [t] => k.addSegment l t true
  | t :: r => k.addSegments (k.addSegment l t false) r

/-- The segments as they are written: those of a file do not start with empty ones. -/
def rooted (k : Kind) (l : List String) : List String :=
  match k, l.dropWhile (· = "") with
  | .file, [] => [""]
  | .file, l => l
  | _, _ => l

/-- The parts of the text of a path. -/
def parts (k : Kind) (t : List Char) : List String :=
  (Text.partsAt k.isSlash t).map fun s => String.ofList (percentEncode pathSet s)

/-- The segments after those of a text. -/
def resolve (k : Kind) (l : List String) (t : List Char) : List String :=
  k.rooted (k.addSegments l (k.parts t))

/-- The segments of a path that stands after an authority. -/
def segments (k : Kind) (t : List Char) : List String :=
  match t with
  | [] => if k.isSpecial then [""] else []
  | c :: r => k.resolve [] (if k.isSlash c then r else t)

end Kind

end LedgerTrust.Url
