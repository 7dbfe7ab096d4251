/-
Paths of files.

A path is a list of segments, absolute or relative.  Empty segments and single points
say nothing and are dropped; two points are kept, since what they lead to depends on
links.  Exactly two slashes at the front are an anchor of their own.
-/
import FindingLedger.Text.Blank

namespace FindingLedger

/-- Where a path starts. -/
inductive Anchor
  | here | root | doubleRoot
deriving DecidableEq, Repr

/-- A path. -/
structure Path where
  anchor : Anchor
  segments : List String
deriving DecidableEq, Repr

namespace Path

/-- Split a text at every slash; `done` holds the characters of the segment at hand,
last first. -/
def splitSlashes (done : List Char) : List Char → List (List Char)
  | [] => [done.reverse]
  | c :: rest =>
    if c == '/' then done.reverse :: splitSlashes [] rest else splitSlashes (c :: done) rest

/-- The pieces of a text between slashes, without the empty ones. -/
def pieces (s : String) : List String :=
  ((splitSlashes [] s.toList).filter fun p => !p.isEmpty).map String.ofList

/-- The anchor that a text starts with. -/
def anchorOf : List Char → Anchor
  | '/' :: '/' :: '/' :: _ => .root
  | '/' :: '/' :: _ => .doubleRoot
  | '/' :: _ => .root
  | _ => .here

def ofString (s : String) : Path :=
  ⟨anchorOf s.toList, (pieces s).filter (· != ".")⟩

def anchorText : Anchor → String
  | .here => ""
  | .root => "/"
  | .doubleRoot => "//"

/-- The text of a path; a point for one that leads nowhere else. -/
def text (p : Path) : String :=
  if p.anchor == .here && p.segments.isEmpty then "."
  else anchorText p.anchor ++ "/".intercalate p.segments

/-- Whether a path starts at the root. -/
def isAbsolute (p : Path) : Bool := p.anchor != .here

/-- The path without its last segment. -/
def parent (p : Path) : Path := { p with segments := p.segments.dropLast }

/-- The last segment; empty if there is none. -/
def name (p : Path) : String := p.segments.getLast?.getD ""

/-- The last point of the name and what follows it, unless it is the first or the last
character; else nothing. -/
def suffix (p : Path) : String :=
  let cs := p.name.toList
  let tail := cs.reverse.takeWhile (· != '.')
  if tail.isEmpty || cs.length ≤ tail.length + 1 then ""
  else String.ofList ('.' :: tail.reverse)

/-- Go on from one path along another; an absolute one leads away. -/
def join (p q : Path) : Path :=
  if q.isAbsolute then q else { p with segments := p.segments ++ q.segments }

/-- Resolve points without regard to links: two points take the segment before them
away, if there is one.  `done` holds the segments so far, last first. -/
def resolveFrom (done : List String) : List String → List String
  | [] => done.reverse
  | s :: rest =>
    if s == "." then resolveFrom done rest
    else if s == ".." then resolveFrom done.tail rest
    else resolveFrom (s :: done) rest

/-- The segments of an absolute path with its points resolved. -/
def resolved (segments : List String) : List String :=
  resolveFrom [] segments

/-- The number of segments that two lists start with in common. -/
def commonLength : List String → List String → Nat
  | s :: xs, t :: ys => if s == t then commonLength xs ys + 1 else 0
  | _, _ => 0

/-- The segments that lead from one place to another, both given from the root: up to
where they part, and down from there. -/
def route (start target : List String) : List String :=
  let n := commonLength start target
  List.replicate (start.length - n) ".." ++ target.drop n

/-- The text of a path as seen from a working directory.  A relative path is left as it
is. -/
def relativeRoute (cwd : Path) (p : Path) : String :=
  if p.isAbsolute then text ⟨.here, route (resolved cwd.segments) (resolved p.segments)⟩
  else p.text

end Path

end FindingLedger
