import BearerAuth.Http.Escape
import BearerAuth.Text.Pieces

/-!
# Paths of URLs

A path is segments between slashes. A segment of one dot stays where it is, and one of two
dots goes one segment up; both may be written with percent signs. There is nothing above the
root, and nothing above a drive, which is a letter with a colon or a bar.
-/
namespace BearerAuth.Http

open Text

def isAlpha (c : Char) : Bool := ('a' ≤ c && c ≤ 'z') || ('A' ≤ c && c ≤ 'Z')

def isSingleDot (segment : List Char) : Bool :=
  [".", "%2e"].any fun dots => segment.map Char.toLower == dots.toList

def isDoubleDot (segment : List Char) : Bool :=
  ["..", ".%2e", "%2e.", "%2e%2e"].any fun dots => segment.map Char.toLower == dots.toList

/-- A backslash that parts no segments may still part a drive from what follows. -/
def isDrive (segment : List Char) : Bool :=
  match segment with
  | letter :: mark :: rest =>
    isAlpha letter && (mark = ':' || mark = '|') && rest.head?.all (· = '\\')
  | _ => false

/-- Leave the last segment, from the segments so far, last first. -/
def stepUp : List (List Char) → List (List Char)
  | [] => []
  | last :: done => if isDrive last then last :: done else done

/-- Among files, a drive in the first place is written with a colon. -/
def placed (ofFiles : Bool) (done : List (List Char)) (segment : List Char) : List Char :=
  if ofFiles && done.isEmpty && isDrive segment then segment.take 1 ++ [':'] else segment

/-- Resolve dots, from the segments so far, last first. A path that ends with dots ends with
a slash. -/
def resolve (ofFiles : Bool) : List (List Char) → List (List Char) → List (List Char)
  | [], done => done.reverse
  | segment :: rest, done =>
    if isDoubleDot segment then
      resolve ofFiles rest (if rest.isEmpty then [] :: stepUp done else stepUp done)
    else if isSingleDot segment then
      resolve ofFiles rest (if rest.isEmpty then [] :: done else done)
    else resolve ofFiles rest (placed ofFiles done segment :: done)

/-- The segments of a path with its dots resolved. One slash in front of it counts for
nothing. -/
def segments (ofFiles : Bool) (isSlash : Char → Bool) (path : List Char) : List (List Char) :=
  let relative := match path with
    | c :: rest => if isSlash c then rest else path
    | [] => []
  resolve ofFiles (pieces isSlash relative) []

/-- A slash before each segment. -/
def pathText (segments : List (List Char)) : List Char :=
  segments.flatMap fun segment => '/' :: escape pathSpecials segment

end BearerAuth.Http
