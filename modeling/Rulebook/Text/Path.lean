/-!
# Paths

A path leads over directories to a name. Empty parts and single points in it do not count.

* `Path.text`: a path as it is written out.
* `Path.suffix`: what its name ends in.
-/

namespace Rulebook

namespace Path

/-- What is between the slashes of a path. -/
def pieces : List Char → List (List Char)
  | [] => [[]]
  | '/' :: cs => [] :: pieces cs
  | c :: cs =>
    match pieces cs with
    | [] => [[c]]
    | first :: others => (c :: first) :: others

/-- The parts of a path. -/
def parts (path : String) : List (List Char) :=
  (pieces path.toList).filter fun part => !part.isEmpty && part != ['.']

/-- The slashes that a path starts with: two are told from one, and more are one. -/
def root (path : String) : String :=
  match (path.toList.takeWhile (· == '/')).length with
  | 0 => ""
  | 2 => "//"
  | _ => "/"

/-- A path as it is written out. -/
def text (path : String) : String :=
  let written := root path ++ "/".intercalate ((parts path).map String.ofList)
  if written.isEmpty then "." else written

/-- The last part of a path. -/
def name (path : String) : List Char := ((parts path).getLast?).getD []

/-- The name of a path from its last point on. A point at the start or the end of the name does not
count. -/
def suffix (path : String) : String :=
  let cs := name path
  let behind := (cs.reverse.takeWhile (· != '.')).reverse
  let before := cs.length - behind.length - 1
  if behind.length < cs.length ∧ 0 < before ∧ !behind.isEmpty then String.ofList ('.' :: behind)
  else ""

end Path

end Rulebook
