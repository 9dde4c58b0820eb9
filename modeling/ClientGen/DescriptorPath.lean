namespace ClientGen

/-- A path: the slashes it begins with, and its segments, none of which is empty or a single dot. -/
structure DescriptorPath where
  root : String
  segments : List String
  deriving DecidableEq

namespace DescriptorPath

/-- The slashes that a path keeps in front: two if there are exactly two, else one or none. -/
def rootOf (cs : List Char) : String :=
  match (cs.takeWhile (· == '/')).length with
  | 0 => ""
  | 2 => "//"
  | _ => "/"

def ofString (s : String) : DescriptorPath where
  root := rootOf s.toList
  segments := ((s.toList.splitOn '/').map String.ofList).filter fun part => part != "" && part != "."

def toString (p : DescriptorPath) : String :=
  if p.root == "" && p.segments.isEmpty then "." else p.root ++ "/".intercalate p.segments

/-- What the last segment ends with from its last dot on, unless it begins or ends there. -/
def suffix (p : DescriptorPath) : String :=
  let name := (p.segments.getLastD "").toList.reverse
  let behind := name.takeWhile (· != '.')
  let before := (name.dropWhile (· != '.')).drop 1
  if behind.isEmpty || before.isEmpty then "" else String.ofList ('.' :: behind.reverse)

def isYaml (p : DescriptorPath) : Bool :=
  p.suffix == ".yaml" || p.suffix == ".yml"

end DescriptorPath

end ClientGen
