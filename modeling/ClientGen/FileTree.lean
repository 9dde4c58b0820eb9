import ClientGen.DescriptorPath

namespace ClientGen

/-- Why a file cannot be read. -/
structure ReadFault where
  code : Nat
  text : String
  deriving DecidableEq

namespace ReadFault

def missing : ReadFault :=
  ⟨2, "No such file or directory"⟩

def notDirectory : ReadFault :=
  ⟨20, "Not a directory"⟩

def isDirectory : ReadFault :=
  ⟨21, "Is a directory"⟩

def nameTooLong : ReadFault :=
  ⟨36, "File name too long"⟩

end ReadFault

/-- A file or a directory. -/
inductive FileTree where
  | file (bytes : List UInt8)
  | directory (entries : List (String × FileTree))

namespace FileTree

def child? (name : String) : FileTree → Option FileTree
  | .file _ => none
  | .directory entries => entries.lookup name

/-- Puts a tree where a path leads, with the directories on the way. -/
def put (leaf : FileTree) : List String → FileTree → FileTree
  | [], _ => leaf
  | name :: rest, t =>
    let entries :=
      match t with
      | .file _ => []
      | .directory entries => entries
    .directory ((name, put leaf rest ((t.child? name).getD (.directory [])))
      :: entries.filter fun e => e.1 != name)

/-- The most bytes that a name may have, and a path. -/
def maxNameSize : Nat :=
  255

def maxPathSize : Nat :=
  4095

/-- Follows segments from a directory, whose ancestors are given, nearest first. Above those that
are known there are more, with nothing in them. -/
def follow : (ancestors : List FileTree) → FileTree → List String → Except ReadFault (List UInt8)
  | _, .file bytes, [] => .ok bytes
  | _, .directory _, [] => .error .isDirectory
  | _, .file _, _ :: _ => .error .notDirectory
  | ancestors, t@(.directory _), name :: rest =>
    if name == ".." then
      match ancestors with
      | [] => follow [] (.directory []) rest
      | parent :: above => follow above parent rest
    else if Nat.blt maxNameSize name.utf8ByteSize then .error .nameTooLong
    else
      match t.child? name with
      | none => .error .missing
      | some t' => follow (t :: ancestors) t' rest

/-- The directories that every system has, and the file that is always empty. -/
def system : FileTree :=
  .directory ((["bin", "etc", "home", "lib", "proc", "root", "sys", "tmp", "usr", "var"].map
    fun name => (name, .directory [])) ++ [("dev", .directory [("null", .file [])])])

def read (t : FileTree) (p : DescriptorPath) : Except ReadFault (List UInt8) :=
  if Nat.blt maxPathSize p.toString.utf8ByteSize then .error .nameTooLong
  else if p.root == "" then follow [] t p.segments
  else follow [] system p.segments

end FileTree

end ClientGen
