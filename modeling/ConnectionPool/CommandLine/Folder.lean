import ConnectionPool.PoolError

/-!
# Folders

The files that a program sees which runs in a folder of files without subfolders. A path is followed
name by name, from that folder or from the root of the system. It may leave the folder upwards; of
the folders outside only those are known that every system has, and they hold no files except for
the null device, which is empty and takes what is written to it.
-/

set_option autoImplicit false

namespace ConnectionPool.CommandLine

/-- Files by name. A file outside the folder goes by its path. -/
abbrev Folder := List (String × ByteArray)

/-- A folder on the way of a path. -/
inductive Place where
  /-- The folder that is so many levels above the folder of files. -/
  | above (levels : Nat)
  /-- The folder with this path from the root. -/
  | below (names : List String)
deriving DecidableEq, Repr

namespace Place

/-- The folder around this one; the root is its own. -/
def around : Place → Place
  | above levels => above (levels + 1)
  | below names => below names.dropLast

/-- The path of a file in the folder. -/
def path (p : Place) (name : String) : String :=
  match p with
  | above levels => String.join (List.replicate levels "../") ++ name
  | below names => String.join (names.map ("/" ++ ·)) ++ "/" ++ name

/-- Folders that every system has at its root. -/
def standard : List String :=
  ["bin", "dev", "etc", "home", "lib", "mnt", "opt", "proc", "root", "run", "sbin", "sys", "tmp",
    "usr", "var"]

/-- The folder of this name in the folder. -/
def folder? (p : Place) (name : String) : Option Place :=
  if p = below [] ∧ standard.contains name then some (below [name]) else none

end Place

/-- What a path leads to. -/
inductive Target where
  | folder (p : Place)
  /-- A file, or nothing so far, of this path. -/
  | file (path : String)
  | beyond (e : FileError)
deriving DecidableEq, Repr

namespace Folder

/-- The longest name that a file may have, in bytes. -/
def longestName : Nat := 255

/-- The longest path that a file may be asked for by, in bytes. -/
def longestPath : Nat := 4095

def nameTooLong : FileError := .other "File name too long (os error 36)"

def nullDevice : String := "/dev/null"

/-- The contents of the file of this path, if there is one. -/
def contents? (f : Folder) (path : String) : Option ByteArray :=
  if path == nullDevice then some ByteArray.empty else f.lookup path

/-- Follow the parts of a path from a folder. Only a folder can be followed further, also if nothing
but a slash comes after it. -/
def follow (f : Folder) (p : Place) : List String → Target
  | [] => .folder p
  | name :: rest =>
      if name == "" || name == "." then f.follow p rest
      else if name == ".." then f.follow p.around rest
      else if longestName < name.utf8ByteSize then .beyond nameTooLong
      else
        match p.folder? name with
        | some q => f.follow q rest
        | none =>
            if rest.isEmpty then .file (p.path name)
            else if (f.contents? (p.path name)).isSome then .beyond .notDirectory
            else .beyond .notFound

/-- What a path leads to. -/
def resolve (f : Folder) (path : String) : Target :=
  if longestPath < path.utf8ByteSize then .beyond nameTooLong
  else f.follow (if path.startsWith "/" then .below [] else .above 0) (path.splitOn "/")

def read (f : Folder) (path : String) : Except FileError ByteArray :=
  match f.resolve path with
  | .folder _ => .error .isDirectory
  | .beyond e => .error e
  | .file path =>
      match f.contents? path with
      | none => .error .notFound
      | some bytes => .ok bytes

/-- What a path leads to if the file may have to be made. A name with a slash after it can only be
that of a folder, and is not looked up. -/
def resolveToWrite (f : Folder) (path : String) : Target :=
  let parts := (path.splitOn "/").reverse
  match parts, parts.dropWhile (· == "") with
  | "" :: _, name :: before =>
      if name == "." || name == ".." || longestPath < path.utf8ByteSize then f.resolve path
      else f.resolve ("/".intercalate ("" :: before).reverse)
  | _, _ => f.resolve path

/-- Write a file, which is made if it is not there. -/
def write (f : Folder) (path : String) (bytes : ByteArray) : Except FileError Folder :=
  match f.resolveToWrite path with
  | .folder _ => .error .isDirectory
  | .beyond e => .error e
  | .file path =>
      .ok (if path == nullDevice then f else (path, bytes) :: f.filter (·.1 != path))

end Folder

end ConnectionPool.CommandLine
