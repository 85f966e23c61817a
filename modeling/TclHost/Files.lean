/-!
A tree of files below the current directory, and what reading one of them by a path comes to. Of
what lies outside the tree only the directories on the way up are known.
-/

namespace TclHost.Files

inductive Entry (α : Type) where
  | file (content : α)
  | directory
  deriving DecidableEq, Repr

inductive Problem where
  | notFound
  | notDirectory
  | isDirectory
  | nameTooLong
  | holdsNul
  deriving DecidableEq, Repr

def Problem.message : Problem → String
  | .notFound => "No such file or directory (os error 2)"
  | .notDirectory => "Not a directory (os error 20)"
  | .isDirectory => "Is a directory (os error 21)"
  | .nameTooLong => "File name too long (os error 36)"
  | .holdsNul => "file name contained an unexpected NUL byte"

/-- Entries with the names of the directories on the way to them. A prefix of such a way is a
directory itself. -/
abbrev Tree (α : Type) := List (List String × Entry α)

variable {α : Type}

def Tree.entry? (tree : Tree α) (way : List String) : Option (Entry α) :=
  if way.isEmpty then some .directory
  else
    match tree.lookup way with
    | some entry => some entry
    | none => if tree.any fun (other, _) => way.isPrefixOf other then some .directory else none

def names (path : String) : List String :=
  ((path.toList.splitOn '/').filter (!·.isEmpty)).map String.ofList

def isStep (name : String) : Bool :=
  name = "." || name = ".."

def nameLimit : Nat := 255

def outside (names : List String) : Problem :=
  match names.dropWhile isStep with
  | [] => .isDirectory
  | name :: _ => if name.utf8ByteSize > nameLimit then .nameTooLong else .notFound

def Tree.follow (tree : Tree α) (way : List String) : List String → Except Problem (Entry α)
  | [] => match tree.entry? way with
    | some entry => .ok entry
    | none => .error .notFound
  | name :: rest =>
      match tree.entry? way with
      | none => .error .notFound
      | some (.file _) => .error .notDirectory
      | some .directory =>
          if name = "." then tree.follow way rest
          else if name = ".." then
            if way.isEmpty then .error (outside rest) else tree.follow way.dropLast rest
          else if name.utf8ByteSize > nameLimit then .error .nameTooLong
          else tree.follow (way ++ [name]) rest

def Tree.read (tree : Tree α) (path : String) : Except Problem α :=
  if path.toList.contains '\x00' then .error .holdsNul
  else if path.isEmpty then .error .notFound
  else if path.utf8ByteSize ≥ 4096 then .error .nameTooLong
  else if path.startsWith "/" then .error (outside (names path))
  else
    match tree.follow [] (names path) with
    | .error problem => .error problem
    | .ok .directory => .error .isDirectory
    | .ok (.file content) => if path.endsWith "/" then .error .notDirectory else .ok content

def Tree.ofPaths (entries : List (String × Entry α)) : Tree α :=
  entries.map fun (path, entry) => ((names path).filter (· ≠ "."), entry)

end TclHost.Files
