import BatchFlow.Configuration.Loading

/-! Folders that hold nothing but files, and what paths in them lead to. -/

namespace BatchFlow

/-- The files of a folder by their names. -/
structure Folder where
  files : List (String × ByteArray)

namespace Folder

/-- The steps of a path, without those that lead nowhere. -/
def stepsOf (path : String) : List String :=
  (path.splitOn "/").filter fun part => part ≠ "" ∧ part ≠ "."

/-- Whether a path can only be that of a folder. -/
def endsInFolder (path : String) : Bool :=
  path.endsWith "/" || path.endsWith "/."

/-- What there is at a path that starts in the folder. A path that goes on behind a file, or that
ends like the path of a folder, does not open the file. The empty path leads nowhere, and above the
folder there are nothing but folders. -/
def contentAt (folder : Folder) (path : String) : FileContent :=
  if path = "" then .missing
  else match (stepsOf path).dropWhile (· == "..") with
    | [] => .directory
    | name :: rest =>
      match folder.files.find? (·.1 == name) with
      | none => .missing
      | some (_, content) =>
        if rest.isEmpty && !endsInFolder path then .bytes content else .blocked

end Folder

end BatchFlow
