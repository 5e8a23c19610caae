import ShaderVariants.Source
/-!
# A directory that outputs are written into

A run writes its outputs under one working directory, which is modelled by the files in it
(paths relative to it, cleaned) and the directories created in it. A path names a file, a
directory (the working directory itself, a created directory, or any prefix of a file or
directory), or nothing. A path that passes through a file names nothing.

Creating a directory creates its missing parents first, from the top, and fails on the first
ancestor that is a file (`mkdir PATH: not a directory`, with the path as written). Writing a
file fails when the path is a directory, when an ancestor is a file, and when an ancestor is
missing.
-/

namespace ShaderVariants

/-- Why a write into the directory failed. -/
inductive WriteFault where
  /-- A file stands where a directory had to be created. -/
  | blocked (path : Bytes)
  /-- A file could not be opened for writing. -/
  | unwritable (path : Bytes) (why : Refusal)
  deriving DecidableEq, Repr

/-- The text of a write fault. -/
def WriteFault.message : WriteFault → Bytes
  | .blocked p => Bytes.ofString "mkdir " ++ p ++ Bytes.ofString ": not a directory"
  | .unwritable p why => Bytes.ofString "open " ++ p ++ Bytes.ofString ": " ++ why.message

/-- The working directory of a run: its files and the directories created in it. -/
structure Disk where
  files : Table Bytes := []
  dirs : List Bytes := []
  deriving Repr

namespace Disk

/-- Whether `p` is a proper prefix of the path `q`, element-wise. -/
def isAncestor (p q : Bytes) : Bool := (p ++ [Path.sep]).isPrefixOf q

/-- What a path names. -/
def kind (d : Disk) (path : Bytes) : Loader.Entry :=
  let p := Path.clean path
  if p == [Path.dot] then .directory
  else match d.files.get? p with
    | some s => .file s
    | none =>
      if d.dirs.contains p || d.files.any (fun f => isAncestor p f.1) ||
          d.dirs.any (isAncestor p) then .directory
      else .absent

/-- The length of a path without trailing slashes and its last element: where its parent
ends, plus one. -/
def parentEnd (p : Bytes) : Nat :=
  let trimmed := (p.reverse.dropWhile (· == Path.sep)).reverse
  (trimmed.reverse.dropWhile (· != Path.sep)).length

/-- Create a directory and its missing parents. -/
def mkdirAll (d : Disk) (path : Bytes) : Except WriteFault Disk :=
  go d path (path.length + 1)
where
  go (d : Disk) (p : Bytes) : Nat → Except WriteFault Disk
    | 0 => .ok d
    | fuel + 1 =>
      match d.kind p with
      | .directory => .ok d
      | .file _ => .error (.blocked p)
      | .absent => do
        let j := parentEnd p
        let d ← if j > 1 then go d (p.take (j - 1)) fuel else pure d
        pure { d with dirs := Path.clean p :: d.dirs }

/-- The ancestors of a cleaned relative path, from the top. -/
def ancestors (p : Bytes) : List Bytes :=
  let parts := Bytes.splitOn Path.sep p
  (List.range (parts.length - 1)).map fun n => Bytes.intercalate [Path.sep] (parts.take (n + 1))

/-- Write a file. -/
def writeFile (d : Disk) (path content : Bytes) : Except WriteFault Disk :=
  let p := Path.clean path
  match d.kind p with
  | .directory => .error (.unwritable path .isDirectory)
  | _ =>
    let blocked := (ancestors p).findSome? fun a =>
      match d.kind a with
      | .directory => none
      | .file _ => some Refusal.notDirectory
      | .absent => some Refusal.noEntry
    match blocked with
    | some why => .error (.unwritable path why)
    | none => .ok { d with files := d.files.set p content }

end Disk

end ShaderVariants
