import TracerConfig.File.Path

/-!
# The files around the agent

A tree of directories hangs below one root. A path is followed through it name by name, from the
root if it begins with a slash and from the working directory if not; a symbolic link on the way
stands for the path that it holds.

Main definitions:
* `Tree.follow`, `Tree.locate`: where a path leads, up to the next link and through all links.
* `Tree.read`: the text of the file at a path.
-/

namespace TracerConfig.File

/-- What stands at a place of the tree. A place that the system keeps from the agent has the
system's own words for that. -/
inductive Content where
  | file (bytes : ByteArray)
  | directory
  | link (target : String)
  | refused (message : String)

/-- A tree of files: what the names on the way from the root lead to. -/
structure Tree where
  /-- The names that lead from the root to the place where relative paths begin. -/
  workingDirectory : List String
  content : List String → Option Content

/-- Why a file cannot be read. -/
inductive ReadError where
  | notFound
  | isDirectory
  | notDirectory
  | tooManyLinks
  | refused (message : String)
  | notText
  | nulInPath
deriving DecidableEq, Repr

/-- The wording of each cause. -/
def ReadError.message : ReadError → String
  | notFound => "No such file or directory (os error 2)"
  | isDirectory => "Is a directory (os error 21)"
  | notDirectory => "Not a directory (os error 20)"
  | tooManyLinks => "Too many levels of symbolic links (os error 40)"
  | refused message => message
  | notText => "stream did not contain valid UTF-8"
  | nulInPath => "file name contained an unexpected NUL byte"

namespace Tree

/-- An empty working directory, which is all that there is. -/
def empty : Tree where
  workingDirectory := ["agent"]
  content := fun names => if names.isPrefixOf ["agent"] then some .directory else none

/-- Replaces what a name in the working directory stands for. -/
def put (t : Tree) (name : String) (content : Content) : Tree :=
  { t with content := fun names =>
      if names = t.workingDirectory ++ [name] then some content else t.content names }

/-- Removes a name from the working directory. -/
def delete (t : Tree) (name : String) : Tree :=
  { t with content := fun names =>
      if names = t.workingDirectory ++ [name] then none else t.content names }

/-! ## Following a path -/

/-- Where the segments of a path lead: to a place of the tree, or to a link in a directory, with
segments left. -/
inductive Stop where
  | place (content : Content)
  | link (directory : List String) (target : String) (rest : List (List Char))

/-- Follows segments from a place, which `names` lead to and `here` stands at. Whatever is no
directory ends the way, even in front of an empty segment. The root is its own parent. -/
def follow (t : Tree) (names : List String) (here : Content) :
    List (List Char) → Except ReadError Stop
  | [] => .ok (.place here)
  | segment :: rest =>
    match here with
    | .directory =>
      if Path.staysHere segment then follow t names here rest
      else if segment = ['.', '.'] then follow t names.dropLast here rest
      else
        let names' := names ++ [String.ofList segment]
        match t.content names' with
        | none => .error .notFound
        | some (.link target) => .ok (.link names target rest)
        | some content => follow t names' content rest
    | .refused message => .error (.refused message)
    | .file _ | .link _ => .error .notDirectory

/-- The names that lead to where a path begins, if it stands in `directory`. -/
def start (directory : List String) (path : List Char) : List String :=
  if path.head? = some '/' then [] else directory

/-- What segments lead to from a place, through no more than `links` links. -/
def locate (t : Tree) : Nat → List String → List (List Char) → Except ReadError Content
  | links, names, segments => do
    let some here := t.content names | throw .notFound
    match ← t.follow names here segments with
    | .place content => return content
    | .link directory target rest =>
      match links with
      | 0 => throw .tooManyLinks
      | links + 1 =>
        let path := target.toList
        locate t links (start directory path) (Path.segments path ++ rest)

/-- The greatest number of links on the way to a file. -/
def maxLinks : Nat := 40

/-- The text of the file at a path. -/
def read (t : Tree) (path : String) : Except ReadError String := do
  let path := path.toList
  if path.contains '\x00' then throw .nulInPath
  if path.isEmpty then throw .notFound
  match ← t.locate maxLinks (start t.workingDirectory path) (Path.segments path) with
  | .file bytes =>
    match String.fromUTF8? bytes with
    | some text => return text
    | none => throw .notText
  | .directory => throw .isDirectory
  | .link _ => throw .tooManyLinks
  | .refused message => throw (.refused message)

example : (((empty.put "b.yaml" (.file "Disabled: true".toUTF8)).put "a.yaml"
    (.link "/agent/b.yaml")).read "./a.yaml").toOption = some "Disabled: true" := by decide +kernel

end Tree

end TracerConfig.File
