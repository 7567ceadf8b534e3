import TracerConfig.Text.Replace

/-!
# Paths

A path is a text of segments with slashes between them. Empty segments and single dots name the
directory that is reached already.

Main definition: `Path.isSupported`, which tells from the extension alone whether a
configuration file can be read.
-/

namespace TracerConfig.File.Path

/-- The segments of a path. -/
def segments : List Char → List (List Char)
  | [] => [[]]
  | c :: cs =>
    if c = '/' then [] :: segments cs
    else
      match segments cs with
      | [] => [[c]]
      | s :: rest => (c :: s) :: rest

/-- Whether a segment names the directory that it stands in. -/
def staysHere (segment : List Char) : Bool := segment.isEmpty || segment = ['.']

/-- The last name in a path, unless that leads to the parent directory. -/
def fileName? (path : List Char) : Option (List Char) :=
  match ((segments path).filter fun s => !staysHere s).getLast? with
  | some name => if name = ['.', '.'] then none else some name
  | none => none

/-- The part of a file's name after its last dot, if the dot is not the first character. -/
def extension? (name : List Char) : Option (List Char) :=
  match name.reverse.dropWhile (· ≠ '.') with
  | _ :: before => if before.isEmpty then none else some (name.drop (before.length + 1))
  | [] => none

/-- Whether the extension of a path is one of a configuration file, in any case. -/
def isSupported (path : String) : Bool :=
  match (fileName? path.toList).bind extension? with
  | some e =>
    let e := Text.asciiLower e
    e = "yaml".toList || e = "yml".toList
  | none => false

example : isSupported "dir/c.YAML/." = true := by decide +kernel

example : isSupported ".yaml" = false := by decide +kernel

end TracerConfig.File.Path
