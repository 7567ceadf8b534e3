/-!
# Replacement

Replacing a text by another one, from left to right: an occurrence that starts inside one
already replaced is not one.
-/

namespace TracerConfig.Text

/-- Copies the text after the next `skip` characters, writing `new` for each occurrence of
`old`. -/
def replaceFrom (old new : List Char) : Nat → List Char → List Char
  | _, [] => []
  | skip + 1, _ :: cs => replaceFrom old new skip cs
  | 0, c :: cs =>
    if old.isPrefixOf (c :: cs) then new ++ replaceFrom old new (old.length - 1) cs
    else c :: replaceFrom old new 0 cs

/-- Writes `new` for every occurrence of the non-empty text `old`. -/
def replaceAll (old new text : String) : String :=
  String.ofList (replaceFrom old.toList new.toList 0 text.toList)

/-- Whether `tail` ends the text. -/
def endsWith (tail text : List Char) : Bool := tail.reverse.isPrefixOf text.reverse

/-- The part before the first separator and the part after it. -/
def splitOnce (separator : Char) : List Char → Option (List Char × List Char)
  | [] => none
  | c :: cs =>
    if c = separator then some ([], cs)
    else (splitOnce separator cs).map fun (before, after) => (c :: before, after)

/-- ASCII letters in lower case, all else unchanged. -/
def asciiLower (cs : List Char) : List Char := cs.map Char.toLower

example : replaceFrom ['a', 'a'] ['b'] 0 ['a', 'a', 'a'] = ['b', 'a'] := by decide

example : splitOnce ':' ['a', ':', ':', 'b'] = some (['a'], [':', 'b']) := by decide

end TracerConfig.Text
