import TracerConfig.Text.Blank
import TracerConfig.Text.Replace

/-!
# Service keys

A service key is `<token>:<name>`: the API token, 64 hexadecimal digits, and the name of the
service. The first `:` ends the token.

Main definitions:
* `normalize`: the name in lower case, blanks of one kind turned into dashes, foreign
  characters removed.
* `isValid`: whether the agent accepts a key.
* `mask`: a key with the middle of its token hidden.
-/

namespace TracerConfig.ServiceKey

/-- The longest name, in characters. -/
def maxNameLength : Nat := 255

/-- The digits of a token. -/
def tokenLength : Nat := 64

/-- How many characters of a token a mask shows at each end. -/
def shownLength : Nat := 4

/-- The characters of a normalized name. -/
def isNameChar (c : Char) : Bool :=
  ('a' ≤ c && c ≤ 'z') || ('0' ≤ c && c ≤ '9') || c == '.' || c == ':' || c == '_' || c == '-'

/-- ASCII hexadecimal digits, of either case. -/
def isHexDigit (c : Char) : Bool :=
  ('0' ≤ c && c ≤ '9') || ('a' ≤ c && c ≤ 'f') || ('A' ≤ c && c ≤ 'F')

/-- What a character of a name becomes, if anything: its lower case form where that is a name
character, a dash for a space. Outside ASCII only U+0130 and the Kelvin sign have a lower case
form with a name character in it. -/
def foldNameChar (c : Char) : Option Char :=
  if isNameChar c then some c
  else if 'A' ≤ c && c ≤ 'Z' then some c.toLower
  else if c = ' ' then some '-'
  else if c = '\u0130' then some 'i'
  else if c = '\u212A' then some 'k'
  else none

/-- A name with every character folded or removed. -/
def foldName (name : List Char) : List Char := name.filterMap foldNameChar

/-- `normalize`, on characters. -/
def normalizeList (key : List Char) : List Char :=
  let key := Text.trim key
  match Text.splitOnce ':' key with
  | none => key
  | some (token, name) => token ++ ':' :: foldName name

/-- The normalized key: its name folded, and no blanks around the whole. A key without a name
part is only trimmed. -/
def normalize (key : String) : String := String.ofList (normalizeList key.toList)

/-- `isValid`, on characters. -/
def isValidList (key : List Char) : Bool :=
  match Text.splitOnce ':' key with
  | none => false
  | some (token, name) =>
    token.length == tokenLength && token.all isHexDigit && !name.isEmpty &&
      name.length ≤ maxNameLength

/-- Whether a key has a token of 64 hexadecimal digits and a name of 1 to 255 characters. -/
def isValid (key : String) : Bool := isValidList key.toList

/-- Stars in place of all but the first and last characters of a token. -/
def maskToken (token : List Char) : List Char :=
  token.take shownLength ++ List.replicate (token.length - 2 * shownLength) '*' ++
    token.drop (token.length - shownLength)

/-- `mask`, on characters. -/
def maskList (key : List Char) : List Char :=
  match Text.splitOnce ':' key with
  | none => key
  | some (token, name) =>
    if token.length < 2 * shownLength then key else maskToken token ++ ':' :: name

/-- A key with the middle of its token hidden and the name left readable. A key without a name
part, or with a token too short to hide anything, is shown as it is. -/
def mask (key : String) : String := String.ofList (maskList key.toList)

theorem foldNameChar_isNameChar {c d : Char} (h : foldNameChar c = some d) :
    isNameChar d = true := by
  unfold foldNameChar at h
  split at h
  · next hc => simp_all
  split at h
  · next hc =>
    have hlow : ∀ n : Fin 26, isNameChar (Char.ofNat (65 + n.val)).toLower = true := by
      decide +kernel
    have h1 : 65 ≤ c.toNat ∧ c.toNat ≤ 90 := by
      simp only [Bool.and_eq_true, decide_eq_true_eq] at hc
      exact ⟨hc.1, hc.2⟩
    have h2 := hlow ⟨c.toNat - 65, by omega⟩
    have h3 : 65 + (c.toNat - 65) = c.toNat := by omega
    rw [h3, Char.ofNat_toNat] at h2
    simp_all
  all_goals split at h
  · cases h; decide
  split at h
  · cases h; decide
  split at h
  · cases h; decide
  · simp at h

/-- A normalized name holds name characters only. -/
theorem all_isNameChar_foldName (name : List Char) : (foldName name).all isNameChar = true := by
  simp only [foldName, List.all_eq_true, List.mem_filterMap]
  rintro d ⟨c, _, h⟩
  exact foldNameChar_isNameChar h

/-- Folding never makes a name longer. -/
theorem length_foldName_le (name : List Char) : (foldName name).length ≤ name.length :=
  List.length_filterMap_le ..

end TracerConfig.ServiceKey
