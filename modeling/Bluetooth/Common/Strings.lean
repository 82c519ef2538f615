import Mathlib

set_option linter.all false

/-!
# `common/strings` and the stream reads the storage layer uses

A `std::string` is modelled by its characters.  `StringTrim` drops the `isspace` characters
at both ends, and `StringSplit` cuts a text at the first occurrences of a delimiter, with at most
`max_token` tokens and the rest of the text in the last one.  `getlines` gives the lines that
successive `std::getline` calls read from a stream.
-/

namespace Bluetooth

/-- `std::string`, as its characters. -/
abbrev Text := List Char

/-- The characters of `isspace` in the C locale. -/
def isSpace (c : Char) : Bool :=
  c = ' ' || c = '\t' || c = '\n' || c = '\x0b' || c = '\x0c' || c = '\r'

/-- The hexadecimal digits `strtol` reads in base 16. -/
def isHexDigit (c : Char) : Bool :=
  c.isDigit || ('a' ≤ c && c ≤ 'f') || ('A' ≤ c && c ≤ 'F')

/-- The pieces that successive `std::getline(stream, piece, delim)` calls read from a stream
holding `text`, with `current` the piece read so far.  The stream fails when it is at its end
before a character is read, so a text ending in `delim` has no empty last piece. -/
def getlinesFrom (delim : Char) (current : Text) : Text → List Text
  | [] => if current = [] then [] else [current]
  | c :: rest =>
    if c = delim then current :: getlinesFrom delim [] rest
    else getlinesFrom delim (current ++ [c]) rest

/-- The pieces `std::getline` reads from `text` up to each `delim`. -/
def getlines (delim : Char) (text : Text) : List Text := getlinesFrom delim [] text

/-- `StringTrim`: the text without its leading and trailing white space. -/
def stringTrim (str : Text) : Text :=
  ((str.dropWhile isSpace).reverse.dropWhile isSpace).reverse

/-- `str.find(delim)`: the first position at which `delim` starts. -/
def findDelim (delim text : Text) : Option Nat :=
  if delim.isPrefixOf text then some 0
  else
    match text with
    | [] => none
    | _ :: rest => (findDelim delim rest).map (· + 1)

/-- A delimiter found starts at a position where the whole of it fits. -/
theorem findDelim_le {delim text : Text} {index : Nat} (found : findDelim delim text = some index) :
    index + delim.length ≤ text.length := by
  induction text generalizing index with
  | nil =>
    unfold findDelim at found
    split at found
    · rename_i prefixed
      cases found
      simpa using (List.isPrefixOf_iff_prefix.1 prefixed).length_le
    · cases found
  | cons c rest induction =>
    unfold findDelim at found
    split at found
    · rename_i prefixed
      cases found
      simpa using (List.isPrefixOf_iff_prefix.1 prefixed).length_le
    · dsimp only at found
      obtain ⟨later, inner, rfl⟩ := Option.map_eq_some_iff.1 found
      have fits := induction inner
      simp only [List.length_cons]
      omega

/-- The loop of `StringSplit` over the text after `starting_index`, where `left` is how many
more tokens it may cut off (`none` when `max_token` is 0, for no limit).  Each token ends at a
delimiter, and what remains of the text is the last token. -/
def splitFrom (delim : Text) (nonempty : delim ≠ []) (rest : Text) : Option Nat → List Text
  | some 0 => [rest]
  | left =>
    match found : findDelim delim rest with
    | none => [rest]
    | some index =>
      rest.take index ::
        splitFrom delim nonempty (rest.drop (index + delim.length)) (left.map (· - 1))
termination_by rest.length
decreasing_by
  have fits := findDelim_le found
  have positive : 0 < delim.length := List.length_pos_iff.2 nonempty
  rw [List.length_drop]
  omega

/-- `StringSplit(str, delim, max_token)`; the delimiter must not be empty. -/
def stringSplit (str delim : Text) (nonempty : delim ≠ []) (maxToken : Nat) : List Text :=
  splitFrom delim nonempty str (if maxToken = 0 then none else some (maxToken - 1))

end Bluetooth
