import ApiStubs.Text.CaseData

/-!
# Upper and lower case

Full Unicode case mappings: a character may become several (`ß` is `SS` in upper case), and a
capital sigma at the end of a word has a lower case of its own.
-/

namespace ApiStubs.Text

/-- The upper case of one character. -/
def upperChar (c : Char) : List Char :=
  (mapCode upperRuns upperSequences c.toNat).map Char.ofNat

/-- The lower case of one character, without regard to its neighbours. -/
def lowerChar (c : Char) : List Char :=
  (mapCode lowerRuns lowerSequences c.toNat).map Char.ofNat

/-- Whether the character is a letter that has case. -/
def isCased (c : Char) : Bool := inRanges casedRanges c.toNat

/-- Whether the final-sigma rule looks past the character. -/
def isCaseIgnorable (c : Char) : Bool := inRanges caseIgnorableRanges c.toNat

/-- Whether the nearest character that counts is a cased letter. -/
def meetsLetter (chars : List Char) : Bool :=
  match chars.dropWhile isCaseIgnorable with
  | [] => false
  | c :: _ => isCased c

/-- Lower case of a text, given the characters before it with the nearest first.  A capital sigma
becomes the final form when a letter stands before it and none after it. -/
def lowerFrom : List Char → List Char → List Char
  | _, [] => []
  | before, c :: rest =>
    (if c = 'Σ' then [if meetsLetter before && !meetsLetter rest then 'ς' else 'σ']
      else lowerChar c) ++ lowerFrom (c :: before) rest

/-- The lower case of a text. -/
def lower (s : String) : String := String.ofList (lowerFrom [] s.toList)

/-- The text with its first character in upper case. -/
def capitalize (s : String) : String :=
  match s.toList with
  | [] => ""
  | c :: rest => String.ofList (upperChar c ++ rest)

/-- Lower case of the letters `A` to `Z` only. -/
def lowerAscii (s : String) : String := String.ofList (s.toList.map Char.toLower)

end ApiStubs.Text
