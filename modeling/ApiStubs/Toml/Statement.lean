import ApiStubs.Toml.Atom
import ApiStubs.Toml.Text

/-!
# The statements of a settings document

A document is a list of lines that open a table, open an element of a list of tables, or give a
value to a key.  Keys are paths.  A document that does not fall into such lines is refused as a
whole.  Names and values that are no such thing are kept as they are: what the statements mean
together, and which fault comes first, is said in `Toml.Table`.
-/

namespace ApiStubs.Toml

/-- One name of a key. -/
inductive Name where
  | proper (text : String)
  /-- characters that are no name -/
  | broken
  /-- nothing where a name is due -/
  | missing
  deriving DecidableEq, Repr, Inhabited

/-- A key as written. -/
abbrev Key : Type := List Name

/-- A value as written.  The entries of a table in braces are statements of their own. -/
inductive Value where
  | text (content : String)
  | atom (value : Atom)
  /-- characters that stand for no value, or none where a value is due -/
  | unknown
  | list (items : List Value)
  | braces (entries : List (Key × Value))
  deriving Repr, Inhabited

/-- A statement. -/
inductive Statement where
  /-- `[key]` -/
  | table (key : Key)
  /-- `[[key]]` -/
  | element (key : Key)
  /-- `key = value` -/
  | assign (key : Key) (value : Value)
  deriving Repr, Inhabited

/-- The characters after blanks on the same line. -/
def skipBlanks (cs : List Char) : List Char := cs.dropWhile fun c => c = ' ' || c = '\t'

/-- The characters after blanks, ends of lines and comments; the flag says whether a comment is
open. -/
def skipFill : Bool → List Char → Except Fault (List Char)
  | _, [] => .ok []
  | comment, c :: rest =>
    if c = '\n' then skipFill false rest
    else if c = '\r' then
      match rest with
      | '\n' :: more => skipFill false more
      | _ => .error .malformed
    else if comment then
      if isPlain c then skipFill true rest else .error .malformed
    else if c = ' ' || c = '\t' then skipFill false rest
    else if c = '#' then skipFill true rest
    else .ok (c :: rest)

/-- The characters from the end of the line on; before it, only blanks and a comment may stand. -/
def endLine (comment : Bool) : List Char → Except Fault (List Char)
  | [] => .ok []
  | c :: rest =>
    if c = '\n' then .ok (c :: rest)
    else if c = '\r' then
      match rest with
      | '\n' :: _ => .ok (c :: rest)
      | _ => .error .malformed
    else if comment then
      if isPlain c then endLine true rest else .error .malformed
    else if c = ' ' || c = '\t' then endLine false rest
    else if c = '#' then endLine true rest
    else .error .malformed

/-! ## Words -/

/-- Whether a character ends a word without quotes. -/
def endsWord (c : Char) : Bool :=
  c = '.' || c = '=' || c = ',' || c = '[' || c = ']' || c = '\x7b' || c = '\x7d' || c = ' ' ||
    c = '\t' || c = '#' || c = '\r' || c = '\n'

/-- Whether a character is a quote. -/
def isQuote (c : Char) : Bool := c = '"' || c = '\x27'

/-- Words with points between them, and the characters after them; the flag says whether a point
stands just before. -/
def pointedWords : Bool → List Char → List Char × List Char
  | _, [] => ([], [])
  | afterPoint, c :: rest =>
    if c = '.' then
      let (word, after) := pointedWords true rest
      (c :: word, after)
    else if endsWord c || (afterPoint && isQuote c) then ([], c :: rest)
    else
      let (word, after) := pointedWords false rest
      (c :: word, after)

/-- Whether a word without quotes starts here. -/
def startsWord : List Char → Bool
  | [] => false
  | c :: _ => !endsWord c && !isQuote c

/-- A value that is neither a text nor bracketed, and the characters after it: words with points or
blanks between them. -/
def takeScalar : Nat → List Char → List Char × List Char
  | 0, cs => ([], cs)
  | fuel + 1, cs =>
    let (word, rest) := pointedWords false cs
    let after := skipBlanks rest
    if rest.length ≠ after.length && startsWord after then
      let (more, tail) := takeScalar fuel after
      (word ++ rest.take (rest.length - after.length) ++ more, tail)
    else (word, rest)

/-! ## Keys -/

/-- Whether a character can stand in a name without quotes. -/
def isKeyChar (c : Char) : Bool := c.isAlphanum || c = '_' || c = '-'

/-- One name of a key, and the characters after it.  A text that may run over several lines is
none. -/
def readName (cs : List Char) : Name × List Char :=
  match scanText? cs with
  | some (some content, after) =>
    (if startsBlock cs then .broken else .proper (String.ofList content), after)
  | some (none, after) => (.broken, after)
  | none =>
    match cs.takeWhile (fun c => !endsWord c) with
    | [] => (.missing, cs)
    | word =>
      (if word.all isKeyChar then .proper (String.ofList word) else .broken,
        cs.dropWhile fun c => !endsWord c)

/-- A key: names with dots between them, and what stands after it and its blanks. -/
def readKey : Nat → List Char → Key × List Char
  | 0, cs => ([.missing], cs)
  | fuel + 1, cs =>
    let (name, after) := readName (skipBlanks cs)
    match skipBlanks after with
    | '.' :: rest =>
      let (names, tail) := readKey fuel rest
      (name :: names, tail)
    | tail => ([name], tail)

/-! ## Values -/

/-- How deep brackets may be nested. -/
def nestingLimit : Nat := 80

mutual

/-- A value. -/
def readValue : Nat → Nat → List Char → Scan Value
  | 0, _, _ => .error .malformed
  | fuel + 1, depth, cs =>
    match scanText? cs with
    | some (some content, after) => .ok (.text (String.ofList content), after)
    | some (none, after) => .ok (.unknown, after)
    | none =>
      match cs with
      | '[' :: rest =>
        if nestingLimit ≤ depth then .error .malformed
        else
          match readItems fuel (depth + 1) rest with
          | .error e => .error e
          | .ok (items, after) => .ok (.list items, after)
      | '\x7b' :: rest =>
        if nestingLimit ≤ depth then .error .malformed
        else
          match readEntries fuel (depth + 1) rest with
          | .error e => .error e
          | .ok (entries, after) => .ok (.braces entries, after)
      | _ =>
        match takeScalar (cs.length + 1) cs with
        | ([], _) => .error .malformed
        | (word, after) => .ok (((atom? word).map .atom).getD .unknown, after)

/-- Values with commas between them, up to the closing bracket. -/
def readItems : Nat → Nat → List Char → Scan (List Value)
  | 0, _, _ => .error .malformed
  | fuel + 1, depth, cs =>
    match skipFill false cs with
    | .error e => .error e
    | .ok (']' :: rest) => .ok ([], rest)
    | .ok start =>
      match readValue fuel depth start with
      | .error e => .error e
      | .ok (v, after) =>
        match skipFill false after with
        | .error e => .error e
        | .ok (']' :: rest) => .ok ([v], rest)
        | .ok (',' :: rest) =>
          match readItems fuel depth rest with
          | .error e => .error e
          | .ok (items, tail) => .ok (v :: items, tail)
        | .ok _ => .error .malformed

/-- Keys and values with commas between them, up to the closing brace.  Lines may end anywhere but
inside a key. -/
def readEntries : Nat → Nat → List Char → Scan (List (Key × Value))
  | 0, _, _ => .error .malformed
  | fuel + 1, depth, cs =>
    match skipFill false cs with
    | .error e => .error e
    | .ok ('\x7d' :: rest) => .ok ([], rest)
    | .ok start =>
      match readKey (start.length + 1) start with
      | (key, afterKey) =>
        match skipFill false afterKey with
        | .error e => .error e
        | .ok ('=' :: afterSign) =>
          match skipFill false afterSign with
          | .error e => .error e
          | .ok ('\x7d' :: rest) => .ok ([(key, .unknown)], rest)
          | .ok valueStart =>
            match readValue fuel depth valueStart with
            | .error e => .error e
            | .ok (v, after) =>
              match skipFill false after with
              | .error e => .error e
              | .ok ('\x7d' :: rest) => .ok ([(key, v)], rest)
              | .ok (',' :: rest) =>
                match readEntries fuel depth rest with
                | .error e => .error e
                | .ok (entries, tail) => .ok ((key, v) :: entries, tail)
              | .ok _ => .error .malformed
        | .ok _ => .error .malformed

end

/-- The value of a statement; nothing may stand where it is due. -/
def readLineValue (cs : List Char) : Scan Value :=
  match cs with
  | [] => .ok (.unknown, [])
  | c :: _ =>
    if c = '#' || c = '\r' || c = '\n' then .ok (.unknown, cs) else readValue (cs.length + 1) 0 cs

/-! ## Statements -/

/-- The end of a header that lacks its closing brackets: the rest of the line is passed over if no
name stood where one was due. -/
def openHeader (statement : Statement) (key : Key) (after : List Char) : Scan Statement :=
  if key.getLast? = some .missing then .ok (statement, after.dropWhile (· ≠ '\n'))
  else .error .malformed

/-- A statement, up to the end of its line. -/
def readStatement (cs : List Char) : Scan Statement :=
  match cs with
  | '[' :: '[' :: rest =>
    match readKey (rest.length + 1) rest with
    | (key, ']' :: ']' :: after) =>
      match endLine false after with
      | .error e => .error e
      | .ok tail => .ok (.element key, tail)
    | (_, ']' :: _) => .error .malformed
    | (key, after) => openHeader (.element key) key after
  | '[' :: rest =>
    match readKey (rest.length + 1) rest with
    | (key, ']' :: after) =>
      match endLine false after with
      | .error e => .error e
      | .ok tail => .ok (.table key, tail)
    | (key, after) => openHeader (.table key) key after
  | _ =>
    match readKey (cs.length + 1) cs with
    | (key, '=' :: rest) =>
      match readLineValue (skipBlanks rest) with
      | .error e => .error e
      | .ok (v, after) =>
        match endLine false after with
        | .error e => .error e
        | .ok tail => .ok (.assign key v, tail)
    | _ => .error .malformed

/-- The statements of a text. -/
def readStatements : Nat → List Char → Except Fault (List Statement)
  | 0, _ => .error .malformed
  | fuel + 1, cs =>
    match skipFill false cs with
    | .error e => .error e
    | .ok [] => .ok []
    | .ok start =>
      match readStatement start with
      | .error e => .error e
      | .ok (statement, rest) =>
        match readStatements fuel rest with
        | .error e => .error e
        | .ok statements => .ok (statement :: statements)

/-- The text without a byte order mark. -/
def dropMark : List Char → List Char
  | c :: rest => if c.toNat = 0xFEFF then rest else c :: rest
  | [] => []

/-- The statements of a document. -/
def statements (document : String) : Except Fault (List Statement) :=
  let cs := dropMark document.toList
  readStatements (cs.length + 1) cs

end ApiStubs.Toml
