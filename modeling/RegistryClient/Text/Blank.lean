/-!
# Blank characters, trimming and words

A character is *blank* when Unicode gives it the property `White_Space`.  Search
texts, credentials and element texts are trimmed of blanks, and search texts and
identifier lists are cut into words at blanks.  The zero-width characters
U+200B and U+FEFF and the separators U+001C to U+001F are not blank.

Each operation is defined on lists of characters, where it recurses, and lifted
to strings.
-/

namespace RegistryClient.Text

/-- The characters with the Unicode property `White_Space`. -/
def isBlank (c : Char) : Bool :=
  let code := c.toNat
  (0x09 ≤ code && code ≤ 0x0D) || code == 0x20 || code == 0x85 || code == 0xA0 ||
    code == 0x1680 || (0x2000 ≤ code && code ≤ 0x200A) || code == 0x2028 || code == 0x2029 ||
    code == 0x202F || code == 0x205F || code == 0x3000

/-! ## Trimming -/

/-- The characters without the blanks at the end. -/
def trimEndChars (chars : List Char) : List Char :=
  (chars.reverse.dropWhile isBlank).reverse

/-- The characters without the blanks at both ends. -/
def trimChars (chars : List Char) : List Char :=
  trimEndChars (chars.dropWhile isBlank)

/-- The text without the blanks at both ends. -/
def trim (text : String) : String :=
  String.ofList (trimChars text.toList)

/-- A text with nothing but blanks in it. -/
def isBlankText (text : String) : Bool :=
  text.toList.all isBlank

/-! ## Words -/

/-- The maximal blank-free runs of characters, in order. -/
def wordsOfChars : List Char → List (List Char)
  | [] => []
  | c :: rest =>
    if isBlank c then wordsOfChars rest
    else
      match rest with
      | [] => [[c]]
      | next :: _ =>
        if isBlank next then [c] :: wordsOfChars rest
        else
          match wordsOfChars rest with
          | [] => [[c]]
          | word :: words => (c :: word) :: words

/-- The words of a text: its maximal blank-free runs, in order. -/
def words (text : String) : List String :=
  (wordsOfChars text.toList).map String.ofList

/-! ## Splitting at a separator -/

/-- The pieces between the separators; there is one more piece than separators. -/
def splitChars (separator : Char) : List Char → List (List Char)
  | [] => [[]]
  | c :: rest =>
    if c = separator then [] :: splitChars separator rest
    else
      match splitChars separator rest with
      | [] => [[c]]
      | piece :: pieces => (c :: piece) :: pieces

/-- The pieces of a text between the separators. -/
def split (separator : Char) (text : String) : List String :=
  (splitChars separator text.toList).map String.ofList

/-- The texts in order with a separator between each two of them. -/
def joinWith (separator : String) : List String → String
  | [] => ""
  | [text] => text
  | text :: rest => text ++ separator ++ joinWith separator rest

end RegistryClient.Text
