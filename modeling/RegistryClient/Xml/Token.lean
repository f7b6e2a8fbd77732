import RegistryClient.Text.Cut
import RegistryClient.Text.Digit
import RegistryClient.Text.Range
import RegistryClient.Xml.Element

/-!
# Tokens of XML text

The pieces of an XML text in order: tags, character data, CDATA sections,
comments, processing instructions and document type declarations.

The dialect takes text as it is: line ends and white space in attribute values
are not normalized and any character may occur.  A document type declaration is
skipped, so the entities it declares are not known; character references and the
five predefined entities are.
-/

namespace RegistryClient.Xml

open Text

/-! ## Characters and names -/

/-- The white space of markup. -/
def isSpace (c : Char) : Bool :=
  c == ' ' || c == '\t' || c == '\n' || c == '\r'

/-- The code points at which a name may start. -/
def nameStartRanges : List (Nat × Nat) :=
  [(0x41, 0x5A), (0x5F, 0x5F), (0x61, 0x7A), (0xC0, 0xD6), (0xD8, 0xF6), (0xF8, 0x2FF),
    (0x370, 0x37D), (0x37F, 0x1FFF), (0x200C, 0x200D), (0x2070, 0x218F), (0x2C00, 0x2FEF),
    (0x3001, 0xD7FF), (0xF900, 0xFDCF), (0xFDF0, 0xFFFD), (0x10000, 0xEFFFF)]

/-- The further code points that may stand inside a name. -/
def nameInnerRanges : List (Nat × Nat) :=
  [(0x2D, 0x2E), (0x30, 0x39), (0xB7, 0xB7), (0x300, 0x36F), (0x203F, 0x2040)]

def isNameStart (c : Char) : Bool :=
  inRanges nameStartRanges c

def isNameChar (c : Char) : Bool :=
  isNameStart c || inRanges nameInnerRanges c

/-- The text after white space, of which there may be none. -/
def skipSpace (chars : List Char) : List Char :=
  chars.dropWhile isSpace

/-- The text after white space, of which there must be some. -/
def afterSpace? : List Char → Option (List Char)
  | c :: rest => if isSpace c then some (skipSpace rest) else none
  | [] => none

/-- A name in which colons stand anywhere, at its ends too, and separate nothing. -/
def readWholeName : List Char → Option (String × List Char)
  | c :: rest =>
    let isInner := fun c => c == ':' || isNameChar c
    if c == ':' || isNameStart c then
      some (String.ofList (c :: rest.takeWhile isInner), rest.dropWhile isInner)
    else none
  | [] => none

/-- A name without a colon. -/
def readSimpleName : List Char → Option (String × List Char)
  | c :: rest =>
    if isNameStart c then
      some (String.ofList (c :: rest.takeWhile isNameChar), rest.dropWhile isNameChar)
    else none
  | [] => none

/-- A name, which may be qualified. -/
def readName (chars : List Char) : Option (Name × List Char) := do
  let (first, rest) ← readSimpleName chars
  match rest with
  | ':' :: more =>
    let (second, unread) ← readSimpleName more
    return (⟨some first, second⟩, unread)
  | _ => return (⟨none, first⟩, rest)

/-! ## References -/

/-- The greatest number that a character reference is read as. -/
def greatestReference : Nat := greatestOfBits 32

/-- The character of a numeric reference. -/
def numericReference? (base : Nat) (digits : List Char) : Option Char := do
  let code ← numeral? base digits
  if code ≤ greatestReference then scalar? code else none

/-- The character that a reference stands for, by what is between `&` and `;`. -/
def reference? : List Char → Option Char
  | ['a', 'm', 'p'] => some '&'
  | ['l', 't'] => some '<'
  | ['g', 't'] => some '>'
  | ['a', 'p', 'o', 's'] => some '\''
  | ['q', 'u', 'o', 't'] => some '"'
  | '#' :: 'x' :: digits => numericReference? 16 digits
  | '#' :: digits => numericReference? 10 digits
  | _ => none

/-- Text with its references replaced.  Inside a reference, `reference` has what
was read of it so far, last character first. -/
def expandFrom? (reference : Option (List Char)) : List Char → Option (List Char)
  | [] => if reference.isSome then none else some []
  | c :: rest =>
    match reference with
    | none =>
      if c = '&' then expandFrom? (some []) rest else (expandFrom? none rest).map (c :: ·)
    | some name =>
      if c = ';' then
        match reference? name.reverse with
        | some meant => (expandFrom? none rest).map (meant :: ·)
        | none => none
      else expandFrom? (some (c :: name)) rest

/-- Text with its references replaced; `none` when one is not known or not ended. -/
def expand? (chars : List Char) : Option String :=
  (expandFrom? none chars).map String.ofList

/-! ## Literals and tags -/

/-- A literal between quotation marks of either kind, as written. -/
def readQuoted : List Char → Option (List Char × List Char)
  | '"' :: rest => cutAt? ['"'] rest
  | '\'' :: rest => cutAt? ['\''] rest
  | _ => none

/-- The text after an equals sign, which may have white space around it. -/
def afterEquals? (chars : List Char) : Option (List Char) :=
  (after? ['='] (skipSpace chars)).map skipSpace

/-- The value of an attribute. -/
def readAttributeValue (chars : List Char) : Option (String × List Char) := do
  let (raw, rest) ← readQuoted chars
  if raw.contains '<' then none
  else
    let value ← expand? raw
    return (value, rest)

/-- How a start tag ends. -/
inductive TagEnd where
  | opening
  | closed
deriving DecidableEq, Repr

/-- The attributes of a start tag and the end of the tag. -/
def readAttributes : (fuel : Nat) → List Char → Option ((List Attribute × TagEnd) × List Char)
  | 0, _ => none
  | fuel + 1, chars =>
    match skipSpace chars with
    | '>' :: rest => some (([], .opening), rest)
    | '/' :: '>' :: rest => some (([], .closed), rest)
    | _ => do
      let beforeName ← afterSpace? chars
      let (name, afterName) ← readName beforeName
      let beforeValue ← afterEquals? afterName
      let (value, rest) ← readAttributeValue beforeValue
      let ((attributes, tagEnd), more) ← readAttributes fuel rest
      return ((⟨name, value⟩ :: attributes, tagEnd), more)

/-! ## The declaration and the document type -/

/-- A literal after a keyword and an equals sign, within the declaration. -/
def readSetting (keyword : List Char) (chars : List Char) : Option (List Char × List Char) := do
  let beforeKeyword ← afterSpace? chars
  let afterKeyword ← after? keyword beforeKeyword
  let beforeValue ← afterEquals? afterKeyword
  readQuoted beforeValue

/-- A version of XML: `1.` and digits. -/
def isVersion : List Char → Bool
  | '1' :: '.' :: digits => !digits.isEmpty && digits.all Char.isDigit
  | _ => false

/-- The name of a character encoding. -/
def isEncoding : List Char → Bool
  | first :: rest =>
    first.isAlpha && rest.all fun c => c.isAlphanum || c == '.' || c == '_' || c == '-'
  | [] => false

/-- The text after a setting that may be missing and must be valid when it is there. -/
def afterSetting? (keyword : List Char) (isValid : List Char → Bool) (chars : List Char) :
    Option (List Char) :=
  match readSetting keyword chars with
  | none => some chars
  | some (value, rest) => if isValid value then some rest else none

/-- The text after the XML declaration. -/
def afterDeclaration? (chars : List Char) : Option (List Char) := do
  let afterTarget ← after? "<?xml".toList chars
  let (version, afterVersion) ← readSetting "version".toList afterTarget
  if isVersion version then
    let afterEncoding ← afterSetting? "encoding".toList isEncoding afterVersion
    let afterStandalone ← afterSetting? "standalone".toList
      (fun value => value == "yes".toList || value == "no".toList) afterEncoding
    after? "?>".toList (skipSpace afterStandalone)
  else none

/-- The text after an external identifier of a document type, which may be missing. -/
def afterExternalId? (chars : List Char) : Option (List Char) :=
  match (afterSpace? chars).bind (after? "SYSTEM".toList) with
  | none => some chars
  | some rest => do
    let beforeLiteral ← afterSpace? rest
    let (literal, more) ← readQuoted beforeLiteral
    if literal.isEmpty || literal.contains '&' || literal.contains '<' then none else some more

/-- The text after the internal part of a document type, which may be missing;
that part ends at its first closing bracket. -/
def afterInternalPart? : List Char → Option (List Char)
  | '[' :: rest => (cutAt? [']'] rest).map Prod.snd
  | chars => some chars

/-- The text after the rest of a document type declaration. -/
def afterDoctype? (chars : List Char) : Option (List Char) := do
  let beforeName ← afterSpace? chars
  let (_, afterName) ← readWholeName beforeName
  let afterId ← afterExternalId? afterName
  let afterInternal ← afterInternalPart? (skipSpace afterId)
  after? ['>'] (skipSpace afterInternal)

/-! ## Tokens -/

/-- A piece of XML text. -/
inductive Token where
  | doctype
  | startTag (name : Name) (attributes : List Attribute) (tagEnd : TagEnd)
  | endTag (name : Name)
  /-- Character data as written. -/
  | text (raw : List Char)
  | cdata (text : List Char)
  | comment (text : List Char)
  | instruction (target : String) (data : List Char)
deriving Repr

/-- A target reserved for the XML declaration. -/
def isReservedTarget (target : String) : Bool :=
  target.toList.map Char.toLower == ['x', 'm', 'l']

/-- The rest of a processing instruction. -/
def readInstruction (chars : List Char) : Option (Token × List Char) := do
  let (target, afterTarget) ← readWholeName chars
  if isReservedTarget target then none
  else
    match after? ['?', '>'] afterTarget with
    | some rest => return (.instruction target [], rest)
    | none =>
      let beforeData ← afterSpace? afterTarget
      let (data, rest) ← cutAt? ['?', '>'] beforeData
      return (.instruction target data, rest)

/-- The rest of a comment, which has no two hyphens in a row. -/
def readComment (chars : List Char) : Option (Token × List Char) := do
  let (text, rest) ← cutAt? ['-', '-'] chars
  let more ← after? ['>'] rest
  return (.comment text, more)

/-- The rest of an end tag. -/
def readEndTag (chars : List Char) : Option (Token × List Char) := do
  let (name, rest) ← readName chars
  let more ← after? ['>'] (skipSpace rest)
  return (.endTag name, more)

/-- The rest of a start tag. -/
def readStartTag (chars : List Char) : Option (Token × List Char) := do
  let (name, rest) ← readName chars
  let ((attributes, tagEnd), more) ← readAttributes (rest.length + 1) rest
  return (.startTag name attributes tagEnd, more)

/-- Character data up to the next markup, which has no end of a CDATA section in it. -/
def readText (chars : List Char) : Option (Token × List Char) :=
  let raw := chars.takeWhile (· ≠ '<')
  if (cutAt? "]]>".toList raw).isSome then none
  else some (.text raw, chars.dropWhile (· ≠ '<'))

/-- The first token of a text that is not empty. -/
def readToken (chars : List Char) : Option (Token × List Char) :=
  match chars with
  | '<' :: '?' :: rest => readInstruction rest
  | '<' :: '/' :: rest => readEndTag rest
  | '<' :: '!' :: rest =>
    match after? "--".toList rest, after? "[CDATA[".toList rest, after? "DOCTYPE".toList rest with
    | some more, _, _ => readComment more
    | _, some more, _ => (cutAt? "]]>".toList more).map fun (text, unread) => (.cdata text, unread)
    | _, _, some more => (afterDoctype? more).map fun unread => (.doctype, unread)
    | none, none, none => none
  | '<' :: rest => readStartTag rest
  | other => readText other

/-- The tokens of a text. -/
def tokensWithin? : (fuel : Nat) → List Char → Option (List Token)
  | _, [] => some []
  | 0, _ :: _ => none
  | fuel + 1, c :: chars => do
    let (token, rest) ← readToken (c :: chars)
    let tokens ← tokensWithin? fuel rest
    return token :: tokens

/-- The tokens of a text; every one takes at least one character. -/
def tokens? (chars : List Char) : Option (List Token) :=
  tokensWithin? chars.length chars

end RegistryClient.Xml
