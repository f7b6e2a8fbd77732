import RegistryClient.Fault
import RegistryClient.Identifier

/-!
# Query requests

What a caller may ask about the page of results, and the body of the request
that asks for it.  The expression stands in CDATA sections.  Wherever it has the
end mark of a section, one section ends inside the mark and the next one begins,
so the sections' contents together are the expression.
-/

namespace RegistryClient.Query

/-- Which page of which matches a query returns. -/
structure Options where
  /-- The number of the page, from one on. -/
  pageNumber : Nat
  /-- How many results a page has; the configured number when not given. -/
  pageSize : Option Nat
  /-- Only records derived from this one are searched. -/
  root : Option String
  idsOnly : Bool
deriving DecidableEq, Repr

/-- Why options are refused. -/
inductive OptionsFault where
  | noPageNumber
  | noPageSize
  | invalidRoot (root : String)
deriving DecidableEq, Repr

namespace OptionsFault

def detail : OptionsFault → String
  | .noPageNumber => "page number must be at least 1"
  | .noPageSize => "page size must be at least 1"
  | .invalidRoot root => s!"invalid root identifier '{root}'"

def toFault (fault : OptionsFault) : Fault :=
  .invalidInput fault.detail

end OptionsFault

namespace Options

/-- The first page, of the configured size, of the metadata of all matches. -/
def default : Options := ⟨1, none, none, false⟩

/-- Refuses options that ask for no page or for the matches below no record. -/
def validate (options : Options) : Except OptionsFault Unit :=
  if options.pageNumber = 0 then .error .noPageNumber
  else if options.pageSize = some 0 then .error .noPageSize
  else
    match options.root with
    | none => .ok ()
    | some root => if Identifier.isValid root then .ok () else .error (.invalidRoot root)

end Options

/-! ## The body -/

/-- What begins a CDATA section. -/
def sectionStart : List Char := "<![CDATA[".toList

/-- What ends a CDATA section. -/
def sectionEnd : List Char := "]]>".toList

/-- The characters of a text, a new CDATA section begun inside every end mark. -/
def splitSections : List Char → List Char
  | ']' :: ']' :: '>' :: rest =>
    ']' :: ']' :: (sectionEnd ++ (sectionStart ++ '>' :: splitSections rest))
  | c :: rest => c :: splitSections rest
  | [] => []

/-- A text in CDATA sections. -/
def cdata (text : String) : String :=
  String.ofList (sectionStart ++ (splitSections text.toList ++ sectionEnd))

/-- A text as the content of an element. -/
def tagged (name content : String) : String :=
  "<" ++ name ++ ">" ++ content ++ "</" ++ name ++ ">"

/-- The body of a query request. -/
def body (expression : String) (pageNumber pageSize : Nat) (root : Option String) : String :=
  let scope := match root with
    | none => ""
    | some id => tagged "ID" id
  "<Request xmlns=\"http://www.eidr.org/schema\">" ++
    tagged "Operation" (tagged "Query"
      (scope ++ tagged "Expression" (cdata expression) ++
        tagged "PageNumber" pageNumber.repr ++ tagged "PageSize" pageSize.repr)) ++
    "</Request>"

end RegistryClient.Query
