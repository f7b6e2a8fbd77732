import RegistryClient.Query.Compile

/-!
# Field paths

Every field that a query can test is addressed by a path that begins with a
slash and has letters and slashes only (`isFieldPath_of_mem_paths` and its
neighbours).  So no path has a blank, a parenthesis or a quotation mark, which
are the characters by which a term is read.
-/

namespace RegistryClient.Query

/-- A letter or a slash. -/
def isPathChar (c : Char) : Bool :=
  c.isAlpha || c == '/'

/-- The text has letters and slashes only. -/
def IsPathText (text : String) : Prop :=
  ∀ c ∈ text.toList, isPathChar c = true

/-- A path from the root of a record. -/
structure IsFieldPath (path : String) : Prop where
  rooted : path.toList.head? = some '/'
  pathText : IsPathText path

theorem isPathText_ofList {chars : List Char} (h : chars.all isPathChar = true) :
    IsPathText (String.ofList chars) := by
  intro c hc
  rw [String.toList_ofList] at hc
  exact List.all_eq_true.mp h c hc

theorem IsPathText.append {first second : String} (hfirst : IsPathText first)
    (hsecond : IsPathText second) : IsPathText (first ++ second) := by
  intro c hc
  rw [String.toList_append] at hc
  exact (List.mem_append.mp hc).elim (hfirst c) (hsecond c)

/-- None of the characters by which a term is read stands in a path. -/
theorem IsFieldPath.notMem {path : String} (hpath : IsFieldPath path) {c : Char}
    (hc : isPathChar c = false) : c ∉ path.toList := by
  intro hmem
  have hchar := hpath.pathText c hmem
  rw [hc] at hchar
  exact absurd hchar (by simp)

theorem Branch.isFieldPath_path (branch : Branch) {relative : String} (h : IsPathText relative) :
    IsFieldPath (branch.path relative) where
  rooted := by
    have hroot : "/FullMetadata/".toList.head? = some '/' := by decide
    unfold Branch.path
    simp only [String.toList_append, List.head?_append, hroot, Option.some_or]
  pathText := by
    unfold Branch.path
    have hname : IsPathText branch.name := by
      cases branch <;> exact isPathText_ofList (by decide)
    have hroot : IsPathText "/FullMetadata/" := isPathText_ofList (by decide)
    have hslash : IsPathText "/" := isPathText_ofList (by decide)
    exact ((hroot.append hname).append hslash).append h

theorem Element.isPathText_of_mem_fields {element : Element} {relative : String}
    (h : relative ∈ element.fields) : IsPathText relative := by
  have hall : ∀ relative ∈ element.fields, IsPathText relative := by
    cases element <;>
      simp only [Element.fields, List.forall_mem_cons, List.not_mem_nil, false_implies,
        implies_true, and_true] <;>
      first
        | exact isPathText_ofList (by decide)
        | exact ⟨isPathText_ofList (by decide), isPathText_ofList (by decide)⟩
  exact hall relative h

theorem isFieldPath_of_mem_paths {element : Element} {path : String} (h : path ∈ element.paths) :
    IsFieldPath path := by
  obtain ⟨relative, hrelative, rfl⟩ := List.mem_map.mp h
  exact element.branch.isFieldPath_path (Element.isPathText_of_mem_fields hrelative)

theorem paths_ne_nil (element : Element) : element.paths ≠ [] := by
  cases element <;> exact List.cons_ne_nil _ _

theorem isPathText_of_mem_derivationBlocks {block : String} (h : block ∈ derivationBlocks) :
    IsPathText block := by
  have hall : ∀ block ∈ derivationBlocks, IsPathText block := by
    simp only [derivationBlocks, List.forall_mem_cons, List.not_mem_nil, false_implies,
      implies_true, and_true]
    exact ⟨isPathText_ofList (by decide), isPathText_ofList (by decide),
      isPathText_ofList (by decide), isPathText_ofList (by decide), isPathText_ofList (by decide)⟩
  exact hall block h

theorem isFieldPath_derivationBlock {block : String} (h : block ∈ derivationBlocks) :
    IsFieldPath (Branch.extra.path block) :=
  Branch.extra.isFieldPath_path (isPathText_of_mem_derivationBlocks h)

theorem isFieldPath_derivationParent {block : String} (h : block ∈ derivationBlocks) :
    IsFieldPath (Branch.extra.path (block ++ "/Parent")) :=
  Branch.extra.isFieldPath_path
    ((isPathText_of_mem_derivationBlocks h).append (isPathText_ofList (by decide)))

theorem isFieldPath_idPath : IsFieldPath idPath :=
  Branch.base.isFieldPath_path (isPathText_ofList (by decide))

theorem isFieldPath_releaseDatePath : IsFieldPath releaseDatePath :=
  Branch.base.isFieldPath_path (isPathText_ofList (by decide))

theorem isFieldPath_lengthPath : IsFieldPath lengthPath :=
  Branch.base.isFieldPath_path (isPathText_ofList (by decide))

end RegistryClient.Query
