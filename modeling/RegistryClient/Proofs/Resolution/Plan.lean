import RegistryClient.Proofs.Identifier
import RegistryClient.Proofs.Outcome
import RegistryClient.Proofs.Text.Cut
import RegistryClient.Proofs.Text.Percent
import RegistryClient.Resolution.Plan

/-!
# Plans and what they are made for

Making a plan checks the identifier, then the name of the view, then the table of views.
`make_exactly` compares this with a list of what each kind of record offers (`Offers`): there is
a plan exactly for what is offered, and otherwise the fault tells whether the identifier was
wrong or the view.

The form of an identifier leaves it three authorities, and each of them is the authority of a
kind of records, so the kind is always found.  The form also leaves it no character that is
escaped in a path, except for one slash.  So a path can be taken apart again: its first word
tells the kind of record, the identifier ends before the first question mark and is read back
from its segment, and what is left is the name of the view.
-/

namespace RegistryClient.Resolution

/-! ## Kinds of records -/

namespace RecordKind

/-- The authority of the identifiers of a kind of records. -/
def authority : RecordKind → String
  | .content => "10.5240"
  | .party => "10.5237"
  | .service => "10.5239"

theorem authority_injective {first second : RecordKind}
    (h : first.authority = second.authority) : first = second := by
  cases first <;> cases second <;> first | rfl | exact absurd h (by decide)

theorem exists_authority_eq {id : String} (hvalid : Identifier.isValid id = true) :
    ∃ kind : RecordKind, Identifier.authority id = kind.authority := by
  rcases Identifier.authority_cases hvalid with hcontent | hparty | hservice
  · exact ⟨.content, hcontent⟩
  · exact ⟨.party, hparty⟩
  · exact ⟨.service, hservice⟩

theorem ofIdentifier_of_authority {id : String} {kind : RecordKind}
    (hvalid : Identifier.isValid id = true) (hkind : Identifier.authority id = kind.authority) :
    ofIdentifier id = .ok kind := by
  rw [ofIdentifier, if_pos hvalid, hkind]
  cases kind <;> rfl

theorem ofIdentifier_of_not_isValid {id : String} (h : Identifier.isValid id = false) :
    ofIdentifier id = .error (.invalidIdentifier id) := by
  rw [ofIdentifier, h]
  rfl

theorem ofIdentifier_eq_ok_iff {id : String} {kind : RecordKind} :
    ofIdentifier id = .ok kind ↔
      Identifier.isValid id = true ∧ Identifier.authority id = kind.authority := by
  constructor
  · intro h
    cases hvalid : Identifier.isValid id with
    | false =>
        rw [ofIdentifier_of_not_isValid hvalid] at h
        cases h
    | true =>
        obtain ⟨other, hother⟩ := exists_authority_eq hvalid
        rw [ofIdentifier_of_authority hvalid hother, Except.ok.injEq] at h
        exact ⟨rfl, h ▸ hother⟩
  · rintro ⟨hvalid, hkind⟩
    exact ofIdentifier_of_authority hvalid hkind

/-- An identifier of an authority without records is not valid to begin with. -/
theorem ofIdentifier_eq_error_iff {id : String} {fault : PlanFault} :
    ofIdentifier id = .error fault ↔
      Identifier.isValid id = false ∧ fault = .invalidIdentifier id := by
  cases hvalid : Identifier.isValid id with
  | false =>
      rw [ofIdentifier_of_not_isValid hvalid, Except.error.injEq]
      exact ⟨fun h => ⟨rfl, h.symm⟩, fun h => h.2.symm⟩
  | true =>
      obtain ⟨kind, hkind⟩ := exists_authority_eq hvalid
      simp [ofIdentifier_of_authority hvalid hkind]

end RecordKind

/-! ## Views -/

namespace View

theorem name_injective {first second : View} (h : first.name = second.name) : first = second := by
  cases first <;> cases second <;> first | rfl | exact absurd h (by decide)

theorem ofName_name (view : View) : ofName view.name = .ok view := by
  cases view <;> rfl

theorem ofName_of_ne {name : String} (h : ∀ view : View, view.name ≠ name) :
    ofName name = .error (.unknownView name) := by
  have hnone : all.find? (fun view => view.name = name) = none := by
    rw [List.find?_eq_none]
    intro view _
    simpa using h view
  rw [ofName, hnone]

theorem ofName_eq_ok_iff {name : String} {view : View} :
    ofName name = .ok view ↔ view.name = name := by
  constructor
  · intro h
    by_cases hsome : ∃ other : View, other.name = name
    · obtain ⟨other, rfl⟩ := hsome
      rw [ofName_name, Except.ok.injEq] at h
      rw [h]
    · rw [ofName_of_ne fun other hother => hsome ⟨other, hother⟩] at h
      cases h
  · rintro rfl
    exact ofName_name view

end View

/-- The table has an entry for each view that a kind of records offers, and no other. -/
theorem Extraction.isSome_of?_iff (kind : RecordKind) (view : View) :
    (Extraction.of? kind view).isSome = true ↔ view ∈ kind.views := by
  cases kind <;> cases view <;> decide

/-! ## Making a plan -/

/-- The record that the identifier names can be resolved to a view of this name. -/
def Offers (id viewName : String) : Prop :=
  ∃ (kind : RecordKind) (view : View), Identifier.authority id = kind.authority ∧
    view ∈ kind.views ∧ view.name = viewName

namespace Plan

section Make

variable {id : String} {kind : RecordKind} (hvalid : Identifier.isValid id = true)
  (hkind : Identifier.authority id = kind.authority)
include hvalid hkind

theorem make_of_some {view : View} {extraction : Extraction}
    (h : Extraction.of? kind view = some extraction) :
    make id view.name = .ok ⟨id, kind, view, pathOf kind id view, extraction⟩ := by
  rw [make, RecordKind.ofIdentifier_of_authority hvalid hkind, View.ofName_name]
  simp only [bind, Except.bind, h]
  rfl

theorem make_of_none {view : View} (h : Extraction.of? kind view = none) :
    make id view.name = .error (.viewNotOffered view kind) := by
  rw [make, RecordKind.ofIdentifier_of_authority hvalid hkind, View.ofName_name]
  simp only [bind, Except.bind, h]

theorem make_of_unknown {viewName : String} (h : ∀ view : View, view.name ≠ viewName) :
    make id viewName = .error (.unknownView viewName) := by
  rw [make, RecordKind.ofIdentifier_of_authority hvalid hkind, View.ofName_of_ne h]
  rfl

end Make

theorem make_of_not_isValid {id : String} (h : Identifier.isValid id = false)
    (viewName : String) : make id viewName = .error (.invalidIdentifier id) := by
  rw [make, RecordKind.ofIdentifier_of_not_isValid h]
  rfl

theorem make_eq_ok_iff {id viewName : String} {plan : Plan} :
    make id viewName = .ok plan ↔ Identifier.isValid id = true ∧
      ∃ (kind : RecordKind) (view : View) (extraction : Extraction),
        Identifier.authority id = kind.authority ∧ view.name = viewName ∧
          Extraction.of? kind view = some extraction ∧
            plan = ⟨id, kind, view, pathOf kind id view, extraction⟩ := by
  constructor
  · intro h
    obtain ⟨kind, hkind, hmore⟩ := Outcome.bind_eq_ok_iff.mp h
    obtain ⟨view, hview, hread⟩ := Outcome.bind_eq_ok_iff.mp hmore
    obtain ⟨hvalid, hauthority⟩ := RecordKind.ofIdentifier_eq_ok_iff.mp hkind
    cases hextraction : Extraction.of? kind view with
    | none =>
        simp only [hextraction] at hread
        cases hread
    | some extraction =>
        simp only [hextraction] at hread
        exact ⟨hvalid, kind, view, extraction, hauthority, View.ofName_eq_ok_iff.mp hview,
          hextraction, (Except.ok.inj hread).symm⟩
  · rintro ⟨hvalid, kind, view, extraction, hkind, rfl, hextraction, rfl⟩
    exact make_of_some hvalid hkind hextraction

/-- A request for a view fails at its first part that is wrong, and has a plan if none is. -/
theorem make_cases (id viewName : String) :
    (Identifier.isValid id = false ∧ make id viewName = .error (.invalidIdentifier id)) ∨
      (Identifier.isValid id = true ∧ ¬ Offers id viewName ∧
        ∃ fault, make id viewName = .error fault ∧ fault.toFault.kind = .unsupportedOperation) ∨
        Identifier.isValid id = true ∧ Offers id viewName ∧
          ∃ plan, make id viewName = .ok plan := by
  cases hvalid : Identifier.isValid id with
  | false => exact .inl ⟨rfl, make_of_not_isValid hvalid viewName⟩
  | true =>
      obtain ⟨kind, hkind⟩ := RecordKind.exists_authority_eq hvalid
      have hsame : ∀ {other : RecordKind}, Identifier.authority id = other.authority →
          other = kind :=
        fun hother => RecordKind.authority_injective (hother.symm.trans hkind)
      right
      by_cases hknown : ∃ view : View, view.name = viewName
      · obtain ⟨view, rfl⟩ := hknown
        cases hextraction : Extraction.of? kind view with
        | some extraction =>
            have hview : view ∈ kind.views :=
              (Extraction.isSome_of?_iff kind view).mp (hextraction ▸ rfl)
            exact .inr ⟨rfl, ⟨kind, view, hkind, hview, rfl⟩, _,
              make_of_some hvalid hkind hextraction⟩
        | none =>
            refine .inl ⟨rfl, ?_, _, make_of_none hvalid hkind hextraction, rfl⟩
            rintro ⟨other, offered, hother, hmem, hname⟩
            obtain rfl := hsame hother
            obtain rfl := View.name_injective hname
            rw [← Extraction.isSome_of?_iff, hextraction] at hmem
            cases hmem
      · have hunknown : ∀ view : View, view.name ≠ viewName :=
          fun view hview => hknown ⟨view, hview⟩
        refine .inl ⟨rfl, ?_, _, make_of_unknown hvalid hkind hunknown, rfl⟩
        rintro ⟨-, view, -, -, hname⟩
        exact hunknown view hname

/-! ## The path of a plan -/

/-- The characters of an identifier in a path: the slash is escaped, the others are not. -/
def escaped (id : String) : List Char :=
  id.toList.flatMap fun c => if c = '/' then ['%', '2', 'F'] else [c]

theorem toList_percentEncode_of_isValid {id : String} (hvalid : Identifier.isValid id = true) :
    (Text.percentEncode id).toList = escaped id := by
  rw [Text.percentEncode, String.toList_ofList, escaped]
  refine List.flatMap_congr fun c hc => ?_
  by_cases hslash : c = '/'
  · subst hslash
    rfl
  · have hplace := Identifier.identifierPlace_of_mem hvalid hc
    have hplain : Text.isUnreserved c = true := by
      simp only [Identifier.identifierPlace, Bool.or_eq_true, beq_iff_eq] at hplace
      simp only [Text.isUnreserved, Bool.or_eq_true, beq_iff_eq]
      tauto
    rw [if_neg hslash, Text.percentChar, if_pos hplain]

/-- The segment ends before the question mark. -/
theorem notMem_escaped {id : String} (hvalid : Identifier.isValid id = true) :
    '?' ∉ escaped id := by
  intro hmem
  obtain ⟨c, hc, hmark⟩ := List.mem_flatMap.mp hmem
  by_cases hslash : c = '/'
  · rw [if_pos hslash] at hmark
    exact absurd hmark (by decide)
  · rw [if_neg hslash, List.mem_singleton] at hmark
    have hplace := Identifier.identifierPlace_of_mem hvalid hc
    rw [← hmark] at hplace
    exact absurd hplace (by decide)

theorem toList_pathOf {id : String} (hvalid : Identifier.isValid id = true) (kind : RecordKind)
    (view : View) : (pathOf kind id view).toList =
      kind.resolvePath.toList ++ (escaped id ++ '?' :: "type=".toList ++ view.name.toList) := by
  have hquestion : "?type=".toList = '?' :: "type=".toList := rfl
  rw [pathOf, String.toList_append, String.toList_append, String.toList_append,
    toList_percentEncode_of_isValid hvalid, hquestion]
  simp only [List.append_assoc, List.cons_append]

/-- The kinds of records are told apart by the first words of their paths. -/
theorem kind_eq_of_resolvePath {first second : RecordKind} {rest others : List Char}
    (h : first.resolvePath.toList ++ rest = second.resolvePath.toList ++ others) :
    first = second := by
  have htake : ∀ (kind : RecordKind) (after : List Char),
      (kind.resolvePath.toList ++ after).take 7 = kind.resolvePath.toList.take 7 := by
    intro kind after
    refine List.take_append_of_le_length ?_
    cases kind <;> decide
  have hstart : first.resolvePath.toList.take 7 = second.resolvePath.toList.take 7 := by
    rw [← htake first rest, h, htake]
  cases first <;> cases second <;> first | rfl | exact absurd hstart (by decide)

/-- Of two identifiers with the same segment, one is the other. -/
theorem eq_of_escaped_eq {first second : String} (hfirst : Identifier.isValid first = true)
    (hsecond : Identifier.isValid second = true) (h : escaped first = escaped second) :
    first = second := by
  rw [← toList_percentEncode_of_isValid hfirst, ← toList_percentEncode_of_isValid hsecond] at h
  calc first
      = Text.decodeBytes (Text.percentDecode (Text.percentEncode first).toList) :=
        (Text.decodeBytes_percentDecode first).symm
    _ = Text.decodeBytes (Text.percentDecode (Text.percentEncode second).toList) := by rw [h]
    _ = second := Text.decodeBytes_percentDecode second

theorem eq_of_pathOf_eq {id other : String} {kind otherKind : RecordKind} {view otherView : View}
    (hvalid : Identifier.isValid id = true) (hother : Identifier.isValid other = true)
    (h : pathOf kind id view = pathOf otherKind other otherView) :
    id = other ∧ view.name = otherView.name := by
  have hpaths := congrArg String.toList h
  rw [toList_pathOf hvalid, toList_pathOf hother] at hpaths
  obtain rfl := kind_eq_of_resolvePath hpaths
  have hcut := congrArg (Text.cutAt? ('?' :: "type=".toList)) (List.append_cancel_left hpaths)
  rw [Text.cutAt?_of_notMem _ _ (notMem_escaped hvalid),
    Text.cutAt?_of_notMem _ _ (notMem_escaped hother)] at hcut
  obtain ⟨hsegment, hview⟩ := Prod.mk.inj (Option.some.inj hcut)
  exact ⟨eq_of_escaped_eq hvalid hother hsegment, String.toList_inj.mp hview⟩

/-! ## What a plan is made for -/

/-- The plan is for this view of the record with this identifier. -/
structure IsFor (plan : Plan) (id viewName : String) : Prop where
  id_eq : plan.id = id
  kind : Identifier.authority id = plan.kind.authority
  view : plan.view ∈ plan.kind.views ∧ plan.view.name = viewName
  /-- The identifier is one segment of the path and is read back from it. -/
  path : ∃ segment, plan.path = plan.kind.resolvePath ++ segment ++ "?type=" ++ viewName ∧
    segment.toList = escaped id ∧ Text.decodeBytes (Text.percentDecode segment.toList) = id
  oneSlash : id.toList.count '/' = 1
  /-- Plans for anything else have other paths. -/
  unique : ∀ {otherId otherView : String} {other : Plan}, make otherId otherView = .ok other →
    other.path = plan.path → otherId = id ∧ otherView = viewName

theorem isFor_of_make {id viewName : String} {plan : Plan} (h : make id viewName = .ok plan) :
    plan.IsFor id viewName := by
  obtain ⟨hvalid, kind, view, extraction, hkind, rfl, hextraction, rfl⟩ := make_eq_ok_iff.mp h
  have hview : view ∈ kind.views :=
    (Extraction.isSome_of?_iff kind view).mp (hextraction ▸ rfl)
  refine ⟨rfl, hkind, ⟨hview, rfl⟩, ⟨Text.percentEncode id, rfl,
    toList_percentEncode_of_isValid hvalid, Text.decodeBytes_percentDecode id⟩,
    Identifier.count_slash_of_isValid hvalid, ?_⟩
  intro otherId otherView other hother hpath
  obtain ⟨hotherValid, _, _, _, -, rfl, -, rfl⟩ := make_eq_ok_iff.mp hother
  exact eq_of_pathOf_eq hotherValid hvalid hpath

/-- **A plan is made exactly for the views that a record has**, and its path tells which record
and which view.  What is no identifier is a fault of the input, whatever the view; the other
requests are not supported.  No identifier has an authority without records. -/
theorem make_exactly (id viewName : String) :
    ((∃ plan, make id viewName = .ok plan) ↔
        Identifier.isValid id = true ∧ Offers id viewName) ∧
      ((∃ fault, make id viewName = .error fault ∧ fault.toFault.kind = .invalidInput) ↔
        Identifier.isValid id = false) ∧
      ((∃ fault, make id viewName = .error fault ∧ fault.toFault.kind = .unsupportedOperation) ↔
        Identifier.isValid id = true ∧ ¬ Offers id viewName) ∧
      (∀ authority, RecordKind.ofIdentifier id ≠ .error (.unsupportedAuthority authority)) ∧
      ∀ plan, make id viewName = .ok plan → plan.IsFor id viewName := by
  have hreached : ∀ authority,
      RecordKind.ofIdentifier id ≠ .error (.unsupportedAuthority authority) := by
    intro authority h
    cases (RecordKind.ofIdentifier_eq_error_iff.mp h).2
  have hkind : (PlanFault.invalidIdentifier id).toFault.kind = .invalidInput := rfl
  refine ⟨?_, ?_, ?_, hreached, fun plan => isFor_of_make⟩
  all_goals
    rcases make_cases id viewName with ⟨hvalid, hmake⟩ | ⟨hvalid, hoffers, fault, hmake, hfault⟩ |
      ⟨hvalid, hoffers, plan, hmake⟩
    · simp [hvalid, hmake, hkind]
    · simp [hvalid, hoffers, hmake, hfault]
    · simp [hvalid, hoffers, hmake]

theorem make_exactly_party :
    (∃ plan, make "10.5237/9F2B-A0E3" "DOIKernel" = .ok plan ∧
        plan.IsFor "10.5237/9F2B-A0E3" "DOIKernel" ∧
        plan.path = "/EIDR/party/resolve/10.5237%2F9F2B-A0E3?type=DOIKernel") ∧
      (∃ fault, make "10.5237/9F2B-A0E3" "Simple" = .error fault ∧
        fault.toFault.kind = .unsupportedOperation) ∧
      ∃ fault, make "10.5238/9F2B-A0E3" "Simple" = .error fault ∧
        fault.toFault.kind = .invalidInput := by
  have hvalid : Identifier.isValid "10.5237/9F2B-A0E3" = true := by decide
  have hkind : Identifier.authority "10.5237/9F2B-A0E3" = RecordKind.party.authority := by decide
  have hnotOffered : ¬ Offers "10.5237/9F2B-A0E3" "Simple" := by
    rintro ⟨kind, view, hother, hview, hname⟩
    obtain rfl := RecordKind.authority_injective (hkind.symm.trans hother)
    have hnone : ∀ view ∈ RecordKind.party.views, view.name ≠ "Simple" := by decide
    exact hnone view hview hname
  obtain ⟨hplan, -, -, -, hfor⟩ := make_exactly "10.5237/9F2B-A0E3" "DOIKernel"
  obtain ⟨plan, hmake⟩ := hplan.mpr ⟨hvalid, .party, .doiKernel, hkind, by decide, rfl⟩
  have hpath : (make "10.5237/9F2B-A0E3" "DOIKernel").map Plan.path =
      .ok "/EIDR/party/resolve/10.5237%2F9F2B-A0E3?type=DOIKernel" := by decide +kernel
  rw [hmake] at hpath
  refine ⟨⟨plan, hmake, hfor plan hmake, Except.ok.inj hpath⟩, ?_, ?_⟩
  · exact (make_exactly "10.5237/9F2B-A0E3" "Simple").2.2.1.mpr ⟨hvalid, hnotOffered⟩
  · exact (make_exactly "10.5238/9F2B-A0E3" "Simple").2.1.mpr (by decide)

end Plan

end RegistryClient.Resolution
