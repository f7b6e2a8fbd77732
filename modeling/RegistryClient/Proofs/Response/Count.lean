import RegistryClient.Proofs.Response.Verdict
import RegistryClient.Proofs.Text.Digit

/-!
# The count of all matches

The count of a page is written as a string, as one of the kinds of JSON numbers, or as either of
these in a record, and reaches its reader as a text.  `IsCount` says which texts count, and
`isCount_iff` the same in terms of numerals: nothing but zeros and a plus sign may stand in front
of the numeral of a count, and the number has to fit in 64 bits.  `HasCount` says which values
count, without going through texts: of the numbers these are the integers that fit, since a negative
integer has a sign in its text, and a double-precision number always has a point or an exponent.

`queryPage_count` is about the page: with a count it is a page of exactly so many matches, and
without one the response is not understood.
-/

namespace RegistryClient.Response

variable {text : String} {value : Json} {total : Nat}

/-! ## Texts -/

/-- The text is the decimal numeral of the number, perhaps with zeros in front of it and a plus sign
in front of these. -/
def IsNumeralOf (text : String) (number : Nat) : Prop :=
  ∃ zeros, text.toList = List.replicate zeros '0' ++ Nat.toDigits 10 number ∨
    text.toList = '+' :: (List.replicate zeros '0' ++ Nat.toDigits 10 number)

theorem isCount_iff : IsCount text total ↔ IsNumeralOf text total ∧ total < Nat.pow 2 64 := by
  constructor
  · rintro ⟨digits, hne, hdigits, htext, rfl, hfits⟩
    obtain ⟨zeros, hzeros⟩ := Text.exists_zeros_append_toDigits hne hdigits
    refine ⟨⟨zeros, ?_⟩, hfits⟩
    rwa [← hzeros]
  · rintro ⟨⟨zeros, htext⟩, hfits⟩
    have hne : List.replicate zeros '0' ++ Nat.toDigits 10 total ≠ [] := by simp
    exact ⟨_, hne, fun c => Text.isDigit_of_mem_zeros_append, htext,
      (Text.ofDigitChars_zeros_append zeros total).symm, hfits⟩

/-- A count has nothing but digits behind its sign. -/
theorem IsCount.eq_plus_or_isDigit (h : IsCount text total) {c : Char} (hc : c ∈ text.toList) :
    c = '+' ∨ c.isDigit = true := by
  obtain ⟨digits, -, hdigits, hplain | hsigned, -⟩ := h
  · rw [hplain] at hc
    exact .inr (hdigits c hc)
  · rw [hsigned] at hc
    rcases List.mem_cons.mp hc with rfl | hdigit
    · exact .inl rfl
    · exact .inr (hdigits c hdigit)

theorem not_isCount_of_mem {c : Char} (hc : c ∈ text.toList) (hplus : c ≠ '+')
    (hdigit : c.isDigit = false) : ¬ IsCount text total := by
  intro h
  rcases h.eq_plus_or_isDigit hc with rfl | htrue
  · exact hplus rfl
  · rw [hdigit] at htrue
    cases htrue

theorem isCount_toDigits_iff {number : Nat} :
    IsCount (String.ofList (Nat.toDigits 10 number)) total ↔
      number = total ∧ total < Nat.pow 2 64 := by
  constructor
  · rintro ⟨digits, -, hdigits, hplain | hsigned, rfl, hfits⟩
    · rw [← hplain, String.toList_ofList, Nat.ofDigitChars_ten_toDigits] at hfits ⊢
      exact ⟨rfl, hfits⟩
    · rw [String.toList_ofList] at hsigned
      exact absurd hsigned (ne_plus_cons fun c => Text.isDigit_of_mem_toDigits)
  · rintro ⟨rfl, hfits⟩
    exact isCount_iff.mpr ⟨⟨0, .inl String.toList_ofList⟩, hfits⟩

/-! ## Numbers -/

theorem point_mem_positional (digits : List Char) (power : Int) :
    '.' ∈ Number.positional digits power := by
  simp only [Number.positional]
  split
  · simp
  · split <;> simp

theorem e_mem_exponential (digits : List Char) (power : Int) :
    'e' ∈ Number.exponential digits power := by
  simp [Number.exponential]

theorem point_or_e_mem_magnitudeChars (magnitude : Decimal.Magnitude) :
    '.' ∈ Number.magnitudeChars magnitude ∨ 'e' ∈ Number.magnitudeChars magnitude := by
  simp only [Number.magnitudeChars]
  split
  · exact .inl (point_mem_positional _ _)
  · exact .inr (e_mem_exponential _ _)

/-- A double-precision number has a point or an exponent in its text, also if it is whole. -/
theorem not_isCount_double {number : Decimal.Double} :
    ¬ IsCount (Number.double number).text total := by
  have hmem : ∀ c ∈ Number.magnitudeChars number.magnitude,
      c ∈ (Number.double number).text.toList := by
    intro c hc
    rw [Number.text, String.toList_ofList, Number.chars]
    split
    · exact List.mem_cons_of_mem _ hc
    · exact hc
  rcases point_or_e_mem_magnitudeChars number.magnitude with hpoint | hexponent
  · exact not_isCount_of_mem (hmem '.' hpoint) (by decide) (by decide)
  · exact not_isCount_of_mem (hmem 'e' hexponent) (by decide) (by decide)

theorem isCount_integer_iff {number : Int} :
    IsCount (Number.integer number).text total ↔ number = total ∧ total < Nat.pow 2 64 := by
  rw [Number.text, Number.chars]
  by_cases hnegative : number < 0
  · rw [if_pos hnegative]
    have hsign : '-' ∈ (String.ofList ('-' :: Nat.toDigits 10 number.natAbs)).toList := by
      rw [String.toList_ofList]
      exact List.mem_cons_self ..
    constructor
    · intro h
      exact absurd h (not_isCount_of_mem hsign (by decide) (by decide))
    · rintro ⟨rfl, -⟩
      exact absurd hnegative (Int.not_lt.mpr (Int.natCast_nonneg total))
  · rw [if_neg hnegative, isCount_toDigits_iff]
    obtain ⟨natural, rfl⟩ := Int.eq_ofNat_of_zero_le (Int.not_lt.mp hnegative)
    rw [Int.natAbs_natCast, Int.natCast_inj]

/-! ## Values -/

/-- The value is a count: a text that reads as one, an integer that fits in 64 bits, or a record
whose value is a count. -/
inductive HasCount : Json → Nat → Prop where
  | string {text : String} {total : Nat} : IsCount (Text.trim text) total →
      HasCount (.string text) total
  | integer {total : Nat} : total < Nat.pow 2 64 → HasCount (.number (.integer total)) total
  | wrapped {fields : Fields} {value : Json} {total : Nat} : fields.get? "value" = some value →
      HasCount value total → HasCount (.object fields) total

theorem HasText.hasCount (h : HasText value text) (hcount : IsCount text total) :
    HasCount value total := by
  induction h with
  | string given => exact .string hcount
  | number number =>
      cases number with
      | integer number =>
          obtain ⟨rfl, hfits⟩ := isCount_integer_iff.mp hcount
          exact .integer hfits
      | double number => exact absurd hcount not_isCount_double
  | true => exact absurd hcount (not_isCount_of_mem (c := 't') (by decide) (by decide) (by decide))
  | false => exact absurd hcount (not_isCount_of_mem (c := 'f') (by decide) (by decide) (by decide))
  | wrapped hvalue _ ih => exact .wrapped hvalue (ih hcount)

theorem exists_hasText_and_isCount_iff :
    (∃ text, HasText value text ∧ IsCount text total) ↔ HasCount value total := by
  constructor
  · rintro ⟨text, htext, hcount⟩
    exact htext.hasCount hcount
  · intro h
    induction h with
    | string hcount => exact ⟨_, .string _, hcount⟩
    | integer hfits => exact ⟨_, .number _, isCount_integer_iff.mpr ⟨rfl, hfits⟩⟩
    | wrapped hvalue _ ih =>
        obtain ⟨text, htext, hcount⟩ := ih
        exact ⟨text, .wrapped hvalue htext, hcount⟩

/-! ## The page -/

/-- The query results have a value for their count, and the text of it counts. -/
def Counted (results : Fields) (total : Nat) : Prop :=
  ∃ value text, results.get? "TotalMatches" = some value ∧ HasText value text ∧ IsCount text total

/-- The count that is read from query results. -/
def countIn? (results : Fields) : Option Nat :=
  ((results.get? "TotalMatches").bind scalarText?).bind count?

theorem countIn?_eq_some_iff {results : Fields} :
    countIn? results = some total ↔ Counted results total := by
  simp only [countIn?, Counted, Option.bind_eq_some_iff, scalarText?_eq_some_iff,
    count?_eq_some_iff]
  constructor
  · rintro ⟨text, ⟨value, hvalue, htext⟩, hcount⟩
    exact ⟨value, text, hvalue, htext, hcount⟩
  · rintro ⟨value, text, hvalue, htext, hcount⟩
    exact ⟨text, ⟨value, hvalue, htext⟩, hcount⟩

section Page

variable {document : Json} {results : Fields}
  (hstatus : checkStatus (envelope document) = .ok ())
  (hresults : (envelope document).get? "QueryResults" = some (.object results))
include hstatus hresults

theorem queryPage_of_countIn? (hcount : countIn? results = some total) (format : ResultFormat) :
    queryPage format document =
      .ok ⟨total, (toList (results.get? format.listKey)).map resultOf⟩ := by
  obtain ⟨value, text, hvalue, htext, hcounts⟩ := countIn?_eq_some_iff.mp hcount
  exact queryPage_eq_ok_iff.mpr ⟨checkStatus_eq_ok_iff.mp hstatus, results, value, text, hresults,
    hvalue, htext.scalarText?_eq, hcounts, rfl⟩

theorem queryPage_of_countIn?_eq_none (hcount : countIn? results = none) (format : ResultFormat) :
    queryPage format document = .error ResponseFault.missingCount.toFault := by
  refine Outcome.bind_eq_error_iff.mpr (.inr ⟨(), hstatus, ?_⟩)
  rw [countIn?] at hcount
  simp only [bind_fields?_eq_some_iff.mpr hresults, hcount]
  rfl

/-- The count of the page depends on nothing but the count that is read from the query results. -/
theorem map_totalMatches_queryPage (format : ResultFormat) :
    (queryPage format document).map QueryPage.totalMatches =
      (countIn? results).elim (.error ResponseFault.missingCount.toFault) .ok := by
  cases hcount : countIn? results with
  | none =>
      rw [queryPage_of_countIn?_eq_none hstatus hresults hcount]
      rfl
  | some total =>
      rw [queryPage_of_countIn? hstatus hresults hcount]
      rfl

/-- **The count of a page is read exactly, or the response is not understood.**  A page has so many
matches exactly if the text of their count is a numeral of this number, which then fits in 64 bits;
any other text, and anything without a text, is a missing count.  Neither the matches that are
listed nor what is asked of them matters. -/
theorem queryPage_count :
    (∀ format total, (queryPage format document).map QueryPage.totalMatches = .ok total ↔
        Counted results total) ∧
      (∀ format, queryPage format document = .error (.unrecognizedResponse
          "query response is missing a numeric 'TotalMatches'") ↔
        ∀ total, ¬ Counted results total) ∧
      (∀ text total, IsCount text total ↔ IsNumeralOf text total ∧ total < Nat.pow 2 64) ∧
      (∀ value total, (∃ text, HasText value text ∧ IsCount text total) ↔ HasCount value total) ∧
      ∀ (other : Json) (others : Fields), checkStatus (envelope other) = .ok () →
        (envelope other).get? "QueryResults" = some (.object others) →
        others.get? "TotalMatches" = results.get? "TotalMatches" → ∀ format otherFormat,
          (queryPage otherFormat other).map QueryPage.totalMatches =
            (queryPage format document).map QueryPage.totalMatches := by
  refine ⟨fun format total => ?_, fun format => ?_, fun text total => isCount_iff,
    fun value total => exists_hasText_and_isCount_iff, ?_⟩
  · rw [map_totalMatches_queryPage hstatus hresults, ← countIn?_eq_some_iff]
    cases countIn? results with
    | none => simp
    | some counted => simp
  · simp only [← countIn?_eq_some_iff, ← Option.eq_none_iff_forall_ne_some]
    constructor
    · intro h
      cases hcount : countIn? results with
      | none => rfl
      | some total =>
          rw [queryPage_of_countIn? hstatus hresults hcount] at h
          cases h
    · intro hcount
      exact queryPage_of_countIn?_eq_none hstatus hresults hcount format
  · intro other others hotherStatus hothers hsame format otherFormat
    rw [map_totalMatches_queryPage hstatus hresults,
      map_totalMatches_queryPage hotherStatus hothers, countIn?, countIn?, hsame]

end Page

/-- A response with this for its count. -/
def countedAs (count : Json) : Json :=
  .object [("Response", .object [("QueryResults", .object [("TotalMatches", count)]),
    ("Status", .object [("Code", .string "0")])])]

/-- The greatest count, with a sign and zeros and wrapped twice, and the number behind it. -/
theorem queryPage_count_greatest :
    (queryPage .idOnly (countedAs (.object [("value", .object
        [("value", .string " +0018446744073709551615\n")])]))).map QueryPage.totalMatches =
        .ok 18446744073709551615 ∧
      ∀ format, queryPage format (countedAs (.string "18446744073709551616")) =
        .error (.unrecognizedResponse "query response is missing a numeric 'TotalMatches'") := by
  have hstatus : ∀ count, checkStatus (envelope (countedAs count)) = .ok () := fun _ => rfl
  have hresults : ∀ count, (envelope (countedAs count)).get? "QueryResults" =
      some (.object [("TotalMatches", count)]) := fun _ => rfl
  have hgreatest : countIn? [("TotalMatches", .object [("value", .object
      [("value", .string " +0018446744073709551615\n")])])] = some 18446744073709551615 := by
    decide +kernel
  have hnext : countIn? [("TotalMatches", .string "18446744073709551616")] = none := by
    decide +kernel
  constructor
  · exact ((queryPage_count (hstatus _) (hresults _)).1 _ _).mpr
      (countIn?_eq_some_iff.mp hgreatest)
  · intro format
    apply ((queryPage_count (hstatus _) (hresults _)).2.1 format).mpr
    intro total hcounted
    rw [countIn?_eq_some_iff.mpr hcounted] at hnext
    cases hnext

end RegistryClient.Response
