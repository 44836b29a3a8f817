/-
# `SystemdMonitoring.Mcp.Versions` — the versions that are negotiated

`negotiate_protocol_version` trims what the client offers, asks the protocol
library whether it knows that version, and otherwise reads a date.  The reader
counts bytes before it looks at characters; since digits and hyphens are the only
characters it lets pass, it accepts dates of four, two and two digits and nothing
else (`parseProtocolVersionDate_eq_some_iff`).

As long as the library knows no version from before the oldest supported one,
whatever is later than an accepted date is accepted, and "later" may be read off
the texts (`negotiateProtocolVersion_exact`).
-/
import SystemdMonitoring.Lib.Gregorian
import SystemdMonitoring.Mcp.Server

namespace SystemdMonitoring

open Lib Lib.Text

/-! ## Dates -/

/-- Three parts between two hyphens. -/
theorem split_eq_three_iff {text : String} {year month day : String} :
    split '-' text = [year, month, day]
      ↔ text.toList = year.toList ++ '-' :: (month.toList ++ '-' :: day.toList)
        ∧ '-' ∉ year.toList ∧ '-' ∉ month.toList ∧ '-' ∉ day.toList := by
  have hparts : split '-' text = [year, month, day]
      ↔ splitChars '-' text.toList = [year.toList, month.toList, day.toList] := by
    have hthree : [year, month, day]
        = [year.toList, month.toList, day.toList].map String.ofList := by simp
    rw [split, hthree]
    exact (List.map_injective_iff.mpr fun _ _ => String.ofList_injective).eq_iff
  rw [hparts, splitChars_eq_cons_cons_iff]
  constructor
  · rintro ⟨rest, htext, hyear, hrest⟩
    obtain ⟨last, rfl, hmonth, hlast⟩ := splitChars_eq_cons_cons_iff.mp hrest
    obtain ⟨rfl, hday⟩ := splitChars_eq_singleton_iff.mp hlast
    exact ⟨htext, hyear, hmonth, hday⟩
  · rintro ⟨htext, hyear, hmonth, hday⟩
    exact ⟨_, htext, hyear, splitChars_eq_cons_cons_iff.mpr
      ⟨_, rfl, hmonth, splitChars_eq_singleton_iff.mpr ⟨rfl, hday⟩⟩⟩

/-- The bytes of digits are as many as the digits. -/
theorem utf8ByteSize_of_digits {part : String}
    (h : ∀ c ∈ part.toList, isAsciiDigit c = true) : part.utf8ByteSize = part.toList.length := by
  refine utf8ByteSize_of_ascii fun c hc => ?_
  have hc := toNat_of_isAsciiDigit (h c hc)
  omega

theorem utf8ByteSize_eq_ten {text year month day : String}
    (htext : text.toList = year.toList ++ '-' :: (month.toList ++ '-' :: day.toList))
    (hyear : year.utf8ByteSize = 4) (hmonth : month.utf8ByteSize = 2)
    (hday : day.utf8ByteSize = 2) : text.utf8ByteSize = 10 := by
  have hjoined : text = year ++ "-" ++ (month ++ "-" ++ day) := by
    rw [← String.toList_inj, htext]
    simp
  have hhyphen : "-".utf8ByteSize = 1 := by decide
  simp only [hjoined, String.utf8ByteSize_append, hyear, hmonth, hday, hhyphen]

/-- What the reader has accepted is written as a date. -/
theorem writesDate_of_parse {text : String} {date : Date}
    (h : parseProtocolVersionDate text = some date) : WritesDate text date ∧ date.IsValid := by
  rw [parseProtocolVersionDate] at h
  split at h
  · cases h
  · split at h
    · next year month day hsplit =>
        split at h
        · cases h
        · next hsizes =>
            simp only [not_or, ne_eq, not_not] at hsizes
            obtain ⟨hyear, hmonth, hday⟩ := hsizes
            simp only [Option.bind_eq_bind, Option.bind_eq_some_iff, parseDigits_eq_some_iff] at h
            obtain ⟨_, ⟨-, hyears, rfl⟩, _, ⟨-, hmonths, rfl⟩, _, ⟨-, hdays, rfl⟩, h⟩ := h
            split at h
            · next hvalid =>
                cases h
                rw [utf8ByteSize_of_digits hyears] at hyear
                rw [utf8ByteSize_of_digits hmonths] at hmonth
                rw [utf8ByteSize_of_digits hdays] at hday
                refine ⟨⟨year.toList, month.toList, day.toList,
                  (split_eq_three_iff.mp hsplit).1, hyear, hmonth, hday, ?_, rfl⟩, hvalid⟩
                rw [List.forall_mem_append, List.forall_mem_append]
                exact ⟨⟨hyears, hmonths⟩, hdays⟩
            · cases h
    · cases h

/-- A part of digits, as the reader sees it. -/
theorem part_of_digits {part : List Char} {width : Nat} (hwidth : 0 < width)
    (hlength : part.length = width) (hdigits : ∀ c ∈ part, isAsciiDigit c = true) :
    (String.ofList part).utf8ByteSize = width ∧ '-' ∉ part
      ∧ parseDigits part = some (digitsValue part) := by
  refine ⟨?_, ?_, ?_⟩
  · rw [utf8ByteSize_of_digits, String.toList_ofList, hlength]
    rwa [String.toList_ofList]
  · intro hhyphen
    cases hdigits '-' hhyphen
  · refine parseDigits_eq_some_iff.mpr ⟨?_, hdigits, rfl⟩
    rintro rfl
    exact absurd hlength hwidth.ne

/-- And what is written as a date is accepted. -/
theorem parse_of_writesDate {text : String} {date : Date} (h : WritesDate text date)
    (hvalid : date.IsValid) : parseProtocolVersionDate text = some date := by
  obtain ⟨year, month, day, htext, hyear, hmonth, hday, hdigits, rfl⟩ := h
  rw [List.forall_mem_append, List.forall_mem_append] at hdigits
  obtain ⟨⟨hyears, hmonths⟩, hdays⟩ := hdigits
  obtain ⟨hyearSize, hyearHyphen, hyearValue⟩ := part_of_digits (by decide) hyear hyears
  obtain ⟨hmonthSize, hmonthHyphen, hmonthValue⟩ := part_of_digits (by decide) hmonth hmonths
  obtain ⟨hdaySize, hdayHyphen, hdayValue⟩ := part_of_digits (by decide) hday hdays
  have hsplit : split '-' text = [.ofList year, .ofList month, .ofList day] := by
    rw [split_eq_three_iff]
    simp only [String.toList_ofList]
    exact ⟨htext, hyearHyphen, hmonthHyphen, hdayHyphen⟩
  have hsize := utf8ByteSize_eq_ten (split_eq_three_iff.mp hsplit).1 hyearSize hmonthSize hdaySize
  rw [parseProtocolVersionDate, if_neg (not_not.mpr hsize), hsplit]
  simp only [hyearSize, hmonthSize, hdaySize, ne_eq, not_true_eq_false, or_self, if_false,
    String.toList_ofList, hyearValue, hmonthValue, hdayValue, Option.bind_eq_bind,
    Option.bind_some, if_pos hvalid]

/-- **The reader accepts the dates of its grammar.** -/
theorem parseProtocolVersionDate_eq_some_iff {text : String} {date : Date} :
    parseProtocolVersionDate text = some date ↔ WritesDate text date ∧ date.IsGregorian := by
  rw [← Date.isValid_iff]
  constructor
  · exact writesDate_of_parse
  · rintro ⟨hwrites, hvalid⟩
    exact parse_of_writesDate hwrites hvalid

theorem noMargin_of_writesDate {text : String} {date : Date} (h : WritesDate text date) :
    text ≠ "" ∧ trim text = text := by
  obtain ⟨year, month, day, htext, hyear, hmonth, hday, hdigits, -⟩ := h
  have hspace : ∀ c, isAsciiDigit c = true → isWhitespace c = false := by
    intro c hc
    have hrange := toNat_of_isAsciiDigit hc
    simp only [isWhitespace, Bool.or_eq_false_iff, Bool.and_eq_false_iff, decide_eq_false_iff_not,
      beq_eq_false_iff_ne]
    omega
  constructor
  · rintro rfl
    rw [String.toList_empty] at htext
    cases year with
    | nil => cases hyear
    | cons c year => cases htext
  · rw [trim_eq_self_iff, htext]
    constructor
    · intro c hc
      cases year with
      | nil => cases hyear
      | cons d year =>
          cases hc
          exact hspace c (hdigits c (by simp))
    · intro c hc
      refine hspace c (hdigits c (List.mem_append_right _ ?_))
      have hne : day ≠ [] := by
        rintro rfl
        cases hday
      have hlast : (year ++ '-' :: (month ++ '-' :: day)).getLast? = day.getLast? := by
        rw [List.getLast?_append_cons, ← List.cons_append, List.getLast?_append_cons,
          List.getLast?_cons, List.getLast?_eq_some_getLast hne, Option.getD_some]
      rw [hlast] at hc
      exact List.mem_of_getLast? hc

/-! ## Offers -/

/-- The oldest date that is supported. -/
def minSupportedDate : Date := ⟨2024, 11, 5⟩

/-- The client offers that version: `protocolVersion` of an object, without its whitespace. -/
def Offers (params : Option Json) (offered : String) : Prop :=
  ∃ members text, params = some (.obj members)
    ∧ Json.member members "protocolVersion" = some (.str text) ∧ trim text = offered

section Negotiation

variable [McpSdk]

/-- What an offer is answered with: the known version that it is, or the fallback for a date that
is not too early. -/
inductive Negotiated (offered : String) : String → Prop
  | known {version : String} (hne : offered ≠ "")
      (hknown : McpSdk.protocolVersion offered = some version) : Negotiated offered version
  | date {date : Date} (hunknown : McpSdk.protocolVersion offered = none)
      (hdate : WritesDate offered date) (hvalid : date.IsGregorian)
      (hlate : ¬ date.Earlier minSupportedDate) : Negotiated offered fallbackProtocolVersion

/-- The protocol library knows no date from before the oldest supported one. -/
def KnowsNoEarlyDate : Prop :=
  ∀ offered version date, McpSdk.protocolVersion offered = some version →
    WritesDate offered date → date.IsGregorian → ¬ date.Earlier minSupportedDate

/-- A client that offers just this text gets a version. -/
def Accepts (text : String) : Prop :=
  ∃ version, negotiateProtocolVersion (some (.obj [("protocolVersion", .str text)]))
    = pure (.ok version)

omit [McpSdk] in
theorem offered_eq_some_iff {params : Option Json} {offered : String} :
    (((params.bind (fun value => value.get "protocolVersion")).bind Json.asStr).map trim).filter
        (· ≠ "") = some offered
      ↔ Offers params offered ∧ offered ≠ "" := by
  rw [Option.filter_eq_some_iff, decide_eq_true_eq, Option.map_eq_some_iff]
  refine and_congr_left fun _ => ?_
  constructor
  · rintro ⟨text, htext, rfl⟩
    obtain ⟨value, hvalue, htext⟩ := Option.bind_eq_some_iff.mp htext
    obtain ⟨object, rfl, hvalue⟩ := Option.bind_eq_some_iff.mp hvalue
    cases object with
    | obj members =>
        cases value with
        | str value =>
            cases htext
            exact ⟨members, text, rfl, hvalue, rfl⟩
        | _ => cases htext
    | _ => cases hvalue
  · rintro ⟨members, text, rfl, htext, rfl⟩
    refine ⟨text, ?_, rfl⟩
    rw [Option.bind_some, Json.get_obj, htext]
    rfl

omit [McpSdk] in
theorem offers_unique {params : Option Json} {offered offered' : String}
    (h : Offers params offered) (h' : Offers params offered') : offered = offered' := by
  obtain ⟨members, text, rfl, htext, rfl⟩ := h
  obtain ⟨members', text', hparams, htext', rfl⟩ := h'
  cases hparams
  rw [htext] at htext'
  cases htext'
  rfl

omit [McpSdk] in
theorem toDays_le_iff {date : Date} (h : date.IsGregorian) :
    minSupportedDate.toDays ≤ date.toDays ↔ ¬ date.Earlier minSupportedDate := by
  have hmin : minSupportedDate.IsGregorian := by
    rw [← Date.isValid_iff]
    decide
  rw [← Date.toDays_lt_iff h hmin, not_lt]

omit [McpSdk] in
/-- There is one offer to look at. -/
theorem exists_offer_iff {params : Option Json} {offered : String} (h : Offers params offered)
    (P : String → Prop) : (∃ offered', Offers params offered' ∧ P offered') ↔ P offered := by
  constructor
  · rintro ⟨offered', h', hP⟩
    rwa [offers_unique h h']
  · intro hP
    exact ⟨offered, h, hP⟩

theorem negotiated_of_known {offered known : String} (hne : offered ≠ "")
    (hknown : McpSdk.protocolVersion offered = some known) (version : String) :
    Negotiated offered version ↔ known = version := by
  constructor
  · intro h
    cases h with
    | known _ hversion =>
        rw [hknown] at hversion
        cases hversion
        rfl
    | date hunknown _ _ _ =>
        rw [hknown] at hunknown
        cases hunknown
  · rintro rfl
    exact .known hne hknown

theorem negotiated_of_unknown {offered : String} (hunknown : McpSdk.protocolVersion offered = none)
    (version : String) :
    Negotiated offered version ↔ fallbackProtocolVersion = version
      ∧ ∃ date, parseProtocolVersionDate offered = some date
        ∧ ¬ date.Earlier minSupportedDate := by
  constructor
  · intro h
    cases h with
    | known _ hknown =>
        rw [hunknown] at hknown
        cases hknown
    | date _ hdate hvalid hlate =>
        exact ⟨rfl, _, parseProtocolVersionDate_eq_some_iff.mpr ⟨hdate, hvalid⟩, hlate⟩
  · rintro ⟨rfl, date, hdate, hlate⟩
    obtain ⟨hwrites, hvalid⟩ := parseProtocolVersionDate_eq_some_iff.mp hdate
    exact .date hunknown hwrites hvalid hlate

theorem Negotiated.ne_empty {offered version : String} (h : Negotiated offered version) :
    offered ≠ "" := by
  cases h with
  | known hne _ => exact hne
  | date _ hdate _ _ => exact (noMargin_of_writesDate hdate).1

/-- Negotiation asks for nothing and returns: the version of the offer, or an error without one. -/
theorem negotiateProtocolVersion_spec (params : Option Json) :
    ∃ answer, negotiateProtocolVersion params = pure answer
      ∧ ∀ version, answer = .ok version
        ↔ ∃ offered, Offers params offered ∧ Negotiated offered version := by
  have hmin : parseProtocolVersionDate minSupportedProtocolVersion = some minSupportedDate := by
    rfl
  have herror : ∀ (err : AppError) (version : String),
      (Except.error err : Except AppError String) ≠ .ok version := by
    intro err version h
    cases h
  rw [negotiateProtocolVersion]
  split
  · next hnone =>
      refine ⟨_, rfl, fun version => iff_of_false (herror _ _) ?_⟩
      rintro ⟨offered, hoffers, hnegotiated⟩
      rw [offered_eq_some_iff.mpr ⟨hoffers, hnegotiated.ne_empty⟩] at hnone
      cases hnone
  · next offered hsome =>
      obtain ⟨hoffers, hne⟩ := offered_eq_some_iff.mp hsome
      simp only [exists_offer_iff hoffers]
      split
      · next known hknown =>
          refine ⟨_, rfl, fun version => ?_⟩
          rw [negotiated_of_known hne hknown, Except.ok.injEq]
      · next hunknown =>
          simp only [negotiated_of_unknown hunknown]
          split
          · next hnodate =>
              refine ⟨_, rfl, fun version => iff_of_false (herror _ _) ?_⟩
              rintro ⟨-, date, hdate, -⟩
              rw [hnodate] at hdate
              cases hdate
          · next date hdate =>
              rw [hmin]
              dsimp only [expectSome]
              rw [Prog.pure_bind, hdate]
              simp only [Option.some.injEq, exists_eq_left',
                ← toDays_le_iff (parseProtocolVersionDate_eq_some_iff.mp hdate).2]
              by_cases hlate : minSupportedDate.toDays ≤ date.toDays
              · rw [if_pos hlate]
                refine ⟨_, rfl, fun version => ?_⟩
                rw [Except.ok.injEq, and_iff_left hlate]
              · rw [if_neg hlate]
                exact ⟨_, rfl, fun version => iff_of_false (herror _ _) fun h => hlate h.2⟩

/-- **Accepted dates are upward closed.** -/
theorem accepts_of_later (hsdk : KnowsNoEarlyDate) {text text' : String} {date date' : Date}
    (hwrites : WritesDate text date) (hvalid : date.IsGregorian)
    (hwrites' : WritesDate text' date') (hvalid' : date'.IsGregorian)
    (hlater : ¬ date'.Earlier date) (haccepts : Accepts text) : Accepts text' := by
  have hoffers : ∀ {text : String} {date : Date}, WritesDate text date →
      Offers (some (.obj [("protocolVersion", .str text)])) text := by
    intro text date hwrites
    exact ⟨_, text, rfl, by rw [Json.member_cons, if_pos rfl], (noMargin_of_writesDate hwrites).2⟩
  have hlate : ¬ date.Earlier minSupportedDate := by
    obtain ⟨version, haccepts⟩ := haccepts
    obtain ⟨answer, hanswer, hspec⟩ :=
      negotiateProtocolVersion_spec (some (.obj [("protocolVersion", .str text)]))
    have hok : answer = .ok version := Prog.pure.inj (hanswer.symm.trans haccepts)
    have hnegotiated := (exists_offer_iff (hoffers hwrites) _).mp ((hspec version).mp hok)
    cases hnegotiated with
    | known _ hknown => exact hsdk _ _ _ hknown hwrites hvalid
    | date _ hdate hvalid'' hlate =>
        have hsame := parseProtocolVersionDate_eq_some_iff.mpr ⟨hdate, hvalid''⟩
        rw [parseProtocolVersionDate_eq_some_iff.mpr ⟨hwrites, hvalid⟩] at hsame
        cases hsame
        exact hlate
  have hlate' : ¬ date'.Earlier minSupportedDate := by
    rw [Date.Earlier] at hlater hlate ⊢
    omega
  have hnegotiated : ∃ version, Negotiated text' version := by
    cases hknown : McpSdk.protocolVersion text' with
    | some version => exact ⟨version, .known (noMargin_of_writesDate hwrites').1 hknown⟩
    | none => exact ⟨_, .date hknown hwrites' hvalid' hlate'⟩
  obtain ⟨version, hnegotiated⟩ := hnegotiated
  obtain ⟨answer, hanswer, hspec⟩ :=
    negotiateProtocolVersion_spec (some (.obj [("protocolVersion", .str text')]))
  refine ⟨version, ?_⟩
  rw [hanswer, (hspec version).mpr ⟨text', hoffers hwrites', hnegotiated⟩]

/-- **Negotiation accepts exactly its grammar**, always returns, and follows the order of dates
and of their texts. -/
theorem negotiateProtocolVersion_exact (hsdk : KnowsNoEarlyDate) :
    (∀ params, ∃ answer, negotiateProtocolVersion params = pure answer)
    ∧ (∀ params version, negotiateProtocolVersion params = pure (.ok version)
        ↔ ∃ offered, Offers params offered ∧ Negotiated offered version)
    ∧ ∀ text text' date date', WritesDate text date → date.IsGregorian →
        WritesDate text' date' → date'.IsGregorian →
        (¬ date'.Earlier date → Accepts text → Accepts text')
        ∧ (date.toDays < date'.toDays ↔ text < text')
        ∧ (date.Earlier date' ↔ text < text') := by
  refine ⟨?_, ?_, ?_⟩
  · intro params
    obtain ⟨answer, hanswer, -⟩ := negotiateProtocolVersion_spec params
    exact ⟨answer, hanswer⟩
  · intro params version
    obtain ⟨answer, hanswer, hspec⟩ := negotiateProtocolVersion_spec params
    rw [hanswer, ← hspec version]
    constructor
    · intro h
      exact Prog.pure.inj h
    · intro h
      rw [h]
  · intro text text' date date' hwrites hvalid hwrites' hvalid'
    refine ⟨accepts_of_later hsdk hwrites hvalid hwrites' hvalid', ?_,
      earlier_iff_lt hwrites hwrites'⟩
    rw [Date.toDays_lt_iff hvalid hvalid']
    exact earlier_iff_lt hwrites hwrites'

end Negotiation

/-- The versions of the plain library are dates from the oldest one on. -/
theorem knowsNoEarlyDate_plainSdk : @KnowsNoEarlyDate plainSdk := by
  intro offered version date hknown hwrites hvalid
  have hdate := parseProtocolVersionDate_eq_some_iff.mpr ⟨hwrites, hvalid⟩
  have hversion : offered ∈ ["2024-11-05", "2025-03-26", "2025-06-18"] := by
    by_contra hno
    have hnone : plainSdk.protocolVersion offered = none := if_neg hno
    rw [hnone] at hknown
    cases hknown
  have hdates : ∀ text ∈ ["2024-11-05", "2025-03-26", "2025-06-18"],
      (parseProtocolVersionDate text).all
        (fun date => decide (minSupportedDate.toDays ≤ date.toDays)) = true := by decide
  have hlate := hdates offered hversion
  rw [hdate, Option.all_some, decide_eq_true_eq, toDays_le_iff hvalid] at hlate
  exact hlate

/-- A leap day that no library knows is answered with the fallback, whitespace and all. -/
theorem negotiateProtocolVersion_exact_leapDay :
    @KnowsNoEarlyDate plainSdk
    ∧ @negotiateProtocolVersion plainSdk
        (some (.obj [("protocolVersion", .str " 2028-02-29\n")])) = pure (.ok "2025-03-26")
    ∧ (@Accepts plainSdk "2024-11-05" → @Accepts plainSdk "2028-02-29") := by
  have hexact := @negotiateProtocolVersion_exact plainSdk knowsNoEarlyDate_plainSdk
  have hoffer : Offers (some (.obj [("protocolVersion", .str " 2028-02-29\n")])) "2028-02-29" :=
    ⟨_, _, rfl, rfl, by decide⟩
  have hfirst : parseProtocolVersionDate "2024-11-05" = some ⟨2024, 11, 5⟩ := by rfl
  have hleap : parseProtocolVersionDate "2028-02-29" = some ⟨2028, 2, 29⟩ := by rfl
  obtain ⟨hwrites, hvalid⟩ := parseProtocolVersionDate_eq_some_iff.mp hfirst
  obtain ⟨hwrites', hvalid'⟩ := parseProtocolVersionDate_eq_some_iff.mp hleap
  have hlater : ¬ (⟨2028, 2, 29⟩ : Date).Earlier minSupportedDate := by
    rw [Date.Earlier]
    decide
  refine ⟨knowsNoEarlyDate_plainSdk, ?_, ?_⟩
  · have hnegotiated := @Negotiated.date plainSdk _ _ rfl hwrites' hvalid' hlater
    exact (hexact.2.1 _ _).mpr ⟨_, hoffer, hnegotiated⟩
  · exact (hexact.2.2 _ _ _ _ hwrites hvalid hwrites' hvalid').1 hlater

end SystemdMonitoring
