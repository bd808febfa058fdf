import Mathlib.Data.List.Forall2
import RecordStore.Proofs.RoundTrip.Moments

/-! # One width for every text of a moment

In plain years the text of a moment has the form `YYYY-MM-DDTHH:MM:SS.ffffffZ`, is read back as the
moment, and stands where the moment stands in time.  A year that needs a sign breaks all three: the
text is wider, cannot be read, and its sign comes before every digit.

A form is a model text: a letter `Fits` a digit of the model if it is a digit, and any other letter
of the model if it is the same.
-/

namespace RecordStore

namespace Timestamp

/-! ## The form -/

/-- Whether a letter can stand where a model text has another one. -/
def Fits (model c : Char) : Prop := if IsDigit model then IsDigit c else c = model

instance (model c : Char) : Decidable (Fits model c) := by
  unfold Fits
  infer_instance

/-- The form `YYYY-MM-DDTHH:MM:SS.ffffffZ`. -/
def HasFixedForm (text : String) : Prop :=
  List.Forall₂ Fits "0000-00-00T00:00:00.000000Z".toList text.toList

theorem HasFixedForm.length {text : String} (form : HasFixedForm text) : text.length = 27 :=
  form.length_eq.symm

theorem fits_digit {c : Char} (digit : IsDigit c) : Fits '0' c := by
  rwa [Fits, if_pos isDigit_zero]

theorem fits_mark {mark : Char} (other : ¬ IsDigit mark) : Fits mark mark := by
  rw [Fits, if_neg other]

theorem forall₂_fits_padded {width n : Nat} (positive : 0 < width) (fits : n < 10 ^ width)
    {model rest : List Char} (behind : List.Forall₂ Fits model rest) :
    List.Forall₂ Fits (List.replicate width '0' ++ model) (padded width n ++ rest) := by
  have digits : ∀ block : List Char, (∀ c ∈ block, IsDigit c) →
      List.Forall₂ Fits (List.replicate block.length '0') block := by
    intro block areDigits
    induction block with
    | nil => exact .nil
    | cons c block ih =>
      rw [List.forall_mem_cons] at areDigits
      exact .cons (fits_digit areDigits.1) (ih areDigits.2)
  have block := digits (padded width n) (isDigit_of_mem_padded width n)
  rw [length_padded positive fits] at block
  exact List.rel_append block behind

/-! ## Plain years and others -/

theorem hasFixedForm_of_plain {t : Timestamp} (plain : t.HasPlainYear) : HasFixedForm t.text := by
  have date := t.date.valid
  have month := daysInMonth_le t.date.year t.date.month
  have time := t.valid
  unfold HasPlainYear at plain
  have blocks : "0000-00-00T00:00:00.000000Z".toList = List.replicate 4 '0' ++ '-' ::
      (List.replicate 2 '0' ++ '-' :: (List.replicate 2 '0' ++ 'T' ::
        (List.replicate 2 '0' ++ ':' :: (List.replicate 2 '0' ++ ':' ::
          (List.replicate 2 '0' ++ '.' :: (List.replicate 6 '0' ++ ['Z'])))))) := rfl
  rw [HasFixedForm, blocks, text, String.toList_ofList, render, renderYear, if_pos plain]
  simp only [List.append_assoc, List.cons_append]
  -- Every field fills the digits up to its mark.
  refine forall₂_fits_padded (by decide) (by omega) (.cons (fits_mark (by decide)) ?_)
  refine forall₂_fits_padded (by decide) (by omega) (.cons (fits_mark (by decide)) ?_)
  refine forall₂_fits_padded (by decide) (by omega) (.cons (fits_mark (by decide)) ?_)
  refine forall₂_fits_padded (by decide) (by omega) (.cons (fits_mark (by decide)) ?_)
  refine forall₂_fits_padded (by decide) (by omega) (.cons (fits_mark (by decide)) ?_)
  refine forall₂_fits_padded (by decide) (by omega) (.cons (fits_mark (by decide)) ?_)
  exact forall₂_fits_padded (by decide) (by omega) (.cons (fits_mark (by decide)) .nil)

theorem hasFixedForm_text_iff {t : Timestamp} : HasFixedForm t.text ↔ t.HasPlainYear := by
  refine ⟨fun form => ?_, hasFixedForm_of_plain⟩
  by_contra signed
  obtain ⟨sign, isSign, year⟩ := renderYear_of_not_plain signed
  rw [HasFixedForm, text, String.toList_ofList, String.toList_ofList, render, year] at form
  -- The sign stands where the form has its first digit.
  have first : Fits '0' sign := by
    cases form with
    | cons first _ => exact first
  rcases isSign with rfl | rfl <;> revert first <;> decide

/-- What is read in a plain year is written in the fixed form, read back, and sorted by time. -/
theorem text_faithful {s : String} {t : Timestamp} (accepted : read? s = some t) :
    (HasFixedForm t.text ↔ t.HasPlainYear) ∧
    (read? t.text = read? s ↔ t.HasPlainYear) ∧
    (t.HasPlainYear → ∀ s' t', read? s' = some t' → t'.HasPlainYear →
      Ord.compare t.text t'.text = t.compare t') := by
  refine ⟨hasFixedForm_text_iff, ?_, fun plain _ _ _ => compare_text plain⟩
  rw [accepted, read?_text_eq_some_iff, and_iff_left rfl]

/-- The last second of 2016, a leap second, told by a clock an hour behind. -/
def leapSecond : Timestamp := ⟨⟨2016, 12, 31, by decide⟩, 23, 59, 60, 500000, by decide⟩

theorem leapSecond_read : read? "2016-12-31T22:59:60.5-01:00" = some leapSecond := by
  decide +kernel

theorem leapSecond_written :
    leapSecond.HasPlainYear ∧ HasFixedForm leapSecond.text ∧
    read? leapSecond.text = read? "2016-12-31T22:59:60.5-01:00" ∧
    Ord.compare leapSecond.text (midnight leapSecond.date.next).text = .lt := by
  have plain : leapSecond.HasPlainYear := ⟨by decide, by decide⟩
  obtain ⟨form, readBack, sorted⟩ := text_faithful leapSecond_read
  refine ⟨plain, form.2 plain, readBack.2 plain, ?_⟩
  rw [sorted plain "2017-01-01" _ (by decide +kernel) ⟨by decide, by decide⟩]
  decide

/-- The first day of the year 10000. -/
def farDay : Timestamp := midnight ⟨10000, 1, 1, by decide⟩

/-- A text with a sign in front of its year is accepted.  It is written wider than the others, is
not read back, and is sorted before the day that comes before it. -/
theorem farDay_written :
    read? "+10000-01-01" = some farDay ∧
    read? "9999-12-31" = some (midnight farDay.date.previous) ∧
    ¬ HasFixedForm farDay.text ∧ read? farDay.text = none ∧
    (midnight farDay.date.previous).compare farDay = .lt ∧
    Ord.compare (midnight farDay.date.previous).text farDay.text = .gt := by
  refine ⟨by decide +kernel, by decide +kernel, ?_, by decide +kernel, by decide, ?_⟩
  · intro form
    exact absurd form.length (by decide +kernel)
  · rw [compare_toList]
    decide +kernel

end Timestamp

end RecordStore
