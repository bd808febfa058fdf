import Mathlib.Data.String.Basic
import RecordStore.Time.Timestamp

/-! # The texts of moments sort by time

The text of a moment has the fields in blocks of fixed width, the year first, so that its letters are
in the order of time.  This holds for years of four digits, which are written without a sign.

* `compare_padded`: numbers padded to one width compare as their digits do.
* `compare_block`: two texts that begin with such numbers compare by these first.
-/

namespace RecordStore

namespace Timestamp

/-! ## Texts -/

/-- Texts compare letter by letter. -/
theorem compare_toList (s t : String) : Ord.compare s t = Ord.compare s.toList t.toList := by
  have lists : ∀ a b : List Char, compareOfLessAndEq a b = Ord.compare a b := by
    intro a
    induction a with
    | nil => intro b; cases b <;> rfl
    | cons x xs ih =>
      intro b
      cases b with
      | nil => rfl
      | cons y ys =>
        have heads : Ord.compare x y = compareOfLessAndEq x y := rfl
        rw [List.compare_cons_cons, ← ih, heads]
        simp only [compareOfLessAndEq, List.cons_lt_cons_iff, List.cons.injEq]
        -- The first letters decide unless they are the same.
        rcases lt_trichotomy x y with less | rfl | greater
        · simp [less]
        · simp
        · simp [greater.not_gt, greater.ne']
  rw [← lists]
  simp only [Ord.compare, String.compare, compareOfLessAndEq, String.lt_iff, String.toList_inj]

theorem compare_append {a b x y : List Char} (same : a.length = b.length) :
    Ord.compare (a ++ x) (b ++ y) = (Ord.compare a b).then (Ord.compare x y) := by
  induction a generalizing b with
  | nil =>
    obtain rfl := List.length_eq_zero_iff.1 same.symm
    rfl
  | cons first rest ih =>
    cases b with
    | nil => contradiction
    | cons other others =>
      simp only [List.cons_append, List.compare_cons_cons, Ordering.then_assoc,
        ih (Nat.succ.inj same)]

/-! ## Numbers of a fixed width -/

theorem padded_one {n : Nat} (fits : n < 10) : padded 1 n = [n.digitChar] := by
  rw [padded, Nat.toDigits_of_lt_base fits]
  rfl

theorem padded_succ {width n : Nat} (positive : 0 < width) :
    padded (width + 1) n = padded width (n / 10) ++ [(n % 10).digitChar] := by
  unfold padded
  -- The digits of a number below ten are one digit, and zeros take the place of the others.
  by_cases small : n < 10
  · obtain ⟨width, rfl⟩ := Nat.exists_eq_succ_of_ne_zero positive.ne'
    rw [Nat.toDigits_of_lt_base small, Nat.div_eq_of_lt small, Nat.mod_eq_of_lt small,
      Nat.toDigits_zero]
    simp [← List.replicate_succ']
  · rw [Nat.toDigits_of_base_le (by decide) (Nat.le_of_not_lt small)]
    simp

theorem length_padded {width n : Nat} (positive : 0 < width) (fits : n < 10 ^ width) :
    (padded width n).length = width := by
  have short := (Nat.length_toDigits_le_iff (b := 10) (by decide) positive).2 fits
  simp only [padded, List.length_append, List.length_replicate]
  omega

theorem compare_digitChar {m n : Nat} (smallM : m < 10) (smallN : n < 10) :
    Ord.compare m.digitChar n.digitChar = Ord.compare m n := by
  have digits : ∀ m < 10, ∀ n < 10,
      Ord.compare m.digitChar n.digitChar = Ord.compare m n := by decide
  exact digits m smallM n smallN

theorem compare_div_mod (m n : Nat) :
    (Ord.compare (m / 10) (n / 10)).then (Ord.compare (m % 10) (n % 10)) = Ord.compare m n := by
  simp only [Nat.compare_eq_ite_lt]
  split_ifs <;> first | rfl | omega

theorem compare_padded {width m n : Nat} (positive : 0 < width) (fitsM : m < 10 ^ width)
    (fitsN : n < 10 ^ width) :
    Ord.compare (padded width m) (padded width n) = Ord.compare m n := by
  induction width, positive using Nat.le_induction generalizing m n with
  | base =>
    rw [padded_one fitsM, padded_one fitsN, List.compare_cons_cons, compare_digitChar fitsM fitsN]
    exact Ordering.then_eq
  | succ width positive ih =>
    have upperM : m / 10 < 10 ^ width := by omega
    have upperN : n / 10 < 10 ^ width := by omega
    rw [padded_succ positive, padded_succ positive, compare_append, ih upperM upperN,
      List.compare_cons_cons, compare_digitChar (Nat.mod_lt _ (by decide)) (Nat.mod_lt _ (by decide)),
      ← compare_div_mod m n]
    · exact congrArg _ Ordering.then_eq
    · rw [length_padded positive upperM, length_padded positive upperN]

theorem compare_block {width m n : Nat} (positive : 0 < width) (fitsM : m < 10 ^ width)
    (fitsN : n < 10 ^ width) (x y : List Char) :
    Ord.compare (padded width m ++ x) (padded width n ++ y)
      = (Ord.compare m n).then (Ord.compare x y) := by
  rw [compare_append, compare_padded positive fitsM fitsN]
  rw [length_padded positive fitsM, length_padded positive fitsN]

/-! ## Moments -/

theorem daysInMonth_le (year : Int) (month : Nat) : daysInMonth year month ≤ 31 := by
  unfold daysInMonth
  repeat' split
  all_goals omega

theorem compare_natCast (m n : Nat) : Ord.compare (m : Int) n = Ord.compare m n := by
  simp only [Int.compare_eq_ite_lt, Nat.compare_eq_ite_lt, Int.ofNat_lt]

/-- Whether a moment is in a year that is written with four digits. -/
def HasPlainYear (t : Timestamp) : Prop := 0 ≤ t.date.year ∧ t.date.year ≤ 9999

theorem compare_text {s t : Timestamp} (plainS : s.HasPlainYear) (plainT : t.HasPlainYear) :
    Ord.compare s.text t.text = s.compare t := by
  have dateS := s.date.valid
  have dateT := t.date.valid
  have monthS := daysInMonth_le s.date.year s.date.month
  have monthT := daysInMonth_le t.date.year t.date.month
  have timeS := s.valid
  have timeT := t.valid
  unfold HasPlainYear at plainS plainT
  rw [compare_toList, text, text, String.toList_ofList, String.toList_ofList, compare]
  simp only [render, renderYear, if_pos plainS, if_pos plainT, List.append_assoc, List.cons_append]
  -- Every field is below the power of ten that its block has room for.
  simp (disch := omega) only [compare_block, List.compare_cons_cons, Std.ReflCmp.compare_self,
    Ordering.eq_then]
  have yearS : (s.date.year.toNat : Int) = s.date.year := Int.toNat_of_nonneg plainS.1
  have yearT : (t.date.year.toNat : Int) = t.date.year := Int.toNat_of_nonneg plainT.1
  simp only [fields, List.compare_cons_cons, compare_natCast, List.compare_nil_nil]
  rw [← yearS, ← yearT, compare_natCast]
  rfl

end Timestamp

end RecordStore
