import Mathlib.Data.List.Forall2
import Mathlib.Data.List.TakeWhile
import ObjectStatus.Text.Keyword

/-!
# Spellings of a text

A reader takes a text for what it is without the blanks around it, and a keyword in any case for
the keyword. This module says what that comes to without the functions that do it: trimming
leaves the one part of the text that has a plain character at either end and blanks around it, and
folding takes two texts for the same when they agree letter by letter, except for the case of the
twenty-six letters of the Latin alphabet.
-/

namespace ObjectStatus
namespace Text

/-! ## Trimming -/

/-- The second text is what is left of the first one without the blanks around it. -/
structure IsTrimmed (text trimmed : List Char) : Prop where
  /-- There are only blanks around it. -/
  exists_blanks : ∃ front back,
    text = front ++ trimmed ++ back ∧
      (∀ character ∈ front, isBlank character = true) ∧
        ∀ character ∈ back, isBlank character = true
  /-- It does not begin with a blank. -/
  head_plain : ∀ character ∈ trimmed.head?, isBlank character = false
  /-- It does not end with a blank. -/
  last_plain : ∀ character ∈ trimmed.getLast?, isBlank character = false

/-- A text without blanks is what is left when there are blanks around it. -/
theorem isTrimmed_append
    {text front back : List Char}
    (plain : ∀ character ∈ text, isBlank character = false)
    (front_blank : ∀ character ∈ front, isBlank character = true)
    (back_blank : ∀ character ∈ back, isBlank character = true) :
    IsTrimmed (front ++ text ++ back) text where
  exists_blanks := ⟨front, back, rfl, front_blank, back_blank⟩
  head_plain character member := plain character (List.mem_of_mem_head? member)
  last_plain character member := plain character (List.mem_of_mem_getLast? member)

theorem trimEnd_append_of_blank
    {back : List Char}
    (blank : ∀ character ∈ back, isBlank character = true)
    (text : List Char) : trimEnd (text ++ back) = trimEnd text := by
  have blank_reverse : ∀ character ∈ back.reverse, isBlank character = true := by
    simpa using blank
  unfold trimEnd
  rw [List.reverse_append, List.dropWhile_append_of_pos blank_reverse]

/-- Trimming finds what is left without the blanks around it. -/
theorem IsTrimmed.trim_eq
    {text trimmed : List Char}
    (isTrimmed : IsTrimmed text trimmed) : trim text = trimmed := by
  obtain ⟨⟨front, back, rfl, front_blank, back_blank⟩, head_plain, last_plain⟩ := isTrimmed
  have plain : trim trimmed = trimmed := trim_eq_self head_plain last_plain
  unfold trim at plain ⊢
  rw [List.append_assoc, List.dropWhile_append_of_pos front_blank]
  cases trimmed with
  | nil =>
      have all_blank : back.dropWhile isBlank = [] := List.dropWhile_eq_nil_iff.2 back_blank
      simp [all_blank, trimEnd]
  | cons first rest =>
      have first_plain : ¬isBlank first = true := by simpa using head_plain first rfl
      rw [List.dropWhile_cons_of_neg first_plain] at plain
      rw [List.cons_append, List.dropWhile_cons_of_neg first_plain, ← List.cons_append,
        trimEnd_append_of_blank back_blank, plain]

theorem exists_trimEnd_append (text : List Char) :
    ∃ back, text = trimEnd text ++ back ∧ ∀ character ∈ back, isBlank character = true := by
  refine ⟨(text.reverse.takeWhile isBlank).reverse, ?_, ?_⟩
  · unfold trimEnd
    rw [← List.reverse_append, List.takeWhile_append_dropWhile, List.reverse_reverse]
  · intro character member
    exact List.all_eq_true.1 List.all_takeWhile character (List.mem_reverse.1 member)

/-- What trimming leaves is trimmed. -/
theorem isTrimmed_trim (text : List Char) : IsTrimmed text (trim text) := by
  obtain ⟨back, split_eq, back_blank⟩ := exists_trimEnd_append (text.dropWhile isBlank)
  have last_plain : ∀ character ∈ (trim text).getLast?, isBlank character = false := by
    intro character member
    unfold trim trimEnd at member
    rw [List.getLast?_reverse] at member
    have found := List.head?_dropWhile_not isBlank (text.dropWhile isBlank).reverse
    rw [member] at found
    exact found
  refine ⟨⟨text.takeWhile isBlank, back, ?_, ?_, back_blank⟩, ?_, last_plain⟩
  · unfold trim
    rw [List.append_assoc, ← split_eq, List.takeWhile_append_dropWhile]
  · exact List.all_eq_true.1 List.all_takeWhile
  · intro character member
    have found := List.head?_dropWhile_not isBlank text
    have kept : (text.dropWhile isBlank).head? = some character := by
      rw [split_eq, List.head?_append]
      exact Option.or_eq_some_iff.2 (Or.inl member)
    rw [kept] at found
    exact found

/-- Nothing is left to trim. -/
@[simp] theorem trim_trim (text : List Char) : trim (trim text) = trim text :=
  trim_eq_self (isTrimmed_trim text).head_plain (isTrimmed_trim text).last_plain

/-- A keyword is the same without the blanks around it. -/
@[simp] theorem keyword_trim (text : String) :
    keyword (String.ofList (trim text.toList)) = keyword text := by
  simp [keyword]

/-! ## Case -/

/-- The first character is a capital of the Latin alphabet and the second one is its small letter.
The code points of the two are thirty-two apart. -/
def IsCapitalOf (capital small : Char) : Prop :=
  'A'.toNat ≤ capital.toNat ∧ capital.toNat ≤ 'Z'.toNat ∧ small.toNat = capital.toNat + 32

/-- The two characters are the same, or the same letter of the Latin alphabet in the two cases. -/
def SameLetter (first second : Char) : Prop :=
  first = second ∨ IsCapitalOf first second ∨ IsCapitalOf second first

/-- The two texts agree letter by letter, except for the case of letters of the Latin alphabet. -/
def SameLetters (first second : List Char) : Prop :=
  List.Forall₂ SameLetter first second

instance (capital small : Char) : Decidable (IsCapitalOf capital small) :=
  inferInstanceAs (Decidable (_ ∧ _ ∧ _))

instance (first second : Char) : Decidable (SameLetter first second) :=
  inferInstanceAs (Decidable (_ ∨ _ ∨ _))

theorem toNat_toUpper (character : Char) :
    character.toUpper.toNat =
      if 97 ≤ character.toNat ∧ character.toNat ≤ 122 then character.toNat - 32
      else character.toNat := by
  have small_iff :
      ('a'.val ≤ character.val ∧ character.val ≤ 'z'.val) ↔
        97 ≤ character.toNat ∧ character.toNat ≤ 122 := Iff.rfl
  unfold Char.toUpper
  by_cases small : 97 ≤ character.toNat ∧ character.toNat ≤ 122
  · -- The capital is reached by an addition that wraps around.
    rw [dif_pos (small_iff.2 small), if_pos small, Char.toNat_mk, UInt32.toNat_add,
      show ('A'.val - 'a'.val).toNat = 2 ^ 32 - 32 from rfl, Char.toNat_val]
    omega
  · rw [dif_neg (mt small_iff.1 small), if_neg small]

theorem toNat_toLower (character : Char) :
    character.toLower.toNat =
      if 65 ≤ character.toNat ∧ character.toNat ≤ 90 then character.toNat + 32
      else character.toNat := by
  have capital_iff :
      (character.val ≥ 'A'.val ∧ character.val ≤ 'Z'.val) ↔
        65 ≤ character.toNat ∧ character.toNat ≤ 90 := Iff.rfl
  unfold Char.toLower
  by_cases capital : 65 ≤ character.toNat ∧ character.toNat ≤ 90
  · rw [dif_pos (capital_iff.2 capital), if_pos capital, Char.toNat_mk, UInt32.toNat_add,
      show ('a'.val - 'A'.val).toNat = 32 from rfl, Char.toNat_val]
    omega
  · rw [dif_neg (mt capital_iff.1 capital), if_neg capital]

/-- Two characters have the same capital exactly when they are the same letter. -/
theorem toUpper_eq_toUpper_iff
    {first second : Char} :
    first.toUpper = second.toUpper ↔ SameLetter first second := by
  rw [← Char.toNat_inj, toNat_toUpper, toNat_toUpper]
  unfold SameLetter IsCapitalOf
  rw [← Char.toNat_inj]
  simp only [Char.reduceToNat]
  split <;> split <;> omega

/-- Two characters have the same small letter exactly when they are the same letter. -/
theorem toLower_eq_toLower_iff
    {first second : Char} :
    first.toLower = second.toLower ↔ SameLetter first second := by
  rw [← Char.toNat_inj, toNat_toLower, toNat_toLower]
  unfold SameLetter IsCapitalOf
  rw [← Char.toNat_inj]
  simp only [Char.reduceToNat]
  split <;> split <;> omega

theorem map_eq_map_iff_sameLetters
    {fold : Char → Char}
    (fold_eq_iff : ∀ first second, fold first = fold second ↔ SameLetter first second)
    {first second : List Char} :
    first.map fold = second.map fold ↔ SameLetters first second := by
  unfold SameLetters
  rw [← List.forall₂_eq_eq_eq, List.forall₂_map_left_iff, List.forall₂_map_right_iff]
  simp only [fold_eq_iff]

/-- Two texts in upper case are equal exactly when they agree letter by letter. -/
theorem upper_eq_upper_iff
    {first second : List Char} : upper first = upper second ↔ SameLetters first second :=
  map_eq_map_iff_sameLetters fun _ _ => toUpper_eq_toUpper_iff

/-- Two texts in lower case are equal exactly when they agree letter by letter. -/
theorem lower_eq_lower_iff
    {first second : List Char} : lower first = lower second ↔ SameLetters first second :=
  map_eq_map_iff_sameLetters fun _ _ => toLower_eq_toLower_iff

instance (first second : List Char) : Decidable (SameLetters first second) :=
  decidable_of_iff _ upper_eq_upper_iff

/-- What a text is looked up as stands in the table beside the text in lower case. -/
theorem mem_of_lookUp?_eq_some
    {α : Type}
    {spellings : List (String × α)}
    {text : String}
    {value : α}
    (found : lookUp? spellings text = some value) : (keyword text, value) ∈ spellings := by
  obtain ⟨before, behind, table_eq, -⟩ := List.lookup_eq_some_iff.1 found
  rw [table_eq]
  exact List.mem_append_right before List.mem_cons_self

end Text
end ObjectStatus
