import CanopenTools.Tools.PyText
import Mathlib.Algebra.Group.Nat.Defs

/-!
# Numbers that are typed in decimal

A natural number written in decimal is read back by `int(text)` (`pyInt_repr`), and a line of such
numbers, with a space or a comma between them, is split into them (`splitValues_joined`).
-/

set_option autoImplicit false
set_option relaxedAutoImplicit false

namespace CanopenTools.Tools

/-! ### One number -/

theorem toNat_of_isDigit {char : Char} (hdigit : char.isDigit = true) :
    48 ≤ char.toNat ∧ char.toNat < 58 := by
  simp only [Char.isDigit, Bool.and_eq_true, decide_eq_true_eq] at hdigit
  exact ⟨hdigit.1, Nat.lt_succ_of_le hdigit.2⟩

/-- The digits of ASCII have their own values. -/
theorem digitValue_of_isDigit {char : Char} (hdigit : char.isDigit = true) :
    digitValue char = some (char.toNat - '0'.toNat) := by
  have hrange := toNat_of_isDigit hdigit
  have hzeros : decimalZeros = 48 :: decimalZeros.tail := rfl
  have hfind : decimalZeros.find? (fun first ↦ first ≤ char.toNat && char.toNat < first + 10) =
      some 48 := by
    rw [hzeros]
    exact List.find?_cons_of_pos (by simpa using hrange)
  rw [digitValue, hfind]
  rfl

theorem isSpace_of_isDigit {char : Char} (hdigit : char.isDigit = true) : isSpace char = false := by
  have hrange := toNat_of_isDigit hdigit
  simp [isSpace]
  omega

/-- A string of digits is read digit by digit. -/
theorem readDigits_of_isDigit {chars : List Char} (hne : chars ≠ [])
    (hdigits : ∀ char ∈ chars, char.isDigit = true) :
    readDigits chars = some (chars.map fun char ↦ char.toNat - '0'.toNat) := by
  induction chars using readDigits.induct with
  | case1 => exact absurd rfl hne
  | case2 char => simp [readDigits, digitValue_of_isDigit (hdigits char List.mem_cons_self)]
  | case3 char rest ih => exact absurd (hdigits '_' (by simp)) (by decide)
  | case4 char rest hrest hunderscore ih =>
    have hread := ih hrest fun other hother ↦ hdigits other (List.mem_cons_of_mem _ hother)
    rw [readDigits]
    · simp [hread, digitValue_of_isDigit (hdigits char List.mem_cons_self)]
    · exact hrest
    · exact hunderscore

theorem isIntSpace_of_isDigit {char : Char} (hdigit : char.isDigit = true) :
    isIntSpace char = false := by
  rw [isIntSpace, isSpace_of_isDigit hdigit, Bool.false_and]

/-- Nothing is stripped off where no character is of the kind. -/
theorem stripBy_of_forall {space : Char → Bool} {chars : List Char}
    (hchars : ∀ char ∈ chars, space char = false) : stripBy space chars = chars := by
  have hkept : ∀ others : List Char, (∀ char ∈ others, space char = false) →
      others.dropWhile space = others := by
    intro others hall
    cases others with
    | nil => rfl
    | cons char rest =>
      exact List.dropWhile_cons_of_neg (by simp [hall char List.mem_cons_self])
  rw [stripBy, hkept chars hchars, hkept chars.reverse fun char hchar ↦
    hchars char (List.mem_reverse.mp hchar), List.reverse_reverse]

theorem stripChars_of_isDigit {chars : List Char} (hdigits : ∀ char ∈ chars, char.isDigit = true) :
    stripChars chars = chars :=
  stripBy_of_forall fun char hchar ↦ isSpace_of_isDigit (hdigits char hchar)

theorem isDigit_toDigits {number : ℕ} : ∀ char ∈ Nat.toDigits 10 number, char.isDigit = true :=
  fun _ hchar ↦ Nat.isDigit_of_mem_toDigits (by decide) (by decide) hchar

/-- A number written in decimal is read back, if it has no more digits than `int` takes. -/
theorem pyInt_repr {number : ℕ} (hnumber : number < 10 ^ intMaxStrDigits) :
    pyInt number.repr = some (number : ℤ) := by
  have hdigits := @isDigit_toDigits number
  have hlength : (Nat.toDigits 10 number).length ≤ intMaxStrDigits :=
    (Nat.length_toDigits_le_iff (by decide) (by decide)).mpr hnumber
  have hread : readNumber (Nat.toDigits 10 number) = some (number : ℤ) := by
    have hvalue := @Nat.ofDigitChars_toDigits 10 number (by decide) (by decide)
    rw [readNumber, readDigits_of_isDigit Nat.toDigits_ne_nil hdigits]
    simp only [Option.bind_eq_bind, Option.bind_some, List.length_map, if_pos hlength,
      List.foldl_map]
    exact congrArg (fun value : ℕ ↦ some (value : ℤ)) hvalue
  rw [pyInt, Nat.toList_repr,
    stripBy_of_forall fun char hchar ↦ isIntSpace_of_isDigit (hdigits char hchar)]
  split
  · rename_i rest hsign
    exact absurd (hdigits '-' (hsign ▸ List.mem_cons_self)) (by decide)
  · rename_i rest hsign
    exact absurd (hdigits '+' (hsign ▸ List.mem_cons_self)) (by decide)
  · exact hread

/-! ### A line of numbers -/

/-- Numbers in decimal on a line, with a separator between them. -/
def joined (separator : Char) (numbers : List ℕ) : String :=
  String.ofList ([separator].intercalate (numbers.map (Nat.toDigits 10)))

/-- Pieces that are joined by a separator are split again. -/
theorem splitOnP_intercalate {splits : Char → Bool} {separator : Char}
    (hseparator : splits separator = true) {pieces : List (List Char)} (hne : pieces ≠ [])
    (hpieces : ∀ piece ∈ pieces, ∀ char ∈ piece, splits char = false) :
    ([separator].intercalate pieces).splitOnP splits = pieces := by
  induction pieces with
  | nil => exact absurd rfl hne
  | cons piece pieces ih =>
    have hpiece := hpieces piece List.mem_cons_self
    cases pieces with
    | nil => rw [List.intercalate_singleton, List.splitOnP_eq_singleton hpiece]
    | cons next rest =>
      have hrest := ih (List.cons_ne_nil _ _) fun other hother ↦
        hpieces other (List.mem_cons_of_mem _ hother)
      rw [List.intercalate_cons_cons, List.append_assoc, List.singleton_append,
        List.splitOnP_append_cons_of_forall_mem hpiece separator hseparator, hrest]

/-- What stands on a joined line is of a piece or the separator. -/
theorem mem_intercalate {separator char : Char} {pieces : List (List Char)}
    (hchar : char ∈ [separator].intercalate pieces) :
    char = separator ∨ ∃ piece ∈ pieces, char ∈ piece := by
  induction pieces with
  | nil => exact absurd hchar List.not_mem_nil
  | cons piece pieces ih =>
    cases pieces with
    | nil =>
      rw [List.intercalate_singleton] at hchar
      exact Or.inr ⟨piece, List.mem_cons_self, hchar⟩
    | cons next rest =>
      rw [List.intercalate_cons_cons, List.append_assoc, List.mem_append,
        List.singleton_append, List.mem_cons] at hchar
      rcases hchar with hpiece | hseparator | hrest
      · exact Or.inr ⟨piece, List.mem_cons_self, hpiece⟩
      · exact Or.inl hseparator
      · rcases ih hrest with hsame | ⟨other, hother, hmem⟩
        · exact Or.inl hsame
        · exact Or.inr ⟨other, List.mem_cons_of_mem _ hother, hmem⟩

/-- Pieces of digits are split as `split` does it, whether spaces or commas stand between them. -/
theorem split_intercalate {separator : Char} (hseparator : separator = ' ' ∨ separator = ',')
    {pieces : List (List Char)} (hne : pieces ≠ [])
    (hdigits : ∀ piece ∈ pieces, ∀ char ∈ piece, char.isDigit = true) :
    (if ',' ∈ [separator].intercalate pieces then ([separator].intercalate pieces).splitOn ','
      else ([separator].intercalate pieces).splitOnP isSpace) = pieces := by
  have hnospace : ∀ piece ∈ pieces, ∀ char ∈ piece, isSpace char = false :=
    fun piece hpiece char hchar ↦ isSpace_of_isDigit (hdigits piece hpiece char hchar)
  have hnocomma : ∀ piece ∈ pieces, ',' ∉ piece :=
    fun piece hpiece hcomma ↦ absurd (hdigits piece hpiece ',' hcomma) (by decide)
  rcases hseparator with rfl | rfl
  · rw [if_neg, splitOnP_intercalate (by decide) hne hnospace]
    intro hcomma
    rcases mem_intercalate hcomma with hsame | ⟨piece, hpiece, hmem⟩
    · exact absurd hsame (by decide)
    · exact hnocomma piece hpiece hmem
  · match pieces, hne with
    | [piece], _ =>
      rw [List.intercalate_singleton, if_neg (hnocomma piece List.mem_cons_self),
        List.splitOnP_eq_singleton (hnospace piece List.mem_cons_self)]
    | piece :: next :: rest, hne =>
      rw [if_pos (by simp [List.intercalate_cons_cons])]
      refine splitOnP_intercalate (by decide) hne fun other hother char hchar ↦ ?_
      exact beq_eq_false_iff_ne.mpr fun hcomma ↦ hnocomma other hother (hcomma ▸ hchar)

/-- A line of numbers is split into them. -/
theorem splitValues_joined {separator : Char} (hseparator : separator = ' ' ∨ separator = ',')
    {numbers : List ℕ} (hne : numbers ≠ []) :
    splitValues (joined separator numbers) = numbers.map Nat.repr := by
  have hdigits : ∀ piece ∈ numbers.map (Nat.toDigits 10), ∀ char ∈ piece, char.isDigit = true := by
    intro piece hpiece
    obtain ⟨number, -, rfl⟩ := List.mem_map.mp hpiece
    exact isDigit_toDigits
  have hsplit := split_intercalate hseparator (mt List.map_eq_nil_iff.mp hne) hdigits
  have hstripped : (numbers.map (Nat.toDigits 10)).map stripChars =
      numbers.map (Nat.toDigits 10) :=
    (List.map_congr_left fun piece hpiece ↦ stripChars_of_isDigit (hdigits piece hpiece)).trans
      (List.map_id' _)
  have hkept : (numbers.map (Nat.toDigits 10)).filter (· ≠ []) = numbers.map (Nat.toDigits 10) := by
    rw [List.filter_eq_self]
    intro piece hpiece
    obtain ⟨number, -, rfl⟩ := List.mem_map.mp hpiece
    exact decide_eq_true Nat.toDigits_ne_nil
  rw [splitValues, joined, String.toList_ofList]
  rw [hsplit, hstripped, hkept, List.map_map]
  rfl

end CanopenTools.Tools
