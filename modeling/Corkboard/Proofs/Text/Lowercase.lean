-- SUMMARY: Lower case of a text and of its parts: a part comes out as it would alone if its capital sigmas do, and no text gets shorter.
import Mathlib.Data.List.Infix
import Corkboard.Text.Lowercase

/-!
# Lower case of parts

A search puts two texts into lower case, the one that is searched and the one that is looked for,
each by itself. What is looked for may be a part of the other text. Then it is found if lower case
does not look across the cuts. It does so for one letter only: whether a capital sigma takes its
final form depends on the letters around it, and in a part some of these are cut off.
-/

namespace Corkboard.Text

/-! ## Length -/

theorem length_lowerChar_pos (c : Char) : 0 < (lowerChar c).length := by
  rw [lowerChar]
  split
  · exact Nat.zero_lt_succ _
  · split <;> exact Nat.zero_lt_succ _

/-- Every character becomes one character at least. -/
theorem length_le_length_lowerFrom (before text : List Char) :
    text.length ≤ (lowerFrom before text).length := by
  induction text generalizing before with
  | nil => exact Nat.le_refl _
  | cons c rest ih =>
    have hrest := ih (c :: before)
    have hc := length_lowerChar_pos c
    rw [lowerFrom, List.length_append, List.length_cons]
    split
    · rw [List.length_singleton]
      omega
    · omega

theorem lowercase_eq_empty_iff {s : String} : lowercase s = "" ↔ s = "" := by
  constructor
  · intro h
    have hlength := length_le_length_lowerFrom [] s.toList
    rw [← toList_lowercase, h] at hlength
    simpa using hlength
  · rintro rfl
    rfl

/-! ## Search -/

/-- A text can have its own lower case as a part only if it is in lower case, because that would be
    too long otherwise. -/
theorem lowercase_infix_self_iff {s : String} :
    (lowercase s).toList <:+: s.toList ↔ lowercase s = s := by
  constructor
  · intro h
    have hlength := length_le_length_lowerFrom [] s.toList
    rw [← toList_lowercase] at hlength
    exact String.toList_inj.1 (h.eq_of_length_le hlength)
  · intro h
    rw [h]

/-! ## Cutting a text -/

/-- Lower case of `text` when `before`, reversed, stands in front of it and `after` behind it. -/
def lowerBetween (before after : List Char) : List Char → List Char
  | [] => []
  | c :: rest =>
    (if c = capitalSigma then [lowerSigma before (rest ++ after)] else lowerChar c) ++
      lowerBetween (c :: before) after rest

/-- A text may be cut anywhere if the parts keep the sight of what was around them. -/
theorem lowerFrom_append (before text after : List Char) :
    lowerFrom before (text ++ after) =
      lowerBetween before after text ++ lowerFrom (text.reverse ++ before) after := by
  induction text generalizing before with
  | nil => rfl
  | cons c rest ih => simp [lowerFrom, lowerBetween, ih]

/-- Each capital sigma of `text` has the same small form between `before`, reversed, and `after` as
    it has in `text` alone. -/
def SigmasKept (before text after : List Char) : Prop :=
  ∀ i < text.length, text[i]? = some capitalSigma →
    lowerSigma ((text.take i).reverse ++ before) (text.drop (i + 1) ++ after) =
      lowerSigma (text.take i).reverse (text.drop (i + 1))

instance (before text after : List Char) : Decidable (SigmasKept before text after) :=
  inferInstanceAs (Decidable (∀ i < text.length, _ → _))

/-- The same for a text whose front, reversed, is `inner`. -/
theorem lowerBetween_eq_lowerFrom_iff (inner before text after : List Char) :
    lowerBetween (inner ++ before) after text = lowerFrom inner text ↔
      ∀ i < text.length, text[i]? = some capitalSigma →
        lowerSigma ((text.take i).reverse ++ (inner ++ before)) (text.drop (i + 1) ++ after) =
          lowerSigma ((text.take i).reverse ++ inner) (text.drop (i + 1)) := by
  induction text generalizing inner with
  | nil => simp [lowerBetween, lowerFrom]
  | cons c rest ih =>
    have hrest := ih (c :: inner)
    rw [List.cons_append] at hrest
    rw [lowerBetween, lowerFrom, List.length_cons, Nat.forall_lt_succ_left]
    -- What the first character becomes depends on its neighbours only if it is a capital sigma.
    by_cases hc : c = capitalSigma
    · subst hc
      simp [hrest]
    · simp [hc, hrest]

/-- A part comes out as it would alone just if its capital sigmas do. -/
theorem lowerBetween_eq_iff_sigmasKept {before text after : List Char} :
    lowerBetween before after text = lowerFrom [] text ↔ SigmasKept before text after := by
  simpa [SigmasKept] using lowerBetween_eq_lowerFrom_iff [] before text after

/-! ## Finding a part -/

/-- A part whose capital sigmas keep their forms stands in the whole text as it comes out alone. -/
theorem lowerFrom_of_sigmasKept {before text after : List Char}
    (h : SigmasKept before.reverse text after) :
    lowerFrom [] (before ++ text ++ after) =
      lowerBetween [] (text ++ after) before ++ lowerFrom [] text ++
        lowerFrom (text.reverse ++ before.reverse) after := by
  rw [List.append_assoc, lowerFrom_append, List.append_nil, lowerFrom_append,
    lowerBetween_eq_iff_sigmasKept.2 h, List.append_assoc]

theorem lowerFrom_infix {before text after : List Char}
    (h : SigmasKept before.reverse text after) :
    lowerFrom [] text <:+: lowerFrom [] (before ++ text ++ after) :=
  ⟨_, _, (lowerFrom_of_sigmasKept h).symm⟩

theorem lowerFrom_prefix {text after : List Char} (h : SigmasKept [] text after) :
    lowerFrom [] text <+: lowerFrom [] (text ++ after) := by
  have hlower : lowerFrom [] ([] ++ text ++ after) =
      lowerBetween [] (text ++ after) [] ++ lowerFrom [] text ++ _ := lowerFrom_of_sigmasKept h
  exact ⟨_, hlower.symm⟩

theorem lowerFrom_suffix {before text : List Char} (h : SigmasKept before.reverse text []) :
    lowerFrom [] text <:+ lowerFrom [] (before ++ text) := by
  have hlower := lowerFrom_of_sigmasKept h
  rw [List.append_nil, lowerFrom, List.append_nil] at hlower
  exact ⟨_, hlower.symm⟩

end Corkboard.Text
