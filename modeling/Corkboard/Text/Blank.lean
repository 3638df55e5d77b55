-- SUMMARY: White space as Unicode lists it, and trimming it from a text.

/-!
# Blanks

A stored number may stand between blanks of any script. A blank is a character with the
Unicode property `White_Space`; there are 25 of them.
-/

namespace Corkboard.Text

/-- Whether `c` is white space in the sense of Unicode. -/
def isBlank (c : Char) : Bool :=
  let n := c.toNat
  (0x09 ≤ n && n ≤ 0x0D) || n == 0x20 || n == 0x85 || n == 0xA0 || n == 0x1680 ||
    (0x2000 ≤ n && n ≤ 0x200A) || n == 0x2028 || n == 0x2029 || n == 0x202F ||
    n == 0x205F || n == 0x3000

/-- The text without the blanks in front. -/
def trimStart (text : List Char) : List Char :=
  text.dropWhile isBlank

/-- The text without the blanks in front and at the end. -/
def trim (text : List Char) : List Char :=
  (trimStart (trimStart text).reverse).reverse

theorem isBlank_of_isDigit {c : Char} (h : c.isDigit = true) : isBlank c = false := by
  simp only [Char.isDigit, ge_iff_le, Bool.and_eq_true, decide_eq_true_eq] at h
  have hlow : 48 ≤ c.toNat := h.1
  have hhigh : c.toNat ≤ 57 := h.2
  simp [isBlank]
  omega

theorem isDigit_of_isBlank {c : Char} (h : isBlank c = true) : c.isDigit = false := by
  rw [Bool.eq_false_iff]
  intro hdigit
  simp [isBlank_of_isDigit hdigit] at h

/-- There is nothing to trim in front of a text that starts with no blank. -/
theorem trimStart_of_head {text : List Char} (h : ∀ c ∈ text.head?, isBlank c = false) :
    trimStart text = text := by
  cases text with
  | nil => rfl
  | cons c rest => exact List.dropWhile_cons_of_neg (by simp [h c rfl])

theorem trimStart_append_of_blanks {front : List Char} (h : ∀ c ∈ front, isBlank c = true)
    (text : List Char) : trimStart (front ++ text) = trimStart text :=
  List.dropWhile_append_of_pos h

/-- Blanks around a text are trimmed, up to where it starts and ends with no blank. -/
theorem trim_between {front text back : List Char} (hfront : ∀ c ∈ front, isBlank c = true)
    (hback : ∀ c ∈ back, isBlank c = true) (hfirst : ∀ c ∈ text.head?, isBlank c = false)
    (hlast : ∀ c ∈ text.getLast?, isBlank c = false) (hne : text ≠ []) :
    trim (front ++ text ++ back) = text := by
  have hstart : trimStart (text ++ back) = text ++ back := by
    refine trimStart_of_head fun c hc => hfirst c ?_
    rwa [List.head?_append, Option.or_of_isSome (List.isSome_head?.2 hne)] at hc
  have hend : trimStart text.reverse = text.reverse :=
    trimStart_of_head (by simpa using hlast)
  have hback' : ∀ c ∈ back.reverse, isBlank c = true := by simpa using hback
  rw [trim, List.append_assoc, trimStart_append_of_blanks hfront, hstart, List.reverse_append,
    trimStart_append_of_blanks hback', hend, List.reverse_reverse]

/-- There is nothing to trim from a text that starts and ends with a character that is no blank. -/
theorem trim_of_ends {first last : Char} (hfirst : isBlank first = false)
    (hlast : isBlank last = false) (middle : List Char) :
    trim (first :: middle ++ [last]) = first :: middle ++ [last] := by
  have hnone : ∀ c ∈ ([] : List Char), isBlank c = true := by simp
  have hfirst' : ∀ c ∈ (first :: middle ++ [last]).head?, isBlank c = false := by simp [hfirst]
  have hlast' : ∀ c ∈ (first :: middle ++ [last]).getLast?, isBlank c = false := by
    rw [List.getLast?_concat]
    simpa using hlast
  simpa using trim_between hnone hnone hfirst' hlast' (by simp)

end Corkboard.Text
