import Mathlib.Data.List.Basic

namespace MarketIntelligence
namespace Foundations
namespace TextLines

/-!
# Blanks and lines of a text

The blanks around a text, and the lines of a text, which may end with any of the line boundaries
of Unicode.
-/

/-- A character that is stripped. -/
def space (char : Char) : Bool :=
  (9 ≤ char.toNat && char.toNat ≤ 13) || (28 ≤ char.toNat && char.toNat ≤ 32) ||
    char.toNat = 0x85 || char.toNat = 0xa0 || char.toNat = 0x1680 ||
    (0x2000 ≤ char.toNat && char.toNat ≤ 0x200a) || char.toNat = 0x2028 ||
    char.toNat = 0x2029 || char.toNat = 0x202f || char.toNat = 0x205f || char.toNat = 0x3000

def strip (text : List Char) : List Char :=
  ((text.dropWhile space).reverse.dropWhile space).reverse

/-- A character that ends a line. -/
def boundary (char : Char) : Bool :=
  (10 ≤ char.toNat && char.toNat ≤ 13) || (28 ≤ char.toNat && char.toNat ≤ 30) ||
    char.toNat = 0x85 || char.toNat = 0x2028 || char.toNat = 0x2029

def splitlines : List Char -> List (List Char)
  | [] => []
  | '\r' :: '\n' :: rest => [] :: splitlines rest
  | char :: rest =>
      if boundary char then [] :: splitlines rest
      else
        match splitlines rest with
        | [] => [[char]]
        | line :: lines => (char :: line) :: lines

inductive LineEnd where
  | lineFeed
  | carriageReturn
  deriving DecidableEq, Repr

/-- The end of a line, which is a line feed with or without a carriage return before it. -/
def LineEnd.text : LineEnd -> List Char
  | .lineFeed => ['\n']
  | .carriageReturn => ['\r', '\n']

theorem dropWhile_of_none {text : List Char} (inner : forall char, char ∈ text -> space char = false) :
    text.dropWhile space = text := by
  cases text with
  | nil => rfl
  | cons char rest =>
      apply List.dropWhile_cons_of_neg
      rw [inner char List.mem_cons_self]
      exact Bool.false_ne_true

theorem strip_of_none {text : List Char} (inner : forall char, char ∈ text -> space char = false) :
    strip text = text := by
  rw [strip, dropWhile_of_none inner, dropWhile_of_none, List.reverse_reverse]
  exact fun char member => inner char (List.mem_reverse.mp member)

/-- A text with a character that is no blank is more than blanks. -/
theorem strip_ne_nil {text : List Char} {char : Char} (member : char ∈ text)
    (inner : space char = false) : strip text ≠ [] := by
  have kept : forall {text : List Char}, char ∈ text -> char ∈ text.dropWhile space := by
    intro text member
    induction text with
    | nil => cases member
    | cons head tail ih =>
        cases blank : space head with
        | false =>
            rw [List.dropWhile_cons_of_neg (Bool.eq_false_iff.mp blank)]
            exact member
        | true =>
            rw [List.dropWhile_cons_of_pos blank]
            rcases List.mem_cons.mp member with same | later
            · rw [same, blank] at inner
              cases inner
            · exact ih later
  intro empty
  have found : char ∈ strip text :=
    List.mem_reverse.mpr (kept (List.mem_reverse.mpr (kept member)))
  rw [empty] at found
  cases found

/-- Without a boundary in it, the text before a line end is a line. -/
theorem splitlines_line {line : List Char} (inner : forall char, char ∈ line -> boundary char = false)
    (lineEnd : LineEnd) (rest : List Char) :
    splitlines (line ++ (lineEnd.text ++ rest)) = line :: splitlines rest := by
  induction line with
  | nil =>
      cases lineEnd with
      | lineFeed =>
          rw [List.nil_append]
          change splitlines ('\n' :: rest) = _
          rw [splitlines]
          · rfl
          · intro tail same
            exact absurd same (by decide)
      | carriageReturn => rfl
  | cons char line ih =>
      have here := inner char List.mem_cons_self
      have other : char ≠ '\r' := by
        intro same
        rw [same] at here
        cases here
      rw [List.cons_append, splitlines]
      · rw [here, ih fun next member => inner next (List.mem_cons_of_mem _ member)]
        rfl
      · intro tail same
        exact absurd same other

end TextLines
end Foundations
end MarketIntelligence
