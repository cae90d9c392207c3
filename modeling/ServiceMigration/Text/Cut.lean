/-!
# Cutting texts

Where a mark first or last stands in a text, and the pieces around it.  Everything is said over
lists of characters; `String` versions wrap them.
-/

namespace ServiceMigration.Text

/-- What stands before the first `mark`; all of it when there is none. -/
def beforeFirst (mark : Char) (cs : List Char) : List Char :=
  cs.takeWhile (· != mark)

/-- What stands after the last `mark`; all of it when there is none. -/
def afterLast (mark : Char) (cs : List Char) : List Char :=
  (cs.reverse.takeWhile (· != mark)).reverse

/-- What stands after the first `mark`, if there is one. -/
def afterFirst? (mark : Char) (cs : List Char) : Option (List Char) :=
  match cs.dropWhile (· != mark) with
  | [] => none
  | _ :: rest => some rest

/-- What stands before the last `mark`, if there is one. -/
def beforeLast? (mark : Char) (cs : List Char) : Option (List Char) :=
  (afterFirst? mark cs.reverse).map List.reverse

/-- The text strictly between the first `opening` and the last `closing` after it. -/
def between? (opening closing : Char) (cs : List Char) : Option (List Char) :=
  (afterFirst? opening cs).bind (beforeLast? closing)

def dropExact? : List Char → List Char → Option (List Char)
  | [], rest => some rest
  | _ :: _, [] => none
  | p :: ps, c :: cs => if p == c then dropExact? ps cs else none

/-- `needle` occurs somewhere in the text. -/
def occursIn (needle : List Char) : List Char → Bool
  | [] => needle.isEmpty
  | c :: cs => (dropExact? needle (c :: cs)).isSome || occursIn needle cs

/-- Replace the first occurrence of `needle`. -/
def replaceFirst (needle replacement : List Char) : List Char → List Char
  | [] => if needle.isEmpty then replacement else []
  | c :: cs =>
    match dropExact? needle (c :: cs) with
    | some rest => replacement ++ rest
    | none => c :: replaceFirst needle replacement cs

/-- Split at every `mark`; `n` marks give `n + 1` pieces. -/
def splitAt (mark : Char) : List Char → List (List Char)
  | [] => [[]]
  | c :: cs =>
    if c == mark then [] :: splitAt mark cs
    else
      match splitAt mark cs with
      | [] => [[c]]
      | piece :: pieces => (c :: piece) :: pieces

/-- Lay pieces end to end with `mark` between them. -/
def joinWith (mark : List Char) : List (List Char) → List Char
  | [] => []
  | [piece] => piece
  | piece :: pieces => piece ++ mark ++ joinWith mark pieces

/-- Line ends of every kind become the newline. -/
def universalNewlines : List Char → List Char
  | [] => []
  | '\r' :: '\n' :: rest => '\n' :: universalNewlines rest
  | c :: rest => (if c == '\r' then '\n' else c) :: universalNewlines rest

@[simp] theorem dropExact?_self (p rest : List Char) : dropExact? p (p ++ rest) = some rest := by
  induction p with
  | nil => rfl
  | cons c cs ih => simp [dropExact?, ih]

theorem eq_append_of_dropExact? {p s rest : List Char} (h : dropExact? p s = some rest) :
    s = p ++ rest := by
  induction p generalizing s with
  | nil => simpa [dropExact?] using h
  | cons c cs ih =>
    cases s with
    | nil => simp [dropExact?] at h
    | cons d ds =>
      simp only [dropExact?] at h
      split at h
      · next he => simp_all [ih h]
      · simp at h

end ServiceMigration.Text
