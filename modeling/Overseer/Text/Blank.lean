/-!
White space as Unicode defines it, and the trimming and cutting of character lists that the text
formats share.
-/

namespace Overseer.Text

def isBlank (c : Char) : Bool :=
  let n := c.toNat
  (9 ≤ n && n ≤ 13) || n == 0x20 || n == 0x85 || n == 0xA0 || n == 0x1680 ||
    (0x2000 ≤ n && n ≤ 0x200A) || n == 0x2028 || n == 0x2029 || n == 0x202F || n == 0x205F ||
    n == 0x3000

def dropEndWhile (p : Char → Bool) (s : List Char) : List Char :=
  (s.reverse.dropWhile p).reverse

def trimChars (s : List Char) : List Char :=
  dropEndWhile isBlank (s.dropWhile isBlank)

def trim (s : String) : String := String.ofList (trimChars s.toList)

def cutAt (c : Char) : List Char → Option (List Char × List Char)
  | [] => none
  | d :: rest =>
      if d = c then some ([], rest)
      else (cutAt c rest).map fun (before, after) => (d :: before, after)

def pieces (c : Char) : List Char → List (List Char)
  | [] => [[]]
  | d :: rest =>
      match pieces c rest with
      | [] => [[]]
      | head :: tail => if d = c then [] :: head :: tail else (d :: head) :: tail

def words (s : List Char) : List (List Char) :=
  let step (c : Char) : List Char × List (List Char) → List Char × List (List Char)
    | (word, done) =>
        if isBlank c then ([], if word.isEmpty then done else word :: done)
        else (c :: word, done)
  let (word, done) := s.foldr step ([], [])
  if word.isEmpty then done else word :: done

def lowerAscii (s : List Char) : List Char := s.map Char.toLower

def isAsciiDigit (c : Char) : Bool := '0' ≤ c && c ≤ '9'

def digitsValue (s : List Char) : Nat :=
  s.foldl (fun n c => 10 * n + (c.toNat - '0'.toNat)) 0

theorem cutAt_eq_some {c : Char} {s before after : List Char}
    (h : cutAt c s = some (before, after)) : s = before ++ c :: after ∧ c ∉ before := by
  induction s generalizing before with
  | nil => simp [cutAt] at h
  | cons d rest ih =>
      unfold cutAt at h
      by_cases hd : d = c
      · simp only [hd, if_true, Option.some.injEq, Prod.mk.injEq] at h
        obtain ⟨rfl, rfl⟩ := h
        simp [hd]
      · rw [if_neg hd] at h
        obtain ⟨⟨b, a⟩, hcut, heq⟩ := Option.map_eq_some_iff.1 h
        simp only [Prod.mk.injEq] at heq
        obtain ⟨rfl, rfl⟩ := heq
        obtain ⟨hs, hn⟩ := ih hcut
        exact ⟨by simp [hs], by simp [hn, Ne.symm hd]⟩

end Overseer.Text
