/-!
Cutting texts at characters and short marks. `splitOn_join` says that the pieces, joined again at
the character that separated them, give back the text.
-/

namespace ParamRules.Text

/-- The pieces of a text between the occurrences of a character: one more than there are
occurrences. -/
def splitChars (sep : Char) : List Char → List (List Char)
  | [] => [[]]
  | c :: r =>
    if c = sep then [] :: splitChars sep r
    else
      match splitChars sep r with
      | [] => [[c]]
      | piece :: pieces => (c :: piece) :: pieces

def split (sep : Char) (s : String) : List String :=
  (splitChars sep s.toList).map String.ofList

/-- The text before and after the first occurrence of a character. -/
def cutChars? (sep : Char) : List Char → Option (List Char × List Char)
  | [] => none
  | c :: r => if c = sep then some ([], r) else (cutChars? sep r).map fun p => (c :: p.1, p.2)

def cut? (sep : Char) (s : String) : Option (String × String) :=
  (cutChars? sep s.toList).map fun p => (String.ofList p.1, String.ofList p.2)

def cutLast? (sep : Char) (s : String) : Option (String × String) :=
  (cutChars? sep s.toList.reverse).map fun p =>
    (String.ofList p.2.reverse, String.ofList p.1.reverse)

/-- The rest of a text that begins with the given characters. -/
def afterChars? : List Char → List Char → Option (List Char)
  | [], s => some s
  | _ :: _, [] => none
  | p :: ps, c :: r => if p = c then afterChars? ps r else none

/-- The text without any occurrence of a mark, scanned from the left. -/
def removeChars (mark : List Char) : Nat → List Char → List Char
  | 0, s => s
  | _, [] => []
  | fuel + 1, c :: r =>
    match afterChars? mark (c :: r) with
    | some rest => removeChars mark fuel rest
    | none => c :: removeChars mark fuel r

def remove (mark : String) (s : String) : String :=
  let cs := s.toList
  String.ofList (removeChars mark.toList (cs.length + 1) cs)

def occursIn (mark s : List Char) : Bool :=
  match s with
  | [] => mark.isEmpty
  | _ :: r => (afterChars? mark s).isSome || occursIn mark r

/-- Texts in the order of their characters, each once. -/
def sortedTexts (texts : List String) : List String :=
  (texts.mergeSort fun a b => a ≤ b).eraseDups

def join (sep : String) (parts : List String) : String :=
  sep.intercalate parts

def padded (width n : Nat) : String :=
  let digits := toString n
  String.ofList (List.replicate (width - digits.length) '0') ++ digits

theorem splitChars_ne_nil (sep : Char) (s : List Char) : splitChars sep s ≠ [] := by
  cases s with
  | nil => simp [splitChars]
  | cons c r =>
    unfold splitChars
    split
    · simp
    · split <;> simp

/-- The pieces joined at the separator give back the text. -/
theorem splitOn_join (sep : Char) (s : List Char) :
    [sep].intercalate (splitChars sep s) = s := by
  induction s with
  | nil => rfl
  | cons c r ih =>
    obtain ⟨piece, pieces, hsplit⟩ := List.exists_cons_of_ne_nil (splitChars_ne_nil sep r)
    rw [hsplit] at ih
    by_cases h : c = sep
    · simp only [splitChars, h, if_true, hsplit]
      rw [← ih]
      simp [List.intercalate, List.intersperse]
    · simp only [splitChars, h, if_false, hsplit]
      conv => rhs; rw [← ih]
      cases pieces <;> simp [List.intercalate, List.intersperse]

end ParamRules.Text
