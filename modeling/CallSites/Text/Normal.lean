import CallSites.Text.Normal.Composition
import CallSites.Text.Normal.Decomposition

/-! # Normal forms of names

Two names are the same if they have the same normal form, in the sense of the Unicode normalization
form KC: every character is taken apart into the characters for which it stands, the marks behind a
character are put in the order of their classes, and characters and marks are put together again.
The tables cover the characters of identifiers. A name of ASCII characters is its own normal form.
-/

namespace CallSites.Text

namespace Normal

/-- The class of a mark. It is zero for a character that is no mark. -/
def markClass (code : Nat) : Nat :=
  let row? := classes.find? fun (first, last, _) => first ≤ code && code ≤ last
  (row?.map fun row => row.2.2).getD 0

/-- The letters of a Hangul syllable: an initial, a vowel and perhaps a final. -/
def syllableLetters? (code : Nat) : Option (List Nat) :=
  if 0xac00 ≤ code ∧ code ≤ 0xd7a3 then
    let index := code - 0xac00
    let final := index % 28
    some ([0x1100 + index / 588, 0x1161 + index % 588 / 28] ++
      if final = 0 then [] else [0x11a7 + final])
  else none

/-- The characters of which a character is a variant. -/
def variantOf? (code : Nat) : Option (List Nat) :=
  match runs.find? fun (first, last, _) => first ≤ code && code ≤ last with
  | some (first, _, target) => some [target + (code - first)]
  | none => variants.findSome? fun (first, row) =>
    if first ≤ code then row[code - first]? else none

/-- The characters for which a character stands, which may be itself. A character with several marks
stands for a character with fewer and a mark; `depth` bounds the number of marks. -/
def apart : Nat → Nat → List Nat
  | 0, code => [code]
  | depth + 1, code =>
    match composites.find? fun (_, _, whole) => whole == code with
    | some (first, mark, _) => apart depth first ++ apart depth mark
    | none =>
      match (syllableLetters? code).or (variantOf? code) with
      | some (first :: rest) => first :: rest
      | _ => [code]

/-- The largest number of marks for which `apart` takes a character apart. -/
def maxMarks : Nat := 4

/-- Puts a character before others. A mark goes behind the marks of a smaller class. -/
def insertMark (code : Nat) : List Nat → List Nat
  | [] => [code]
  | next :: rest =>
    if markClass next ≠ 0 ∧ markClass next < markClass code then next :: insertMark code rest
    else code :: next :: rest

/-- The characters with the marks behind each character in the order of their classes. -/
def ordered (codes : List Nat) : List Nat := codes.foldr insertMark []

/-- The character that stands for two that follow each other, if there is one. -/
def together? (first next : Nat) : Option Nat :=
  if 0x1100 ≤ first ∧ first < 0x1113 ∧ 0x1161 ≤ next ∧ next < 0x1176 then
    some (0xac00 + (first - 0x1100) * 588 + (next - 0x1161) * 28)
  else if 0xac00 ≤ first ∧ first ≤ 0xd7a3 ∧ (first - 0xac00) % 28 = 0 ∧
      0x11a8 ≤ next ∧ next < 0x11c3 then
    some (first + (next - 0x11a7))
  else
    (composites.find? fun (base, mark, _) => base == first && mark == next).map fun row => row.2.2

/-- Puts a character together with those that follow it. The marks in `kept` stand between them and
could not be put together with it; a mark of a class that is not smaller separates them. -/
def composeFrom (base : Nat) (kept : List Nat) : List Nat → List Nat
  | [] => base :: kept
  | next :: rest =>
    let separated := kept.getLast?.any fun mark => markClass next ≤ markClass mark
    match if separated = true then none else together? base next with
    | some whole => composeFrom whole kept rest
    | none =>
      if markClass next = 0 then base :: (kept ++ composeFrom next [] rest)
      else composeFrom base (kept ++ [next]) rest

/-- The characters, put together as far as possible. -/
def compose : List Nat → List Nat
  | [] => []
  | base :: rest => composeFrom base [] rest

theorem apart_ne_nil (depth code : Nat) : apart depth code ≠ [] := by
  induction depth generalizing code with
  | zero => simp [apart]
  | succ depth ih =>
    rw [apart]
    split
    · simp [ih]
    · split <;> simp

theorem insertMark_ne_nil (code : Nat) (codes : List Nat) : insertMark code codes ≠ [] := by
  cases codes with
  | nil => simp [insertMark]
  | cons next rest =>
    rw [insertMark]
    split <;> simp

theorem ordered_ne_nil {codes : List Nat} (some_ : codes ≠ []) : ordered codes ≠ [] := by
  obtain ⟨first, rest, rfl⟩ := List.exists_cons_of_ne_nil some_
  rw [ordered, List.foldr_cons]
  exact insertMark_ne_nil first _

theorem composeFrom_ne_nil (base : Nat) (kept codes : List Nat) :
    composeFrom base kept codes ≠ [] := by
  induction codes generalizing base kept with
  | nil => simp [composeFrom]
  | cons next rest ih =>
    rw [composeFrom]
    split
    · exact ih _ _
    · split
      · simp
      · exact ih _ _

theorem compose_ne_nil {codes : List Nat} (some_ : codes ≠ []) : compose codes ≠ [] := by
  obtain ⟨first, rest, rfl⟩ := List.exists_cons_of_ne_nil some_
  exact composeFrom_ne_nil first [] rest

end Normal

/-- The normal form of a name. -/
def normalForm (name : String) : String :=
  if name.toList.all fun c => c.toNat < 128 then name
  else
    let codes := name.toList.flatMap fun c => Normal.apart Normal.maxMarks c.toNat
    String.ofList ((Normal.compose (Normal.ordered codes)).map Char.ofNat)

theorem normalForm_of_ascii {name : String} (ascii : name.toList.all fun c => c.toNat < 128) :
    normalForm name = name := if_pos ascii

/-- The normal form of a name is empty only if the name is. -/
theorem normalForm_ne_empty {name : String} (given : name ≠ "") : normalForm name ≠ "" := by
  rw [normalForm]
  split
  · exact given
  · obtain ⟨first, rest, chars⟩ := List.exists_cons_of_ne_nil
      (fun none_ => given (String.toList_eq_nil_iff.mp none_))
    have codes : name.toList.flatMap (fun c => Normal.apart Normal.maxMarks c.toNat) ≠ [] := by
      rw [chars, List.flatMap_cons]
      simp [Normal.apart_ne_nil]
    intro none_
    have empty := congrArg String.toList none_
    simp only [String.toList_ofList, String.toList_empty, List.map_eq_nil_iff] at empty
    exact Normal.compose_ne_nil (Normal.ordered_ne_nil codes) empty

end CallSites.Text
