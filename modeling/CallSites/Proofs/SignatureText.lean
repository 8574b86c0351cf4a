import CallSites.Parameter
import Mathlib.Data.List.Basic

/-! # The text of a signature

The text of a signature with a dotted callee: names joined by dots, and in parentheses the declared
parameters, `name` for a mandatory and `[name]` for an optional one. Its characters are put together
here the way they are read and printed: one name or parameter after the other.
-/

namespace CallSites.Signature

/-- A parameter as it is declared. -/
def declaration : String × ParameterKind → String
  | (name, .mandatory) => name
  | (name, .optional) => "[" ++ name ++ "]"

/-- The text of a signature. -/
def written (path : List String) (declared : List (String × ParameterKind)) : String :=
  ".".intercalate path ++ "(" ++ ", ".intercalate (declared.map declaration) ++ ")"

/-- The characters of a declaration. -/
def declarationChars : String × ParameterKind → List Char
  | (name, .mandatory) => name.toList
  | (name, .optional) => '[' :: (name.toList ++ [']'])

/-- The characters of declarations that each follow a comma. -/
def furtherChars (declared : List (String × ParameterKind)) : List Char :=
  declared.flatMap fun entry => ',' :: ' ' :: declarationChars entry

/-- The characters of declarations separated by commas. -/
def parameterChars : List (String × ParameterKind) → List Char
  | [] => []
  | entry :: rest => declarationChars entry ++ furtherChars rest

/-- The characters of names that each follow a dot. -/
def memberChars (path : List String) : List Char := path.flatMap fun name => '.' :: name.toList

/-- The characters of names joined by dots. -/
def pathChars : List String → List Char
  | [] => []
  | name :: path => name.toList ++ memberChars path

/-- The characters of a signature. -/
def callChars (path : List String) (declared : List (String × ParameterKind)) : List Char :=
  pathChars path ++ '(' :: (parameterChars declared ++ [')'])

private theorem toList_declaration (entry : String × ParameterKind) :
    (declaration entry).toList = declarationChars entry := by
  match entry with
  | (name, .mandatory) => rfl
  | (name, .optional) => simp [declaration, declarationChars]

private theorem toList_intercalate_cons (separator first : String) (rest : List String) :
    (separator.intercalate (first :: rest)).toList =
      first.toList ++ rest.flatMap fun text => separator.toList ++ text.toList := by
  rw [String.toList_intercalate]
  induction rest generalizing first with
  | nil => simp [List.intercalate]
  | cons second rest ih => simpa [List.intercalate, List.intersperse] using ih second

theorem toList_written (path : List String) (declared : List (String × ParameterKind)) :
    (written path declared).toList = callChars path declared := by
  have names : (".".intercalate path).toList = pathChars path := by
    cases path with
    | nil => rfl
    | cons name path => exact toList_intercalate_cons "." name path
  have parameters : (", ".intercalate (declared.map declaration)).toList =
      parameterChars declared := by
    cases declared with
    | nil => rfl
    | cons entry rest =>
      rw [List.map_cons, toList_intercalate_cons, toList_declaration, List.flatMap_map]
      simp [parameterChars, furtherChars, toList_declaration]
  simp [written, callChars, names, parameters]

end CallSites.Signature
