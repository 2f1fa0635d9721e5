/-
  Interfaces/Json.lean --- JSON values and the library calls the plugin makes on
  them.

  The JSON libraries are not part of the repository.  What the handlers rely on
  is their documented behaviour: `find` on something that is not an object
  yields the end iterator, and `get<T>` throws when the value is not of kind
  `T`.  `json_object_new_string` takes a C string, so it sees a `std::string`
  only up to its first NUL.

  A handler prints the `json_object` it is given and parses the text with
  `json::parse`.  The model gives it the value itself, so printing and parsing
  together are taken to be the identity.  A value of which that is not true has
  no model here: on one that prints as no JSON text (a number that is not a
  finite double, a string that is not UTF-8) `json::parse` throws before any
  member is looked for.
-/
import Mathlib.Data.List.Basic
import Mathlib.Data.List.TakeWhile

set_option autoImplicit false

namespace Vshl.Interfaces

/-- A JSON value.  The members of an object are listed in iteration order. -/
inductive Json where
  | null
  | bool (b : Bool)
  | num (mantissa : Int) (exponent : Nat)
  | str (s : String)
  | arr (elements : List Json)
  | obj (members : List (String × Json))
  deriving Repr, Inhabited

/-- What ends a call without a result: an exception of the JSON library that
nothing catches, or the dereference of a null pointer. -/
inductive Fault where
  | typeError
  | nullDereference
  deriving DecidableEq, Repr

namespace Json

/-- `find(key)`; `none` is the end iterator. -/
def find? : Json → String → Option Json
  | .obj members, key => members.lookup key
  | _, _ => none

/-- `get<string>()`. -/
def getString : Json → Except Fault String
  | .str s => .ok s
  | _ => .error .typeError

/-- `get<bool>()`. -/
def getBool : Json → Except Fault Bool
  | .bool b => .ok b
  | _ => .error .typeError

/-- The conversion of each element of a list by `get<string>()`. -/
def getStrings : List Json → Except Fault (List String)
  | [] => .ok []
  | element :: rest =>
      match element.getString with
      | .error fault => .error fault
      | .ok s =>
          match getStrings rest with
          | .error fault => .error fault
          | .ok others => .ok (s :: others)

/-- `get<list<string>>()`. -/
def getStringList : Json → Except Fault (List String)
  | .arr elements => getStrings elements
  | _ => .error .typeError

/-- What `for (it = j.begin(); it != j.end(); ++it)` visits: the elements of an
array, the values of an object, nothing for `null`, and a primitive value once
as if it were its own only element. -/
def iterate : Json → List Json
  | .null => []
  | .arr elements => elements
  | .obj members => members.map Prod.snd
  | primitive => [primitive]

@[simp] theorem getStrings_map_str (strings : List String) :
    getStrings (strings.map .str) = .ok strings := by
  induction strings with
  | nil => rfl
  | cons s rest ih => simp [getStrings, getString, ih]

theorem getString_eq_ok_iff {j : Json} {s : String} : j.getString = .ok s ↔ j = .str s := by
  cases j <;> simp [getString]

theorem getBool_eq_ok_iff {j : Json} {b : Bool} : j.getBool = .ok b ↔ j = .bool b := by
  cases j <;> simp [getBool]

theorem getStrings_eq_ok_iff {elements : List Json} {strings : List String} :
    getStrings elements = .ok strings ↔ elements = strings.map .str := by
  constructor
  · intro h
    induction elements generalizing strings with
    | nil =>
        obtain rfl : [] = strings := Except.ok.inj h
        rfl
    | cons element rest ih =>
        rw [getStrings] at h
        cases hfirst : element.getString with
        | error fault => simp [hfirst] at h
        | ok s =>
            cases hrest : getStrings rest with
            | error fault => simp [hfirst, hrest] at h
            | ok others =>
                simp only [hfirst, hrest, Except.ok.injEq] at h
                rw [← h, List.map_cons, ← ih hrest, getString_eq_ok_iff.mp hfirst]
  · rintro rfl
    exact getStrings_map_str strings

theorem getStringList_eq_ok_iff {j : Json} {strings : List String} :
    j.getStringList = .ok strings ↔ j = .arr (strings.map .str) := by
  cases j with
  | arr elements => simp [getStringList, getStrings_eq_ok_iff]
  | _ => simp [getStringList]

end Json

/-- The only way to have no value is the exception of a conversion. -/
def Converts {α : Type} (value : Except Fault α) : Prop :=
  ∀ fault, value = .error fault → fault = .typeError

theorem converts_ok {α : Type} (value : α) : Converts (.ok value) :=
  fun _ h => absurd h (by simp)

theorem converts_typeError {α : Type} : Converts (.error .typeError : Except Fault α) :=
  fun _ h => (Except.error.inj h).symm

theorem Converts.bind {α β : Type} {first : Except Fault α} {second : α → Except Fault β}
    (h : Converts first) (h' : ∀ a, Converts (second a)) : Converts (first >>= second) := by
  cases first with
  | error fault =>
      intro fault' heq
      obtain rfl : fault = fault' := Except.error.inj heq
      exact h fault rfl
  | ok a => exact h' a

theorem Json.getString_converts (j : Json) : Converts j.getString := by
  cases j with
  | str s => exact converts_ok s
  | _ => exact converts_typeError

theorem Json.getBool_converts (j : Json) : Converts j.getBool := by
  cases j with
  | bool b => exact converts_ok b
  | _ => exact converts_typeError

theorem Json.getStrings_converts (elements : List Json) :
    Converts (Json.getStrings elements) := by
  induction elements with
  | nil => exact converts_ok []
  | cons element rest ih =>
      rw [Json.getStrings]
      split
      · rename_i fault hfirst
        rw [element.getString_converts fault hfirst]
        exact converts_typeError
      · split
        · rename_i fault hrest
          rw [ih fault hrest]
          exact converts_typeError
        · exact converts_ok _

theorem Json.getStringList_converts (j : Json) : Converts j.getStringList := by
  cases j with
  | arr elements => exact Json.getStrings_converts elements
  | _ => exact converts_typeError

/-- A computation yields a value exactly if each of its two parts does. -/
theorem bind_eq_ok_iff {α β : Type} {first : Except Fault α} {second : α → Except Fault β}
    {value : β} : (first >>= second) = .ok value ↔ ∃ a, first = .ok a ∧ second a = .ok value := by
  cases first with
  | error fault => exact ⟨fun h => absurd h (by simp [bind, Except.bind]), by simp⟩
  | ok a => exact ⟨fun h => ⟨a, rfl, h⟩, by simp [bind, Except.bind]⟩

/-- The C string a `std::string` is seen as: everything before the first NUL. -/
def cStr (s : String) : String :=
  String.ofList (s.toList.takeWhile fun c => c ≠ '\x00')

/-- The C string is the whole string exactly if the string has no NUL. -/
theorem cStr_eq_self_iff {s : String} : cStr s = s ↔ '\x00' ∉ s.toList := by
  have hlist : cStr s = s ↔ s.toList.takeWhile (fun c => c ≠ '\x00') = s.toList := by
    rw [← String.toList_inj, cStr, String.toList_ofList]
  rw [hlist, List.takeWhile_eq_self_iff]
  constructor
  · intro hall hmem
    exact absurd rfl (of_decide_eq_true (hall '\x00' hmem))
  · intro hnot c hmem
    apply decide_eq_true
    intro hnul
    exact hnot (hnul ▸ hmem)

/-- `json_object_new_string(s.c_str())`. -/
def jsonObjectNewString (s : String) : Json := .str (cStr s)

/-- So the JSON string has the value of the `std::string` exactly then. -/
theorem jsonObjectNewString_eq_iff {s : String} :
    jsonObjectNewString s = .str s ↔ '\x00' ∉ s.toList := by
  rw [jsonObjectNewString, Json.str.injEq, cStr_eq_self_iff]

end Vshl.Interfaces
