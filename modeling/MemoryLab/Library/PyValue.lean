import MemoryLab.Library.Dict
import MemoryLab.Library.PyText

/-! # Python values

The values that JSON documents and rows hold. A finite float is the number it stands for. -/

namespace Library

inductive PyFloat where
  | finite (value : ℚ)
  | posInf
  | negInf
  | nan
deriving DecidableEq

inductive PyValue where
  | none
  | bool (value : Bool)
  | int (value : ℤ)
  | float (value : PyFloat)
  | str (value : Text)
  | list (items : List PyValue)
  | dict (entries : List (Text × PyValue))

abbrev PyDict := Dict Text PyValue

namespace PyValue

def isNone : PyValue → Bool
  | none => true
  | _ => false

def ofText (value : Option Text) : PyValue := (value.map str).getD none

def ofRat (value : Option ℚ) : PyValue := (value.map fun x => float (.finite x)).getD none

def ofBool (value : Option Bool) : PyValue := (value.map bool).getD none

end PyValue

namespace PyDict

/-- `dict.get`. -/
def get (key : String) (dict : PyDict) : PyValue := (Dict.get? key.toList dict).getD .none

/-- `dict[key] = value`. -/
def put (key : String) (value : PyValue) (dict : PyDict) : PyDict := Dict.set key.toList value dict

/-- `dict.update`. -/
def update (dict entries : PyDict) : PyDict :=
  entries.foldl (fun dict entry => Dict.set entry.1 entry.2 dict) dict

/-- Sets a value unless it is `None`. -/
def putSome (dict : PyDict) (entry : String × PyValue) : PyDict :=
  if entry.2.isNone then dict else dict.put entry.1 entry.2

variable {key name : String} {value : PyValue} {dict : PyDict}

@[simp] theorem get_put_self : (put key value dict).get key = value := by
  rw [put, get, Dict.set, Dict.get?_modify_self, Option.getD_some]

theorem get_put_of_ne (h : name ≠ key) : (put key value dict).get name = dict.get name := by
  have hlist : name.toList ≠ key.toList := fun heq => h (String.toList_inj.mp heq)
  rw [put, get, Dict.set, Dict.get?_modify_of_ne hlist, get]

theorem get_putSome_of_ne (h : name ≠ key) :
    (putSome dict (key, value)).get name = dict.get name := by
  unfold putSome
  split
  · rfl
  · exact get_put_of_ne h

/-- A key that is not set keeps its value. -/
theorem get_foldl_putSome {entries : List (String × PyValue)}
    (h : name ∉ entries.map (·.1)) : (entries.foldl putSome dict).get name = dict.get name := by
  induction entries generalizing dict with
  | nil => rfl
  | cons entry entries ih =>
      rw [List.map_cons, List.mem_cons, not_or] at h
      rw [List.foldl_cons, ih h.2, get_putSome_of_ne h.1]

theorem get_update_of_notMem {entries : PyDict} (h : name.toList ∉ entries.map (·.1)) :
    (update dict entries).get name = dict.get name := by
  induction entries generalizing dict with
  | nil => rfl
  | cons entry entries ih =>
      rw [List.map_cons, List.mem_cons, not_or] at h
      have hrest : (update dict (entry :: entries)).get name =
          (update (Dict.set entry.1 entry.2 dict) entries).get name := rfl
      rw [hrest, ih h.2, get, Dict.set, Dict.get?_modify_of_ne h.1, get]

end PyDict

end Library
