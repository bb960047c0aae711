import Mathlib

/-!
# JSON values

The values a JSON column or a decoded request body can hold.  Objects keep the
order in which their members were written, because that order is exactly what a
database is free to change; `Json.WellFormed` says that no object repeats a key.
-/

namespace MessagingSystem
namespace Foundation

/-!
# Numbers

An integer is unbounded.  A float is identified with the text that prints it:
printing a float and reading it back is the identity, so the text loses nothing.
-/

def isNumberChar (c : Char) : Bool :=
  c.isDigit || c ∈ ['-', '+', '.', 'e', 'N', 'a', 'I', 'n', 'f', 'i', 't', 'y']

def isNumberStart (c : Char) : Bool :=
  c.isDigit || c ∈ ['-', 'N', 'I']

/-- The shape that keeps a printed float apart from integers and literals. -/
def isFloatText (text : List Char) : Bool :=
  text.all isNumberChar && text.head?.any isNumberStart &&
    text.any (fun c => !(c.isDigit || c == '-'))

structure FloatText where
  text : List Char
  shape : isFloatText text = true
  deriving DecidableEq

inductive Json where
  | null
  | bool (b : Bool)
  | int (n : Int)
  | float (x : FloatText)
  | str (s : String)
  | arr (items : List Json)
  | obj (members : List (String × Json))

namespace Json

/--
The induction rule of the nested type: an array or an object may assume the
statement for everything it contains.
-/
theorem induct {P : Json -> Prop}
    (null : P null) (bool : forall b, P (bool b)) (int : forall n, P (int n))
    (float : forall x, P (float x)) (str : forall s, P (str s))
    (arr : forall items, (forall item, item ∈ items -> P item) -> P (arr items))
    (obj : forall members, (forall m, m ∈ members -> P m.2) -> P (obj members))
    (j : Json) : P j := by
  refine @Json.rec P
    (fun items => forall item, item ∈ items -> P item)
    (fun members => forall m, m ∈ members -> P m.2)
    (fun m => P m.2)
    null bool int float str arr obj ?_ ?_ ?_ ?_ ?_ j
  · intro item hitem
    cases hitem
  · intro head tail hhead htail item hitem
    rcases List.mem_cons.mp hitem with heq | hmem
    · rw [heq]
      exact hhead
    · exact htail item hmem
  · intro m hm
    cases hm
  · intro head tail hhead htail m hm
    rcases List.mem_cons.mp hm with heq | hmem
    · rw [heq]
      exact hhead
    · exact htail m hmem
  · intro _ value hvalue
    exact hvalue

/-- Truth value testing, as `bool(value)` does it. -/
def truthy : Json -> Bool
  | null => false
  | bool b => b
  | int n => n != 0
  | float x => x.text != "0.0".toList && x.text != "-0.0".toList
  | str s => s != ""
  | arr items => !items.isEmpty
  | obj members => !members.isEmpty

def member? (members : List (String × Json)) (k : String) : Option Json :=
  members.lookup k

end Json

end Foundation
end MessagingSystem
