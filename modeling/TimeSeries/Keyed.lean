/-! Lists kept in strictly increasing order of a key: the points of a series, the series of a
partition, the declarations of a schema. -/

namespace TimeSeries

class Keyed (α : Type) (κ : outParam Type) where
  key : α → κ

namespace Keyed

variable {α κ : Type} [Keyed α κ] [DecidableEq κ]

def find? (wanted : κ) (items : List α) : Option α :=
  items.find? fun item => key item = wanted

def has (wanted : κ) (items : List α) : Bool :=
  (find? wanted items).isSome

def without (unwanted : κ) (items : List α) : List α :=
  items.filter fun item => key item ≠ unwanted

@[simp] theorem find?_nil (wanted : κ) : find? wanted ([] : List α) = none :=
  rfl

theorem find?_cons (wanted : κ) (first : α) (rest : List α) :
    find? wanted (first :: rest) =
      if key first = wanted then some first else find? wanted rest := by
  by_cases found : key first = wanted <;> simp [find?, found]

theorem find?_without (unwanted wanted : κ) (items : List α) :
    find? wanted (without unwanted items) =
      if unwanted = wanted then none else find? wanted items := by
  induction items with
  | nil => simp [without]
  | cons first rest ih =>
    simp only [without, List.filter_cons] at ih ⊢
    split <;> grind [find?_cons]

variable [LT κ] [DecidableLT κ]

def Ascending (items : List α) : Prop :=
  items.Pairwise fun before after => key before < key after

/-- An item goes in front of the first larger key and replaces the item of the same key. -/
def place (item : α) : List α → List α
  | [] => [item]
  | first :: rest =>
    if key item < key first then item :: first :: rest
    else if key item = key first then item :: rest
    else first :: place item rest

theorem find?_place (item : α) (wanted : κ) (items : List α) :
    find? wanted (place item items) =
      if key item = wanted then some item else find? wanted items := by
  induction items with
  | nil => simp [place, find?_cons]
  | cons first rest ih =>
    unfold place
    split
    · simp [find?_cons]
    · split <;> grind [find?_cons]

end Keyed

end TimeSeries
