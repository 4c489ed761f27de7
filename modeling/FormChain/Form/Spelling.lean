/-!
# Words of the form language

Many settings of a form are one word out of a few. A type of such words tells the
spelling of each of its members, in the order in which a complaint about a wrong word
lists them; the spelling of a member finds the member again.
-/

namespace FormChain

/-- **A type whose members are spelt as words.** -/
class Spelled (α : Type) where
  /-- The words and what they stand for, in the order of complaints. -/
  table : List (String × α)
  /-- The word of a member. -/
  word : α → String
  /-- The word of a member finds the member. -/
  lookup_word : ∀ a, table.lookup (word a) = some a

namespace Spelled

variable {α : Type} [Spelled α]

/-- The member that a word stands for. -/
def ofWord? (s : String) : Option α :=
  (table : List (String × α)).lookup s

/-- The words of the type, in order. -/
def words (α : Type) [Spelled α] : List String :=
  (table : List (String × α)).map Prod.fst

/-- The word of a member stands for the member. -/
@[simp] theorem ofWord?_word (a : α) : ofWord? (word a) = some a :=
  lookup_word a

end Spelled

end FormChain
