import FormChain.Condition.Comparison
import FormChain.Form.Basic

/-!
# Whether a filter holds

A filter is asked with a way to look up properties and a way to prepare the value that a
property is compared with; where values live is not its business. A group combines its
filters; without any it holds, whichever way they would be combined. A comparison
without an operator, or with one that is not known, does not hold.

Files are decoded on the way, by whoever decodes files there. So a filter is tested in the
monad of the decoder (`Filter.test`), and a group stops at the first filter that settles
it. With a decoder that is a mere function, the filter holds or does not
(`Filter.holds`), and `Filter.asked` tells which properties are looked up.
-/

namespace FormChain

/-- **What a filter is asked with.** -/
structure Inquiry where
  /-- The value of a property. -/
  lookup : String → Option Value
  /-- The value that a property is compared with, made ready. -/
  prepare : Value → Value := id
  /-- What the clock shows. -/
  now : LocalMoment

namespace Filter

/-- The operator of a comparison, when it is known. -/
def knownOperator? (operator : Option Operator) : Option Operator :=
  operator.filter (· ≠ .unknown)

section Testing

variable {m : Type → Type} [Monad m] (decode : Value → m (Option String)) (q : Inquiry)

/-- Test a comparison. -/
def testComparison (property : Option String) (operator : Option Operator)
    (value : Option Value) : m Bool :=
  match knownOperator? operator with
  | some op => op.test decode q.now.moment (.ofOption (property.bind q.lookup))
      (.ofOption (value.map q.prepare))
  | none => return false

mutual

/-- **Test a filter.** -/
def test : Filter → m Bool
  | ⟨_, .leaf, property, operator, value, _, _⟩ =>
    testComparison decode q property operator value
  | ⟨_, .group, _, _, _, .all, fs⟩ => testAll fs
  | ⟨_, .group, _, _, _, .any, fs⟩ => if fs.isEmpty then return true else testAny fs

/-- Test filters up to the first one that does not hold. -/
def testAll : List Filter → m Bool
  | [] => return true
  | f :: rest => do if ← f.test then testAll rest else return false

/-- Test filters up to the first one that holds. -/
def testAny : List Filter → m Bool
  | [] => return false
  | f :: rest => do if ← f.test then return true else testAny rest

end

end Testing

/-- **Whether a filter holds**, where files are decoded by a function. -/
def holds (q : Inquiry) (f : Filter) (decode : Value → Option String := Value.fileText?) : Bool :=
  Id.run (f.test (fun file => pure (decode file)) q)

mutual

/-- **The properties that are looked up** to tell whether a filter holds, in order. -/
def asked (q : Inquiry) : Filter → List String
  | ⟨_, .leaf, property, operator, _, _, _⟩ =>
    if (knownOperator? operator).isSome then property.toList else []
  | ⟨_, .group, _, _, _, .all, fs⟩ => askedUntil q false fs
  | ⟨_, .group, _, _, _, .any, fs⟩ => askedUntil q true fs

/-- The properties looked up in filters one after another, up to the first one whose
answer settles the group. -/
def askedUntil (q : Inquiry) (settling : Bool) : List Filter → List String
  | [] => []
  | f :: rest => f.asked q ++ if f.holds q = settling then [] else askedUntil q settling rest

end

end Filter

end FormChain
