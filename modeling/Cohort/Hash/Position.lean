import Cohort.Hash.Sha1
import Cohort.Definition

/-! # Positions

The position of an identity in a test is a number from zero to below one. It depends on the name and
salt of the test and on the identity alone, so everyone who asks computes the same. Tests with one
linked salt share the positions of all identities. -/

namespace Cohort

namespace Hash

/-- What is hashed in front of the identity: a linked salt by itself, and any other behind the name
of the test. -/
def saltText (test salt : String) : String :=
  if Text.startsWith ['&'] salt.toList then salt else test ++ "|" ++ salt

/-- The whole text that is hashed. -/
def input (test salt identity : String) : String :=
  saltText test salt ++ identity

/-- The fourth word of the hash as a part of the range of words. -/
def positionOf (text : String) : Float :=
  Float.ofNat (Sha1.digest text.toUTF8.toList).d.toNat / 4294967296.0

/-- The position of an identity in a test. -/
def position (test salt identity : String) : Float :=
  positionOf (input test salt identity)

end Hash

/-- The positions of the test are drawn anew each time. -/
def Definition.isRandomized (d : Definition) : Bool :=
  d.testType == .random || Text.startsWith "random:".toList d.salt.toList

/-- The position of a request in a test: drawn, or that of its identity. -/
def Definition.position (d : Definition) (test : String) (identity : Option String)
    (drawn : Float) : Float :=
  match identity with
  | none => drawn
  | some identity => if d.isRandomized then drawn else Hash.position test d.salt identity

end Cohort
